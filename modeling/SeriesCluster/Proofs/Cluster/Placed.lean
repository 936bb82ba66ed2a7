import SeriesCluster.Proofs.Cluster.Routing

namespace SeriesCluster

/-- Whether a route is right for a shard that is read from a node. -/
structure Route.Suits (reader : UInt64) (s : ShardInfo) (r : Route) : Prop where
  nowhere_iff : r = .nowhere ↔ s.owners = []
  here_iff : r = .here ↔ reader ∈ s.ownerIds
  owner : ∀ node, r = .node node → node ∈ s.ownerIds

theorem ShardInfo.ownedBy_iff (s : ShardInfo) (node : UInt64) :
    s.ownedBy node = true ↔ node ∈ s.ownerIds :=
  List.contains_iff_mem

def idsOwnedBy (node : UInt64) (shards : List ShardInfo) : List UInt64 :=
  (shards.filter (·.ownedBy node)).map (·.id)

theorem ShardInfo.route_suits (s : ShardInfo) (reader : UInt64) (pick : Nat) :
    (s.route reader pick).Suits reader s := by
  unfold route
  by_cases none : s.owners = []
  · rw [if_pos (by simp [none])]
    exact ⟨by simp [none], by simp [ownerIds, none], by simp⟩
  · rw [if_neg (by simpa using none)]
    by_cases own : reader ∈ s.ownerIds
    · rw [if_pos ((s.ownedBy_iff reader).mpr own)]
      exact ⟨by simp [none], by simp [own], by simp⟩
    · rw [if_neg (by rwa [s.ownedBy_iff])]
      have some : 0 < s.ownerIds.length := by
        rw [ownerIds, List.length_map]
        exact List.length_pos_iff.mpr none
      have inside : pick % s.ownerIds.length < s.ownerIds.length := Nat.mod_lt _ some
      rw [List.getElem?_eq_getElem inside]
      refine ⟨by simp [none], by simp [own], ?_⟩
      intro node same
      cases same
      exact List.getElem_mem inside

namespace Routing

def idsOn (placed : List (ShardInfo × Route)) (r : Route) : List UInt64 :=
  (placed.filter (·.2 = r)).map (·.1.id)

theorem idsOn_append (placed more : List (ShardInfo × Route)) (r : Route) :
    idsOn (placed ++ more) r = idsOn placed r ++ idsOn more r := by
  simp [idsOn]

theorem idsOn_same (s : ShardInfo) (r : Route) : idsOn [(s, r)] r = [s.id] := by
  simp [idsOn]

theorem idsOn_other {r r' : Route} (other : r ≠ r') (s : ShardInfo) : idsOn [(s, r)] r' = [] := by
  simp [idsOn, other]

/-- A routing lists the shards of each route in their order, and no node without shards. -/
structure Lists (placed : List (ShardInfo × Route)) (r : Routing) : Prop where
  here : r.here = idsOn placed .here
  elsewhere : ∀ node, r.elsewhere.find? node =
    if idsOn placed (.node node) = [] then none else some (idsOn placed (.node node))

theorem Lists.add {placed : List (ShardInfo × Route)} {r : Routing} (lists : Lists placed r)
    (s : ShardInfo) (route : Route) : Lists (placed ++ [(s, route)]) (r.add s.id route) := by
  cases route with
  | nowhere =>
    constructor
    · rw [idsOn_append, idsOn_other (by simp), List.append_nil]
      exact lists.here
    · intro node
      rw [idsOn_append, idsOn_other (by simp), List.append_nil]
      exact lists.elsewhere node
  | here =>
    constructor
    · rw [idsOn_append, idsOn_same, ← lists.here]
      rfl
    · intro node
      rw [idsOn_append, idsOn_other (by simp), List.append_nil]
      exact lists.elsewhere node
  | node id =>
    constructor
    · rw [idsOn_append, idsOn_other (by simp), List.append_nil]
      exact lists.here
    · intro node
      have added : (r.add s.id (.node id)).elsewhere.find? node =
          if node = id then some ((r.elsewhere.find? id).getD [] ++ [s.id])
          else r.elsewhere.find? node :=
        SortedMap.find?_insert ..
      rw [added, idsOn_append]
      by_cases same : node = id
      · subst same
        rw [if_pos rfl, idsOn_same, if_neg (by simp), lists.elsewhere]
        split <;> simp_all
      · have other : Route.node id ≠ Route.node node := by
          intro equal
          cases equal
          exact same rfl
        rw [if_neg same, idsOn_other other, List.append_nil]
        exact lists.elsewhere node

structure Places (reader : UInt64) (shards : List ShardInfo) (placed : List (ShardInfo × Route))
    (r : Routing) : Prop where
  once : placed.map (·.1) = shards
  suits : ∀ e ∈ placed, e.2.Suits reader e.1
  lists : Lists placed r

namespace Places

variable {reader : UInt64} {shards : List ShardInfo} {placed : List (ShardInfo × Route)}
  {r : Routing}

theorem empty (reader : UInt64) : Places reader [] [] {} where
  once := rfl
  suits := by simp
  lists := ⟨rfl, fun _ => rfl⟩

theorem add (places : Places reader shards placed r) (s : ShardInfo) (pick : Nat) :
    Places reader (shards ++ [s]) (placed ++ [(s, s.route reader pick)])
      (r.add s.id (s.route reader pick)) where
  once := by rw [List.map_append, places.once, List.map_singleton]
  suits := by
    intro e member
    rcases List.mem_append.mp member with old | new
    · exact places.suits e old
    · rw [List.mem_singleton.mp new]
      exact s.route_suits reader pick
  lists := places.lists.add s _

/-- Whatever owners are picked, routing further shards places them behind those placed before. -/
theorem extend (places : Places reader shards placed r) (more : List ShardInfo) (picks : Picks)
    (used : Nat) :
    ∃ placed', Places reader (shards ++ more) placed' (Routing.extend reader picks more r used).1 := by
  induction more generalizing shards placed r used with
  | nil =>
    rw [List.append_nil]
    exact ⟨placed, places⟩
  | cons s more ih =>
    rw [List.append_cons]
    exact ih (places.add s (picks used)) _

theorem here_eq (places : Places reader shards placed r) :
    r.here = idsOwnedBy reader shards := by
  rw [places.lists.here, ← places.once, idsOwnedBy, List.filter_map, List.map_map, idsOn]
  apply congrArg
  apply List.filter_congr
  intro e member
  rw [Bool.eq_iff_iff, decide_eq_true_iff, (places.suits e member).here_iff]
  exact (e.1.ownedBy_iff reader).symm

end Places

def ofGroups (reader : UInt64) (picks : Picks) (groups : List ShardGroup) (used : Nat) :
    Routing × Nat :=
  extend reader picks (groups.flatMap (·.shards)) {} used

theorem exists_places (reader : UInt64) (picks : Picks) (groups : List ShardGroup) (used : Nat) :
    ∃ placed, Places reader (groups.flatMap (·.shards)) placed
      (ofGroups reader picks groups used).1 :=
  (Places.empty reader).extend _ picks used

theorem extend_filter_owned (reader : UInt64) (picks : Picks) (shards : List ShardInfo) (r : Routing)
    (used : Nat) :
    extend reader picks (shards.filter fun s => !s.owners.isEmpty) r used =
      extend reader picks shards r used := by
  induction shards generalizing r used with
  | nil => rfl
  | cons s shards ih =>
    by_cases none : s.owners.isEmpty
    · have nowhere : s.route reader (picks used) = .nowhere := if_pos none
      rw [List.filter_cons_of_neg (by simp [none]), ih, extend, nowhere]
      rfl
    · rw [List.filter_cons_of_pos (by simpa using none), extend, extend]
      exact ih ..

end Routing

end SeriesCluster
