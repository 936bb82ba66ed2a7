import Mathlib.Data.List.Basic
import SeriesCluster.Consensus.Basic
import SeriesCluster.Proofs.SortedMap

namespace SeriesCluster

namespace Membership

variable {m : Membership} {voters goal : SortedSet UInt64}

theorem voters_eq (single : m.configs = [voters]) : m.voters = voters := by
  rw [Membership.voters, single, List.foldl_cons, List.foldl_nil, SortedSet.empty_union]

/-- The membership in which the voters are others. Voters that are no longer there are members no
longer, and other members stay. -/
def withVoters (m : Membership) (goal : SortedSet UInt64) : Membership where
  configs := [goal]
  nodes := m.nodes.filter fun id _ => goal.mem id || !m.voters.mem id

theorem toward_self (single : m.configs = [goal]) : m.toward goal = m.withVoters goal := by
  unfold toward withVoters
  simp [single, SortedSet.empty_union]

theorem toward_other (single : m.configs = [voters]) (other : goal ≠ voters) :
    (m.toward goal).configs.length = 2 ∧ (m.toward goal).toward goal = m.withVoters goal := by
  have member := SortedSet.mem_union voters goal
  -- Nobody is left out as long as both sets of voters are needed.
  have both : m.toward goal = { m with configs := [voters, goal] } := by
    have all : ∀ id, ((voters.union goal).mem id || !voters.mem id) = true := by
      intro id
      rw [Bool.or_eq_true, member, Bool.not_eq_true']
      cases voters.mem id <;> simp
    have kept : m.nodes.filter (fun id _ => (voters.union goal).mem id || !voters.mem id) = m.nodes :=
      SortedMap.filter_eq_self fun e _ => all e.1
    unfold toward
    simp [single, other, voters_eq single, SortedSet.empty_union, kept]
  have before : (⟨[voters, goal], m.nodes⟩ : Membership).voters = voters.union goal := by
    simp [Membership.voters, SortedSet.empty_union]
  have kept : ∀ id, (goal.mem id || !(voters.union goal).mem id) = (goal.mem id || !voters.mem id) := by
    intro id
    rw [Bool.eq_iff_iff, Bool.or_eq_true, Bool.or_eq_true, Bool.not_eq_true', Bool.not_eq_true',
      ← Bool.not_eq_true, ← Bool.not_eq_true, member]
    tauto
  rw [both]
  refine ⟨rfl, ?_⟩
  unfold toward withVoters
  rw [before, voters_eq single]
  simp [SortedSet.empty_union, kept]

def ofVoters (nodes : SortedMap UInt64 String) : Membership where
  configs := [nodes.mapValues fun _ _ => ()]
  nodes := nodes

variable {nodes : SortedMap UInt64 String} {id : UInt64} {addr : String}

theorem voters_ofVoters (nodes : SortedMap UInt64 String) :
    (ofVoters nodes).voters = nodes.mapValues fun _ _ => () :=
  voters_eq rfl

theorem of_sole (id : UInt64) (addr : String) :
    Membership.of [.ofList [id]] (.ofList [(id, addr)]) = ofVoters (.ofList [(id, addr)]) := by
  have one : SortedSet.elements (SortedSet.ofList [id]) = [id] := rfl
  have known : (SortedMap.ofList [(id, addr)]).contains id = true := by
    rw [SortedMap.contains_iff]
    exact List.mem_singleton.mpr rfl
  unfold Membership.of
  rw [List.foldl_cons, List.foldl_nil, SortedSet.empty_union]
  dsimp only
  rw [one, List.foldl_cons, List.foldl_nil, if_pos known]
  rfl

theorem mem_voters_ofVoters (nodes : SortedMap UInt64 String) (id : UInt64) :
    (ofVoters nodes).voters.mem id = nodes.contains id := by
  rw [voters_ofVoters, SortedSet.mem, SortedMap.contains, SortedMap.find?_mapValues,
    Option.isSome_map, SortedMap.contains]

theorem elements_voters (nodes : SortedMap UInt64 String) :
    (ofVoters nodes).voters.elements = nodes.keys := by
  rw [voters_ofVoters, SortedSet.elements, SortedMap.keys, SortedMap.mapValues, List.map_map]
  rfl

theorem voterAddresses_ofVoters (nodes : SortedMap UInt64 String) :
    (ofVoters nodes).voterAddresses = nodes.values := by
  have known : ∀ e ∈ nodes.toList, (ofVoters nodes).address? e.1 = some e.2 :=
    fun e listed => SortedMap.find?_eq_some_iff.mpr listed
  rw [voterAddresses, elements_voters, SortedMap.keys, SortedMap.values, List.filterMap_map,
    ← List.filterMap_eq_map]
  exact List.filterMap_congr known

/-- The members with one more, who keeps its address if it is there. -/
def including (nodes : SortedMap UInt64 String) (id : UInt64) (addr : String) :
    SortedMap UInt64 String :=
  if nodes.contains id then nodes else nodes.insert id addr

theorem withMember_ofVoters (nodes : SortedMap UInt64 String) (id : UInt64) (addr : String) :
    (ofVoters nodes).withMember id addr =
      { ofVoters nodes with nodes := including nodes id addr } := by
  unfold including
  by_cases known : nodes.contains id
  · rw [if_pos known]
    exact if_pos known
  · rw [if_neg known]
    exact if_neg known

theorem add_voters (nodes : SortedMap UInt64 String) (id : UInt64) (addr : String) :
    (ofVoters nodes).voters.add id = (ofVoters (including nodes id addr)).voters := by
  rw [voters_ofVoters, voters_ofVoters]
  refine SortedMap.eq_of_find? fun k => ?_
  rw [SortedSet.add, SortedMap.find?_insert, SortedMap.find?_mapValues, SortedMap.find?_mapValues,
    including]
  by_cases known : nodes.contains id
  · rw [if_pos known]
    by_cases same : k = id
    · obtain ⟨addr, found⟩ := Option.isSome_iff_exists.mp known
      rw [if_pos same, same, found]
      rfl
    · rw [if_neg same]
  · rw [if_neg known, SortedMap.find?_insert]
    split <;> rfl

theorem withVoters_including (nodes : SortedMap UInt64 String) (id : UInt64) (addr : String) :
    ({ ofVoters nodes with nodes := including nodes id addr } : Membership).withVoters
      ((ofVoters nodes).voters.add id) = ofVoters (including nodes id addr) := by
  have kept : ∀ e ∈ (including nodes id addr).toList,
      ((ofVoters (including nodes id addr)).voters.mem e.1 ||
        !(ofVoters nodes).voters.mem e.1) = true := by
    intro e listed
    rw [mem_voters_ofVoters, (SortedMap.contains_iff _ _).mpr (List.mem_map_of_mem listed)]
    rfl
  rw [add_voters nodes id addr]
  exact congrArg₂ Membership.mk (by rw [voters_ofVoters]) (SortedMap.filter_eq_self kept)

theorem erase_voters (nodes : SortedMap UInt64 String) (id : UInt64) :
    (ofVoters nodes).voters.erase id = (ofVoters (nodes.erase id)).voters := by
  rw [voters_ofVoters, voters_ofVoters]
  refine SortedMap.eq_of_find? fun k => ?_
  rw [SortedMap.find?_erase, SortedMap.find?_mapValues, SortedMap.find?_mapValues,
    SortedMap.find?_erase]
  split <;> rfl

theorem withVoters_erase (nodes : SortedMap UInt64 String) (id : UInt64) :
    (ofVoters nodes).withVoters ((ofVoters nodes).voters.erase id) = ofVoters (nodes.erase id) := by
  have left (k : UInt64) : SortedSet.mem ((ofVoters nodes).voters.erase id) k = true ↔
      k ≠ id ∧ nodes.contains k = true := by
    rw [SortedSet.mem_iff, ← mem_voters_ofVoters, SortedSet.mem_iff]
    exact SortedMap.mem_keys_erase _ id k
  have kept : ((ofVoters nodes).withVoters ((ofVoters nodes).voters.erase id)).nodes =
      nodes.erase id := by
    refine SortedMap.eq_of_find? fun k => ?_
    refine (SortedMap.find?_filter_key nodes (fun k =>
      SortedSet.mem ((ofVoters nodes).voters.erase id) k || !(ofVoters nodes).voters.mem k) k).trans ?_
    rw [SortedMap.find?_erase, mem_voters_ofVoters]
    by_cases known : nodes.contains k = true
    · by_cases same : k = id
      · rw [if_neg, if_pos same]
        simp [left, same, same ▸ known]
      · rw [if_pos, if_neg same]
        simp [left, same, known]
    · have none : nodes.find? k = none := Option.not_isSome_iff_eq_none.mp known
      simp [none]
  have fewer := (erase_voters nodes id).trans (voters_ofVoters _)
  exact congrArg₂ Membership.mk (congrArg (fun goal => [goal]) fewer) kept

theorem perm_values_including (addr : String) (fresh : nodes.contains id = false) :
    (including nodes id addr).values.Perm (addr :: nodes.values) := by
  have added : including nodes id addr = nodes.insert id addr := by
    rw [including, fresh, if_neg Bool.false_ne_true]
  have found : (nodes.insert id addr).find? id = some addr := by
    rw [SortedMap.find?_insert, if_pos rfl]
  have same : (nodes.insert id addr).erase id = nodes := by
    refine SortedMap.eq_of_find? fun k => ?_
    rw [SortedMap.find?_erase, SortedMap.find?_insert]
    by_cases new : k = id
    · rw [if_pos new, new, Option.not_isSome_iff_eq_none.mp (Bool.eq_false_iff.mp fresh)]
    · rw [if_neg new, if_neg new]
  have values := SortedMap.perm_values_erase found
  rwa [same, ← added] at values

theorem mem_values_including (nodes : SortedMap UInt64 String) (id : UInt64) (addr other : String) :
    other ∈ (including nodes id addr).values ↔
      other ∈ nodes.values ∨ nodes.contains id = false ∧ other = addr := by
  by_cases known : nodes.contains id = true
  · rw [including, if_pos known, known]
    simp
  · have fresh := Bool.eq_false_iff.mpr known
    rw [(perm_values_including addr fresh).mem_iff, List.mem_cons, fresh]
    simp [or_comm]

end Membership

end SeriesCluster
