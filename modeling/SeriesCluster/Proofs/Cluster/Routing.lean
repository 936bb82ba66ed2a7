import SeriesCluster.Cluster.Routing
import SeriesCluster.Proofs.SortedMap

namespace SeriesCluster

theorem ShardInfo.route_cases {s : ShardInfo} (owned : s.owners.isEmpty = false) (self : UInt64)
    (pick : Nat) :
    (s.route self pick = .here ∧ self ∈ s.ownerIds) ∨
      ∃ node ∈ s.ownerIds, s.route self pick = .node node := by
  rw [route, if_neg (by simp [owned])]
  by_cases own : s.ownedBy self
  · exact .inl ⟨if_pos own, List.contains_iff_mem.mp own⟩
  · have some : 0 < s.ownerIds.length := by
      rw [ownerIds, List.length_map, List.length_pos_iff, ← List.isEmpty_eq_false_iff]
      exact owned
    have inside : pick % s.ownerIds.length < s.ownerIds.length := Nat.mod_lt _ some
    rw [if_neg own, List.getElem?_eq_getElem inside]
    exact .inr ⟨_, List.getElem_mem inside, rfl⟩

namespace Routing

def ids (r : Routing) : List UInt64 := r.here ++ r.elsewhere.toList.flatMap (·.2)

structure Covers (reader : UInt64) (shards : List ShardInfo) (r : Routing) : Prop where
  once : r.ids.Perm (shards.map (·.id))
  here : ∀ id ∈ r.here, ∃ s ∈ shards, s.id = id ∧ reader ∈ s.ownerIds
  elsewhere : ∀ e ∈ r.elsewhere.toList, ∀ id ∈ e.2, ∃ s ∈ shards, s.id = id ∧ e.1 ∈ s.ownerIds

namespace Covers

variable {reader : UInt64} {shards : List ShardInfo} {r : Routing}

theorem empty (reader : UInt64) : Covers reader [] {} where
  once := .refl _
  here _ member := absurd member List.not_mem_nil
  elsewhere _ member := absurd member List.not_mem_nil

theorem addHere (covers : Covers reader shards r) {s : ShardInfo} (own : reader ∈ s.ownerIds) :
    Covers reader (shards ++ [s]) (r.add s.id .here) where
  once := by
    have moved : (r.add s.id .here).ids.Perm (r.ids ++ [s.id]) := by
      rw [ids, ids, add, List.append_assoc, List.append_assoc]
      exact List.perm_append_comm.append_left _
    rw [List.map_append]
    exact moved.trans (covers.once.append_right _)
  here id member := by
    rcases List.mem_append.mp member with old | new
    · obtain ⟨t, listed, held⟩ := covers.here id old
      exact ⟨t, List.mem_append_left _ listed, held⟩
    · exact ⟨s, List.mem_append_right _ (List.mem_singleton_self s),
        (List.mem_singleton.mp new).symm, own⟩
  elsewhere e member id inside := by
    obtain ⟨t, listed, held⟩ := covers.elsewhere e member id inside
    exact ⟨t, List.mem_append_left _ listed, held⟩

theorem addNode (covers : Covers reader shards r) {s : ShardInfo} {node : UInt64}
    (own : node ∈ s.ownerIds) : Covers reader (shards ++ [s]) (r.add s.id (.node node)) where
  once := by
    have moved : (r.add s.id (.node node)).ids.Perm (r.ids ++ [s.id]) := by
      rw [ids, ids, add, List.append_assoc]
      exact (SortedMap.flatMap_alter_perm r.elsewhere node s.id).append_left _
    rw [List.map_append]
    exact moved.trans (covers.once.append_right _)
  here id member := by
    obtain ⟨t, listed, held⟩ := covers.here id member
    exact ⟨t, List.mem_append_left _ listed, held⟩
  elsewhere e member id inside := by
    have old {ids : List UInt64} (listed : (node, ids) ∈ r.elsewhere.toList) (among : id ∈ ids) :
        ∃ t ∈ shards ++ [s], t.id = id ∧ node ∈ t.ownerIds := by
      obtain ⟨t, listed, held⟩ := covers.elsewhere _ listed id among
      exact ⟨t, List.mem_append_left _ listed, held⟩
    rcases SortedMap.mem_put member with rfl | kept
    · rcases List.mem_append.mp inside with before | new
      · cases found : r.elsewhere.find? node with
        | none =>
          rw [found] at before
          exact absurd before List.not_mem_nil
        | some ids =>
          rw [found] at before
          exact old (SortedMap.mem_of_lookup found) before
      · exact ⟨s, List.mem_append_right _ (List.mem_singleton_self s),
          (List.mem_singleton.mp new).symm, own⟩
    · obtain ⟨t, listed, held⟩ := covers.elsewhere e kept id inside
      exact ⟨t, List.mem_append_left _ listed, held⟩

theorem extend (covers : Covers reader shards r) {more : List ShardInfo}
    (owned : ∀ s ∈ more, s.owners.isEmpty = false) (picks : Picks) (used : Nat) :
    Covers reader (shards ++ more) (extend reader picks more r used).1 := by
  induction more generalizing shards r used with
  | nil =>
    rw [List.append_nil]
    exact covers
  | cons s more ih =>
    rw [List.forall_mem_cons] at owned
    have routed : Covers reader (shards ++ [s]) (r.add s.id (s.route reader (picks used))) := by
      rcases s.route_cases owned.1 reader (picks used) with ⟨here, own⟩ | ⟨node, own, elsewhere⟩
      · rw [here]
        exact covers.addHere own
      · rw [elsewhere]
        exact covers.addNode own
    rw [List.append_cons]
    exact ih routed owned.2 _

end Covers

end Routing

end SeriesCluster
