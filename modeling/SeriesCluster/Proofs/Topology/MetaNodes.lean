import SeriesCluster.Proofs.SortedMap
import SeriesCluster.Proofs.Topology.NodeIds

namespace SeriesCluster.Topology

variable {t t' : Topology} {c : Command} {n : Nat}

def metaAddresses (t : Topology) : List String := t.metaNodes.map (·.tcpHost)

theorem applyAll_of_apply (applied : t.apply c = .ok t') : t.applyAll [c] = t' := by
  rw [applyAll, List.foldl_cons, List.foldl_nil, applied]
  rfl

theorem exists_of_createMetaNode {host tcpHost : String}
    (applied : t.apply (.createMetaNode host tcpHost) = .ok t') :
    ∃ k ∈ t'.metaNodes, k.host = host ∧ k.tcpHost = tcpHost := by
  obtain ⟨s, accepted, rfl⟩ := accepted_of_apply applied
  cases accepted with
  | metaNodeJoined | metaNodeCreated =>
    exact ⟨_, mem_sortNodes.mpr (List.mem_append_right _ List.mem_cons_self), rfl, rfl⟩

theorem applyAll_createMetaNode_known {host tcpHost : String} {k : NodeInfo}
    (known : t.metaNodeByHost? host = some k) : t.applyAll [.createMetaNode host tcpHost] = t := by
  have same := List.find?_some known
  have used : t.metaNodes.any (·.host == host) = true :=
    List.any_eq_true.mpr ⟨k, List.mem_of_find?_eq_some known, same⟩
  rw [applyAll, List.foldl_cons, List.foldl_nil, apply, perform, createMetaNode, if_pos used]
  rfl

def IsMeta : Command → Prop
  | .createMetaNode _ _ | .setMetaNode _ _ | .deleteMetaNode _ => True
  | _ => False

theorem Accepted.dataNodes_eq (accepted : Accepted t c t') (about : IsMeta c) :
    t'.dataNodes = t.dataNodes := by
  induction accepted with
  | firstMetaNodeSet empty created ih => exact ih trivial
  | metaNodeJoined | metaNodeCreated | metaNodeMoved | metaNodeDeleted => rfl
  | _ => exact about.elim

/-- Whether all nodes are meta nodes, no more than so many of which have ever been there. -/
structure OnlyMeta (t : Topology) (n : Nat) : Prop where
  alone : t.dataNodes = []
  distinct : t.metaIds.Nodup
  numbered : t.NumberedBy n

namespace OnlyMeta

theorem empty : ({} : Topology).OnlyMeta 0 := ⟨rfl, List.nodup_nil, nofun, Nat.le_refl 0⟩

theorem mono (only : t.OnlyMeta n) : t.OnlyMeta (n + 1) :=
  ⟨only.alone, only.distinct, only.numbered.counted, Nat.le_succ_of_le only.numbered.maxNodeId_le⟩

theorem apply (only : t.OnlyMeta n) (few : n + 1 < UInt64.size) (about : IsMeta c)
    (applied : t.apply c = .ok t') : t'.OnlyMeta (n + 1) := by
  have numbered := only.numbered.apply few applied
  obtain ⟨s, accepted, rfl⟩ := accepted_of_apply applied
  refine ⟨(accepted.dataNodes_eq about).trans only.alone, ?_, numbered⟩
  have free : t.maxNodeId + 1 ∉ t.metaIds := by
    intro used
    obtain ⟨k, member, same⟩ := List.mem_map.mp used
    have le := only.numbered.maxNodeId_le
    exact only.numbered.counted.next_ne (by omega) (List.mem_append_left _ member) same
  -- There is no data node whose id a meta node could take.
  have apart : ¬ t.RejoinsMeta c := by
    cases c with
    | createMetaNode host tcpHost =>
      rintro ⟨-, k, known, -⟩
      rw [dataNodeByTcpHost?, only.alone] at known
      cases known
    | _ => exact id
  exact (accepted.metaIds.nodup_iff free only.distinct).mpr apart

theorem applyAll (only : t.OnlyMeta n) (few : n + 1 < UInt64.size) (about : IsMeta c) :
    (t.applyAll [c]).OnlyMeta (n + 1) := by
  cases applied : t.apply c with
  | ok t' =>
    rw [applyAll_of_apply applied]
    exact only.apply few about applied
  | error e =>
    rw [Topology.applyAll, List.foldl_cons, List.foldl_nil, applied]
    exact only.mono

theorem create {host : String} (only : t.OnlyMeta n) (tcpHost : String)
    (unknown : t.metaNodeByHost? host = none) :
    ∃ t', t.apply (.createMetaNode host tcpHost) = .ok t' ∧
      t'.metaAddresses.Perm (tcpHost :: t.metaAddresses) := by
  have free : ¬ t.metaNodes.any (·.host == host) = true := by
    simpa [metaNodeByHost?] using unknown
  have other : t.dataNodeByTcpHost? tcpHost = none := by rw [dataNodeByTcpHost?, only.alone]; rfl
  let k : NodeInfo := ⟨t.maxNodeId + 1, host, tcpHost, true⟩
  have applied : t.apply (.createMetaNode host tcpHost) =
      .ok { t with
        index := t.index + 1
        maxNodeId := t.maxNodeId + 1
        metaNodes := sortNodes (t.metaNodes ++ [k]) } := by
    rw [Topology.apply, perform, createMetaNode, if_neg free, other]
    rfl
  refine ⟨_, applied, ?_⟩
  have listed : (sortNodes (t.metaNodes ++ [k])).Perm (k :: t.metaNodes) :=
    (List.mergeSort_perm _ _).trans (List.perm_append_singleton k t.metaNodes)
  exact listed.map (·.tcpHost)

theorem mem_create (only : t.OnlyMeta n) (host tcpHost addr : String) :
    addr ∈ (t.applyAll [.createMetaNode host tcpHost]).metaAddresses ↔
      addr ∈ t.metaAddresses ∨ t.metaNodeByHost? host = none ∧ addr = tcpHost := by
  cases known : t.metaNodeByHost? host with
  | none =>
    obtain ⟨t', applied, addresses⟩ := only.create tcpHost known
    rw [applyAll_of_apply applied, addresses.mem_iff, List.mem_cons]
    simp [or_comm]
  | some k =>
    rw [applyAll_createMetaNode_known known]
    simp

theorem delete {k : NodeInfo} (only : t.OnlyMeta n) (member : k ∈ t.metaNodes) :
    ∃ t', t.apply (.deleteMetaNode k.id) = .ok t' ∧
      t.metaAddresses.Perm (k.tcpHost :: t'.metaAddresses) := by
  have known : t.metaNodes.any (·.id == k.id) = true := List.any_eq_true.mpr ⟨k, member, by simp⟩
  have applied : t.apply (.deleteMetaNode k.id) =
      .ok { t with index := t.index + 1, metaNodes := t.metaNodes.filter (·.id != k.id) } := by
    rw [Topology.apply, perform, deleteMetaNode, if_pos known]
    rfl
  refine ⟨_, applied, ?_⟩
  exact (perm_cons_filter_ne NodeInfo.id only.distinct member).map (·.tcpHost)

end OnlyMeta

end SeriesCluster.Topology
