import Mathlib
import SeriesCluster.Proofs.Topology.Index

/-!
When the ids of meta nodes, and those of data nodes, are distinct. A new node takes the id of a node
of the other kind that has its address, and nobody asks whether a node of its own kind has that id
too. Main statements: `metaIds_nodup_iff`, `dataIds_nodup_iff`.
-/

namespace SeriesCluster.Topology

def nodes (t : Topology) : List NodeInfo := t.metaNodes ++ t.dataNodes

def metaIds (t : Topology) : List UInt64 := t.metaNodes.map (·.id)

def dataIds (t : Topology) : List UInt64 := t.dataNodes.map (·.id)

variable {t t' : Topology}

def Moves (t : Topology) : Command → Prop
  | .setMetaNode _ tcpHost => ∃ n, t.metaNodes = [n] ∧ n.tcpHost ≠ tcpHost
  | _ => False

/-- What becomes of the nodes of both kinds, and of the counter of their ids. -/
inductive NodesChange (t : Topology) (c : Command) (t' : Topology) : Prop
  | fewer (kept : t'.nodes ⊆ t.nodes) (counter : t'.maxNodeId = t.maxNodeId)
  | joined {n m : NodeInfo} (known : n ∈ t.nodes) (id : m.id = n.id) (address : m.tcpHost = n.tcpHost)
    (added : t'.nodes ⊆ m :: t.nodes) (counter : t'.maxNodeId = t.maxNodeId)
  | created {m : NodeInfo} (id : m.id = t.maxNodeId + 1) (added : t'.nodes ⊆ m :: t.nodes)
    (counter : t'.maxNodeId = t.maxNodeId + 1)
  | moved {n m : NodeInfo} (moves : t.Moves c) (known : n ∈ t.nodes) (id : m.id = n.id)
    (added : t'.nodes ⊆ m :: t.nodes) (counter : t'.maxNodeId = t.maxNodeId)

theorem mem_sortNodes {l : List NodeInfo} {n : NodeInfo} : n ∈ sortNodes l ↔ n ∈ l :=
  List.mem_mergeSort

theorem nodes_addMeta (t : Topology) (m : NodeInfo) (last : UInt64) :
    nodes { t with maxNodeId := last, metaNodes := sortNodes (t.metaNodes ++ [m]) } ⊆ m :: t.nodes := by
  intro n member
  simp only [nodes, List.mem_append, mem_sortNodes, List.mem_cons] at member ⊢
  tauto

theorem nodes_addData (t : Topology) (m : NodeInfo) (last : UInt64) :
    nodes { t with maxNodeId := last, dataNodes := sortNodes (t.dataNodes ++ [m]) } ⊆ m :: t.nodes := by
  intro n member
  simp only [nodes, List.mem_append, mem_sortNodes, List.mem_cons] at member ⊢
  tauto

theorem Accepted.nodesChange {c : Command} (accepted : Accepted t c t') : NodesChange t c t' := by
  induction accepted with
  | firstMetaNodeSet empty created ih =>
    cases ih with
    | fewer kept counter => exact .fewer kept counter
    | joined known id address added counter => exact .joined known id address added counter
    | created id added counter => exact .created id added counter
    | moved moves => exact moves.elim
  | @metaNodeJoined host tcpHost n free known =>
    have address : n.tcpHost = tcpHost := by simpa using List.find?_some known
    have member : n ∈ t.nodes := List.mem_append_right _ (List.mem_of_find?_eq_some known)
    exact .joined (m := ⟨n.id, host, tcpHost, true⟩) member rfl address.symm (t.nodes_addMeta _ _) rfl
  | metaNodeCreated free unknown => exact .created rfl (t.nodes_addMeta _ _) rfl
  | @metaNodeMoved host tcpHost n only =>
    have member : n ∈ t.nodes := by simp [nodes, only]
    let m : NodeInfo := { n with host := host, tcpHost := tcpHost }
    have added : nodes { t with metaNodes := [m] } ⊆ m :: t.nodes := by
      intro k listed
      simp only [nodes, List.mem_append, List.mem_cons, List.not_mem_nil, or_false] at listed ⊢
      tauto
    -- A meta node that keeps its address in the cluster is as one that joins.
    by_cases same : n.tcpHost = tcpHost
    · exact .joined (m := m) member rfl same.symm added rfl
    · exact .moved (m := m) ⟨n, only, same⟩ member rfl added rfl
  | metaNodeDeleted known =>
    exact .fewer (List.append_subset.mpr ⟨fun n member => List.mem_append_left _
      (List.mem_filter.mp member).1, List.subset_append_right _ _⟩) rfl
  | @dataNodeJoined host tcpHost n free known =>
    have address : n.tcpHost = tcpHost := by simpa using List.find?_some known
    have member : n ∈ t.nodes := List.mem_append_left _ (List.mem_of_find?_eq_some known)
    exact .joined (m := ⟨n.id, host, tcpHost, false⟩) member rfl address.symm (t.nodes_addData _ _) rfl
  | dataNodeCreated free unknown => exact .created rfl (t.nodes_addData _ _) rfl
  | dataNodeDeleted known =>
    exact .fewer (List.append_subset.mpr ⟨List.subset_append_left _ _, fun n member =>
      List.mem_append_right _ (List.mem_filter.mp member).1⟩) rfl
  | databaseKept | databaseCreated | databaseDropped | policyKept | policyCreated | policyDropped
  | defaultPolicySet | groupKept | groupCreated | groupDeleted | shardDropped =>
    exact .fewer (List.Subset.refl _) rfl

def NodesCounted (t : Topology) : Prop := ∀ n ∈ t.nodes, n.id ≤ t.maxNodeId

theorem toNat_next_id (room : t.maxNodeId.toNat + 1 < UInt64.size) :
    (t.maxNodeId + 1).toNat = t.maxNodeId.toNat + 1 := by
  have size : UInt64.size = 2 ^ 64 := rfl
  rw [UInt64.toNat_add, UInt64.toNat_one, Nat.mod_eq_of_lt (by omega)]

theorem NodesCounted.next_ne (counted : t.NodesCounted) (room : t.maxNodeId.toNat + 1 < UInt64.size)
    {n : NodeInfo} (member : n ∈ t.nodes) : n.id ≠ t.maxNodeId + 1 := by
  intro same
  have below := UInt64.le_iff_toNat_le.mp (counted n member)
  rw [same, toNat_next_id room] at below
  omega

theorem NodesChange.counted {c : Command} (change : NodesChange t c t') (counted : t.NodesCounted)
    (room : t.maxNodeId.toNat + 1 < UInt64.size) : t'.NodesCounted := by
  intro k member
  cases change with
  | fewer kept counter =>
    rw [counter]
    exact counted k (kept member)
  | joined known id _ added counter | moved _ known id added counter =>
    rw [counter]
    rcases List.mem_cons.mp (added member) with rfl | old
    · rw [id]
      exact counted _ known
    · exact counted k old
  | created id added counter =>
    rw [counter]
    rcases List.mem_cons.mp (added member) with rfl | old
    · rw [id]
      exact UInt64.le_refl _
    · have below := UInt64.le_iff_toNat_le.mp (counted k old)
      rw [UInt64.le_iff_toNat_le, toNat_next_id room]
      omega

theorem NodesChange.toNat_maxNodeId_le {c : Command} (change : NodesChange t c t') :
    t'.maxNodeId.toNat ≤ t.maxNodeId.toNat + 1 := by
  cases change with
  | fewer _ counter | joined _ _ _ _ counter | moved _ _ _ _ counter =>
    rw [counter]
    omega
  | created _ _ counter =>
    rw [counter, UInt64.toNat_add]
    exact Nat.mod_le _ _

/-- What is true of the ids after so many commands, as long as that is less than a word. -/
structure NumberedBy (t : Topology) (n : Nat) : Prop where
  counted : t.NodesCounted
  maxNodeId_le : t.maxNodeId.toNat ≤ n

theorem applyAll_concat (t : Topology) (first : List Command) (c : Command) :
    t.applyAll (first ++ [c]) = ((t.applyAll first).apply c).toOption.getD (t.applyAll first) := by
  rw [applyAll_append]
  rfl

theorem NumberedBy.apply {n : Nat} {c : Command} (before : t.NumberedBy n) (few : n + 1 < UInt64.size)
    (applied : t.apply c = .ok t') : t'.NumberedBy (n + 1) := by
  obtain ⟨s, accepted, rfl⟩ := accepted_of_apply applied
  have change := accepted.nodesChange
  have le := before.maxNodeId_le
  have counted : s.NodesCounted := change.counted before.counted (by omega)
  have next : s.maxNodeId.toNat ≤ n + 1 :=
    Nat.le_trans change.toNat_maxNodeId_le (Nat.succ_le_succ le)
  exact ⟨counted, next⟩

theorem numberedBy_applyAll {first : List Command} (few : first.length < UInt64.size) :
    (({} : Topology).applyAll first).NumberedBy first.length := by
  induction first using List.reverseRecOn with
  | nil => exact ⟨nofun, Nat.le_refl _⟩
  | append_singleton first c ih =>
    rw [List.length_append, List.length_singleton] at few ⊢
    have before := ih (by omega)
    rw [applyAll_concat]
    cases applied : (({} : Topology).applyAll first).apply c with
    | error e => exact ⟨before.counted, Nat.le_succ_of_le before.maxNodeId_le⟩
    | ok t' => exact before.apply few applied

theorem numberedBy_before {commands first : List Command} {c : Command}
    (few : commands.length < UInt64.size) (within : first ++ [c] <+: commands) :
    (({} : Topology).applyAll first).NodesCounted ∧
      (({} : Topology).applyAll first).maxNodeId.toNat + 1 < UInt64.size := by
  have short := within.length_le
  rw [List.length_append, List.length_singleton] at short
  obtain ⟨counted, bound⟩ := numberedBy_applyAll (by omega : first.length < UInt64.size)
  exact ⟨counted, by omega⟩

theorem along_applyAll {P : Topology → Prop} {commands : List Command} (start : P {})
    (step : ∀ first c, first ++ [c] <+: commands → P (({} : Topology).applyAll first) →
      P (({} : Topology).applyAll (first ++ [c]))) :
    ∀ first, first <+: commands → P (({} : Topology).applyAll first) := by
  intro first
  induction first using List.reverseRecOn with
  | nil => exact fun _ => start
  | append_singleton first c ih =>
    intro within
    exact step first c within (ih ((List.prefix_append first [c]).trans within))

theorem map_sortNodes (l : List NodeInfo) (m : NodeInfo) :
    ((sortNodes (l ++ [m])).map (·.id)).Perm (l.map (·.id) ++ [m.id]) := by
  have sorted := (List.mergeSort_perm (l ++ [m]) fun a b => a.id ≤ b.id).map (·.id)
  rwa [List.map_append, List.map_singleton] at sorted

/-- What becomes of the ids of one kind of nodes, if a command `rejoins` when it gives a node an id
that one of them has. -/
inductive IdsChange (last : UInt64) (ids : List UInt64) (rejoins : Prop) (ids' : List UInt64) : Prop
  | fewer (kept : ids'.Sublist ids) (no : ¬ rejoins)
  | joined {id : UInt64} (added : ids'.Perm (ids ++ [id])) (used : rejoins ↔ id ∈ ids)
  | created (added : ids'.Perm (ids ++ [last + 1])) (no : ¬ rejoins)

theorem IdsChange.nodup_iff {last : UInt64} {ids ids' : List UInt64} {rejoins : Prop}
    (change : IdsChange last ids rejoins ids') (fresh : last + 1 ∉ ids) (distinct : ids.Nodup) :
    ids'.Nodup ↔ ¬ rejoins := by
  cases change with
  | fewer kept no => exact ⟨fun _ => no, fun _ => distinct.sublist kept⟩
  | joined added used =>
    rw [added.nodup_iff, ← List.concat_eq_append, List.nodup_concat, used]
    exact and_iff_left distinct
  | created added no =>
    refine ⟨fun _ => no, fun _ => ?_⟩
    rw [added.nodup_iff, ← List.concat_eq_append, List.nodup_concat]
    exact ⟨fresh, distinct⟩

/-- Ids stay distinct along commands until one rejoins. -/
theorem nodup_applyAll_iff (kind : Topology → List NodeInfo) (Rejoins : Topology → Command → Prop)
    (empty : kind {} = []) (listed : ∀ t, kind t ⊆ t.nodes)
    (change : ∀ {t t' c}, t.apply c = .ok t' →
      IdsChange t.maxNodeId ((kind t).map (·.id)) (Rejoins t c) ((kind t').map (·.id)))
    (refused : ∀ {t c e}, t.apply c = .error e → ¬ Rejoins t c) {commands : List Command}
    (few : commands.length < UInt64.size) :
    (∀ first, first <+: commands → ((kind (({} : Topology).applyAll first)).map (·.id)).Nodup) ↔
      ∀ first c, first ++ [c] <+: commands → ¬ Rejoins (({} : Topology).applyAll first) c := by
  have step : ∀ first c, first ++ [c] <+: commands →
      ((kind (({} : Topology).applyAll first)).map (·.id)).Nodup →
      (((kind (({} : Topology).applyAll (first ++ [c]))).map (·.id)).Nodup ↔
        ¬ Rejoins (({} : Topology).applyAll first) c) := by
    intro first c within distinct
    obtain ⟨counted, room⟩ := numberedBy_before few within
    rw [applyAll_concat]
    cases applied : (({} : Topology).applyAll first).apply c with
    | error e => exact ⟨fun _ => refused applied, fun _ => distinct⟩
    | ok t' =>
      refine (change applied).nodup_iff ?_ distinct
      intro member
      obtain ⟨n, held, same⟩ := List.mem_map.mp member
      exact counted.next_ne room (listed _ held) same
  constructor
  · intro distinct first c within
    have before := distinct first ((List.prefix_append first [c]).trans within)
    exact (step first c within before).mp (distinct _ within)
  · intro never
    refine along_applyAll (P := fun t => ((kind t).map (·.id)).Nodup) ?_ ?_
    · rw [empty]
      exact List.nodup_nil
    · intro first c within before
      exact (step first c within before).mpr (never first c within)

/-- Whether a command creates a meta node for the address of a data node whose id a meta node has
already. -/
def RejoinsMeta (t : Topology) : Command → Prop
  | .createMetaNode host tcpHost => (∀ m ∈ t.metaNodes, m.host ≠ host) ∧
    ∃ n, t.dataNodeByTcpHost? tcpHost = some n ∧ n.id ∈ t.metaIds
  | _ => False

theorem Accepted.metaIds {c : Command} (accepted : Accepted t c t') :
    IdsChange t.maxNodeId t.metaIds (t.RejoinsMeta c) t'.metaIds := by
  induction accepted with
  | firstMetaNodeSet empty created ih =>
    -- There is no meta node yet that could have the id.
    have unused : ∀ id, id ∉ t.metaIds := by simp [Topology.metaIds, empty]
    cases ih with
    | fewer kept no => exact .fewer kept not_false
    | joined added used => exact .joined added ⟨False.elim, fun member => unused _ member⟩
    | created added no => exact .created added not_false
  | @metaNodeJoined host tcpHost n free known =>
    refine .joined (map_sortNodes t.metaNodes _) ⟨?_, fun member => ⟨free, n, known, member⟩⟩
    rintro ⟨-, m, found, member⟩
    rw [known] at found
    cases found
    exact member
  | metaNodeCreated free unknown =>
    refine .created (map_sortNodes t.metaNodes _) ?_
    rintro ⟨-, m, found, -⟩
    rw [unknown] at found
    cases found
  | metaNodeMoved only =>
    refine .fewer ?_ not_false
    rw [Topology.metaIds, Topology.metaIds, only]
    exact .refl _
  | metaNodeDeleted known => exact .fewer (List.filter_sublist.map _) not_false
  | dataNodeJoined | dataNodeCreated | dataNodeDeleted | databaseKept | databaseCreated
  | databaseDropped | policyKept | policyCreated | policyDropped | defaultPolicySet | groupKept
  | groupCreated | groupDeleted | shardDropped => exact .fewer (.refl _) not_false

theorem not_rejoinsMeta_of_refused {c : Command} {e : Error} (refused : t.apply c = .error e) :
    ¬ t.RejoinsMeta c := by
  intro rejoins
  cases c with
  | createMetaNode host tcpHost =>
    have free : ¬ (t.metaNodes.any (·.host == host)) = true := by simpa using rejoins.1
    simp only [apply, perform, createMetaNode, if_neg free] at refused
    cases refused
  | _ => exact rejoins

/-- The ids of meta nodes are distinct along commands exactly as long as none of them creates a meta
node for a data node that is a meta node already. -/
theorem metaIds_nodup_iff {commands : List Command} (few : commands.length < UInt64.size) :
    (∀ first, first <+: commands → (({} : Topology).applyAll first).metaIds.Nodup) ↔
      ∀ first c, first ++ [c] <+: commands → ¬ (({} : Topology).applyAll first).RejoinsMeta c := by
  refine nodup_applyAll_iff metaNodes RejoinsMeta rfl (fun _ => List.subset_append_left _ _)
    (fun applied => ?_) not_rejoinsMeta_of_refused few
  obtain ⟨s, accepted, rfl⟩ := accepted_of_apply applied
  exact accepted.metaIds

def joiningTwice : List Command :=
  [.createDataNode "a:8086" "a:8088", .createMetaNode "a:8091" "a:8088",
    .createMetaNode "b:8091" "a:8088"]

theorem metaIds_nodup_iff_joiningTwice :
    joiningTwice.length < UInt64.size ∧
      ((∀ first, first <+: joiningTwice → (({} : Topology).applyAll first).metaIds.Nodup) ↔
        ∀ first c, first ++ [c] <+: joiningTwice →
          ¬ (({} : Topology).applyAll first).RejoinsMeta c) :=
  ⟨by decide, metaIds_nodup_iff (by decide)⟩

/-- Two meta nodes of one id, of which a deletion leaves none. -/
theorem metaIds_repeated :
    ∃ t t', Reachable t ∧ t.metaIds = [1, 1] ∧ t.apply (.deleteMetaNode 1) = .ok t' ∧
      t'.metaNodes = [] := by
  refine ⟨({} : Topology).applyAll joiningTwice,
    ({} : Topology).applyAll (joiningTwice ++ [.deleteMetaNode 1]), Reachable.empty.applyAll _, ?_, ?_, ?_⟩
  · cbv
  · cbv
  · cbv

/-- Whether a command creates a data node for the address of a meta node whose id a data node has
already. -/
def RejoinsData (t : Topology) : Command → Prop
  | .createDataNode _ tcpHost => (∀ m ∈ t.dataNodes, m.tcpHost ≠ tcpHost) ∧
    ∃ n, t.metaNodeByTcpHost? tcpHost = some n ∧ n.id ∈ t.dataIds
  | _ => False

theorem Accepted.dataIds {c : Command} (accepted : Accepted t c t') :
    IdsChange t.maxNodeId t.dataIds (t.RejoinsData c) t'.dataIds := by
  induction accepted with
  | firstMetaNodeSet empty created ih =>
    cases ih with
    | fewer kept no => exact .fewer kept not_false
    | joined added used => exact .joined added used
    | created added no => exact .created added not_false
  | @dataNodeJoined host tcpHost n free known =>
    refine .joined (map_sortNodes t.dataNodes _) ⟨?_, fun member => ⟨free, n, known, member⟩⟩
    rintro ⟨-, m, found, member⟩
    rw [known] at found
    cases found
    exact member
  | dataNodeCreated free unknown =>
    refine .created (map_sortNodes t.dataNodes _) ?_
    rintro ⟨-, m, found, -⟩
    rw [unknown] at found
    cases found
  | dataNodeDeleted known => exact .fewer (List.filter_sublist.map _) not_false
  | metaNodeJoined | metaNodeCreated | metaNodeMoved | metaNodeDeleted | databaseKept
  | databaseCreated | databaseDropped | policyKept | policyCreated | policyDropped
  | defaultPolicySet | groupKept | groupCreated | groupDeleted | shardDropped =>
    exact .fewer (.refl _) not_false

theorem not_rejoinsData_of_refused {c : Command} {e : Error} (refused : t.apply c = .error e) :
    ¬ t.RejoinsData c := by
  intro rejoins
  cases c with
  | createDataNode host tcpHost =>
    have free : ¬ (t.dataNodes.any (·.tcpHost == tcpHost)) = true := by simpa using rejoins.1
    simp only [apply, perform, createDataNode, if_neg free] at refused
    cases refused
  | _ => exact rejoins

/-- Whether nodes of one id have one address in the cluster. -/
def AddressedById (t : Topology) : Prop :=
  ∀ m ∈ t.nodes, ∀ n ∈ t.nodes, m.id = n.id → m.tcpHost = n.tcpHost

theorem AddressedById.change {c : Command} (addressed : t.AddressedById) (change : NodesChange t c t')
    (unmoved : ¬ t.Moves c) (counted : t.NodesCounted)
    (room : t.maxNodeId.toNat + 1 < UInt64.size) : t'.AddressedById := by
  cases change with
  | fewer kept _ => exact fun k first l second => addressed k (kept first) l (kept second)
  | moved moves => exact absurd moves unmoved
  | @joined n m known id address added _ =>
    -- The new node is as good as the one whose id it takes.
    have stands : ∀ k ∈ t'.nodes, ∃ l ∈ t.nodes, k.id = l.id ∧ k.tcpHost = l.tcpHost := by
      intro k member
      rcases List.mem_cons.mp (added member) with rfl | old
      · exact ⟨n, known, id, address⟩
      · exact ⟨k, old, rfl, rfl⟩
    intro k first l second same
    obtain ⟨k', old, sameId, sameHost⟩ := stands k first
    obtain ⟨l', old', sameId', sameHost'⟩ := stands l second
    rw [sameHost, sameHost']
    exact addressed k' old l' old' (by rw [← sameId, ← sameId', same])
  | created id added _ =>
    intro k first l second same
    rcases List.mem_cons.mp (added first) with rfl | old
    · rcases List.mem_cons.mp (added second) with rfl | old'
      · rfl
      · exact absurd (same.symm.trans id) (counted.next_ne room old')
    · rcases List.mem_cons.mp (added second) with rfl | old'
      · exact absurd (same.trans id) (counted.next_ne room old)
      · exact addressed k old l old' same

theorem AddressedById.not_rejoinsData (addressed : t.AddressedById) (c : Command) :
    ¬ t.RejoinsData c := by
  intro rejoins
  cases c with
  | createDataNode host tcpHost =>
    obtain ⟨free, n, found, member⟩ := rejoins
    obtain ⟨d, held, same⟩ := List.mem_map.mp member
    have address : n.tcpHost = tcpHost := by simpa using List.find?_some found
    have listed : n ∈ t.nodes := List.mem_append_left _ (List.mem_of_find?_eq_some found)
    exact free d held ((addressed d (List.mem_append_right _ held) n listed same).trans address)
  | _ => exact rejoins

theorem not_rejoinsData_of_unmoved {commands : List Command}
    (few : commands.length < UInt64.size)
    (unmoved : ∀ first c, first ++ [c] <+: commands → ¬ (({} : Topology).applyAll first).Moves c) :
    ∀ first c, first ++ [c] <+: commands → ¬ (({} : Topology).applyAll first).RejoinsData c := by
  have addressed : ∀ first, first <+: commands → (({} : Topology).applyAll first).AddressedById := by
    refine along_applyAll (fun _ => nofun) ?_
    intro first c within before
    obtain ⟨counted, room⟩ := numberedBy_before few within
    rw [applyAll_concat]
    cases applied : (({} : Topology).applyAll first).apply c with
    | error e => exact before
    | ok t' =>
      obtain ⟨s, accepted, rfl⟩ := accepted_of_apply applied
      have after : s.AddressedById :=
        before.change accepted.nodesChange (unmoved first c within) counted room
      exact after
  intro first c within
  exact (addressed first ((List.prefix_append first [c]).trans within)).not_rejoinsData c

/-- The ids of data nodes are distinct along commands exactly as long as none of them creates a data
node for a meta node whose id another data node has; none does as long as no meta node is moved. -/
theorem dataIds_nodup_iff {commands : List Command} (few : commands.length < UInt64.size) :
    ((∀ first, first <+: commands → (({} : Topology).applyAll first).dataIds.Nodup) ↔
      ∀ first c, first ++ [c] <+: commands → ¬ (({} : Topology).applyAll first).RejoinsData c) ∧
    ((∀ first c, first ++ [c] <+: commands → ¬ (({} : Topology).applyAll first).Moves c) →
      ∀ first, first <+: commands → (({} : Topology).applyAll first).dataIds.Nodup) := by
  have exactly : (∀ first, first <+: commands → (({} : Topology).applyAll first).dataIds.Nodup) ↔
      ∀ first c, first ++ [c] <+: commands → ¬ (({} : Topology).applyAll first).RejoinsData c := by
    refine nodup_applyAll_iff dataNodes RejoinsData rfl (fun _ => List.subset_append_right _ _)
      (fun applied => ?_) not_rejoinsData_of_refused few
    obtain ⟨s, accepted, rfl⟩ := accepted_of_apply applied
    exact accepted.dataIds
  exact ⟨exactly, fun unmoved => exactly.mpr (not_rejoinsData_of_unmoved few unmoved)⟩

def movingBetween : List Command :=
  [.createMetaNode "a:8091" "a:8088", .createDataNode "a:8086" "a:8088",
    .setMetaNode "b:8091" "b:8088", .createDataNode "b:8086" "b:8088"]

theorem dataIds_nodup_iff_movingBetween :
    movingBetween.length < UInt64.size ∧
      ((∀ first, first <+: movingBetween → (({} : Topology).applyAll first).dataIds.Nodup) ↔
        ∀ first c, first ++ [c] <+: movingBetween →
          ¬ (({} : Topology).applyAll first).RejoinsData c) :=
  ⟨by decide, (dataIds_nodup_iff (by decide)).1⟩

/-- Two data nodes of one id, of which only the first is ever found. -/
theorem dataIds_repeated :
    ∃ t, Reachable t ∧ t.dataIds = [1, 1] ∧
      t.dataNode? 1 = some ⟨1, "a:8086", "a:8088", false⟩ ∧
      ⟨1, "b:8086", "b:8088", false⟩ ∈ t.dataNodes := by
  refine ⟨({} : Topology).applyAll movingBetween, Reachable.empty.applyAll _, ?_, ?_, ?_⟩
  · cbv
  · cbv
  · have listed : (({} : Topology).applyAll movingBetween).dataNodes =
        [⟨1, "a:8086", "a:8088", false⟩, ⟨1, "b:8086", "b:8088", false⟩] := by
      cbv
    simp [listed]

end SeriesCluster.Topology
