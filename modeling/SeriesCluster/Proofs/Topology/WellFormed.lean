import Mathlib
import SeriesCluster.Proofs.Topology.Databases
import SeriesCluster.Proofs.Topology.Intervals
import SeriesCluster.Proofs.Topology.NodeIds

namespace SeriesCluster

structure Database.WellFormed (d : Database) : Prop where
  named : d.name ≠ ""
  policies_distinct : d.policyNames.Nodup
  default_listed : d.defaultPolicy = "" ∨ d.defaultPolicy ∈ d.policyNames

theorem Database.wellFormed_new {name : String} {p : RetentionPolicy} (named : name ≠ "") :
    (⟨name, p.name, [p]⟩ : Database).WellFormed where
  named := named
  policies_distinct := List.nodup_singleton _
  default_listed := .inr List.mem_cons_self

theorem Database.WellFormed.evolves {d d' : Database} (before : d.WellFormed) (step : d.Evolves d') :
    d'.WellFormed := by
  obtain ⟨named, distinct, default⟩ := before
  cases step with
  | regrouped names =>
    refine ⟨named, ?_, ?_⟩
    · rw [Database.policyNames, names]
      exact distinct
    · rw [Database.policyNames, names]
      exact default
  | defaultChosen listed => exact ⟨named, distinct, .inr listed⟩
  | @policyAdded p _ unknown chosen =>
    have names : (d.policies ++ [p]).map (·.name) = d.policyNames.concat p.name := by
      simp [Database.policyNames]
    refine ⟨named, ?_, ?_⟩
    · rw [Database.policyNames, names, List.nodup_concat]
      exact ⟨unknown, distinct⟩
    · rw [Database.policyNames, names, List.concat_eq_append]
      cases chosen with
      | true => exact .inr (List.mem_append_right _ List.mem_cons_self)
      | false => exact default.imp_right (List.mem_append_left _)
  | policyDropped name =>
    refine ⟨named, distinct.sublist (List.filter_sublist.map _), ?_⟩
    dsimp only
    split
    · exact .inl rfl
    · rename_i other
      refine default.imp_right fun listed => ?_
      obtain ⟨p, member, same⟩ := List.mem_map.mp listed
      have kept : (p.name != name) = true := bne_iff_ne.mpr (same ▸ other)
      exact List.mem_map.mpr ⟨p, List.mem_filter.mpr ⟨member, kept⟩, same⟩

namespace RetentionPolicy

theorem replicaCount_ofSpec {spec : PolicySpec} {p : RetentionPolicy} (asked : ofSpec spec = .ok p) :
    1 ≤ p.replicaCount := by
  unfold ofSpec at asked
  dsimp only at asked
  split at asked
  · cases asked
  · rename_i enough
    cases asked
    exact UInt64.not_lt.mp enough

theorem Evolves.replicaCount {p p' : RetentionPolicy} (step : p.Evolves p') :
    p'.replicaCount = p.replicaCount := by
  cases step <;> rfl

end RetentionPolicy

namespace Topology

variable {t t' : Topology}

def databaseNames (t : Topology) : List String := t.databases.map (·.name)

theorem names_updateFirst_nodup {q : Database → Bool} {f : Database → Database}
    {databases : List Database} (same : ∀ d, (f d).name = d.name)
    (distinct : (databases.map (·.name)).Nodup) :
    ((updateFirst q f databases).map (·.name)).Nodup := by
  rw [map_updateFirst same]
  exact distinct

theorem Accepted.databaseNames_nodup {c : Command} (accepted : Accepted t c t')
    (distinct : t.databaseNames.Nodup) : t'.databaseNames.Nodup := by
  induction accepted with
  | firstMetaNodeSet empty created ih => exact ih
  | metaNodeJoined | metaNodeCreated | metaNodeMoved | metaNodeDeleted | dataNodeJoined
  | dataNodeCreated | databaseKept | groupKept => exact distinct
  | dataNodeDeleted known =>
    simp only [databaseNames, mapGroups, List.map_map]
    exact distinct
  | @databaseCreated name policy p named unknown asked =>
    have fresh : name ∉ t.databaseNames := by
      simpa [databaseNames, database?] using unknown
    rw [databaseNames, List.map_append, List.map_singleton, ← List.concat_eq_append,
      List.nodup_concat]
    exact ⟨fresh, distinct⟩
  | databaseDropped known => exact distinct.sublist (List.filter_sublist.map _)
  | policyKept | policyCreated | policyDropped | defaultPolicySet | groupCreated | groupDeleted
  | shardDropped => exact names_updateFirst_nodup (fun _ => rfl) distinct

/-- What a command makes of the nodes of one kind, which are told apart by a `key`: some are left,
one comes in, or the only one is set. -/
inductive NodesStep (key : NodeInfo → String) (nodes : List NodeInfo) : List NodeInfo → Prop
  | fewer {nodes' : List NodeInfo} (kept : nodes'.Sublist nodes) : NodesStep key nodes nodes'
  | added {n : NodeInfo} (free : ∀ m ∈ nodes, key m ≠ key n) :
    NodesStep key nodes (sortNodes (nodes ++ [n]))
  | only (n : NodeInfo) : NodesStep key nodes [n]

structure NodesSorted (key : NodeInfo → String) (nodes : List NodeInfo) : Prop where
  distinct : (nodes.map key).Nodup
  ordered : nodes.Pairwise fun m n => m.id ≤ n.id

variable {key : NodeInfo → String} {nodes nodes' : List NodeInfo}

theorem pairwise_sortNodes (nodes : List NodeInfo) :
    (sortNodes nodes).Pairwise fun m n => m.id ≤ n.id := by
  have sorted : (sortNodes nodes).Pairwise fun m n => decide (m.id ≤ n.id) = true :=
    List.pairwise_mergeSort (fun _ _ _ => by simpa using UInt64.le_trans)
      (fun _ _ => by simpa using UInt64.le_total _ _) _
  simpa using sorted

theorem NodesStep.sorted (step : NodesStep key nodes nodes') (before : NodesSorted key nodes) :
    NodesSorted key nodes' := by
  cases step with
  | fewer kept => exact ⟨before.distinct.sublist (kept.map key), before.ordered.sublist kept⟩
  | @added n free =>
    refine ⟨?_, pairwise_sortNodes _⟩
    have same := (List.mergeSort_perm (nodes ++ [n]) fun m n => m.id ≤ n.id).map key
    rw [sortNodes, same.nodup_iff, List.map_append, List.map_singleton, ← List.concat_eq_append,
      List.nodup_concat]
    refine ⟨fun used => ?_, before.distinct⟩
    obtain ⟨m, member, equal⟩ := List.mem_map.mp used
    exact free m member equal
  | only n => exact ⟨List.nodup_singleton _, List.pairwise_singleton _ _⟩

theorem Accepted.metaNodes_step {c : Command} (accepted : Accepted t c t') :
    NodesStep (·.host) t.metaNodes t'.metaNodes := by
  induction accepted with
  | firstMetaNodeSet empty created ih => exact ih
  | metaNodeJoined free known => exact .added free
  | metaNodeCreated free unknown => exact .added free
  | metaNodeMoved only => exact .only _
  | metaNodeDeleted known => exact .fewer List.filter_sublist
  | dataNodeJoined | dataNodeCreated | dataNodeDeleted | databaseKept | databaseCreated
  | databaseDropped | policyKept | policyCreated | policyDropped | defaultPolicySet | groupKept
  | groupCreated | groupDeleted | shardDropped => exact .fewer (.refl _)

theorem Accepted.dataNodes_step {c : Command} (accepted : Accepted t c t') :
    NodesStep (·.tcpHost) t.dataNodes t'.dataNodes := by
  induction accepted with
  | firstMetaNodeSet empty created ih => exact ih
  | dataNodeJoined free known => exact .added free
  | dataNodeCreated free unknown => exact .added free
  | dataNodeDeleted known => exact .fewer List.filter_sublist
  | metaNodeJoined | metaNodeCreated | metaNodeMoved | metaNodeDeleted | databaseKept
  | databaseCreated | databaseDropped | policyKept | policyCreated | policyDropped
  | defaultPolicySet | groupKept | groupCreated | groupDeleted | shardDropped =>
    exact .fewer (.refl _)

structure WellFormed (t : Topology) : Prop where
  databases : ∀ d ∈ t.databases, d.WellFormed
  databases_distinct : t.databaseNames.Nodup
  replicated : ∀ d ∈ t.databases, ∀ p ∈ d.policies, 1 ≤ p.replicaCount
  spanned : ∀ d ∈ t.databases, ∀ p ∈ d.policies, p.shardGroupDuration.isZero = false
  metaNodes : NodesSorted (·.host) t.metaNodes
  dataNodes : NodesSorted (·.tcpHost) t.dataNodes

theorem Reachable.databaseNames_nodup (reached : Reachable t) : t.databaseNames.Nodup := by
  induction reached with
  | empty => exact List.nodup_nil
  | step prior applied ih =>
    obtain ⟨s, accepted, rfl⟩ := accepted_of_apply applied
    exact accepted.databaseNames_nodup ih

theorem Reachable.metaNodes_sorted (reached : Reachable t) : NodesSorted (·.host) t.metaNodes := by
  induction reached with
  | empty => exact ⟨List.nodup_nil, .nil⟩
  | step prior applied ih =>
    obtain ⟨s, accepted, rfl⟩ := accepted_of_apply applied
    exact accepted.metaNodes_step.sorted ih

theorem Reachable.dataNodes_sorted (reached : Reachable t) : NodesSorted (·.tcpHost) t.dataNodes := by
  induction reached with
  | empty => exact ⟨List.nodup_nil, .nil⟩
  | step prior applied ih =>
    obtain ⟨s, accepted, rfl⟩ := accepted_of_apply applied
    exact accepted.dataNodes_step.sorted ih

theorem Reachable.wellFormed (reached : Reachable t) : t.WellFormed where
  databases := reached.everyDatabase Database.wellFormed_new Database.WellFormed.evolves
  databases_distinct := reached.databaseNames_nodup
  replicated d known p listed :=
    reached.everyPolicy (P := fun p => 1 ≤ p.replicaCount) RetentionPolicy.replicaCount_ofSpec
      (fun before step => step.replicaCount ▸ before) p ⟨d, known, listed⟩
  spanned d known p listed := by
    have positive := (reached.onGrid ⟨d, known, listed⟩).spanned
    simp only [Duration.isZero, beq_eq_false_iff_ne]
    omega
  metaNodes := reached.metaNodes_sorted
  dataNodes := reached.dataNodes_sorted

def NodesNumbered (t : Topology) : Prop := ∀ n ∈ t.nodes, 1 ≤ n.id ∧ n.id ≤ t.maxNodeId

/-- Whether the counter of node ids never runs over along commands. -/
def NodeIdsLast (commands : List Command) : Prop :=
  ∀ first c, first ++ [c] <+: commands →
    (({} : Topology).applyAll first).maxNodeId ≤
      (({} : Topology).applyAll (first ++ [c])).maxNodeId

theorem room_of_le_next (onward : t.maxNodeId ≤ t.maxNodeId + 1) :
    t.maxNodeId.toNat + 1 < UInt64.size := by
  have size : UInt64.size = 2 ^ 64 := rfl
  have bound := t.maxNodeId.toNat_lt_size
  rw [UInt64.le_iff_toNat_le, UInt64.toNat_add, UInt64.toNat_one] at onward
  by_contra full
  have wrapped : (t.maxNodeId.toNat + 1) % 2 ^ 64 = 0 := by
    have last : t.maxNodeId.toNat + 1 = 2 ^ 64 := by omega
    rw [last, Nat.mod_self]
  omega

theorem NodesChange.numbered {c : Command} (change : NodesChange t c t') (before : t.NodesNumbered)
    (onward : t.maxNodeId ≤ t'.maxNodeId) : t'.NodesNumbered := by
  intro k member
  cases change with
  | fewer kept counter =>
    rw [counter]
    exact before k (kept member)
  | joined known id _ added counter | moved _ known id added counter =>
    rw [counter]
    rcases List.mem_cons.mp (added member) with rfl | old
    · rw [id]
      exact before _ known
    · exact before k old
  | created id added counter =>
    rw [counter] at onward ⊢
    have next := toNat_next_id (room_of_le_next onward)
    rcases List.mem_cons.mp (added member) with rfl | old
    · rw [id, UInt64.le_iff_toNat_le, next, UInt64.toNat_one]
      exact ⟨by omega, UInt64.le_refl _⟩
    · exact ⟨(before k old).1, UInt64.le_trans (before k old).2 onward⟩

theorem nodesNumbered_applyAll {commands : List Command} (last : NodeIdsLast commands) :
    (({} : Topology).applyAll commands).NodesNumbered := by
  refine along_applyAll (P := NodesNumbered) nofun ?_ commands (List.prefix_refl commands)
  intro first c within before
  have onward := last first c within
  rw [applyAll_concat] at onward ⊢
  cases applied : (({} : Topology).applyAll first).apply c with
  | error e => exact before
  | ok t' =>
    rw [applied] at onward
    obtain ⟨s, accepted, rfl⟩ := accepted_of_apply applied
    have after : s.NodesNumbered := accepted.nodesChange.numbered before onward
    exact after

theorem nodeIdsLast_of_few {commands : List Command} (few : commands.length < UInt64.size) :
    NodeIdsLast commands := by
  intro first c within
  -- Each command counts one node at most.
  obtain ⟨-, room⟩ := numberedBy_before few within
  rw [applyAll_concat]
  cases applied : (({} : Topology).applyAll first).apply c with
  | error e => exact UInt64.le_refl _
  | ok t' =>
    obtain ⟨s, accepted, rfl⟩ := accepted_of_apply applied
    change _ ≤ s.maxNodeId
    cases accepted.nodesChange with
    | fewer _ counter | joined _ _ _ _ counter | moved _ _ _ _ counter =>
      rw [counter]
      exact UInt64.le_refl _
    | created _ _ counter =>
      rw [counter, UInt64.le_iff_toNat_le, toNat_next_id room]
      omega

/-- Whatever commands lead to: databases have names of their own, and in them policies have; a default
policy is listed; every policy has a replica and a span; nodes of one kind differ in the address by
which they are told apart, and stand in the order of their ids. The ids are those that the counter
has passed, as long as it has not run over. -/
theorem well_formed (commands : List Command) :
    (({} : Topology).applyAll commands).WellFormed ∧
      (NodeIdsLast commands → (({} : Topology).applyAll commands).NodesNumbered) :=
  ⟨(Reachable.empty.applyAll commands).wellFormed, nodesNumbered_applyAll⟩

def settingUp : List Command :=
  [.createDataNode "a:8086" "a:8088", .createMetaNode "a:8091" "a:8088",
    .setMetaNode "b:8091" "b:8088", .createMetaNode "c:8091" "c:8088", .createDatabase "db" none,
    .createPolicy "db" { name := "rp", replicaCount := some 2 } true, .dropPolicy "db" "rp"]

theorem well_formed_settingUp :
    (({} : Topology).applyAll settingUp).nodes = [⟨1, "b:8091", "b:8088", true⟩,
      ⟨2, "c:8091", "c:8088", true⟩, ⟨1, "a:8086", "a:8088", false⟩] ∧
      (({} : Topology).applyAll settingUp).databases =
        [⟨"db", "", [⟨"autogen", .zero, .week, 1, []⟩]⟩] ∧
      (({} : Topology).applyAll settingUp).WellFormed ∧
      (({} : Topology).applyAll settingUp).NodesNumbered := by
  obtain ⟨formed, numbered⟩ := well_formed settingUp
  exact ⟨by cbv, by cbv, formed, numbered (nodeIdsLast_of_few (by decide))⟩

end Topology

end SeriesCluster
