import Mathlib
import SeriesCluster.Proofs.Topology.InPlace
import SeriesCluster.Proofs.Topology.Intervals
import SeriesCluster.Proofs.Topology.NodeIds
import SeriesCluster.Proofs.Topology.ShardIds

namespace SeriesCluster

theorem updateFirst_twice {α : Type} {p : α → Bool} {f : α → α} {l : List α}
    (kept : ∀ a, p (f a) = p a) (twice : ∀ a, f (f a) = f a) :
    updateFirst p f (updateFirst p f l) = updateFirst p f l := by
  cases found : l.find? p with
  | none => rw [updateFirst_of_find?_eq_none found, updateFirst_of_find?_eq_none found]
  | some a =>
    have same : p (f a) = true := (kept a).trans (List.find?_some found)
    rw [updateFirst_updateFirst found same]
    exact updateFirst_congr found (twice a)

theorem not_mem_flatMap_updateFirst {α β : Type} {p : α → Bool} {f : α → α} {l : List α}
    {k : α → List β} {b : β} (holds : ∀ a, p a = true ↔ b ∈ k a)
    (gone : ∀ a, (k a).Nodup → b ∉ k (f a)) (distinct : (l.flatMap k).Nodup) :
    b ∉ (updateFirst p f l).flatMap k := by
  cases found : l.find? p with
  | none =>
    rw [updateFirst_of_find?_eq_none found]
    intro held
    obtain ⟨a, member, held⟩ := List.mem_flatMap.mp held
    exact List.find?_eq_none.mp found a member ((holds a).mpr held)
  | some a =>
    have held : b ∈ k a := (holds a).mp (List.find?_some found)
    obtain ⟨before, after, split, updated⟩ := updateFirst_of_find?_eq_some (f := f) found
    rw [split, List.flatMap_append, List.flatMap_cons] at distinct
    obtain ⟨-, behind, apart⟩ := List.nodup_append.mp distinct
    obtain ⟨own, -, after_apart⟩ := List.nodup_append.mp behind
    rw [updated, List.flatMap_append, List.flatMap_cons]
    simp only [List.mem_append, not_or]
    refine ⟨?_, gone a own, ?_⟩
    · intro earlier
      exact apart b earlier b (List.mem_append_left _ held) rfl
    · intro later
      exact after_apart b held b later rfl

namespace RetentionPolicy

theorem fits_ofSpec {spec : PolicySpec} {p : RetentionPolicy} (asked : ofSpec spec = .ok p) :
    p.fits spec = true := by
  obtain ⟨name, duration, shardGroupDuration, replicaCount⟩ := spec
  unfold ofSpec at asked
  dsimp only at asked
  split at asked
  · cases asked
  · cases asked
    simp only [fits, Bool.and_eq_true]
    refine ⟨⟨?_, ?_⟩, ?_⟩
    · cases duration <;> simp
    · cases replicaCount <;> simp
    · cases shardGroupDuration with
      | none => rfl
      | some asked => by_cases none : asked.isZero <;> simp [none]

theorem contains_of_interval? {span : Nat} {t : Int64} {g : ShardGroup} (positive : 0 < span)
    (interval : interval? span t = some (g.startTime, g.endTime)) : g.contains t = true := by
  obtain ⟨start, stop⟩ := interval?_eq_some interval
  have nonneg : 0 ≤ t.toInt % span := Int.emod_nonneg _ (by omega)
  have less : t.toInt % span < span := Int.emod_lt_of_pos _ (by omega)
  rw [ShardGroup.contains_iff]
  omega

end RetentionPolicy

namespace Topology

variable {t t' : Topology}

theorem policy_updatePolicy {database name : String} {p : RetentionPolicy}
    {f : List ShardGroup → List ShardGroup} (found : t.policy database name = .ok p) :
    (t.updatePolicy database name f).policy database name =
      .ok { p with shardGroups := f p.shardGroups } := by
  obtain ⟨d, known, named⟩ := exists_of_policy found
  have same : (p.name == d.resolve name) = true :=
    List.find?_some (p := fun p : RetentionPolicy => p.name == d.resolve name) named
  refine policy_of_database? (Edit.database?_updateDatabase known rfl) ?_
  exact find?_updateFirst named same

theorem updatePolicy_self {database name : String} {p : RetentionPolicy}
    {f : List ShardGroup → List ShardGroup} (found : t.policy database name = .ok p)
    (same : f p.shardGroups = p.shardGroups) : t.updatePolicy database name f = t := by
  obtain ⟨d, known, named⟩ := exists_of_policy found
  refine Edit.updateDatabase_self known ?_
  rw [updateFirst_self named (by rw [same])]

theorem updatePolicy_name {database name : String} {p : RetentionPolicy}
    (found : t.policy database name = .ok p) (f : List ShardGroup → List ShardGroup) :
    t.updatePolicy database p.name f = t.updatePolicy database name f := by
  obtain ⟨d, known, named⟩ := exists_of_policy found
  have same : p.name = d.resolve name := by simpa using List.find?_some named
  refine Edit.updateDatabase_congr known ?_
  rw [same, resolve_resolve]

theorem not_holds_of_not_mem_shardIds {id : UInt64} (free : id ∉ t.shardIds) :
    (t.databases.any fun d => d.policies.any fun p => p.shardGroups.any (holds id)) = false := by
  rw [Bool.eq_false_iff]
  intro held
  simp only [List.any_eq_true, holds, beq_iff_eq] at held
  obtain ⟨d, known, p, listed, g, member, s, held, rfl⟩ := held
  apply free
  simp only [shardIds, gather, List.mem_flatMap]
  exact ⟨d, known, p, listed, g, member, List.mem_map_of_mem held⟩

/-- Whether a command that gives a result finds nothing left to do. -/
def Settles (t : Topology) (result : Except Error Topology) : Prop :=
  (∃ fault, result = .error fault) ∨ result = .ok t

theorem settles_createMetaNode {host tcpHost : String} {m : NodeInfo} (known : m ∈ t.metaNodes)
    (same : m.host = host) : t.Settles (t.createMetaNode host tcpHost) := by
  have listed : t.metaNodes.any (·.host == host) = true :=
    List.any_eq_true.mpr ⟨m, known, by simpa using same⟩
  left
  exact ⟨_, if_pos listed⟩

theorem settles_setMetaNode {host tcpHost : String} {id : UInt64} {isMeta : Bool}
    (only : t.metaNodes = [⟨id, host, tcpHost, isMeta⟩]) :
    t.Settles (t.setMetaNode host tcpHost) := by
  obtain ⟨index, metaNodes⟩ := t
  dsimp only at only
  subst only
  right
  rfl

theorem settles_deleteMetaNode {id : UInt64} (gone : t.metaNodes.any (·.id == id) = false) :
    t.Settles (t.deleteMetaNode id) := by
  left
  exact ⟨_, by rw [deleteMetaNode, gone, if_neg Bool.false_ne_true]⟩

theorem settles_createDataNode {host tcpHost : String} {m : NodeInfo} (known : m ∈ t.dataNodes)
    (same : m.tcpHost = tcpHost) : t.Settles (t.createDataNode host tcpHost) := by
  have listed : t.dataNodes.any (·.tcpHost == tcpHost) = true :=
    List.any_eq_true.mpr ⟨m, known, by simpa using same⟩
  left
  exact ⟨_, if_pos listed⟩

theorem settles_deleteDataNode {id : UInt64} (gone : t.dataNodes.any (·.id == id) = false) :
    t.Settles (t.deleteDataNode id) := by
  left
  exact ⟨_, by rw [deleteDataNode, gone, if_neg Bool.false_ne_true]⟩

theorem settles_createDatabase {name : String} {policy : Option PolicySpec} {d : Database}
    (known : t.database? name = some d) : t.Settles (t.createDatabase name policy) := by
  unfold createDatabase
  by_cases unnamed : name.isEmpty
  · left
    exact ⟨_, if_pos unnamed⟩
  · right
    rw [if_neg unnamed, known]
    rfl

theorem settles_dropDatabase {name : String} (gone : t.database? name = none) :
    t.Settles (t.dropDatabase name) := by
  left
  exact ⟨_, by rw [dropDatabase, gone]; rfl⟩

theorem settles_createPolicy {database : String} {spec : PolicySpec} {makeDefault : Bool}
    {d : Database} {q : RetentionPolicy} (known : t.database? database = some d)
    (existing : d.policies.find? (·.name == spec.name) = some q) (fits : q.fits spec = true)
    (chosen : makeDefault = true → d.defaultPolicy = spec.name) :
    t.Settles (t.createPolicy database spec makeDefault) := by
  unfold createPolicy
  by_cases unnamed : spec.name.isEmpty
  · left
    exact ⟨_, by rw [if_pos unnamed]; rfl⟩
  · cases asked : RetentionPolicy.ofSpec spec with
    | error fault =>
      left
      exact ⟨fault, by rw [if_neg unnamed]; rfl⟩
    | ok p =>
      right
      rw [if_neg unnamed]
      simp only [bind, Except.bind, pure, Except.pure, Edit.getDatabase_of_database? known, existing,
        Option.any_some, fits, Option.isSome_some, Bool.not_true, Bool.false_eq_true, if_false, if_true]
      refine congrArg Except.ok (Edit.updateDatabase_self known ?_)
      cases makeDefault with
      | false => rfl
      | true => rw [if_pos rfl, ← chosen rfl]

theorem settles_dropPolicy {database name : String} {d : Database}
    (known : t.database? database = some d) (gone : d.policies.any (·.name == name) = false) :
    t.Settles (t.dropPolicy database name) := by
  left
  refine ⟨.policyNotFound name, ?_⟩
  rw [dropPolicy, Edit.getDatabase_of_database? known, ok_bind, gone, if_neg Bool.false_ne_true]
  rfl

theorem settles_setDefaultPolicy {database name : String} {d : Database}
    (known : t.database? database = some d) (default : d.defaultPolicy = name) :
    t.Settles (t.setDefaultPolicy database name) := by
  rw [setDefaultPolicy, Edit.getDatabase_of_database? known, ok_bind]
  by_cases listed : d.policies.any (·.name == name)
  · right
    rw [if_pos listed]
    refine congrArg Except.ok (Edit.updateDatabase_self known ?_)
    rw [← default]
  · left
    exact ⟨.policyNotFound name, by rw [if_neg listed]; rfl⟩

theorem settles_createShardGroup {database policy : String} {timestamp : Int64}
    {p : RetentionPolicy} (found : t.policy database policy = .ok p)
    (covered : (p.groupAt? timestamp).isSome) :
    t.Settles (t.createShardGroup database policy timestamp) := by
  unfold createShardGroup
  dsimp only
  by_cases nodes : (t.dataNodes.map (·.id)).isEmpty
  · left
    exact ⟨_, if_pos nodes⟩
  · right
    rw [if_neg nodes, found, ok_bind, if_pos covered]
    rfl

theorem settles_deleteShardGroup {database policy : String} {id : UInt64} {deletedAt : Int64}
    {p : RetentionPolicy} (found : t.policy database policy = .ok p)
    (done : updateFirst (·.id == id) (fun g => { g with deletedAt := some deletedAt })
      p.shardGroups = p.shardGroups) :
    t.Settles (t.deleteShardGroup database policy id deletedAt) := by
  rw [deleteShardGroup, found, ok_bind]
  by_cases listed : p.shardGroups.any (·.id == id)
  · right
    rw [if_pos listed]
    exact congrArg Except.ok (updatePolicy_self found done)
  · left
    exact ⟨_, by rw [if_neg listed]; rfl⟩

theorem settles_dropShard {id : UInt64} (gone : id ∉ t.shardIds) : t.Settles (t.dropShard id) := by
  left
  refine ⟨.shardNotFound id, ?_⟩
  unfold dropShard
  dsimp only
  rw [not_holds_of_not_mem_shardIds gone, if_neg Bool.false_ne_true]

theorem Accepted.firstMetaNode {host tcpHost : String} (empty : t.metaNodes = [])
    (created : Accepted t (.createMetaNode host tcpHost) t') :
    ∃ id, t'.metaNodes = [⟨id, host, tcpHost, true⟩] := by
  cases created with
  | metaNodeJoined free known =>
    simp only [empty, List.nil_append, sortNodes, List.mergeSort_singleton]
    exact ⟨_, rfl⟩
  | metaNodeCreated free unknown =>
    simp only [empty, List.nil_append, sortNodes, List.mergeSort_singleton]
    exact ⟨_, rfl⟩

theorem any_filter_ne {α κ : Type} [BEq κ] (key : α → κ) (k : κ) (l : List α) :
    (l.filter (key · != k)).any (key · == k) = false := by
  simp [bne]

theorem Accepted.not_mem_shardIds {id : UInt64} (distinct : t.shardIds.Nodup)
    (accepted : Accepted t (.dropShard id) t') : id ∉ t'.shardIds := by
  cases accepted with
  | shardDropped =>
    have group (g : ShardGroup) : holds id g = true ↔ id ∈ g.shardIds := by
      simp [holds, ShardGroup.shardIds]
    refine not_mem_flatMap_updateFirst ?_ (fun d distinct => ?_) distinct
    · intro d
      simp [group]
    refine not_mem_flatMap_updateFirst ?_ (fun p distinct => ?_) distinct
    · intro p
      simp [group]
    refine not_mem_flatMap_updateFirst group (fun g _ => ?_) distinct
    simp [ShardGroup.shardIds]

theorem isSome_groupAt?_created {p : RetentionPolicy} {timestamp start stop : Int64}
    (interval : RetentionPolicy.interval? p.span timestamp = some (start, stop)) :
    (RetentionPolicy.groupAt? { p with shardGroups :=
      (p.shardGroups ++ [t.newGroup p start stop]).mergeSort fun a b => a.startTime ≤ b.startTime }
      timestamp).isSome := by
  have positive : 0 < p.span := Nat.le_max_left _ _
  have covers : (t.newGroup p start stop).contains timestamp = true :=
    RetentionPolicy.contains_of_interval? positive interval
  unfold RetentionPolicy.groupAt?
  rw [List.find?_isSome]
  refine ⟨t.newGroup p start stop, List.mem_mergeSort.mpr (by simp), ?_⟩
  rw [covers]
  rfl

theorem Accepted.settles {c : Command} (accepted : Accepted t c t')
    (numbered : ∀ id, c = .dropShard id → t.shardIds.Nodup) (index : UInt64) :
    Settles { t' with index := index } (perform { t' with index := index } c) := by
  induction accepted with
  | @metaNodeJoined host tcpHost n free known =>
    exact settles_createMetaNode (m := ⟨n.id, host, tcpHost, true⟩)
      (mem_sortNodes.mpr (List.mem_append_right _ List.mem_cons_self)) rfl
  | @metaNodeCreated host tcpHost free unknown =>
    exact settles_createMetaNode (m := ⟨t.maxNodeId + 1, host, tcpHost, true⟩)
      (mem_sortNodes.mpr (List.mem_append_right _ List.mem_cons_self)) rfl
  | firstMetaNodeSet empty created ih =>
    obtain ⟨id, only⟩ := created.firstMetaNode empty
    exact settles_setMetaNode only
  | metaNodeMoved only => exact settles_setMetaNode rfl
  | metaNodeDeleted known => exact settles_deleteMetaNode (any_filter_ne _ _ _)
  | @dataNodeJoined host tcpHost n free known =>
    exact settles_createDataNode (m := ⟨n.id, host, tcpHost, false⟩)
      (mem_sortNodes.mpr (List.mem_append_right _ List.mem_cons_self)) rfl
  | @dataNodeCreated host tcpHost free unknown =>
    exact settles_createDataNode (m := ⟨t.maxNodeId + 1, host, tcpHost, false⟩)
      (mem_sortNodes.mpr (List.mem_append_right _ List.mem_cons_self)) rfl
  | dataNodeDeleted known => exact settles_deleteDataNode (any_filter_ne _ _ _)
  | databaseKept named known => exact settles_createDatabase known
  | @databaseCreated name policy p named unknown asked =>
    have found : (t.databases ++ [(⟨name, p.name, [p]⟩ : Database)]).find? (·.name == name) =
        some ⟨name, p.name, [p]⟩ := by
      rw [List.find?_append, show t.databases.find? (·.name == name) = none from unknown]
      simp
    exact settles_createDatabase found
  | @databaseDropped name d known =>
    refine settles_dropDatabase (List.find?_eq_none.mpr ?_)
    intro d member
    simpa using (List.mem_filter.mp member).2
  | @policyKept database spec makeDefault d q named known existing fits =>
    refine settles_createPolicy (Edit.database?_updateDatabase known rfl) existing fits ?_
    rintro rfl
    rfl
  | @policyCreated database spec makeDefault d p named known unknown asked =>
    refine settles_createPolicy (q := p) (Edit.database?_updateDatabase known rfl) ?_
      (RetentionPolicy.fits_ofSpec asked) ?_
    · have same := RetentionPolicy.name_ofSpec asked
      rw [List.find?_append, unknown]
      simp [same]
    · rintro rfl
      rfl
  | policyDropped known listed =>
    exact settles_dropPolicy (Edit.database?_updateDatabase known rfl) (any_filter_ne _ _ _)
  | defaultPolicySet known listed =>
    exact settles_setDefaultPolicy (Edit.database?_updateDatabase known rfl) rfl
  | @groupKept database policy timestamp p g nodes known covered =>
    exact settles_createShardGroup known (by rw [covered]; rfl)
  | @groupCreated database policy timestamp p start stop nodes known uncovered interval =>
    rw [updatePolicy_name known]
    -- A policy is found in the databases alone, whatever the counters are.
    have found := policy_updatePolicy (f := fun groups =>
      (groups ++ [t.newGroup p start stop]).mergeSort fun a b => a.startTime ≤ b.startTime) known
    exact settles_createShardGroup found (isSome_groupAt?_created interval)
  | @groupDeleted database policy id deletedAt p known listed =>
    have found := policy_updatePolicy (f := updateFirst (·.id == id) fun g =>
      { g with deletedAt := some deletedAt }) known
    exact settles_deleteShardGroup found (updateFirst_twice (fun _ => rfl) fun _ => rfl)
  | @shardDropped id =>
    have gone := (@Accepted.shardDropped t id).not_mem_shardIds (numbered id rfl)
    exact settles_dropShard gone

/-- A command that is sent again right away is refused, or moves only the index on. Shards are
dropped for good where their ids are distinct, which they are as long as the counter of ids has not
come to its end. -/
theorem resubmitted (t : Topology) (c : Command)
    (numbered : ∀ id, c = .dropShard id → Leads {} t) :
    let once := ((Edit.command c).on t).2
    (∃ fault, (Edit.command c).on once = (.error fault, once)) ∨
      (Edit.command c).on once = (.ok (), { once with index := once.index + 1 }) := by
  simp only [Edit.on_command]
  cases applied : t.apply c with
  | error fault =>
    left
    exact ⟨fault, by rw [Edit.wholly, applied, Edit.wholly]⟩
  | ok t' =>
    obtain ⟨s, accepted, rfl⟩ := accepted_of_apply applied
    have distinct (id : UInt64) (drop : c = .dropShard id) : t.shardIds.Nodup :=
      ((numbered id drop).shardPool.sound ⟨.nil, nofun⟩).nodup
    simp only [Edit.wholly, apply]
    rcases accepted.settles distinct (s.index + 1) with ⟨fault, refused⟩ | settled
    · left
      rw [refused]
      exact ⟨fault, rfl⟩
    · right
      rw [settled]
      rfl

theorem resubmitted_firstHour :
    let t := hourly 3 1 [firstHour [⟨1, [⟨1⟩]⟩]]
    let once := ((Edit.command (.dropShard 1)).on t).2
    Leads {} t ∧ once = hourly 4 1 [firstHour []] ∧
      ((∃ fault, (Edit.command (.dropShard 1)).on once = (.error fault, once)) ∨
        (Edit.command (.dropShard 1)).on once = (.ok (), { once with index := once.index + 1 })) := by
  refine ⟨leads_firstHour, ?_, ?_⟩
  · rw [Edit.on_command]
    cbv
  · exact resubmitted _ _ fun _ _ => leads_firstHour

end Topology

end SeriesCluster
