import SeriesCluster.Proofs.Except
import SeriesCluster.Topology.Apply

namespace SeriesCluster.Topology

variable {t t' : Topology}

theorem database?_of_getDatabase {name : String} {d : Database}
    (found : t.getDatabase name = .ok d) : t.database? name = some d := by
  unfold getDatabase at found
  split at found
  · rename_i d' here
    cases found
    exact here
  · cases found

theorem exists_of_policy {database name : String} {p : RetentionPolicy}
    (found : t.policy database name = .ok p) :
    ∃ d, t.database? database = some d ∧ d.policy? name = some p := by
  obtain ⟨d, known, found⟩ := exists_of_bind_eq_ok found
  split at found
  · rename_i q here
    cases found
    exact ⟨d, database?_of_getDatabase known, here⟩
  · cases found

def newGroup (t : Topology) (p : RetentionPolicy) (start stop : Int64) : ShardGroup :=
  let nodes := t.dataNodes.map (·.id)
  ⟨t.maxShardGroupId + 1, start, stop, none,
    newShards nodes t.index.toNat (max 1 (min p.replicaCount.toNat nodes.length)) (t.maxShardId + 1)⟩

inductive Accepted (t : Topology) : Command → Topology → Prop
  | metaNodeJoined {host tcpHost : String} {n : NodeInfo} (free : ∀ m ∈ t.metaNodes, m.host ≠ host)
    (known : t.dataNodeByTcpHost? tcpHost = some n) :
    Accepted t (.createMetaNode host tcpHost)
      { t with metaNodes := sortNodes (t.metaNodes ++ [⟨n.id, host, tcpHost, true⟩]) }
  | metaNodeCreated {host tcpHost : String} (free : ∀ m ∈ t.metaNodes, m.host ≠ host)
    (unknown : t.dataNodeByTcpHost? tcpHost = none) :
    Accepted t (.createMetaNode host tcpHost)
      { t with
        maxNodeId := t.maxNodeId + 1
        metaNodes := sortNodes (t.metaNodes ++ [⟨t.maxNodeId + 1, host, tcpHost, true⟩]) }
  | firstMetaNodeSet {host tcpHost : String} {t' : Topology} (empty : t.metaNodes = [])
    (created : Accepted t (.createMetaNode host tcpHost) t') :
    Accepted t (.setMetaNode host tcpHost) t'
  | metaNodeMoved {host tcpHost : String} {n : NodeInfo} (only : t.metaNodes = [n]) :
    Accepted t (.setMetaNode host tcpHost)
      { t with metaNodes := [{ n with host := host, tcpHost := tcpHost }] }
  | metaNodeDeleted {id : UInt64} (known : ∃ n ∈ t.metaNodes, n.id = id) :
    Accepted t (.deleteMetaNode id) { t with metaNodes := t.metaNodes.filter (·.id != id) }
  | dataNodeJoined {host tcpHost : String} {n : NodeInfo}
    (free : ∀ m ∈ t.dataNodes, m.tcpHost ≠ tcpHost)
    (known : t.metaNodeByTcpHost? tcpHost = some n) :
    Accepted t (.createDataNode host tcpHost)
      { t with dataNodes := sortNodes (t.dataNodes ++ [⟨n.id, host, tcpHost, false⟩]) }
  | dataNodeCreated {host tcpHost : String} (free : ∀ m ∈ t.dataNodes, m.tcpHost ≠ tcpHost)
    (unknown : t.metaNodeByTcpHost? tcpHost = none) :
    Accepted t (.createDataNode host tcpHost)
      { t with
        maxNodeId := t.maxNodeId + 1
        dataNodes := sortNodes (t.dataNodes ++ [⟨t.maxNodeId + 1, host, tcpHost, false⟩]) }
  | dataNodeDeleted {id : UInt64} (known : ∃ n ∈ t.dataNodes, n.id = id) :
    Accepted t (.deleteDataNode id)
      { t with
        dataNodes := t.dataNodes.filter (·.id != id)
        databases := mapGroups (disown id) t.databases }
  | databaseKept {name : String} {policy : Option PolicySpec} {d : Database} (named : name ≠ "")
    (known : t.database? name = some d) : Accepted t (.createDatabase name policy) t
  | databaseCreated {name : String} {policy : Option PolicySpec} {p : RetentionPolicy}
    (named : name ≠ "") (unknown : t.database? name = none)
    (asked : RetentionPolicy.ofSpec (policy.getD { name := defaultPolicyName }) = .ok p) :
    Accepted t (.createDatabase name policy)
      { t with databases := t.databases ++ [⟨name, p.name, [p]⟩] }
  | databaseDropped {name : String} {d : Database} (known : t.database? name = some d) :
    Accepted t (.dropDatabase name) { t with databases := t.databases.filter (·.name != name) }
  | policyKept {database : String} {spec : PolicySpec} {makeDefault : Bool} {d : Database}
    {q : RetentionPolicy} (named : spec.name ≠ "") (known : t.database? database = some d)
    (existing : d.policies.find? (·.name == spec.name) = some q) (fits : q.fits spec) :
    Accepted t (.createPolicy database spec makeDefault)
      (t.updateDatabase database fun d =>
        { d with defaultPolicy := if makeDefault then spec.name else d.defaultPolicy })
  | policyCreated {database : String} {spec : PolicySpec} {makeDefault : Bool} {d : Database}
    {p : RetentionPolicy} (named : spec.name ≠ "") (known : t.database? database = some d)
    (unknown : d.policies.find? (·.name == spec.name) = none)
    (asked : RetentionPolicy.ofSpec spec = .ok p) :
    Accepted t (.createPolicy database spec makeDefault)
      (t.updateDatabase database fun d =>
        { d with
          policies := d.policies ++ [p]
          defaultPolicy := if makeDefault then spec.name else d.defaultPolicy })
  | policyDropped {database name : String} {d : Database} (known : t.database? database = some d)
    (listed : ∃ p ∈ d.policies, p.name = name) :
    Accepted t (.dropPolicy database name)
      (t.updateDatabase database fun d =>
        { d with
          policies := d.policies.filter (·.name != name)
          defaultPolicy := if d.defaultPolicy = name then "" else d.defaultPolicy })
  | defaultPolicySet {database name : String} {d : Database} (known : t.database? database = some d)
    (listed : ∃ p ∈ d.policies, p.name = name) :
    Accepted t (.setDefaultPolicy database name)
      (t.updateDatabase database fun d => { d with defaultPolicy := name })
  | groupKept {database policy : String} {timestamp : Int64} {p : RetentionPolicy} {g : ShardGroup}
    (nodes : t.dataNodes ≠ []) (known : t.policy database policy = .ok p)
    (covered : p.groupAt? timestamp = some g) :
    Accepted t (.createShardGroup database policy timestamp) t
  | groupCreated {database policy : String} {timestamp : Int64} {p : RetentionPolicy}
    {start stop : Int64} (nodes : t.dataNodes ≠ []) (known : t.policy database policy = .ok p)
    (uncovered : p.groupAt? timestamp = none)
    (interval : RetentionPolicy.interval? p.span timestamp = some (start, stop)) :
    Accepted t (.createShardGroup database policy timestamp)
      { t with
        databases := (t.updatePolicy database p.name fun groups =>
          (groups ++ [t.newGroup p start stop]).mergeSort fun a b =>
            a.startTime ≤ b.startTime).databases
        maxShardGroupId := t.maxShardGroupId + 1
        maxShardId := t.maxShardId + UInt64.ofNat (t.newGroup p start stop).shards.length }
  | groupDeleted {database policy : String} {id : UInt64} {deletedAt : Int64} {p : RetentionPolicy}
    (known : t.policy database policy = .ok p) (listed : ∃ g ∈ p.shardGroups, g.id = id) :
    Accepted t (.deleteShardGroup database policy id deletedAt)
      (t.updatePolicy database policy
        (updateFirst (·.id == id) fun g => { g with deletedAt := some deletedAt }))
  | shardDropped {id : UInt64} :
    Accepted t (.dropShard id)
      { t with
        databases := updateFirst (·.policies.any (·.shardGroups.any (holds id))) (fun d =>
          { d with
            policies := updateFirst (·.shardGroups.any (holds id)) (fun p =>
              { p with
                shardGroups := updateFirst (holds id) (fun g =>
                  { g with shards := g.shards.filter (·.id != id) }) p.shardGroups }) d.policies })
          t.databases }

theorem accepted_createMetaNode {host tcpHost : String}
    (performed : t.createMetaNode host tcpHost = .ok t') :
    Accepted t (.createMetaNode host tcpHost) t' := by
  unfold createMetaNode at performed
  split at performed
  · cases performed
  · rename_i free
    have free : ∀ m ∈ t.metaNodes, m.host ≠ host := by simpa using free
    cases known : t.dataNodeByTcpHost? tcpHost with
    | some n =>
      rw [known] at performed
      cases performed
      exact .metaNodeJoined free known
    | none =>
      rw [known] at performed
      cases performed
      exact .metaNodeCreated free known

theorem accepted_setMetaNode {host tcpHost : String}
    (performed : t.setMetaNode host tcpHost = .ok t') :
    Accepted t (.setMetaNode host tcpHost) t' := by
  unfold setMetaNode at performed
  split at performed
  · rename_i empty
    exact .firstMetaNodeSet empty (accepted_createMetaNode performed)
  · rename_i n only
    cases performed
    exact .metaNodeMoved only
  · cases performed

theorem accepted_deleteMetaNode {id : UInt64} (performed : t.deleteMetaNode id = .ok t') :
    Accepted t (.deleteMetaNode id) t' := by
  unfold deleteMetaNode at performed
  split at performed
  · rename_i known
    cases performed
    exact .metaNodeDeleted (by simpa using known)
  · cases performed

theorem accepted_createDataNode {host tcpHost : String}
    (performed : t.createDataNode host tcpHost = .ok t') :
    Accepted t (.createDataNode host tcpHost) t' := by
  unfold createDataNode at performed
  split at performed
  · cases performed
  · rename_i free
    have free : ∀ m ∈ t.dataNodes, m.tcpHost ≠ tcpHost := by simpa using free
    cases known : t.metaNodeByTcpHost? tcpHost with
    | some n =>
      rw [known] at performed
      cases performed
      exact .dataNodeJoined free known
    | none =>
      rw [known] at performed
      cases performed
      exact .dataNodeCreated free known

theorem accepted_deleteDataNode {id : UInt64} (performed : t.deleteDataNode id = .ok t') :
    Accepted t (.deleteDataNode id) t' := by
  unfold deleteDataNode at performed
  split at performed
  · rename_i known
    cases performed
    exact .dataNodeDeleted (by simpa using known)
  · cases performed

theorem accepted_createDatabase {name : String} {policy : Option PolicySpec}
    (performed : t.createDatabase name policy = .ok t') :
    Accepted t (.createDatabase name policy) t' := by
  unfold createDatabase at performed
  split at performed
  · cases performed
  · rename_i named
    have named : name ≠ "" := by simpa using named
    cases known : t.database? name with
    | some d =>
      rw [known, Option.isSome_some, if_pos rfl] at performed
      cases performed
      exact .databaseKept named known
    | none =>
      rw [known, Option.isSome_none, if_neg Bool.false_ne_true] at performed
      obtain ⟨p, asked, performed⟩ := exists_of_bind_eq_ok performed
      cases performed
      exact .databaseCreated named known asked

theorem accepted_dropDatabase {name : String} (performed : t.dropDatabase name = .ok t') :
    Accepted t (.dropDatabase name) t' := by
  unfold dropDatabase at performed
  split at performed
  · rename_i known
    obtain ⟨d, known⟩ := Option.isSome_iff_exists.mp known
    cases performed
    exact .databaseDropped known
  · cases performed

theorem accepted_createPolicy {database : String} {spec : PolicySpec} {makeDefault : Bool}
    (performed : t.createPolicy database spec makeDefault = .ok t') :
    Accepted t (.createPolicy database spec makeDefault) t' := by
  unfold createPolicy at performed
  dsimp only at performed
  by_cases unnamed : spec.name.isEmpty
  · rw [if_pos unnamed] at performed
    cases performed
  · rw [if_neg unnamed] at performed
    have named : spec.name ≠ "" := by simpa using unnamed
    obtain ⟨p, asked, performed⟩ := exists_of_bind_eq_ok performed
    obtain ⟨d, known, performed⟩ := exists_of_bind_eq_ok performed
    have known := database?_of_getDatabase known
    cases existing : d.policies.find? (·.name == spec.name) with
    | none =>
      rw [existing] at performed
      cases performed
      exact .policyCreated named known existing asked
    | some q =>
      rw [existing] at performed
      by_cases unfit : (some q).any fun q => !q.fits spec
      · rw [if_pos unfit] at performed
        cases performed
      · rw [if_neg unfit] at performed
        cases performed
        exact .policyKept named known existing (by simpa using unfit)

theorem accepted_dropPolicy {database name : String}
    (performed : t.dropPolicy database name = .ok t') :
    Accepted t (.dropPolicy database name) t' := by
  obtain ⟨d, known, performed⟩ := exists_of_bind_eq_ok performed
  split at performed
  · rename_i listed
    cases performed
    exact .policyDropped (database?_of_getDatabase known) (by simpa using listed)
  · cases performed

theorem accepted_setDefaultPolicy {database name : String}
    (performed : t.setDefaultPolicy database name = .ok t') :
    Accepted t (.setDefaultPolicy database name) t' := by
  obtain ⟨d, known, performed⟩ := exists_of_bind_eq_ok performed
  split at performed
  · rename_i listed
    cases performed
    exact .defaultPolicySet (database?_of_getDatabase known) (by simpa using listed)
  · cases performed

theorem accepted_createShardGroup {database policy : String} {timestamp : Int64}
    (performed : t.createShardGroup database policy timestamp = .ok t') :
    Accepted t (.createShardGroup database policy timestamp) t' := by
  unfold createShardGroup at performed
  dsimp only at performed
  split at performed
  · cases performed
  · rename_i nodes
    have nodes : t.dataNodes ≠ [] := by simpa using nodes
    obtain ⟨p, known, performed⟩ := exists_of_bind_eq_ok performed
    cases covered : p.groupAt? timestamp with
    | some g =>
      rw [covered, Option.isSome_some, if_pos rfl] at performed
      cases performed
      exact .groupKept nodes known covered
    | none =>
      rw [covered, Option.isSome_none, if_neg Bool.false_ne_true] at performed
      split at performed
      · cases performed
      · rename_i start stop interval
        cases performed
        exact .groupCreated nodes known covered interval

theorem accepted_deleteShardGroup {database policy : String} {id : UInt64} {deletedAt : Int64}
    (performed : t.deleteShardGroup database policy id deletedAt = .ok t') :
    Accepted t (.deleteShardGroup database policy id deletedAt) t' := by
  obtain ⟨p, known, performed⟩ := exists_of_bind_eq_ok performed
  split at performed
  · rename_i listed
    cases performed
    exact .groupDeleted known (by simpa using listed)
  · cases performed

theorem accepted_dropShard {id : UInt64} (performed : t.dropShard id = .ok t') :
    Accepted t (.dropShard id) t' := by
  unfold dropShard at performed
  dsimp only at performed
  split at performed
  · cases performed
    exact .shardDropped
  · cases performed

theorem accepted_of_perform {c : Command} (performed : t.perform c = .ok t') : Accepted t c t' := by
  cases c with
  | createMetaNode host tcpHost => exact accepted_createMetaNode performed
  | setMetaNode host tcpHost => exact accepted_setMetaNode performed
  | deleteMetaNode id => exact accepted_deleteMetaNode performed
  | createDataNode host tcpHost => exact accepted_createDataNode performed
  | deleteDataNode id => exact accepted_deleteDataNode performed
  | createDatabase name policy => exact accepted_createDatabase performed
  | dropDatabase name => exact accepted_dropDatabase performed
  | createPolicy database policy makeDefault => exact accepted_createPolicy performed
  | dropPolicy database name => exact accepted_dropPolicy performed
  | setDefaultPolicy database name => exact accepted_setDefaultPolicy performed
  | createShardGroup database policy timestamp => exact accepted_createShardGroup performed
  | deleteShardGroup database policy id deletedAt => exact accepted_deleteShardGroup performed
  | dropShard id => exact accepted_dropShard performed

theorem accepted_of_apply {c : Command} (applied : t.apply c = .ok t') :
    ∃ s, Accepted t c s ∧ t' = { s with index := s.index + 1 } := by
  obtain ⟨s, performed, counted⟩ := exists_of_bind_eq_ok applied
  cases counted
  exact ⟨s, accepted_of_perform performed, rfl⟩

theorem Reachable.applyAll (reached : Reachable t) (commands : List Command) :
    Reachable (t.applyAll commands) := by
  induction commands generalizing t with
  | nil => exact reached
  | cons c commands ih =>
    rw [Topology.applyAll, List.foldl_cons]
    cases applied : t.apply c with
    | error e => exact ih reached
    | ok t' => exact ih (reached.step applied)

end SeriesCluster.Topology
