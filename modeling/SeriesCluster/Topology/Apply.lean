import SeriesCluster.Topology.Command
import SeriesCluster.Topology.Lookup

namespace SeriesCluster

def updateFirst {α : Type} (p : α → Bool) (f : α → α) : List α → List α
  | [] => []
  | a :: rest => if p a then f a :: rest else a :: updateFirst p f rest

namespace RetentionPolicy

def ofSpec (s : PolicySpec) : Except Error RetentionPolicy :=
  let replicaCount := s.replicaCount.getD 1
  let duration := s.duration.getD .zero
  let asked := s.shardGroupDuration.getD .zero
  if replicaCount < 1 then .error (.refused .replicationTooSmall)
  else .ok {
    name := s.name
    duration := duration
    shardGroupDuration := if asked.isZero then shardGroupDurationFor duration else asked
    replicaCount := replicaCount
    shardGroups := [] }

def fits (p : RetentionPolicy) (s : PolicySpec) : Bool :=
  s.duration.all (· == p.duration) && s.replicaCount.all (· == p.replicaCount)
    && s.shardGroupDuration.all fun d => d.isZero || d == p.shardGroupDuration

def span (p : RetentionPolicy) : Nat :=
  max 1 (min p.shardGroupDuration.nanos Int64.maxValue.toInt.natAbs)

def interval? (span : Nat) (t : Int64) : Option (Int64 × Int64) :=
  let start := t.toInt - t.toInt % span
  if Int64.minValue.toInt ≤ start ∧ start + span ≤ Int64.maxValue.toInt then
    some (Int64.ofInt start, Int64.ofInt (start + span))
  else none

end RetentionPolicy

namespace Topology

/-- Gives a new id to a node, unless a node of the other kind with its address has one. -/
def nodeIdFor (t : Topology) (other : Option NodeInfo) : UInt64 × Topology :=
  match other with
  | some n => (n.id, t)
  | none => (t.maxNodeId + 1, { t with maxNodeId := t.maxNodeId + 1 })

def sortNodes (nodes : List NodeInfo) : List NodeInfo := nodes.mergeSort fun a b => a.id ≤ b.id

def createMetaNode (t : Topology) (host tcpHost : String) : Except Error Topology :=
  if t.metaNodes.any (·.host == host) then .error .nodeExists
  else
    let (id, t) := t.nodeIdFor (t.dataNodeByTcpHost? tcpHost)
    .ok { t with metaNodes := sortNodes (t.metaNodes ++ [⟨id, host, tcpHost, true⟩]) }

def setMetaNode (t : Topology) (host tcpHost : String) : Except Error Topology :=
  match t.metaNodes with
  | [] => t.createMetaNode host tcpHost
  | [n] => .ok { t with metaNodes := [{ n with host := host, tcpHost := tcpHost }] }
  | nodes => .error (.refused (.severalMetaNodes nodes.length))

def deleteMetaNode (t : Topology) (id : UInt64) : Except Error Topology :=
  if t.metaNodes.any (·.id == id) then
    .ok { t with metaNodes := t.metaNodes.filter (·.id != id) }
  else .error .nodeNotFound

def createDataNode (t : Topology) (host tcpHost : String) : Except Error Topology :=
  if t.dataNodes.any (·.tcpHost == tcpHost) then .error .nodeExists
  else
    let (id, t) := t.nodeIdFor (t.metaNodeByTcpHost? tcpHost)
    .ok { t with dataNodes := sortNodes (t.dataNodes ++ [⟨id, host, tcpHost, false⟩]) }

def mapGroups (f : ShardGroup → ShardGroup) (databases : List Database) : List Database :=
  databases.map fun d => { d with
    policies := d.policies.map fun p => { p with shardGroups := p.shardGroups.map f } }

def disown (id : UInt64) (g : ShardGroup) : ShardGroup :=
  { g with shards := g.shards.map fun s =>
      { s with owners := s.owners.filter (·.nodeId != id) } }

def deleteDataNode (t : Topology) (id : UInt64) : Except Error Topology :=
  if t.dataNodes.any (·.id == id) then
    .ok { t with
      dataNodes := t.dataNodes.filter (·.id != id)
      databases := mapGroups (disown id) t.databases }
  else .error .nodeNotFound

def defaultPolicyName : String := "autogen"

def createDatabase (t : Topology) (name : String) (policy : Option PolicySpec) :
    Except Error Topology :=
  if name.isEmpty then .error (.refused .databaseNameRequired)
  else if (t.database? name).isSome then .ok t
  else do
    let p ← RetentionPolicy.ofSpec (policy.getD { name := defaultPolicyName })
    return { t with databases := t.databases ++ [⟨name, p.name, [p]⟩] }

def dropDatabase (t : Topology) (name : String) : Except Error Topology :=
  if (t.database? name).isSome then
    .ok { t with databases := t.databases.filter (·.name != name) }
  else .error (.databaseNotFound name)

def updateDatabase (t : Topology) (name : String) (f : Database → Database) : Topology :=
  { t with databases := updateFirst (·.name == name) f t.databases }

def createPolicy (t : Topology) (database : String) (spec : PolicySpec) (makeDefault : Bool) :
    Except Error Topology := do
  if spec.name.isEmpty then throw (.refused .policyNameRequired)
  let p ← RetentionPolicy.ofSpec spec
  let d ← t.getDatabase database
  let existing := d.policies.find? (·.name == spec.name)
  if existing.any fun q => !q.fits spec then throw (.policyConflict spec.name)
  return t.updateDatabase database fun d => { d with
    policies := if existing.isSome then d.policies else d.policies ++ [p]
    defaultPolicy := if makeDefault then spec.name else d.defaultPolicy }

def dropPolicy (t : Topology) (database name : String) : Except Error Topology := do
  let d ← t.getDatabase database
  if d.policies.any (·.name == name) then
    return t.updateDatabase database fun d => { d with
      policies := d.policies.filter (·.name != name)
      defaultPolicy := if d.defaultPolicy = name then "" else d.defaultPolicy }
  else throw (.policyNotFound name)

def setDefaultPolicy (t : Topology) (database name : String) : Except Error Topology := do
  let d ← t.getDatabase database
  if d.policies.any (·.name == name) then
    return t.updateDatabase database fun d => { d with defaultPolicy := name }
  else throw (.policyNotFound name)

def updatePolicy (t : Topology) (database name : String)
    (f : List ShardGroup → List ShardGroup) : Topology :=
  t.updateDatabase database fun d => { d with
    policies := updateFirst (·.name == d.resolve name)
      (fun p => { p with shardGroups := f p.shardGroups }) d.policies }

/-- The nodes that hold each shard of a new group: `replicas` nodes for a shard, taken round robin
from position `start` on. -/
def ownersRoundRobin (nodes : List UInt64) (start replicas shard : Nat) : List ShardOwner :=
  (List.range replicas).map fun i =>
    ⟨nodes.getD ((start + shard * replicas + i) % nodes.length) 0⟩

def newShards (nodes : List UInt64) (start replicas : Nat) (firstId : UInt64) : List ShardInfo :=
  (List.range (nodes.length / replicas)).map fun j =>
    ⟨firstId + UInt64.ofNat j, ownersRoundRobin nodes start replicas j⟩

def createShardGroup (t : Topology) (database policy : String) (timestamp : Int64) :
    Except Error Topology := do
  let nodes := t.dataNodes.map (·.id)
  if nodes.isEmpty then throw (.refused .noDataNodes)
  let p ← t.policy database policy
  if (p.groupAt? timestamp).isSome then return t
  let replicas := max 1 (min p.replicaCount.toNat nodes.length)
  match RetentionPolicy.interval? p.span timestamp with
  | none => throw (.refused (.noInterval timestamp p.span))
  | some (start, stop) =>
    let shards := newShards nodes t.index.toNat replicas (t.maxShardId + 1)
    let group : ShardGroup := ⟨t.maxShardGroupId + 1, start, stop, none, shards⟩
    let t := t.updatePolicy database p.name fun groups =>
      (groups ++ [group]).mergeSort fun a b => a.startTime ≤ b.startTime
    return { t with
      maxShardGroupId := t.maxShardGroupId + 1
      maxShardId := t.maxShardId + UInt64.ofNat shards.length }

def deleteShardGroup (t : Topology) (database policy : String) (id : UInt64) (deletedAt : Int64) :
    Except Error Topology := do
  let p ← t.policy database policy
  if p.shardGroups.any (·.id == id) then
    return t.updatePolicy database policy
      (updateFirst (·.id == id) fun g => { g with deletedAt := some deletedAt })
  else throw (.refused (.shardGroupNotFound id))

def holds (id : UInt64) (g : ShardGroup) : Bool := g.shards.any (·.id == id)

def dropShard (t : Topology) (id : UInt64) : Except Error Topology :=
  let inPolicy (p : RetentionPolicy) : Bool := p.shardGroups.any (holds id)
  let inDatabase (d : Database) : Bool := d.policies.any inPolicy
  if t.databases.any inDatabase then
    .ok { t with
      databases := updateFirst inDatabase (fun d => { d with
        policies := updateFirst inPolicy (fun p => { p with
          shardGroups := updateFirst (holds id) (fun g =>
            { g with shards := g.shards.filter (·.id != id) }) p.shardGroups }) d.policies })
        t.databases }
  else .error (.shardNotFound id)

def perform (t : Topology) : Command → Except Error Topology
  | .createMetaNode host tcpHost => t.createMetaNode host tcpHost
  | .setMetaNode host tcpHost => t.setMetaNode host tcpHost
  | .deleteMetaNode id => t.deleteMetaNode id
  | .createDataNode host tcpHost => t.createDataNode host tcpHost
  | .deleteDataNode id => t.deleteDataNode id
  | .createDatabase name policy => t.createDatabase name policy
  | .dropDatabase name => t.dropDatabase name
  | .createPolicy database policy makeDefault => t.createPolicy database policy makeDefault
  | .dropPolicy database name => t.dropPolicy database name
  | .setDefaultPolicy database name => t.setDefaultPolicy database name
  | .createShardGroup database policy timestamp => t.createShardGroup database policy timestamp
  | .deleteShardGroup database policy id deletedAt =>
    t.deleteShardGroup database policy id deletedAt
  | .dropShard id => t.dropShard id

def apply (t : Topology) (c : Command) : Except Error Topology := do
  let t ← t.perform c
  return { t with index := t.index + 1 }

def applyAll (t : Topology) (commands : List Command) : Topology :=
  commands.foldl (fun t c => (t.apply c).toOption.getD t) t

inductive Reachable : Topology → Prop
  | empty : Reachable {}
  | step {t t' : Topology} {c : Command} (prior : Reachable t) (applied : t.apply c = .ok t') :
    Reachable t'

end Topology

end SeriesCluster
