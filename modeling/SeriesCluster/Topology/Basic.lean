import SeriesCluster.Time.Duration
import SeriesCluster.Time.Range

namespace SeriesCluster

open Json

/-- A node. `host` serves the group that keeps the topology, `tcpHost` the cluster. -/
structure NodeInfo where
  id : UInt64
  host : String
  tcpHost : String
  isMeta : Bool
  deriving DecidableEq, Repr

instance : Codec NodeInfo where
  encode n := .object [("id", encode n.id), ("host", encode n.host),
    ("tcp_host", encode n.tcpHost), ("is_meta", encode n.isMeta)]
  decode := decodeRecord "NodeInfo"
    [field UInt64 "id", field String "host", field String "tcp_host", field Bool "is_meta"]
    fun ms => do
      return {
        id := ← ms.get "id"
        host := ← ms.get "host"
        tcpHost := ← ms.get "tcp_host"
        isMeta := ← ms.get "is_meta" }

structure ShardOwner where
  nodeId : UInt64
  deriving DecidableEq, Repr

instance : Codec ShardOwner where
  encode o := .object [("node_id", encode o.nodeId)]
  decode := decodeRecord "ShardOwner" [field UInt64 "node_id"] fun ms => do
    return { nodeId := ← ms.get "node_id" }

structure ShardInfo where
  id : UInt64
  owners : List ShardOwner
  deriving DecidableEq, Repr

namespace ShardInfo

def ownerIds (s : ShardInfo) : List UInt64 := s.owners.map (·.nodeId)

def ownedBy (s : ShardInfo) (node : UInt64) : Bool := s.ownerIds.contains node

instance : Codec ShardInfo where
  encode s := .object [("id", encode s.id), ("owners", encode s.owners)]
  decode := decodeRecord "ShardInfo" [field UInt64 "id", field (List ShardOwner) "owners"]
    fun ms => do return { id := ← ms.get "id", owners := ← ms.get "owners" }

end ShardInfo

structure ShardGroup where
  id : UInt64
  startTime : Int64
  endTime : Int64
  deletedAt : Option Int64
  shards : List ShardInfo
  deriving DecidableEq, Repr

namespace ShardGroup

def isDeleted (g : ShardGroup) : Bool := g.deletedAt.isSome

def contains (g : ShardGroup) (t : Int64) : Bool := g.startTime ≤ t && t < g.endTime

def overlaps (g : ShardGroup) (r : TimeRange) : Bool := g.startTime ≤ r.stop && r.start < g.endTime

def shardIds (g : ShardGroup) : List UInt64 := g.shards.map (·.id)

instance : Codec ShardGroup where
  encode g := .object [("id", encode g.id), ("start_time", encode g.startTime),
    ("end_time", encode g.endTime), ("deleted_at", encode g.deletedAt),
    ("shards", encode g.shards)]
  decode := decodeRecord "ShardGroupInfo"
    [field UInt64 "id", field Int64 "start_time", field Int64 "end_time",
      field (Option Int64) "deleted_at", field (List ShardInfo) "shards"] fun ms => do
    return {
      id := ← ms.get "id"
      startTime := ← ms.get "start_time"
      endTime := ← ms.get "end_time"
      deletedAt := ← ms.get "deleted_at"
      shards := ← ms.get "shards" }

end ShardGroup

structure RetentionPolicy where
  name : String
  duration : Duration
  shardGroupDuration : Duration
  replicaCount : UInt64
  shardGroups : List ShardGroup
  deriving DecidableEq, Repr

namespace RetentionPolicy

def shardGroupDurationFor (retention : Duration) : Duration :=
  if retention.isZero ∨ Duration.ofSeconds (180 * 86400) ≤ retention then .week
  else if Duration.ofSeconds (2 * 86400) ≤ retention then .day
  else .hour

def groupAt? (p : RetentionPolicy) (t : Int64) : Option ShardGroup :=
  p.shardGroups.find? fun g => !g.isDeleted && g.contains t

instance : Codec RetentionPolicy where
  encode p := .object [("name", encode p.name), ("duration", encode p.duration),
    ("shard_group_duration", encode p.shardGroupDuration), ("replica_n", encode p.replicaCount),
    ("shard_groups", encode p.shardGroups)]
  decode := decodeRecord "RetentionPolicyInfo"
    [field String "name", field Duration "duration", field Duration "shard_group_duration",
      field UInt64 "replica_n", field (List ShardGroup) "shard_groups"] fun ms => do
    return {
      name := ← ms.get "name"
      duration := ← ms.get "duration"
      shardGroupDuration := ← ms.get "shard_group_duration"
      replicaCount := ← ms.get "replica_n"
      shardGroups := ← ms.get "shard_groups" }

end RetentionPolicy

/-- A database. No default policy is an empty name. -/
structure Database where
  name : String
  defaultPolicy : String
  policies : List RetentionPolicy
  deriving DecidableEq, Repr

namespace Database

def resolve (d : Database) (name : String) : String :=
  if name.isEmpty then d.defaultPolicy else name

def policy? (d : Database) (name : String) : Option RetentionPolicy :=
  d.policies.find? (·.name == d.resolve name)

instance : Codec Database where
  encode d := .object [("name", encode d.name),
    ("default_retention_policy", encode d.defaultPolicy),
    ("retention_policies", encode d.policies)]
  decode := decodeRecord "DatabaseInfo"
    [field String "name", field String "default_retention_policy",
      field (List RetentionPolicy) "retention_policies"] fun ms => do
    return {
      name := ← ms.get "name"
      defaultPolicy := ← ms.get "default_retention_policy"
      policies := ← ms.get "retention_policies" }

end Database

structure ShardLocation where
  database : String
  retentionPolicy : String
  shardGroupId : UInt64
  shard : ShardInfo
  deriving DecidableEq, Repr

instance : Codec ShardLocation where
  encode l := .object [("database", encode l.database),
    ("retention_policy", encode l.retentionPolicy), ("shard_group_id", encode l.shardGroupId),
    ("shard", encode l.shard)]
  decode := decodeRecord "ShardLocation"
    [field String "database", field String "retention_policy", field UInt64 "shard_group_id",
      field ShardInfo "shard"] fun ms => do
    return {
      database := ← ms.get "database"
      retentionPolicy := ← ms.get "retention_policy"
      shardGroupId := ← ms.get "shard_group_id"
      shard := ← ms.get "shard" }

/-- The topology. `index` counts the commands that have been accepted; the greatest ids given so far
are kept, so that no id is given twice. -/
structure Topology where
  index : UInt64 := 0
  metaNodes : List NodeInfo := []
  dataNodes : List NodeInfo := []
  databases : List Database := []
  maxNodeId : UInt64 := 0
  maxShardGroupId : UInt64 := 0
  maxShardId : UInt64 := 0
  deriving DecidableEq, Repr, Inhabited

instance : Codec Topology where
  encode t := .object [("index", encode t.index), ("meta_nodes", encode t.metaNodes),
    ("data_nodes", encode t.dataNodes), ("databases", encode t.databases),
    ("max_node_id", encode t.maxNodeId), ("max_shard_group_id", encode t.maxShardGroupId),
    ("max_shard_id", encode t.maxShardId)]
  decode := decodeRecord "Data"
    [field UInt64 "index", field (List NodeInfo) "meta_nodes", field (List NodeInfo) "data_nodes",
      field (List Database) "databases", field UInt64 "max_node_id",
      field UInt64 "max_shard_group_id", field UInt64 "max_shard_id"] fun ms => do
    return {
      index := ← ms.get "index"
      metaNodes := ← ms.get "meta_nodes"
      dataNodes := ← ms.get "data_nodes"
      databases := ← ms.get "databases"
      maxNodeId := ← ms.get "max_node_id"
      maxShardGroupId := ← ms.get "max_shard_group_id"
      maxShardId := ← ms.get "max_shard_id" }

end SeriesCluster
