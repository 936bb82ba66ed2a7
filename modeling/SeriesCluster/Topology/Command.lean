import SeriesCluster.Topology.Basic

namespace SeriesCluster

open Json

structure PolicySpec where
  name : String
  duration : Option Duration := none
  shardGroupDuration : Option Duration := none
  replicaCount : Option UInt64 := none
  deriving DecidableEq, Repr

namespace PolicySpec

def decodeCount : Value → Except Fault (Option UInt64)
  | .null => .ok none
  | v => (decodeNat (UInt64.size - 1) "usize" v).map fun n => some (UInt64.ofNat n)

instance : Codec PolicySpec where
  encode s := .object [("name", encode s.name), ("duration", encode s.duration),
    ("shard_group_duration", encode s.shardGroupDuration), ("replica_n", encode s.replicaCount)]
  decode := decodeRecord "RetentionPolicySpec"
    [field String "name", field (Option Duration) "duration",
      field (Option Duration) "shard_group_duration", fieldBy decodeCount "replica_n"] fun ms => do
    return {
      name := ← ms.get "name"
      duration := ← ms.get "duration"
      shardGroupDuration := ← ms.get "shard_group_duration"
      replicaCount := ← ms.getBy "replica_n" decodeCount (some none) }

end PolicySpec

inductive Command
  | createMetaNode (host tcpHost : String)
  | setMetaNode (host tcpHost : String)
  | deleteMetaNode (id : UInt64)
  | createDataNode (host tcpHost : String)
  | deleteDataNode (id : UInt64)
  | createDatabase (name : String) (policy : Option PolicySpec)
  | dropDatabase (name : String)
  | createPolicy (database : String) (policy : PolicySpec) (makeDefault : Bool)
  | dropPolicy (database name : String)
  | setDefaultPolicy (database name : String)
  | createShardGroup (database policy : String) (timestamp : Int64)
  | deleteShardGroup (database policy : String) (id : UInt64) (deletedAt : Int64)
  | dropShard (id : UInt64)
  deriving DecidableEq, Repr

namespace Command

def name : Command → String
  | createMetaNode .. => "create_meta_node"
  | setMetaNode .. => "set_meta_node"
  | deleteMetaNode .. => "delete_meta_node"
  | createDataNode .. => "create_data_node"
  | deleteDataNode .. => "delete_data_node"
  | createDatabase .. => "create_database"
  | dropDatabase .. => "drop_database"
  | createPolicy .. => "create_retention_policy"
  | dropPolicy .. => "drop_retention_policy"
  | setDefaultPolicy .. => "set_default_retention_policy"
  | createShardGroup .. => "create_shard_group"
  | deleteShardGroup .. => "delete_shard_group"
  | dropShard .. => "drop_shard"

def encodeArguments : Command → List (Name × Value)
  | createMetaNode host tcpHost => [("host", encode host), ("tcp_host", encode tcpHost)]
  | setMetaNode host tcpHost => [("host", encode host), ("tcp_host", encode tcpHost)]
  | deleteMetaNode id => [("id", encode id)]
  | createDataNode host tcpHost => [("host", encode host), ("tcp_host", encode tcpHost)]
  | deleteDataNode id => [("id", encode id)]
  | createDatabase name policy => [("name", encode name), ("retention_policy", encode policy)]
  | dropDatabase name => [("name", encode name)]
  | createPolicy database policy makeDefault =>
    [("database", encode database), ("policy", encode policy), ("make_default", encode makeDefault)]
  | dropPolicy database name => [("database", encode database), ("name", encode name)]
  | setDefaultPolicy database name => [("database", encode database), ("name", encode name)]
  | createShardGroup database policy timestamp =>
    [("database", encode database), ("policy", encode policy), ("timestamp", encode timestamp)]
  | deleteShardGroup database policy id deletedAt =>
    [("database", encode database), ("policy", encode policy), ("id", encode id),
      ("deleted_at", encode deletedAt)]
  | dropShard id => [("id", encode id)]

def encodeCommand (c : Command) : Value := .object (("type", .text c.name) :: c.encodeArguments)

structure Shape where
  title : String
  fields : List Field
  build : Members → Except Fault Command

def shape? : String → Option Shape
  | "create_meta_node" => some ⟨"CreateMetaNode", [field String "host", field String "tcp_host"],
      fun ms => do return createMetaNode (← ms.get "host") (← ms.get "tcp_host")⟩
  | "set_meta_node" => some ⟨"SetMetaNode", [field String "host", field String "tcp_host"],
      fun ms => do return setMetaNode (← ms.get "host") (← ms.get "tcp_host")⟩
  | "delete_meta_node" => some ⟨"DeleteMetaNode", [field UInt64 "id"],
      fun ms => do return deleteMetaNode (← ms.get "id")⟩
  | "create_data_node" => some ⟨"CreateDataNode", [field String "host", field String "tcp_host"],
      fun ms => do return createDataNode (← ms.get "host") (← ms.get "tcp_host")⟩
  | "delete_data_node" => some ⟨"DeleteDataNode", [field UInt64 "id"],
      fun ms => do return deleteDataNode (← ms.get "id")⟩
  | "create_database" => some ⟨"CreateDatabase",
      [field String "name", field (Option PolicySpec) "retention_policy"],
      fun ms => do return createDatabase (← ms.get "name") (← ms.get "retention_policy")⟩
  | "drop_database" => some ⟨"DropDatabase", [field String "name"],
      fun ms => do return dropDatabase (← ms.get "name")⟩
  | "create_retention_policy" => some ⟨"CreateRetentionPolicy",
      [field String "database", field PolicySpec "policy", field Bool "make_default"],
      fun ms => do
        return createPolicy (← ms.get "database") (← ms.get "policy") (← ms.get "make_default")⟩
  | "drop_retention_policy" => some ⟨"DropRetentionPolicy",
      [field String "database", field String "name"],
      fun ms => do return dropPolicy (← ms.get "database") (← ms.get "name")⟩
  | "set_default_retention_policy" => some ⟨"SetDefaultRetentionPolicy",
      [field String "database", field String "name"],
      fun ms => do return setDefaultPolicy (← ms.get "database") (← ms.get "name")⟩
  | "create_shard_group" => some ⟨"CreateShardGroup",
      [field String "database", field String "policy", field Int64 "timestamp"],
      fun ms => do
        return createShardGroup (← ms.get "database") (← ms.get "policy") (← ms.get "timestamp")⟩
  | "delete_shard_group" => some ⟨"DeleteShardGroup",
      [field String "database", field String "policy", field UInt64 "id",
        field Int64 "deleted_at"],
      fun ms => do
        return deleteShardGroup (← ms.get "database") (← ms.get "policy") (← ms.get "id")
          (← ms.get "deleted_at")⟩
  | "drop_shard" => some ⟨"DropShard", [field UInt64 "id"],
      fun ms => do return dropShard (← ms.get "id")⟩
  | _ => none

def decodeShape : Value → Except Fault Shape
  | .text s =>
    match shape? s with
    | some shape => .ok shape
    | none => .error (.misfit none)
  | .unreadable | .cut => .error .malformed
  | _ => .error (.misfit none)

def takeName : Option Shape → List (Name × Value) → List (Name × Value) →
    Except Fault (Shape × List (Name × Value))
  | some shape, arguments, [] => .ok (shape, arguments.reverse)
  | none, _, [] => .error (.misfit none)
  | found, arguments, (name, v) :: rest => do
    if (← name.read) = "type" then
      if found.isSome then throw (.misfit none)
      takeName (some (← decodeShape v)) arguments rest
    else if v.isReadable then takeName found ((name, v) :: arguments) rest
    else .error .malformed

def decodeArguments (shape : Shape) (v : Value) : Except Fault Command := do
  let title := "struct variant Command::" ++ shape.title
  let counted := countedFields title shape.fields.length
  shape.build (← checkRecord title counted shape.fields .ignored v)

/-- Reads a command. All of its text is read before its arguments are looked at, so a misfit among
them is reported by its reason and not by a place. -/
def decodeCommand : Value → Except Fault Command
  | .object members => do
    let (shape, arguments) ← takeName none [] members
    (decodeArguments shape (.object arguments)).mapError Fault.counted
  | .array (v :: rest) => do
    let shape ← decodeShape v
    if !Value.allReadable rest then throw .malformed
    (decodeArguments shape (.array rest)).mapError Fault.counted
  | .unreadable | .cut => .error .malformed
  | _ => .error (.misfit none)

instance : Codec Command where
  encode := encodeCommand
  decode := decodeCommand

end Command

/-- A command as it is proposed. The nonce tells apart proposals of equal commands. -/
structure Envelope where
  nonce : UInt64
  command : Command
  deriving DecidableEq, Repr

namespace Envelope

instance : Codec Envelope where
  encode e := .object [("nonce", encode e.nonce), ("command", encode e.command)]
  decode := decodeRecord "CommandEnvelope" [field UInt64 "nonce", field Command "command"]
    fun ms => do return { nonce := ← ms.get "nonce", command := ← ms.get "command" }

def toBytes (e : Envelope) : List UInt8 := Json.toBytes e

def ofBytes (bytes : List UInt8) : Except Fault Envelope := Json.ofBytes Envelope bytes

end Envelope

end SeriesCluster
