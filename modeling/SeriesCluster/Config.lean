import SeriesCluster.Error
import SeriesCluster.Json.Codec
import SeriesCluster.Text.Blank
import SeriesCluster.Time.DurationText

namespace SeriesCluster

/-- What is done when a shard that the topology places on this node cannot be created. -/
inductive ReconcilePolicy
  | ignore
  | warn
  | fail
  deriving DecidableEq, Repr

namespace ReconcilePolicy

def name : ReconcilePolicy → String
  | ignore => "ignore"
  | warn => "warn"
  | fail => "fail"

def ofText (s : String) : Except ConfigFault ReconcilePolicy :=
  match Text.lowerAscii (Text.trim s) with
  | "ignore" => .ok ignore
  | "warn" => .ok warn
  | "fail" => .ok fail
  | other => .error (.unknownReconcilePolicy other)

end ReconcilePolicy

structure GroupConfig where
  dir : Option String := none
  bindAddress : String := "127.0.0.1:8088"
  httpBindAddress : String := "127.0.0.1:8091"
  joinPeers : List String := []
  heartbeatInterval : Duration := .ofMillis 500
  electionTimeout : Duration := .ofMillis 1500
  applyTimeout : Duration := .ofSeconds 10
  commitRetryInterval : Duration := .ofMillis 100
  leaderWaitTimeout : Duration := .zero
  loggingEnabled : Bool := true
  deriving DecidableEq, Repr

structure CoordinatorConfig where
  shardWriterTimeout : Duration := .ofSeconds 5
  maxRemoteWriteConnections : UInt64 := 3
  poolWaitTimeout : Duration := .zero
  dialTimeout : Duration := .ofSeconds 3
  shardMapperMinTime : Option Int64 := none
  shardMapperMaxTime : Option Int64 := none
  reconcilePolicy : ReconcilePolicy := .warn
  deriving DecidableEq, Repr

structure Config where
  group : GroupConfig := {}
  coordinator : CoordinatorConfig := {}
  deriving DecidableEq, Repr

def parsePeers (s : String) : List String :=
  ((Text.splitAt ',' s).map Text.trim).filter (· ≠ "")

abbrev Environment := String → Option String

namespace Environment

def text? (env : Environment) (name : String) : Option String :=
  ((env name).map Text.trim).filter (· ≠ "")

def get {α : Type} (env : Environment) (name : String) (default : α)
    (read : String → Except ConfigFault α) : Except ConfigFault α :=
  match env.text? name with
  | none => .ok default
  | some s => read s

def string (env : Environment) (name : String) (default : String) : String :=
  (env.text? name).getD default

def duration (env : Environment) (name : String) (default : Duration) :
    Except ConfigFault Duration :=
  env.get name default fun s =>
    match Duration.ofText? s with
    | some d => .ok d
    | none => .error (.invalidDuration name s)

def bool (env : Environment) (name : String) (default : Bool) : Except ConfigFault Bool :=
  env.get name default fun s =>
    match Text.lowerAscii s with
    | "1" | "true" | "yes" | "on" => .ok true
    | "0" | "false" | "no" | "off" => .ok false
    | _ => .error (.notBoolean name s)

def integer {α : Type} (env : Environment) (name : String)
    (read : String → Except IntegerFault α) (default : α) : Except ConfigFault α :=
  env.get name default fun s => (read s).mapError (.invalidInteger name)

end Environment

namespace Config

def read (env : Environment) : Except ConfigFault Config := do
  let group : GroupConfig := {}
  let coordinator : CoordinatorConfig := {}
  let heartbeat ← env.duration "TIDEMARK_HEARTBEAT_INTERVAL" group.heartbeatInterval
  let election ← env.duration "TIDEMARK_ELECTION_TIMEOUT" group.electionTimeout
  let apply ← env.duration "TIDEMARK_APPLY_TIMEOUT" group.applyTimeout
  let leaderWait ← env.duration "TIDEMARK_LEADER_WAIT_TIMEOUT" group.leaderWaitTimeout
  let logging ← env.bool "TIDEMARK_META_LOGGING_ENABLED" group.loggingEnabled
  let write ← env.duration "TIDEMARK_SHARD_WRITER_TIMEOUT" coordinator.shardWriterTimeout
  let poolWait ← env.duration "TIDEMARK_POOL_WAIT_TIMEOUT" coordinator.poolWaitTimeout
  let dial ← env.duration "TIDEMARK_DIAL_TIMEOUT" coordinator.dialTimeout
  let connections ← env.integer "TIDEMARK_MAX_REMOTE_WRITE_CONNECTIONS" Text.readUInt64
    coordinator.maxRemoteWriteConnections
  let minTime ← env.integer "TIDEMARK_SHARD_MAPPER_MIN_TIME"
    (fun s => (Text.readInt64 s).map some) coordinator.shardMapperMinTime
  let maxTime ← env.integer "TIDEMARK_SHARD_MAPPER_MAX_TIME"
    (fun s => (Text.readInt64 s).map some) coordinator.shardMapperMaxTime
  let policy ← env.get "TIDEMARK_RECONCILE_POLICY" coordinator.reconcilePolicy
    ReconcilePolicy.ofText
  return {
    group := { group with
      dir := env.text? "TIDEMARK_META_DIR"
      bindAddress := env.string "TIDEMARK_BIND_ADDRESS" group.bindAddress
      httpBindAddress := env.string "TIDEMARK_HTTP_BIND_ADDRESS" group.httpBindAddress
      joinPeers := ((env.text? "TIDEMARK_JOIN").map parsePeers).getD group.joinPeers
      heartbeatInterval := heartbeat
      electionTimeout := election
      applyTimeout := apply
      leaderWaitTimeout := leaderWait
      loggingEnabled := logging }
    coordinator := {
      shardWriterTimeout := write
      maxRemoteWriteConnections := connections
      poolWaitTimeout := poolWait
      dialTimeout := dial
      shardMapperMinTime := minTime
      shardMapperMaxTime := maxTime
      reconcilePolicy := policy } }

def fault? (config : Config) : Option ConfigFault :=
  if config.coordinator.maxRemoteWriteConnections = 0 then some .noRemoteWriteConnections
  else
    match config.coordinator.shardMapperMinTime, config.coordinator.shardMapperMaxTime with
    | some min, some max =>
      if max < min then some (.mapperTimesReversed min max) else heartbeatFault?
    | _, _ => heartbeatFault?
where
  heartbeatFault? : Option ConfigFault :=
    if config.group.electionTimeout ≤ config.group.heartbeatInterval then some .heartbeatTooLong
    else none

def ofEnvironment (env : Environment) : Except Error Config := do
  let config ← (read env).mapError .config
  match config.fault? with
  | some fault => throw (.config fault)
  | none => return config

def described (config : Config) : Json.Value :=
  let g := config.group
  let c := config.coordinator
  .object [
    ("meta", .object [
      ("dir", Json.encode g.dir),
      ("bind_address", .text g.bindAddress),
      ("http_bind_address", .text g.httpBindAddress),
      ("join_peers", Json.encode g.joinPeers),
      ("heartbeat_interval", Json.encode g.heartbeatInterval),
      ("election_timeout", Json.encode g.electionTimeout),
      ("apply_timeout", Json.encode g.applyTimeout),
      ("commit_retry_interval", Json.encode g.commitRetryInterval),
      ("leader_wait_timeout", Json.encode g.leaderWaitTimeout),
      ("logging_enabled", .bool g.loggingEnabled)]),
    ("coordinator", .object [
      ("shard_writer_timeout", Json.encode c.shardWriterTimeout),
      ("max_remote_write_connections", Json.encode c.maxRemoteWriteConnections),
      ("pool_wait_timeout", Json.encode c.poolWaitTimeout),
      ("dial_timeout", Json.encode c.dialTimeout),
      ("shard_mapper_min_time", Json.encode c.shardMapperMinTime),
      ("shard_mapper_max_time", Json.encode c.shardMapperMaxTime),
      ("reconcile_policy", .text c.reconcilePolicy.name)])]

end Config

end SeriesCluster
