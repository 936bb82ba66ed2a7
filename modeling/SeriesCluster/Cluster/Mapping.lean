import SeriesCluster.Cluster.Routing
import SeriesCluster.Config
import SeriesCluster.Series.Query
import SeriesCluster.Store.Engine

namespace SeriesCluster

structure SourceMapping where
  routing : Routing := {}
  shards : List ShardInfo := []
  deriving DecidableEq, Repr, Inhabited

namespace SourceMapping

def hasLocal (s : SourceMapping) : Bool := !s.routing.here.isEmpty

def remoteNodes (s : SourceMapping) : List UInt64 := s.routing.nodes

end SourceMapping

structure ShardMapping where
  nodeId : UInt64
  minTime : Option Int64
  maxTime : Option Int64
  sources : SortedMap Source SourceMapping := ∅
  closed : Bool := false
  deriving DecidableEq, Repr

namespace ShardMapping

def close (m : ShardMapping) : ShardMapping := { m with sources := ∅, closed := true }

def summary (m : ShardMapping) : String :=
  let time (t : Option Int64) : String :=
    match t with
    | some t => "Some(" ++ toString t ++ ")"
    | none => "None"
  "ShardMapping \x7b node_id: " ++ toString m.nodeId ++ ", min_time: " ++ time m.minTime
    ++ ", max_time: " ++ time m.maxTime ++ ", closed: " ++ toString m.closed ++ ", .. \x7d"

end ShardMapping

structure Mapper where
  nodeId : UInt64
  minTime : Option Int64 := none
  maxTime : Option Int64 := none
  policy : ReconcilePolicy := .warn
  deriving DecidableEq, Repr

abbrev GroupLookup := Source → Except Error (List ShardGroup)

namespace Mapper

/-- Creates shards in order. By the policy a failure stops it or does nothing. -/
def createMissing (policy : ReconcilePolicy) (source : Source) :
    List UInt64 → ShardEngine → Except Error Unit × ShardEngine
  | [], e => (.ok (), e)
  | id :: rest, e =>
    match e.createShard source id with
    | .ok e => createMissing policy source rest e
    | .error cause =>
      match policy with
      | .fail => (.error (.creatingShard id cause), e)
      | .ignore | .warn => createMissing policy source rest e

def reconcile (policy : ReconcilePolicy) (source : Source) (ids : List UInt64) (e : ShardEngine) :
    Except Error Unit × ShardEngine :=
  createMissing policy source (ids.filter fun id => !(e.store.present ids).contains id) e

/-- A mapping in the making: the sources looked up so far, in order, the node's shards, and how many
picks have been taken. -/
structure State where
  sources : SortedMap Source SourceMapping := ∅
  lookups : List Source := []
  engine : ShardEngine
  used : Nat := 0
  deriving DecidableEq, Repr

def mapGroups (m : Mapper) (picks : Picks) (source : Source) (groups : List ShardGroup)
    (s : State) : Except Error Unit × State :=
  let shards := (groups.flatMap (·.shards)).filter fun shard => !shard.owners.isEmpty
  let (routing, used) := Routing.extend m.nodeId picks shards {} s.used
  let (reconciled, engine) := reconcile m.policy source routing.here s.engine
  match reconciled with
  | .error e => (.error e, { s with engine := engine, used := used })
  | .ok _ =>
    (.ok (), { s with
      sources := s.sources.insert source ⟨routing, shards⟩
      engine := engine
      used := used })

def mapSource (m : Mapper) (lookup : GroupLookup) (picks : Picks) (source : Source) (s : State) :
    Except Error Unit × State :=
  if s.sources.contains source then (.ok (), s)
  else
    let s := { s with lookups := s.lookups ++ [source] }
    match lookup source with
    | .error e => (.error e, s)
    | .ok groups => m.mapGroups picks source groups s

def mapMeasurements (m : Mapper) (lookup : GroupLookup) (picks : Picks) :
    List Measurement → State → Except Error Unit × State
  | [], s => (.ok (), s)
  | q :: rest, s =>
    match m.mapSource lookup picks q.source s with
    | (.error e, s) => (.error e, s)
    | (.ok _, s) => mapMeasurements m lookup picks rest s

def mapShards (m : Mapper) (lookup : GroupLookup) (picks : Picks) (sources : List QuerySource)
    (engine : ShardEngine) : Except Error ShardMapping × State :=
  let (result, s) := m.mapMeasurements lookup picks (QuerySource.allMeasurements sources)
    { engine := engine }
  (result.map fun _ => {
    nodeId := m.nodeId
    minTime := m.minTime
    maxTime := m.maxTime
    sources := s.sources }, s)

end Mapper

end SeriesCluster
