import SeriesCluster.Cluster.Mapping
import SeriesCluster.Cluster.Network

namespace SeriesCluster.ShardMapping

def namesIn (g : ShardSelection) (q : Measurement) : Except Error (List String) := do
  match ← q.compiled? with
  | some p => return g.measurementsMatching p
  | none => return [q.name]

def localShards? (m : ShardMapping) (store : ShardStore) (source : Source) :
    Option ShardSelection :=
  match m.sources.find? source with
  | some s => if s.hasLocal then some ⟨store, s.routing.here⟩ else none
  | none => none

def fieldDimensions (m : ShardMapping) (store : ShardStore) (d : Dialer) (q : Measurement) :
    Except Error FieldDimensions := do
  match m.sources.find? q.source with
  | none => return {}
  | some s =>
    let here ← match m.localShards? store q.source with
      | some g => do pure (FieldDimensions.merge {} (g.fieldDimensions (← namesIn g q)))
      | none => pure {}
    let found ← s.routing.elsewhere.toList.mapM fun (node, ids) => d.fieldDimensions node ids q
    return found.foldl FieldDimensions.merge here

def mapType (m : ShardMapping) (store : ShardStore) (q : Measurement) (name : String) : DataType :=
  match m.localShards? store q.source with
  | none => .unknown
  | some g =>
    match namesIn g q with
    | .error _ => .unknown
    | .ok names =>
      names.foldl (fun t n => t.wider (g.mapType (q.systemIterator.getD n) name)) .unknown

def readCost (m : ShardMapping) (store : ShardStore) (q : Measurement) (opt : ReadOptions) :
    Except Error ReadCost := do
  let opt := opt.clamp m.minTime m.maxTime
  match m.localShards? store q.source with
  | none => return {}
  | some g =>
    return (← namesIn g q).foldl (fun cost n => cost.combine (g.readCost n opt)) {}

/-- Where a read goes: to one node alone if the options name it. -/
def routingFor (m : ShardMapping) (s : SourceMapping) (opt : ReadOptions) : Routing :=
  match opt.nodeId with
  | some node => Routing.pinned m.nodeId node s.shards
  | none => s.routing

def read (m : ShardMapping) (store : ShardStore) (d : Dialer) (cancelled : Bool) (q : Measurement)
    (opt : ReadOptions) : Except Error PointStream := do
  let opt := opt.clamp m.minTime m.maxTime
  match m.sources.find? q.source with
  | none => return .merge opt.ascending []
  | some s =>
    let routing := m.routingFor s opt
    let here ←
      if routing.here.isEmpty then pure []
      else do
        let g : ShardSelection := ⟨store, routing.here⟩
        (← namesIn g q).mapM fun n => g.read cancelled n opt
    let elsewhere := routing.elsewhere.toList.filterMap fun (node, ids) =>
      (d.read node ids cancelled q opt).toOption
    return .merge opt.ascending (here ++ elsewhere)

end SeriesCluster.ShardMapping
