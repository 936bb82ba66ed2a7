import SeriesCluster.Cluster.Mapping
import SeriesCluster.Net.Message
import SeriesCluster.Stream.Basic
import SeriesCluster.Topology.Lookup

namespace SeriesCluster

structure DataNode where
  engine : ShardEngine
  locate : UInt64 → Except Error (Option ShardLocation)

namespace DataNode

/-- Writes points to a shard. A shard that is not there is created first, under the names by which
the topology places it. -/
def writeShard (n : DataNode) (id : UInt64) (points : List Point) :
    Except Error Unit × ShardEngine :=
  match n.engine.write id points with
  | .ok e => (.ok (), e)
  | .error (.shardNotFound _) =>
    match n.locate id with
    | .error cause => (.error cause, n.engine)
    | .ok none => (.error (.writingShard id (.shardNotFound id)), n.engine)
    | .ok (some place) =>
      match n.engine.createShard ⟨place.database, place.retentionPolicy⟩ id with
      | .error cause => (.error (.writingShard id cause), n.engine)
      | .ok e =>
        match e.write id points with
        | .ok e => (.ok (), e)
        | .error cause => (.error (.writingShard id cause), e)
  | .error cause => (.error (.writingShard id cause), n.engine)

def writeResponse : Except Error Unit → WriteResponse
  | .ok _ => .stored
  | .error cause => .failed cause.message

def targets (g : ShardSelection) (m : Measurement) : Except Error (List Measurement) := do
  match ← m.compiled? with
  | some p => return (g.measurementsMatching p).map m.withName
  | none => return [m]

def askedType (g : ShardSelection) (targets : List Measurement) (fields : List String) : DataType :=
  (targets.flatMap fun t => fields.map (g.mapType t.name)).foldl DataType.wider .unknown

def openRead (n : DataNode) (r : ReadRequest) : Except Error (DataType × PointStream) := do
  let g := n.engine.select r.shardIds
  let targets ← targets g r.measurement
  let streams ← targets.mapM fun t => g.read false t.name r.options
  return (askedType g targets r.options.fields, .merge r.options.ascending streams)

def pullAll : Nat → PointStream → List Point × Option Error × PointStream
  | 0, s => ([], none, s)
  | limit + 1, s =>
    match s.next with
    | (.ok (some p), s) =>
      let (points, fault, s) := pullAll limit s
      (p :: points, fault, s)
    | (.ok none, s) => ([], none, s)
    | (.error e, s) => ([], some e, s)

def streamFrames (s : PointStream) : List Frame :=
  let (points, fault, s) := pullAll (s.pending + 1) s
  let (closed, s) := s.close
  let fault := match fault, closed with
    | some e, _ => some e.message
    | none, .error e => some e.message
    | none, .ok _ => none
  points.map (.carrying FrameType.point) ++
    [.carrying FrameType.readEnd ({ stats := s.stats, error := fault } : ReadEnd)]

def readFrames (n : DataNode) (r : ReadRequest) : List Frame :=
  match n.openRead r with
  | .error e =>
    [.carrying FrameType.readResponse
      ({ dataType := .unknown, stats := {}, error := some e.message } : ReadResponse)]
  | .ok (type, s) =>
    .carrying FrameType.readResponse
      ({ dataType := type, stats := s.stats, error := none } : ReadResponse) :: streamFrames s

def fieldDimensions (n : DataNode) (r : DimensionsRequest) : Except Error FieldDimensions := do
  let g := n.engine.select r.shardIds
  return g.fieldDimensions ((← targets g r.measurement).map (·.name))

def dimensionsResponse (n : DataNode) (r : DimensionsRequest) : DimensionsResponse :=
  match n.fieldDimensions r with
  | .ok d => ⟨d, none⟩
  | .error e => ⟨{}, some e.message⟩

structure Served where
  frames : List Frame
  goesOn : Bool
  engine : ShardEngine

def closes (n : DataNode) (frames : List Frame) : Served := ⟨frames, false, n.engine⟩

/-- Serves one frame. A frame of another type, or one that cannot be read, closes the connection. -/
def serveFrame (n : DataNode) (f : Frame) : Served :=
  if f.type = FrameType.writeRequest then
    match Frame.decodePayload WriteRequest f.payload with
    | .error _ => n.closes []
    | .ok r =>
      let (result, e) := n.writeShard r.shardId r.points
      ⟨[.carrying FrameType.writeResponse (writeResponse result)], true, e⟩
  else if f.type = FrameType.readRequest then
    match Frame.decodePayload ReadRequest f.payload with
    | .error _ => n.closes []
    | .ok r => n.closes (n.readFrames r)
  else if f.type = FrameType.dimensionsRequest then
    match Frame.decodePayload DimensionsRequest f.payload with
    | .error _ => n.closes []
    | .ok r => n.closes [.carrying FrameType.dimensionsResponse (n.dimensionsResponse r)]
  else n.closes []

def serveFrames (n : DataNode) : List Frame → List Frame × ShardEngine
  | [] => ([], n.engine)
  | f :: rest =>
    let served := n.serveFrame f
    if served.goesOn then
      let (frames, e) := serveFrames { n with engine := served.engine } rest
      (served.frames ++ frames, e)
    else (served.frames, served.engine)

def serve (n : DataNode) (received : List UInt8) : List UInt8 × ShardEngine :=
  let (frames, e) := n.serveFrames (Frame.readAll received).1
  (frames.flatMap Frame.bytes, e)

end DataNode

end SeriesCluster
