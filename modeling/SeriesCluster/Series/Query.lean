import SeriesCluster.Series.Point
import SeriesCluster.Time.Range

namespace SeriesCluster

open Json

structure Source where
  database : String
  retentionPolicy : String
  deriving DecidableEq, Repr, Inhabited

namespace Source

instance : Ord Source where
  compare a b :=
    (compare a.database b.database).then (compare a.retentionPolicy b.retentionPolicy)

instance : Std.TransOrd Source := by
  have h : Std.TransCmp
      (compareLex (compareOn Source.database) (compareOn Source.retentionPolicy)) := inferInstance
  exact h

instance : Std.LawfulEqOrd Source where
  eq_of_compare {a b} h := by
    have both := Ordering.then_eq_eq.mp h
    cases a; cases b
    simp_all

end Source

structure Measurement where
  database : String
  retentionPolicy : String
  name : String := ""
  pattern : Option String := none
  systemIterator : Option String := none
  deriving DecidableEq, Repr

namespace Measurement

def source (m : Measurement) : Source := ⟨m.database, m.retentionPolicy⟩

def withName (m : Measurement) (name : String) : Measurement :=
  { m with name := name, pattern := none }

instance : Codec Measurement where
  encode m := .object [("database", encode m.database),
    ("retention_policy", encode m.retentionPolicy), ("name", encode m.name),
    ("regex", encode m.pattern), ("system_iterator", encode m.systemIterator)]
  decode := decodeRecord "Measurement"
    [field String "database", field String "retention_policy", field String "name",
      field (Option String) "regex", field (Option String) "system_iterator"] fun ms => do
    return {
      database := ← ms.get "database"
      retentionPolicy := ← ms.get "retention_policy"
      name := ← ms.get "name"
      pattern := ← ms.get "regex"
      systemIterator := ← ms.get "system_iterator" }

end Measurement

inductive QuerySource
  | measurement (m : Measurement)
  | subquery (sources : List QuerySource)
  deriving Repr

namespace QuerySource

mutual

def measurements : QuerySource → List Measurement
  | measurement m => [m]
  | subquery sources => allMeasurements sources

def allMeasurements : List QuerySource → List Measurement
  | [] => []
  | s :: rest => s.measurements ++ allMeasurements rest

end

mutual

def encodeSource : QuerySource → Value
  | measurement m => .object [("Measurement", encode m)]
  | subquery sources => .object [("SubQuery", .array (encodeSources sources))]

def encodeSources : List QuerySource → List Value
  | [] => []
  | s :: rest => encodeSource s :: encodeSources rest

end

mutual

def decodeSource : Value → Except Fault QuerySource
  | .object ((name, v) :: rest) => do
    let name ← name.read
    let s ← Except.mapError Fault.located <|
      if name = "Measurement" then (decode v : Except Fault Measurement).map measurement
      else if name = "SubQuery" then
        match v with
        | .array vs => (decodeSources vs).map subquery
        | v => wrongType v "a sequence"
      else .error (.misfit none)
    if rest.isEmpty then pure s else throw .malformed
  | .text "Measurement" | .text "SubQuery" =>
    misfit "invalid type: unit variant, expected newtype variant"
  | .text _ => .error (.misfit none)
  | _ => .error .malformed

def decodeSources : List Value → Except Fault (List QuerySource)
  | [] => .ok []
  | v :: rest => do
    let s ← decodeSource v
    return s :: (← decodeSources rest)

end

instance : Codec QuerySource where
  encode := encodeSource
  decode := decodeSource

end QuerySource

/-- What a read selects: a range of times, an order, a projection onto fields, a node to read from,
and the greatest number of points of a series. No fields means all, and a limit of 0 none. -/
structure ReadOptions where
  startTime : Int64 := Int64.minValue
  endTime : Int64 := Int64.maxValue
  ascending : Bool := true
  fields : List String := []
  nodeId : Option UInt64 := none
  limit : UInt64 := 0
  deriving DecidableEq, Repr

namespace ReadOptions

def range (start stop : Int64) : ReadOptions := { startTime := start, endTime := stop }

def timeRange (opt : ReadOptions) : TimeRange := ⟨opt.startTime, opt.endTime⟩

def isInverted (opt : ReadOptions) : Bool := opt.endTime < opt.startTime

def clamp (opt : ReadOptions) (min max : Option Int64) : ReadOptions :=
  let start := match min with
    | some min => if opt.startTime < min then min else opt.startTime
    | none => opt.startTime
  let stop := match max with
    | some max => if max < opt.endTime then max else opt.endTime
    | none => opt.endTime
  { opt with startTime := start, endTime := stop }

def decodeCount (v : Value) : Except Fault UInt64 :=
  (decodeNat (UInt64.size - 1) "usize" v).map UInt64.ofNat

instance : Codec ReadOptions where
  encode o := .object [("start_time", encode o.startTime), ("end_time", encode o.endTime),
    ("ascending", encode o.ascending), ("fields", encode o.fields), ("node_id", encode o.nodeId),
    ("limit", encode o.limit)]
  decode := decodeRecord "IteratorOptions"
    [field Int64 "start_time", field Int64 "end_time", field Bool "ascending",
      field (List String) "fields", field (Option UInt64) "node_id",
      fieldBy decodeCount "limit"] fun ms => do
    return {
      startTime := ← ms.get "start_time"
      endTime := ← ms.get "end_time"
      ascending := ← ms.get "ascending"
      fields := ← ms.get "fields"
      nodeId := ← ms.get "node_id"
      limit := ← ms.getBy "limit" decodeCount none }

end ReadOptions

structure ReadCost where
  numShards : Int64 := 0
  numSeries : Int64 := 0
  cachedValues : Int64 := 0
  numFiles : Int64 := 0
  blocksRead : Int64 := 0
  blockSize : Int64 := 0
  deriving DecidableEq, Repr, Inhabited

namespace ReadCost

def combine (a b : ReadCost) : ReadCost where
  numShards := a.numShards + b.numShards
  numSeries := a.numSeries + b.numSeries
  cachedValues := a.cachedValues + b.cachedValues
  numFiles := a.numFiles + b.numFiles
  blocksRead := a.blocksRead + b.blocksRead
  blockSize := a.blockSize + b.blockSize

instance : Codec ReadCost where
  encode c := .object [("num_shards", encode c.numShards), ("num_series", encode c.numSeries),
    ("cached_values", encode c.cachedValues), ("num_files", encode c.numFiles),
    ("blocks_read", encode c.blocksRead), ("block_size", encode c.blockSize)]
  decode := decodeRecord "IteratorCost"
    (["num_shards", "num_series", "cached_values", "num_files", "blocks_read", "block_size"].map
      (field Int64)) fun ms => do
    return {
      numShards := ← ms.get "num_shards"
      numSeries := ← ms.get "num_series"
      cachedValues := ← ms.get "cached_values"
      numFiles := ← ms.get "num_files"
      blocksRead := ← ms.get "blocks_read"
      blockSize := ← ms.get "block_size" }

end ReadCost

structure ReadStats where
  seriesCount : Int64 := 0
  pointCount : Int64 := 0
  deriving DecidableEq, Repr, Inhabited

namespace ReadStats

def add (a b : ReadStats) : ReadStats :=
  ⟨a.seriesCount + b.seriesCount, a.pointCount + b.pointCount⟩

theorem add_assoc (a b c : ReadStats) : (a.add b).add c = a.add (b.add c) := by
  simp only [add, Int64.add_assoc]

theorem zero_add (a : ReadStats) : ({} : ReadStats).add a = a := by
  simp only [add, Int64.zero_add]

theorem add_zero (a : ReadStats) : a.add {} = a := by
  simp only [add, Int64.add_zero]

def sum (all : List ReadStats) : ReadStats := all.foldl add {}

instance : Codec ReadStats where
  encode s := .object [("series_n", encode s.seriesCount), ("point_n", encode s.pointCount)]
  decode := decodeRecord "IteratorStats" [field Int64 "series_n", field Int64 "point_n"] fun ms =>
    return { seriesCount := ← ms.get "series_n", pointCount := ← ms.get "point_n" }

end ReadStats

structure FieldDimensions where
  fields : SortedMap String DataType := ∅
  dimensions : SortedSet String := ∅
  deriving DecidableEq, Repr, Inhabited

namespace FieldDimensions

def addField (d : FieldDimensions) (name : String) (type : DataType) : FieldDimensions :=
  { d with fields := d.fields.alter name fun old => (old.getD .unknown).wider type }

def merge (a b : FieldDimensions) : FieldDimensions :=
  let fields := b.fields.toList.foldl (fun d (name, type) => d.addField name type) a
  { fields with dimensions := SortedSet.union a.dimensions b.dimensions }

instance : Codec FieldDimensions where
  encode d := .object [("fields", encode d.fields), ("dimensions", encode d.dimensions)]
  decode := decodeRecord "FieldDimensions"
    [field (SortedMap String DataType) "fields", field (SortedSet String) "dimensions"] fun ms => do
    return { fields := ← ms.get "fields", dimensions := ← ms.get "dimensions" }

end FieldDimensions

end SeriesCluster
