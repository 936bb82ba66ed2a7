import SeriesCluster.Error
import SeriesCluster.Series.Query

namespace SeriesCluster

abbrev SeriesPoints := SortedMap Int64 Point

abbrev MeasurementSeries := SortedMap String SeriesPoints

structure Shard where
  database : String
  retentionPolicy : String
  enabled : Bool
  measurements : SortedMap String MeasurementSeries := ∅
  deriving DecidableEq, Repr

namespace Shard

def writeFields (old new : SortedMap String FieldValue) : SortedMap String FieldValue :=
  new.toList.foldl (fun m (name, v) => m.insert name v) old

/-- Stores a point. The tags of a series' point are those of its first writer. -/
def store (s : Shard) (p : Point) : Shard :=
  let series := (s.measurements.find? p.name).getD ∅
  let points := (series.find? p.seriesKey).getD ∅
  let slot := (points.find? p.time).getD { p with fields := ∅ }
  let slot := { slot with fields := writeFields slot.fields p.fields }
  { s with
    measurements := s.measurements.insert p.name
      (series.insert p.seriesKey (points.insert p.time slot)) }

def seriesOf (s : Shard) (measurement : String) : List SeriesPoints :=
  ((s.measurements.find? measurement).getD ∅).values

def pointCount (s : Shard) : Nat :=
  (s.measurements.values.flatMap fun series => series.values.map (·.size)).foldl (· + ·) 0

end Shard

structure ShardStore where
  shards : SortedMap UInt64 Shard := ∅
  deriving DecidableEq, Repr, Inhabited

namespace ShardStore

def shardIds (s : ShardStore) : List UInt64 := s.shards.keys

def present (s : ShardStore) (ids : List UInt64) : List UInt64 := ids.filter s.shards.contains

def ownerOf? (s : ShardStore) (id : UInt64) : Option Source :=
  (s.shards.find? id).map fun shard => ⟨shard.database, shard.retentionPolicy⟩

def pointCount (s : ShardStore) (id : UInt64) : Nat :=
  ((s.shards.find? id).map Shard.pointCount).getD 0

def dropShard (s : ShardStore) (id : UInt64) : Bool × ShardStore :=
  (s.shards.contains id, { s with shards := s.shards.erase id })

/-- Creates a shard if it is not there, and lets it take writes or not. A shard that is there keeps
its policy. -/
def createShard (s : ShardStore) (owner : Source) (id : UInt64) (enabled : Bool) : ShardStore :=
  let shard := (s.shards.find? id).getD
    { database := owner.database, retentionPolicy := owner.retentionPolicy, enabled := enabled }
  { s with shards := s.shards.insert id { shard with enabled := enabled } }

def write (s : ShardStore) (id : UInt64) (points : List Point) : Except Error ShardStore :=
  match s.shards.find? id with
  | none => .error (.shardNotFound id)
  | some shard =>
    if shard.enabled then
      .ok { s with shards := s.shards.insert id (points.foldl Shard.store shard) }
    else .error (.shardDisabled id)

end ShardStore

end SeriesCluster
