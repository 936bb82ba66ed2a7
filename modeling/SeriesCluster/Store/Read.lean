import SeriesCluster.Pattern.Meaning
import SeriesCluster.Store.Basic
import SeriesCluster.Stream.Basic

namespace SeriesCluster

structure ShardSelection where
  store : ShardStore
  ids : List UInt64

namespace ReadOptions

def project (opt : ReadOptions) (p : Point) : Point :=
  if opt.fields.isEmpty then p
  else { p with fields := p.fields.filter fun name _ => opt.fields.contains name }

def inRange (opt : ReadOptions) (points : SeriesPoints) : List Point :=
  (points.toList.filter fun e => opt.timeRange.contains e.1).map (·.2)

/-- The points of a series that a read gives: those in the range that keep a field, in the order of
the read, and only so many. -/
def select (opt : ReadOptions) (points : SeriesPoints) : List Point :=
  let found := ((opt.inRange points).map opt.project).filter (!·.fields.isEmpty)
  let ordered := if opt.ascending then found else found.reverse
  if opt.limit = 0 then ordered else ordered.take opt.limit.toNat

end ReadOptions

namespace Measurement

def compiled? (m : Measurement) : Except Error (Option Pattern) :=
  match m.pattern with
  | none => .ok none
  | some text =>
    match Pattern.ofText? text with
    | some p => .ok (some p)
    | none => .error (.config .invalidPattern)

end Measurement

namespace ShardSelection

def shards (g : ShardSelection) : List Shard := g.ids.filterMap g.store.shards.find?

def series (g : ShardSelection) (measurement : String) : List SeriesPoints :=
  g.shards.flatMap (·.seriesOf measurement)

def points (g : ShardSelection) (measurement : String) : List Point :=
  (g.series measurement).flatMap (·.values)

def measurementsMatching (g : ShardSelection) (p : Pattern) : List String :=
  (SortedSet.ofList ((g.shards.flatMap fun s => s.measurements.keys).filter p.isMatch)).elements

def dimensionsOf (p : Point) : FieldDimensions where
  fields := p.fields.mapValues fun _ v => v.dataType
  dimensions := p.tags.mapValues fun _ _ => ()

def fieldDimensions (g : ShardSelection) (measurements : List String) : FieldDimensions :=
  (measurements.flatMap g.points).foldl (fun d p => d.merge (dimensionsOf p)) {}

def typeIn (name : String) (p : Point) : DataType :=
  match p.fields.find? name with
  | some v => v.dataType
  | none => if p.tags.contains name then .tag else .unknown

def mapType (g : ShardSelection) (measurement name : String) : DataType :=
  (g.points measurement).foldl (fun t p => t.wider (typeIn name p)) .unknown

def countInRange (opt : ReadOptions) (series : List SeriesPoints) : ReadStats :=
  series.foldl (fun c points =>
    let n := (opt.inRange points).length
    if n = 0 then c else c.add ⟨1, Int64.ofNat n⟩) {}

/-- An estimate of a read: shards that have the measurement, series with points in the range, and
those points. Nothing is estimated for a range that no time can lie in. -/
def readCost (g : ShardSelection) (measurement : String) (opt : ReadOptions) : ReadCost :=
  if opt.isInverted then {}
  else
    let holders := g.shards.filter fun s => s.measurements.contains measurement
    holders.foldl (fun cost s =>
      let counts := countInRange opt (s.seriesOf measurement)
      cost.combine {
        numShards := 1
        numSeries := counts.seriesCount
        cachedValues := counts.pointCount }) {}

def selected (g : ShardSelection) (measurement : String) (opt : ReadOptions) : List (List Point) :=
  ((g.series measurement).map opt.select).filter (!·.isEmpty)

/-- The stream of a read: its points by time in its direction, then by series. Points that are equal
in both come in the order of the shards. -/
def read (g : ShardSelection) (cancelled : Bool) (measurement : String) (opt : ReadOptions) :
    Except Error PointStream :=
  if cancelled then .error .cancelled
  else if opt.isInverted then .ok .empty
  else
    let parts := g.selected measurement opt
    let points := parts.flatten.mergeSort fun p q => pointOrder opt.ascending p q != .gt
    .ok (.ofPoints points {
      seriesCount := Int64.ofNat parts.length
      pointCount := Int64.ofNat points.length })

end ShardSelection

end SeriesCluster
