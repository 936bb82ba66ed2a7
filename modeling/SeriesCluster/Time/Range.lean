import SeriesCluster.Json.Codec

namespace SeriesCluster

/-- The timestamps from `start` to `stop`, both included; none if `stop` lies before `start`. -/
structure TimeRange where
  start : Int64
  stop : Int64
  deriving DecidableEq, Repr, Inhabited

namespace TimeRange

def contains (r : TimeRange) (t : Int64) : Bool := r.start ≤ t && t ≤ r.stop

def overlaps (r s : TimeRange) : Bool := r.start ≤ s.stop && s.start ≤ r.stop

open Json in
instance : Codec TimeRange where
  encode r := .object [("start", encode r.start), ("end", encode r.stop)]
  decode := decodeRecord "TimeRange" [field Int64 "start", field Int64 "end"] fun ms => do
    return { start := ← ms.get "start", stop := ← ms.get "end" }

end TimeRange

end SeriesCluster
