import SeriesCluster.Stream.Remote

namespace SeriesCluster

def pointOrder (ascending : Bool) (p q : Point) : Ordering :=
  (if ascending then compare p.time q.time else compare q.time p.time).then
    (compare p.seriesKey q.seriesKey)

/-- What pulling a list gives one after the other, and what closing it says. A list that fails to close
is assumed to be emptied all the same. -/
structure ListedStream where
  pulls : List (Except Error Point)
  stats : ReadStats := {}
  closeFault : Option Error := none

inductive PointStream
  | listed (s : ListedStream)
  | remote (s : RemoteStream)
  | merged (ascending primed : Bool) (inputs : List PointStream) (heads : List (Option Point))

namespace PointStream

def ofPoints (points : List Point) (stats : ReadStats) : PointStream :=
  .listed { pulls := points.map .ok, stats := stats }

def empty : PointStream := ofPoints [] {}

def merge (ascending : Bool) (inputs : List PointStream) : PointStream :=
  .merged ascending false inputs (inputs.map fun _ => none)

abbrev Pulled := Except Error (Option Point)

namespace Merge

def least (ascending : Bool) : List (Option Point) → Option (Nat × Point)
  | [] => none
  | none :: rest => (least ascending rest).map fun (i, p) => (i + 1, p)
  | some p :: rest =>
    match least ascending rest with
    | some (i, q) => if pointOrder ascending q p = .lt then some (i + 1, q) else some (0, p)
    | none => some (0, p)

def prime (pull : PointStream → Pulled × PointStream) :
    List PointStream → List (Option Point) → Option Error × List PointStream × List (Option Point)
  | input :: inputs, _ :: heads =>
    match pull input with
    | (.error e, input) => (some e, input :: inputs, none :: heads)
    | (.ok head, input) =>
      let (error, inputs, heads) := prime pull inputs heads
      (error, input :: inputs, head :: heads)
  | inputs, heads => (none, inputs, heads)

def pullAt (pull : PointStream → Pulled × PointStream) :
    Nat → List PointStream → Pulled × List PointStream
  | _, [] => (.ok none, [])
  | 0, input :: inputs =>
    let (result, input) := pull input
    (result, input :: inputs)
  | i + 1, input :: inputs =>
    let (result, inputs) := pullAt pull i inputs
    (result, input :: inputs)

/-- Gives the first of the held points and pulls the next one of its input. The point is lost if
that pull fails. -/
def advance (pull : PointStream → Pulled × PointStream) (ascending : Bool)
    (inputs : List PointStream) (heads : List (Option Point)) : Pulled × PointStream :=
  match least ascending heads with
  | none => (.ok none, .merged ascending true inputs heads)
  | some (i, p) =>
    match pullAt pull i inputs with
    | (.ok head, inputs) => (.ok (some p), .merged ascending true inputs (heads.set i head))
    | (.error e, inputs) => (.error e, .merged ascending true inputs (heads.set i none))

end Merge

mutual

def depth : PointStream → Nat
  | merged _ _ inputs _ => depthOf inputs + 1
  | _ => 0

def depthOf : List PointStream → Nat
  | [] => 0
  | s :: rest => max s.depth (depthOf rest)

end

def nextWithin : Nat → PointStream → Pulled × PointStream
  | _, listed s =>
    match s.pulls with
    | [] => (.ok none, .listed s)
    | pulled :: rest => (pulled.map some, .listed { s with pulls := rest })
  | _, remote s =>
    let (pulled, s) := s.next
    (pulled, .remote s)
  | 0, s => (.ok none, s)
  | n + 1, merged ascending true inputs heads =>
    Merge.advance (nextWithin n) ascending inputs heads
  | n + 1, merged ascending false inputs heads =>
    match Merge.prime (nextWithin n) inputs heads with
    | (some e, inputs, heads) => (.error e, .merged ascending false inputs heads)
    | (none, inputs, heads) => Merge.advance (nextWithin n) ascending inputs heads

def next (s : PointStream) : Pulled × PointStream := nextWithin s.depth s

mutual

def stats : PointStream → ReadStats
  | listed s => s.stats
  | remote s => s.stats
  | merged _ _ inputs _ => .sum (statsOf inputs)

def statsOf : List PointStream → List ReadStats
  | [] => []
  | s :: rest => s.stats :: statsOf rest

end

mutual

/-- Closes a stream: nothing can be pulled from it any more. A merge closes all its inputs, also
after one has failed to close, and reports the first failure. -/
def close : PointStream → Except Error Unit × PointStream
  | listed s =>
    (match s.closeFault with
      | some e => .error e
      | none => .ok (),
      .listed { s with pulls := [] })
  | remote s => (.ok (), .remote s.close)
  | merged ascending primed inputs heads =>
    let (fault, inputs) := closeAll inputs
    (match fault with
      | some e => .error e
      | none => .ok (),
      .merged ascending primed inputs (heads.map fun _ => none))

def closeAll : List PointStream → Option Error × List PointStream
  | [] => (none, [])
  | s :: rest =>
    let (result, s) := s.close
    let (fault, rest) := closeAll rest
    match result with
    | .ok _ => (fault, s :: rest)
    | .error e => (some e, s :: rest)

end

mutual

def cancel : PointStream → PointStream
  | listed s => .listed s
  | remote s => .remote { s with cancelled := true }
  | merged ascending primed inputs heads => .merged ascending primed (cancelAll inputs) heads

def cancelAll : List PointStream → List PointStream
  | [] => []
  | s :: rest => s.cancel :: cancelAll rest

end

/-- Pulls up to so many times, going on past errors, until the stream ends; the end is listed. -/
def drain : Nat → PointStream → List Pulled × PointStream
  | 0, s => ([], s)
  | n + 1, s =>
    let (pulled, s) := s.next
    match pulled with
    | .ok none => ([.ok none], s)
    | pulled =>
      let (rest, s) := drain n s
      (pulled :: rest, s)

def collect (limit : Nat) (s : PointStream) : Except Error (List Point) × PointStream :=
  match limit with
  | 0 => (.ok [], s)
  | limit + 1 =>
    let (pulled, s) := s.next
    match pulled with
    | .error e => (.error e, s)
    | .ok none =>
      let (closed, s) := s.close
      (closed.map fun _ => [], s)
    | .ok (some p) =>
      let (rest, s) := collect limit s
      (rest.map (p :: ·), s)

mutual

def pending : PointStream → Nat
  | listed s => s.pulls.length
  | remote s => s.unread.length
  | merged _ _ inputs heads => pendingOf inputs + heads.length

def pendingOf : List PointStream → Nat
  | [] => 0
  | s :: rest => s.pending + pendingOf rest

end

def toPoints (s : PointStream) : Except Error (List Point) := (s.collect (s.pending + 1)).1

end PointStream

end SeriesCluster
