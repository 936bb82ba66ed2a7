import SeriesCluster.Net.Message

namespace SeriesCluster

/-- A stream of points from another node. `unread` is what the node still sends before it closes the
connection. -/
structure RemoteStream where
  peer : String
  unread : List UInt8
  stats : ReadStats
  isOpen : Bool := true
  cancelled : Bool := false
  deriving DecidableEq, Repr

namespace RemoteStream

def close (s : RemoteStream) : RemoteStream := { s with isOpen := false }

inductive Item
  | point (p : Point)
  | finish (e : ReadEnd)
  deriving DecidableEq, Repr

def item (peer : String) (unread : List UInt8) : Except Error (Item × List UInt8) := do
  let (f, rest) ← Frame.next unread
  if f.type = FrameType.point then return (.point (← Frame.decodePayload Point f.payload), rest)
  else if f.type = FrameType.readEnd then
    return (.finish (← Frame.decodePayload ReadEnd f.payload), rest)
  else throw (.unexpectedIteratorFrame f.type peer)

/-- Pulls the next point. The end gives the final counts; it and every error close the stream, and
a closed stream has no more points. -/
def next (s : RemoteStream) : Except Error (Option Point) × RemoteStream :=
  if !s.isOpen then (.ok none, s)
  else if s.cancelled then (.error .cancelled, s.close)
  else
    match item s.peer s.unread with
    | .ok (.point p, rest) => (.ok (some p), { s with unread := rest })
    | .ok (.finish e, rest) =>
      let s := { s with unread := rest, stats := e.stats, isOpen := false }
      match e.error with
      | some text => (.error (.remote text), s)
      | none => (.ok none, s)
    | .error e => (.error e, s.close)

def ofResponse (peer : String) (sent : List UInt8) : Except Error (DataType × RemoteStream) := do
  let (response, rest) ← Frame.message ReadResponse peer FrameType.readResponse sent
  match response.error with
  | some text => throw (.remote text)
  | none => return (response.dataType, { peer := peer, unread := rest, stats := response.stats })

end RemoteStream

end SeriesCluster
