import SeriesCluster.Cluster.Network
import SeriesCluster.Cluster.Service

namespace SeriesCluster

inductive Exchange
  | done (response : WriteResponse)
  | stale (cause : Error)
  | failed (cause : Error)
  deriving DecidableEq, Repr

inductive Break
  | closed
  | broken (cause : Error)
  | unsent (cause : Error)
  deriving DecidableEq, Repr

def Error.isReset : Error → Bool
  | .io .connectionReset _ => true
  | .io (.other name) _ => name == "ConnectionAborted" || name == "BrokenPipe"
  | _ => false

namespace Exchange

def ofFrame (f : Frame) : Exchange :=
  if f.type ≠ FrameType.writeResponse then
    .failed (.unexpectedMessage f.type none FrameType.writeResponse)
  else
    match Frame.decodePayload WriteResponse f.payload with
    | .ok response => .done response
    | .error cause => .failed cause

/-- What came back before the break, read as the response to a write. Nothing is read if the request
could not be sent. -/
def read : Break → Frame.Front → Exchange
  | .unsent cause, _ => if cause.hasSource then .stale cause else .failed cause
  | _, .frame f _ => ofFrame f
  | _, .tooLong length => .failed (.frameTooLong length)
  | .closed, .finished => .stale (.ofIo .unexpectedEof)
  | .closed, .cut => .failed (.ofIo .unexpectedEof)
  | .broken cause, _ => if cause.isReset then .stale cause else .failed cause

def ofReply (sent : List UInt8) : Exchange := read .closed (Frame.front sent)

def outcome : Exchange → Except Error Unit
  | .done response =>
    if response.code = WriteResponse.stored.code then .ok ()
    else .error (.remoteWrite response.code response.message)
  | .stale cause | .failed cause => .error cause

end Exchange

structure ShardWriter where
  closed : Bool := false
  deriving DecidableEq, Repr, Inhabited

namespace ShardWriter

def close (_ : ShardWriter) : ShardWriter := ⟨true⟩

def write (w : ShardWriter) (d : Dialer) (owner : UInt64) (r : WriteRequest) :
    Except Error Unit := do
  if w.closed then throw .closing
  let c ← d.dial owner
  (Exchange.ofReply (c.request .cluster (.carrying FrameType.writeRequest r))).outcome

end ShardWriter

/-- What befalls a write on one connection: how many bytes of the request get to the owner, how many
bytes of the answer come back, and how the connection ends after that. -/
structure Fate where
  arrived : Nat
  returned : Nat
  ending : Break
  deriving DecidableEq, Repr

/-- What befalls a write: whether the owner's address and a permit are got for it, the connection
that is used again, if there is one, and the new one, if it can be dialed. -/
structure Course where
  admitted : Except Error Unit
  pooled : Option Fate
  anew : Except Error Fate

namespace DataNode

def exchange (n : DataNode) (r : WriteRequest) (fate : Fate) : Exchange × DataNode :=
  let (answer, e) := n.serve ((Frame.carrying FrameType.writeRequest r).bytes.take fate.arrived)
  (.read fate.ending (Frame.front (answer.take fate.returned)), { n with engine := e })

def exchangeAnew (n : DataNode) (r : WriteRequest) : Except Error Fate →
    Except Error Unit × DataNode
  | .error cause => (.error cause, n)
  | .ok fate =>
    let (x, n) := n.exchange r fate
    (x.outcome, n)

/-- Forwards a write: over the connection that is used again, if there is one, and over a new one if
there is none or the owner has dropped it. -/
def forward (n : DataNode) (r : WriteRequest) (pooled : Option Fate) (anew : Except Error Fate) :
    Except Error Unit × DataNode :=
  match pooled with
  | none => n.exchangeAnew r anew
  | some fate =>
    match n.exchange r fate with
    | (.stale _, n) => n.exchangeAnew r anew
    | (x, n) => (x.outcome, n)

end DataNode

def ShardWriter.forward (w : ShardWriter) (n : DataNode) (r : WriteRequest) (c : Course) :
    Except Error Unit × DataNode :=
  if w.closed then (.error .closing, n)
  else
    match c.admitted with
    | .error cause => (.error cause, n)
    | .ok _ => n.forward r c.pooled c.anew

end SeriesCluster
