import SeriesCluster.Net.Message
import SeriesCluster.Stream.Basic
import SeriesCluster.Time.Duration

namespace SeriesCluster

/-- What a node sends on a connection, having been sent some bytes, until it closes it. -/
abbrev Reply := List UInt8 → List UInt8

structure Connection where
  peer : String
  reply : Reply

namespace Connection

def request (c : Connection) (header : MuxHeader) (f : Frame) : List UInt8 :=
  c.reply (header.byte :: f.bytes)

end Connection

structure Network where
  reach : String → Option Reply

namespace Network

def connect (n : Network) (addr : String) (left : Duration) : Except Error Connection :=
  if left.isZero then .error (.ioTimeout "dial")
  else
    match n.reach addr with
    | some reply => .ok ⟨addr, reply⟩
    | .none => .error (.dial addr .none)

end Network

structure Dialer where
  network : Network
  addressOf : UInt64 → Except Error String
  timeout : Duration

namespace Dialer

def dial (d : Dialer) (node : UInt64) : Except Error Connection := do
  d.network.connect (← d.addressOf node) d.timeout

def read (d : Dialer) (node : UInt64) (shards : List UInt64) (cancelled : Bool) (m : Measurement)
    (opt : ReadOptions) : Except Error PointStream := do
  let c ← d.dial node
  if cancelled then throw .cancelled
  let request : ReadRequest := { shardIds := shards, measurement := m, options := opt }
  let (_, s) ← RemoteStream.ofResponse c.peer
    (c.request .cluster (.carrying FrameType.readRequest request))
  return .remote s

def fieldDimensions (d : Dialer) (node : UInt64) (shards : List UInt64) (m : Measurement) :
    Except Error FieldDimensions := do
  let c ← d.dial node
  let request : DimensionsRequest := { shardIds := shards, measurement := m }
  let (response, _) ← Frame.message DimensionsResponse c.peer FrameType.dimensionsResponse
    (c.request .cluster (.carrying FrameType.dimensionsRequest request))
  match response.error with
  | some text => throw (.remote text)
  | none => return response.dimensions

end Dialer

end SeriesCluster
