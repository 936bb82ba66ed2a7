import SeriesCluster.Consensus.Basic

namespace SeriesCluster

open Json

structure Proposal where
  command : List UInt8
  deriving DecidableEq, Repr

instance : Codec Proposal where
  encode p := .object [("command", encode p.command)]
  decode := decodeRecord "MetaRequest" [field (List UInt8) "command"] fun ms => do
    return { command := ← ms.get "command" }

structure Outcome where
  index : UInt64
  error : Option String := none
  deriving DecidableEq, Repr

instance : Codec Outcome where
  encode o := .object [("index", encode o.index), ("error", encode o.error)]
  decode := decodeRecord "MetaResponse" [field UInt64 "index", field (Option String) "error"]
    fun ms => do return { index := ← ms.get "index", error := ← ms.get "error" }

inductive Payload
  | blank
  | normal (p : Proposal)
  | membership (m : Membership)
  deriving DecidableEq, Repr

namespace Payload

def decodePayload : Value → Except Fault Payload :=
  decodeVariant (fun name => if name = "Blank" then .ok blank else .error (.misfit none))
    fun name v =>
      match name, v with
      | "Blank", .null => .ok blank
      | "Normal", v => (decode v).map normal
      | "Membership", v => (decode v).map membership
      | _, _ => .error (.misfit none)

instance : Codec Payload where
  encode
    | blank => .text "Blank"
    | normal p => .object [("Normal", encode p)]
    | membership m => .object [("Membership", encode m)]
  decode := decodePayload

end Payload

structure Entry where
  id : LogId
  payload : Payload
  deriving DecidableEq, Repr

namespace Entry

def index (e : Entry) : UInt64 := e.id.index

instance : Codec Entry where
  encode e := .object [("log_id", encode e.id), ("payload", encode e.payload)]
  decode := decodeRecord "Entry" [field LogId "log_id", field Payload "payload"] fun ms => do
    return { id := ← ms.get "log_id", payload := ← ms.get "payload" }

end Entry

end SeriesCluster
