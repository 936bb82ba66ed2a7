import SeriesCluster.Json.Codec
import SeriesCluster.Storage.Place

namespace SeriesCluster

open Json

structure Identity where
  raftId : UInt64
  id : Option UInt64 := none
  deriving DecidableEq, Repr

instance : Codec Identity where
  encode i := .object [("raft_id", encode i.raftId), ("id", encode i.id)]
  decode := decodeRecord "NodeIdentity" [field UInt64 "raft_id", field (Option UInt64) "id"]
    fun ms => do return { raftId := ← ms.get "raft_id", id := ← ms.get "id" }

namespace Identity

def fileName : String := "node.json"
def temporaryName : String := "node.tmp"

def text (i : Identity) : String := (encode i).indented

def save (i : Identity) (place : Place) : Except IoKind Place :=
  place.run (FileEffect.replace fileName temporaryName (Text.utf8 i.text))

/-- The identity that a place keeps. Where there is none, the drawn id makes a new one, which is
kept; the directory is created if it is not there. -/
def load (place : Place) (drawn : UInt64) : Except Error (Identity × Place) :=
  let place := place.created
  match place.file? fileName with
  | some bytes =>
    match ofBytes Identity bytes with
    | .ok i => .ok (i, place)
    | .error fault => .error (.serialization fault.reason?)
  | none =>
    let i : Identity := { raftId := drawn }
    match i.save place with
    | .ok place => .ok (i, place)
    | .error kind => .error (.ofIo kind)

end Identity

end SeriesCluster
