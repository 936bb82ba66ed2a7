import SeriesCluster.Log.Record
import SeriesCluster.Storage.Place

namespace SeriesCluster

open Json

structure HardState where
  vote : Option Vote := none
  purged : Option LogId := none
  deriving DecidableEq, Repr, Inhabited

instance : Codec HardState where
  encode s := .object [("vote", encode s.vote), ("purged", encode s.purged)]
  decode := decodeRecord "HardState" [field (Option Vote) "vote", field (Option LogId) "purged"]
    fun ms => do return { vote := ← ms.get "vote", purged := ← ms.get "purged" }

inductive Bound
  | unbounded
  | included (n : UInt64)
  | excluded (n : UInt64)
  deriving DecidableEq, Repr

namespace Bound

def admitsFrom (n : UInt64) : Bound → Bool
  | unbounded => true
  | included low => low ≤ n
  | excluded low => low < n

def admitsTo (n : UInt64) : Bound → Bool
  | unbounded => true
  | included high => n ≤ high
  | excluded high => n < high

end Bound

structure MemberLog where
  hard : HardState := {}
  entries : SortedMap UInt64 Entry := ∅
  deriving DecidableEq, Repr, Inhabited

namespace MemberLog

def overlay (entries : SortedMap UInt64 Entry) (new : List Entry) : SortedMap UInt64 Entry :=
  new.foldl (fun m e => m.insert e.index e) entries

/-- The id of the last entry; after the last one has been purged, of the last purged one. -/
def last? (l : MemberLog) : Option LogId :=
  match l.entries.values.getLast? with
  | some e => some e.id
  | none => l.hard.purged

def range (l : MemberLog) (low high : Bound) : List Entry :=
  (l.entries.filter fun n _ => low.admitsFrom n && high.admitsTo n).values

end MemberLog

inductive LogChange
  | append (entries : List Entry)
  | truncate (start : LogId)
  | purge (stop : LogId)
  | saveVote (vote : Vote)
  deriving DecidableEq, Repr

namespace LogFile

def name : String := "raft.log"
def temporary : String := "raft.tmp"
def stateName : String := "raft_state.json"
def stateTemporary : String := "raft_state.tmp"

def replaceEntries (entries : SortedMap UInt64 Entry) : List FileEffect :=
  FileEffect.replace name temporary (Record.encodeAll entries.values)

def writeState (hard : HardState) : List FileEffect :=
  FileEffect.replace stateName stateTemporary (toBytes hard)

end LogFile

namespace LogChange

/-- The log after a change. Truncating drops the entries from a position on, purging those up to
one; the first position follows the last one, so purging up to that drops nothing. -/
def on (l : MemberLog) : LogChange → MemberLog
  | append entries => { l with entries := MemberLog.overlay l.entries entries }
  | truncate start => { l with entries := l.entries.filter fun n _ => n < start.index }
  | purge stop =>
    { hard := { l.hard with purged := some stop }
      entries := l.entries.filter fun n _ => stop.index + 1 ≤ n }
  | saveVote vote => { l with hard := { l.hard with vote := some vote } }

def effects (l : MemberLog) (c : LogChange) : List FileEffect :=
  match c with
  | append entries => [.append LogFile.name (Record.encodeAll entries)]
  | truncate _ => LogFile.replaceEntries (c.on l).entries
  | purge _ => LogFile.writeState (c.on l).hard ++ LogFile.replaceEntries (c.on l).entries
  | saveVote _ => LogFile.writeState (c.on l).hard

/-- Whether a change waits for its files: entries are in memory only once they are written. -/
def waits : LogChange → Bool
  | append _ => true
  | _ => false

end LogChange

structure LogStore where
  log : MemberLog := {}
  place : Place := .nowhere
  deriving DecidableEq, Repr, Inhabited

namespace LogStore

def change (s : LogStore) (c : LogChange) : Except IoKind Unit × LogStore :=
  match s.place.run (c.effects s.log) with
  | .ok place => (.ok (), { log := c.on s.log, place := place })
  | .error kind => (.error kind, if c.waits then s else { s with log := c.on s.log })

def readFiles (place : Place) : Except Fault MemberLog := do
  let hard ← match place.file? LogFile.stateName with
    | some bytes => ofBytes HardState bytes
    | none => pure {}
  let entries ← match place.file? LogFile.name with
    | some bytes => Record.readAll bytes
    | none => pure []
  return { hard := hard, entries := MemberLog.overlay ∅ entries }

def openAt (place : Place) : Except Error LogStore := do
  let place := place.created
  match readFiles place with
  | .ok log => return { log := log, place := place }
  | .error fault => throw (.serialization fault.reason?)

end LogStore

end SeriesCluster
