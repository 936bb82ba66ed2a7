import SeriesCluster.Consensus.Entry
import SeriesCluster.Replica.Snapshot
import SeriesCluster.Storage.Place
import SeriesCluster.Topology.Apply

namespace SeriesCluster

structure Progress where
  topology : Topology := {}
  published : UInt64 := 0
  lastApplied : Option LogId := none
  membership : StoredMembership := {}
  deriving DecidableEq, Repr, Inhabited

namespace Progress

def refuse (p : Progress) (e : Error) : Outcome × Progress :=
  (⟨p.topology.index, some e.message⟩, p)

/-- Applies a proposed command. Bytes that are no command are answered like a refused one. -/
def propose (p : Progress) (bytes : List UInt8) : Outcome × Progress :=
  match Envelope.ofBytes bytes with
  | .error fault => p.refuse (.serialization fault.reason?)
  | .ok envelope =>
    match p.topology.apply envelope.command with
    | .error e => p.refuse e
    | .ok t => (⟨t.index, none⟩, { p with topology := t, published := t.index })

def applyEntry (p : Progress) (e : Entry) : Outcome × Progress :=
  let p := { p with lastApplied := some e.id }
  match e.payload with
  | .blank => (⟨p.topology.index, none⟩, p)
  | .normal proposal => p.propose proposal.command
  | .membership m => (⟨p.topology.index, none⟩, { p with membership := ⟨some e.id, m⟩ })

def apply (p : Progress) : List Entry → List Outcome × Progress
  | [] => ([], p)
  | e :: rest =>
    let (outcome, p) := p.applyEntry e
    let (outcomes, p) := p.apply rest
    (outcome :: outcomes, p)

def ofSnapshot (t : Topology) (head : SnapshotHead) : Progress where
  topology := t
  published := t.index
  lastApplied := head.lastLogId
  membership := head.lastMembership

end Progress

structure SnapshotBuilder where
  progress : Progress
  number : UInt64
  deriving DecidableEq, Repr

namespace SnapshotBuilder

/-- The snapshot of a builder, named by the position of its last entry and its number. -/
def snapshot (b : SnapshotBuilder) : Snapshot where
  head := {
    lastLogId := b.progress.lastApplied
    lastMembership := b.progress.membership
    snapshotId :=
      toString ((b.progress.lastApplied.map (·.index)).getD 0) ++ "-" ++ toString b.number }
  data := Json.toBytes b.progress.topology

end SnapshotBuilder

inductive SnapshotFault
  | unreadable
  | notWritten (kind : IoKind)
  deriving DecidableEq, Repr

structure Replica where
  progress : Progress := {}
  current : Option Snapshot := none
  buildersTaken : UInt64 := 0
  place : Place := .nowhere
  deriving DecidableEq, Repr, Inhabited

namespace Replica

def snapshotName : String := "snapshot.json"
def snapshotTemporary : String := "snapshot.tmp"

def writeSnapshot (s : Snapshot) : List FileEffect :=
  FileEffect.replace snapshotName snapshotTemporary (Json.toBytes s)

def openAt (place : Place) : Except Error Replica :=
  match place.file? snapshotName with
  | none => .ok { place := place }
  | some bytes => do
    let s ← decoded (Json.ofBytes Snapshot bytes)
    let t ← decoded (Json.ofBytes Topology s.data)
    return { progress := .ofSnapshot t s.head, current := some s, place := place }
where
  decoded {α : Type} (result : Except Json.Fault α) : Except Error α :=
    result.mapError fun fault => .serialization fault.reason?

def apply (r : Replica) (entries : List Entry) : List Outcome × Replica :=
  let (outcomes, p) := r.progress.apply entries
  (outcomes, { r with progress := p })

def takeBuilder (r : Replica) : SnapshotBuilder × Replica :=
  let n := r.buildersTaken + 1
  (⟨r.progress, n⟩, { r with buildersTaken := n })

def keep (r : Replica) (s : Snapshot) : Except SnapshotFault Unit × Replica :=
  match r.place.run (writeSnapshot s) with
  | .ok place => (.ok (), { r with current := some s, place := place })
  | .error kind => (.error (.notWritten kind), r)

def build (r : Replica) (b : SnapshotBuilder) : Except SnapshotFault Snapshot × Replica :=
  let (kept, r) := r.keep b.snapshot
  (kept.map fun _ => b.snapshot, r)

/-- Takes over the progress of a snapshot and keeps it. Data that is no topology changes nothing; a
snapshot that cannot be written has been taken over all the same. -/
def install (r : Replica) (s : Snapshot) : Except SnapshotFault Unit × Replica :=
  match Json.ofBytes Topology s.data with
  | .error _ => (.error .unreadable, r)
  | .ok t => { r with progress := .ofSnapshot t s.head }.keep s

end Replica

end SeriesCluster
