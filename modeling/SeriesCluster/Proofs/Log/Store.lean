import SeriesCluster.Log.Store
import SeriesCluster.Proofs.Log.Record

namespace SeriesCluster

open Json

instance : Lossless HardState :=
  .ofRecord 2 (fun _ => rfl) rfl (by decide)
    (fun s => .cons s.vote rfl (by decide) <| .cons s.purged rfl (by decide) .nil)
    fun _ => by simp [Members.get_later, bind, Except.bind, pure, Except.pure]

namespace MemberLog

theorem overlay_append (m : SortedMap UInt64 Entry) (first later : List Entry) :
    overlay m (first ++ later) = overlay (overlay m first) later :=
  List.foldl_append

def Indexed (m : SortedMap UInt64 Entry) : Prop := ∀ p ∈ m.toList, p.1 = p.2.index

theorem mem_overlay {m : SortedMap UInt64 Entry} {new : List Entry} {p : UInt64 × Entry}
    (member : p ∈ (overlay m new).toList) : p ∈ m.toList ∨ p.1 = p.2.index ∧ p.2 ∈ new := by
  induction new generalizing m with
  | nil => exact .inl member
  | cons e new ih =>
    rcases ih member with kept | ⟨index, later⟩
    · rcases SortedMap.mem_put kept with rfl | kept
      · exact .inr ⟨rfl, List.mem_cons_self⟩
      · exact .inl kept
    · exact .inr ⟨index, List.mem_cons_of_mem _ later⟩

theorem mem_overlay_empty {new : List Entry} {p : UInt64 × Entry}
    (member : p ∈ (overlay ∅ new).toList) : p.1 = p.2.index ∧ p.2 ∈ new := by
  rcases mem_overlay member with none | new
  · cases none
  · exact new

theorem overlay_values {m : SortedMap UInt64 Entry} (indexed : Indexed m) :
    overlay ∅ m.values = m := by
  have keys : ∀ (ps : List (UInt64 × Entry)) (n : SortedMap UInt64 Entry),
      (∀ p ∈ ps, p.1 = p.2.index) →
        overlay n (ps.map (·.2)) = ps.foldl (fun m p => m.insert p.1 p.2) n := by
    intro ps
    induction ps with
    | nil => exact fun _ _ => rfl
    | cons p ps ih =>
      intro n own
      have later := ih (n.insert p.2.index p.2) fun q member => own q (List.mem_cons_of_mem _ member)
      rw [List.map_cons, List.foldl_cons, own p List.mem_cons_self]
      exact later
  have listed := keys m.toList ∅ indexed
  exact listed.trans (SortedMap.ofList_toList m)

end MemberLog

open MemberLog

namespace LogChange

def appended : LogChange → List Entry
  | append entries => entries
  | _ => []

end LogChange

namespace LogFile

open FileEffect

theorem all_append (files : Files) (first later : List FileEffect) :
    all files (first ++ later) = all (all files first) later :=
  List.foldl_append

def readState : Option (List UInt8) → Except Fault HardState
  | some bytes => ofBytes HardState bytes
  | none => .ok {}

def readEntries : Option (List UInt8) → Except Fault (List Entry)
  | some bytes => Record.readAll bytes
  | none => .ok []

theorem readEntries_eq (file : Option (List UInt8)) :
    readEntries file = Record.readAll (file.getD []) := by
  cases file with
  | some bytes => rfl
  | none => exact Record.readAll_nil.symm

theorem readFiles_eq_parts (place : Place) : LogStore.readFiles place = (do
    let hard ← readState (place.file? stateName)
    let entries ← readEntries (place.file? name)
    return { hard := hard, entries := overlay ∅ entries }) := by
  unfold LogStore.readFiles
  cases place.file? stateName <;> cases place.file? name <;> rfl

/-- Files that hold a log: one has nothing but the records of entries that make up the log, written
over one another, and the other its hard state, unless that is still as at first. -/
structure Holds (files : Files) (l : MemberLog) : Prop where
  state : bytesIn files stateName = some (toBytes l.hard) ∨
    bytesIn files stateName = none ∧ l.hard = {}
  entries : ∃ es : List Entry, (∀ e ∈ es, Record.Fits e) ∧
    (bytesIn files name).getD [] = Record.encodeAll es ∧ overlay ∅ es = l.entries

namespace Holds

variable {files : Files} {l : MemberLog}

theorem empty : Holds ∅ {} :=
  ⟨.inr ⟨rfl, rfl⟩, [], fun _ member => absurd member List.not_mem_nil, rfl, rfl⟩

theorem fits (holds : Holds files l) : ∀ p ∈ l.entries.toList, p.1 = p.2.index ∧ Record.Fits p.2 := by
  obtain ⟨es, fit, -, replayed⟩ := holds.entries
  rw [← replayed]
  intro p member
  obtain ⟨index, among⟩ := mem_overlay_empty member
  exact ⟨index, fit p.2 among⟩

theorem readState_eq (holds : Holds files l) : readState (bytesIn files stateName) = .ok l.hard := by
  rcases holds.state with there | ⟨absent, initial⟩
  · rw [there]
    exact ofBytes_toBytes (by decide) l.hard
  · rw [absent, initial]
    rfl

theorem readFiles_eq (holds : Holds files l) : LogStore.readFiles (.directory files) = .ok l := by
  obtain ⟨es, fit, written, replayed⟩ := holds.entries
  have entries : readEntries (bytesIn files name) = .ok es := by
    rw [readEntries_eq, written]
    exact Record.readAll_encodeAll fit
  rw [readFiles_eq_parts]
  change (readState (bytesIn files stateName) >>= fun hard =>
    readEntries (bytesIn files name) >>= fun entries => _) = _
  rw [holds.readState_eq, ok_bind, entries, ok_bind, replayed]
  rfl

theorem append (holds : Holds files l) {new : List Entry} (fit : ∀ e ∈ new, Record.Fits e) :
    Holds ((FileEffect.append name (Record.encodeAll new)).on files)
      { l with entries := overlay l.entries new } := by
  obtain ⟨es, old, written, replayed⟩ := holds.entries
  constructor
  · rw [bytesIn_on_append, if_neg (by decide)]
    exact holds.state
  · refine ⟨es ++ new, ?_, ?_, ?_⟩
    · intro e member
      rcases List.mem_append.mp member with member | member
      · exact old e member
      · exact fit e member
    · rw [bytesIn_on_append, if_pos rfl, written]
      exact List.flatMap_append.symm
    · rw [overlay_append, replayed]

theorem replaceEntries (holds : Holds files l) (keep : UInt64 → Entry → Bool) :
    Holds (all files (LogFile.replaceEntries (l.entries.filter keep)))
      { l with entries := l.entries.filter keep } := by
  have kept : ∀ p ∈ (l.entries.filter keep).toList, p.1 = p.2.index ∧ Record.Fits p.2 :=
    fun p member => holds.fits p (List.mem_of_mem_filter member)
  constructor
  · rw [LogFile.replaceEntries, bytesIn_replace, if_neg (by decide), if_neg (by decide)]
    exact holds.state
  · refine ⟨(l.entries.filter keep).values, ?_, ?_, overlay_values fun p member => (kept p member).1⟩
    · intro e member
      obtain ⟨p, among, rfl⟩ := List.mem_map.mp member
      exact (kept p among).2
    · rw [LogFile.replaceEntries, bytesIn_replace, if_pos rfl]
      rfl

theorem writeState (holds : Holds files l) (hard : HardState) :
    Holds (all files (LogFile.writeState hard)) { l with hard := hard } := by
  constructor
  · rw [LogFile.writeState, bytesIn_replace, if_pos rfl]
    exact .inl rfl
  · rw [LogFile.writeState, bytesIn_replace, if_neg (by decide), if_neg (by decide)]
    exact holds.entries

/-- The effects of a change lead from files that hold a log to files that hold the changed one. -/
theorem on_effects (holds : Holds files l) {c : LogChange} (fit : ∀ e ∈ c.appended, Record.Fits e) :
    Holds (all files (c.effects l)) (c.on l) := by
  cases c with
  | append new => exact holds.append fit
  | truncate start => exact holds.replaceEntries fun n _ => n < start.index
  | purge stop =>
    have marked := holds.writeState { l.hard with purged := some stop }
    have purged := marked.replaceEntries fun n _ => stop.index + 1 ≤ n
    rw [← all_append] at purged
    exact purged
  | saveVote vote => exact holds.writeState { l.hard with vote := some vote }

end Holds

end LogFile

end SeriesCluster
