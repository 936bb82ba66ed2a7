import Mathlib.Algebra.Group.Nat.Defs
import Mathlib.Data.List.Induction
import SeriesCluster.Proofs.Log.TornTail
import SeriesCluster.Proofs.Storage.Interrupted

namespace SeriesCluster

open FileEffect

namespace Record

/-- Whether a record cannot be taken for a shorter one: its length fits the header, or the bytes
that the header announces do not agree with the check. -/
def Sealed (e : Entry) : Prop :=
  Fits e ∨ Crc32.ofBytes ((Json.toBytes e).take ((Json.toBytes e).length % UInt32.size)) ≠
    Crc32.ofBytes (Json.toBytes e)

theorem littleEndian_mod (count n : Nat) :
    littleEndian count (n % 256 ^ count) = littleEndian count n := by
  induction count generalizing n with
  | zero => rfl
  | succ count ih =>
    have low : UInt8.ofNat (n % 256 ^ (count + 1)) = UInt8.ofNat n := by
      apply UInt8.toNat_inj.mp
      rw [UInt8.toNat_ofNat', UInt8.toNat_ofNat']
      exact Nat.mod_mod_of_dvd n ⟨256 ^ count, Nat.pow_succ'⟩
    have high : n % 256 ^ (count + 1) / 256 = n / 256 % 256 ^ count := by
      rw [Nat.pow_succ', Nat.mod_mul_right_div_self]
    rw [littleEndian, littleEndian, low, high, ih]

theorem front_short_file {file : List UInt8} (short : file.length < headerLength) :
    front file = .finished := by
  rw [front, if_pos]
  rw [List.length_take]
  omega

theorem take_encode (e : Entry) (later : List UInt8) {k : Nat} (headed : headerLength ≤ k) :
    (encode e ++ later).take k =
      littleEndian 4 ((Json.toBytes e).length % UInt32.size) ++
        littleEndian 4 (Crc32.ofBytes (Json.toBytes e)).toNat ++
        (Json.toBytes e ++ later).take (k - headerLength) := by
  have kept : littleEndian 4 ((Json.toBytes e).length % UInt32.size) =
      littleEndian 4 (Json.toBytes e).length := littleEndian_mod 4 _
  have header : (littleEndian 4 (Json.toBytes e).length ++
      littleEndian 4 (Crc32.ofBytes (Json.toBytes e)).toNat).length = headerLength := by
    rw [List.length_append, length_littleEndian, length_littleEndian]
    rfl
  rw [kept, encode, frame, List.append_assoc, List.take_append, header,
    List.take_of_length_le (by omega)]

theorem front_take_mismatch {e : Entry}
    (mismatch : Crc32.ofBytes ((Json.toBytes e).take ((Json.toBytes e).length % UInt32.size)) ≠
      Crc32.ofBytes (Json.toBytes e))
    (later : List UInt8) (k : Nat) (payload rest : List UInt8) :
    front ((encode e ++ later).take k) ≠ .record payload rest := by
  by_cases short : k < headerLength
  · rw [front_short_file (by rw [List.length_take]; omega)]
    exact Front.noConfusion
  · rw [take_encode e later (by omega)]
    generalize announced : (Json.toBytes e).length % UInt32.size = length at mismatch
    have bound : length < UInt32.size := announced ▸ Nat.mod_lt _ (by decide)
    have within : length ≤ (Json.toBytes e).length := announced ▸ Nat.mod_le _ _
    have check : (Crc32.ofBytes (Json.toBytes e)).toNat < UInt32.size :=
      (Crc32.ofBytes (Json.toBytes e)).toNat_lt
    rw [front_header bound check]
    split
    · exact Front.noConfusion
    · rename_i enough
      rw [List.length_take, List.length_append] at enough
      have taken : ((Json.toBytes e ++ later).take (k - headerLength)).take length =
          (Json.toBytes e).take length := by
        rw [List.take_take, Nat.min_eq_left (by omega), List.take_append_of_le_length within]
      rw [taken, if_neg fun same => mismatch (UInt32.toNat_inj.mp same)]
      exact Front.noConfusion

theorem readAll_take_encodeAll {new : List Entry} (checked : ∀ e ∈ new, Sealed e) (k : Nat) :
    ∃ part, part <+: new ∧ readAll ((encodeAll new).take k) = .ok part := by
  induction new generalizing k with
  | nil =>
    refine ⟨[], List.nil_prefix, ?_⟩
    rw [encodeAll, List.flatMap_nil, List.take_nil, readAll_nil]
  | cons e new ih =>
    rcases checked e List.mem_cons_self with fits | mismatch
    · rw [readAll_take_cons fits]
      split
      · obtain ⟨part, isPrefix, read⟩ :=
          ih (fun d member => checked d (List.mem_cons_of_mem _ member)) (k - (encode e).length)
        refine ⟨e :: part, List.cons_prefix_cons.mpr ⟨rfl, isPrefix⟩, ?_⟩
        rw [read]
        rfl
      · exact ⟨[], List.nil_prefix, rfl⟩
    · have none : ∀ payload rest, front ((encodeAll (e :: new)).take k) ≠ .record payload rest :=
        front_take_mismatch mismatch (encodeAll new) k
      exact ⟨[], List.nil_prefix, readAll_of_front none⟩

end Record

namespace MemberLog

theorem find?_overlay (m : SortedMap UInt64 Entry) (new : List Entry) (n : UInt64) :
    (overlay m new).find? n = m.find? n ∨
      ∃ e ∈ new, e.index = n ∧ (overlay m new).find? n = some e := by
  induction new generalizing m with
  | nil => exact .inl rfl
  | cons e new ih =>
    rcases ih (m.insert e.index e) with kept | ⟨d, member, index, found⟩
    · have written :
          (overlay m (e :: new)).find? n = if n = e.index then some e else m.find? n := by
        rw [← SortedMap.find?_insert]
        exact kept
      by_cases here : n = e.index
      · rw [if_pos here] at written
        exact .inr ⟨e, List.mem_cons_self, here.symm, written⟩
      · rw [if_neg here] at written
        exact .inl written
    · exact .inr ⟨d, List.mem_cons_of_mem _ member, index, found⟩

theorem find?_overlay_of_mem (m : SortedMap UInt64 Entry) {new : List Entry} {e : Entry}
    (member : e ∈ new) : ∃ d ∈ new, d.index = e.index ∧ (overlay m new).find? e.index = some d := by
  induction new using List.reverseRecOn with
  | nil => cases member
  | append_singleton new last ih =>
    have written : (overlay m (new ++ [last])).find? e.index =
        if e.index = last.index then some last else (overlay m new).find? e.index := by
      rw [overlay_append, ← SortedMap.find?_insert]
      rfl
    by_cases here : e.index = last.index
    · rw [if_pos here] at written
      exact ⟨last, List.mem_concat_self, here.symm, written⟩
    · rw [if_neg here] at written
      have earlier : e ∈ new := by
        rcases List.mem_append.mp member with earlier | same
        · exact earlier
        · exact absurd (congrArg Entry.index (List.mem_singleton.mp same)) here
      obtain ⟨d, among, index, found⟩ := ih earlier
      exact ⟨d, List.mem_append_left _ among, index, written.trans found⟩

end MemberLog

namespace LogChange

theorem le_of_not_next_le {stop n : UInt64} (before : ¬ stop + 1 ≤ n) : n ≤ stop := by
  have size : UInt64.size = 2 ^ 64 := rfl
  have bound := n.toNat_lt
  have next := UInt64.toNat_add stop 1
  rw [UInt64.le_iff_toNat_le] at before ⊢
  rw [UInt64.toNat_one] at next
  omega

/-- Whether a change is a truncation or a purge that covers a position. -/
def Covers (n : UInt64) : LogChange → Prop
  | truncate start => start.index ≤ n
  | purge stop => n ≤ stop.index
  | append _ | saveVote _ => False

theorem find?_on_of_mem_appended (l : MemberLog) {c : LogChange} {e : Entry}
    (member : e ∈ c.appended) :
    ∃ d ∈ c.appended, d.index = e.index ∧ (c.on l).entries.find? e.index = some d := by
  cases c with
  | append new => exact MemberLog.find?_overlay_of_mem l.entries member
  | truncate | purge | saveVote => cases member

/-- Whether a log has entries that a change may leave when it is cut short: the first of those that
are appended, written over the old ones, or else all old or all new ones. -/
def Leaves (l m : MemberLog) : LogChange → Prop
  | append new => ∃ part, part <+: new ∧ m.entries = MemberLog.overlay l.entries part
  | c => m.entries = l.entries ∨ m.entries = (c.on l).entries

/-- What a log that was changed when a crash came holds afterwards. -/
inductive Recovered (l : MemberLog) : LogChange → MemberLog → Prop
  | before (c : LogChange) : Recovered l c l
  | after {c : LogChange} (whole : c.appended = []) : Recovered l c (c.on l)
  /-- The mark of a purge is written before the entries are. -/
  | marked (stop : LogId) :
    Recovered l (.purge stop) { l with hard := { l.hard with purged := some stop } }
  | appended {new part : List Entry} (isPrefix : part <+: new) :
    Recovered l (.append new) { l with entries := MemberLog.overlay l.entries part }

namespace Recovered

variable {l m : MemberLog} {c : LogChange}

theorem hard_eq (recovered : Recovered l c m) : m.hard = l.hard ∨ m.hard = (c.on l).hard := by
  cases recovered with
  | before | appended => exact .inl rfl
  | after | marked => exact .inr rfl

theorem leaves (recovered : Recovered l c m) : c.Leaves l m := by
  cases recovered with
  | before =>
    cases c with
    | append new => exact ⟨[], List.nil_prefix, rfl⟩
    | _ => exact .inl rfl
  | after whole =>
    cases c with
    | append new => exact ⟨new, List.prefix_rfl, rfl⟩
    | _ => exact .inr rfl
  | marked => exact .inl rfl
  | @appended new part isPrefix => exact ⟨part, isPrefix, rfl⟩

theorem find?_eq (recovered : Recovered l c m) (n : UInt64) :
    m.entries.find? n = l.entries.find? n ∨ c.Covers n ∨
      ∃ e ∈ c.appended, e.index = n ∧ m.entries.find? n = some e := by
  cases recovered with
  | before | marked => exact .inl rfl
  | appended isPrefix =>
    rcases MemberLog.find?_overlay l.entries _ n with kept | ⟨e, member, index, found⟩
    · exact .inl kept
    · exact .inr (.inr ⟨e, isPrefix.subset member, index, found⟩)
  | after whole =>
    cases c with
    | append new =>
      obtain rfl : new = [] := whole
      exact .inl rfl
    | truncate start =>
      by_cases below : n < start.index
      · left
        change (l.entries.filter fun k _ => decide (k < start.index)).find? n = _
        rw [SortedMap.find?_filter_key, if_pos (decide_eq_true below)]
      · exact .inr (.inl (UInt64.not_lt.mp below))
    | purge stop =>
      by_cases above : stop.index + 1 ≤ n
      · left
        change (l.entries.filter fun k _ => decide (stop.index + 1 ≤ k)).find? n = _
        rw [SortedMap.find?_filter_key, if_pos (decide_eq_true above)]
      · exact .inr (.inl (le_of_not_next_le above))
    | saveVote vote => exact .inl rfl

end Recovered

end LogChange

namespace LogFile.Holds

variable {files found : Files} {l : MemberLog}

theorem of_sameBut (holds : Holds files l) {temporary : String}
    (same : SameBut temporary files found) (state : stateName ≠ temporary)
    (entries : name ≠ temporary) : Holds found l where
  state := same stateName state ▸ holds.state
  entries := same name entries ▸ holds.entries

theorem of_replaceEntries (holds : Holds files l) {keep : UInt64 → Entry → Bool}
    (crash : Interrupted (LogFile.replaceEntries (l.entries.filter keep)) files found) :
    Holds found l ∨ Holds found { l with entries := l.entries.filter keep } := by
  rcases crash.of_replace with same | rfl
  · exact .inl (holds.of_sameBut same (by decide) (by decide))
  · exact .inr (holds.replaceEntries keep)

theorem of_writeState (holds : Holds files l) {hard : HardState}
    (crash : Interrupted (LogFile.writeState hard) files found) :
    Holds found l ∨ Holds found { l with hard := hard } := by
  rcases crash.of_replace with same | rfl
  · exact .inl (holds.of_sameBut same (by decide) (by decide))
  · exact .inr (holds.writeState hard)

/-- Files that were being appended to hold the log with the first of the new entries, and what is
left of a record behind them. -/
theorem openAt_appended (holds : Holds files l) {new : List Entry}
    (checked : ∀ e ∈ new, Record.Sealed e)
    (crash : Interrupted (LogChange.effects l (.append new)) files found) :
    ∃ part, part <+: new ∧ LogStore.openAt (.directory found) =
      .ok ⟨{ l with entries := MemberLog.overlay l.entries part }, .directory found⟩ := by
  obtain ⟨same, k, written⟩ := crash.of_appending
  obtain ⟨part, isPrefix, read⟩ := Record.readAll_take_encodeAll checked k
  obtain ⟨es, fit, old, replayed⟩ := holds.entries
  have state : readState (bytesIn found stateName) = .ok l.hard := by
    rw [same stateName (by decide)]
    exact holds.readState_eq
  refine ⟨part, isPrefix, ?_⟩
  rw [LogStore.openAt_directory state, written, old, Record.readAll_append fit, read]
  change Except.ok _ = _
  rw [MemberLog.overlay_append, replayed]

theorem openAt_recovered (holds : Holds files l) {c : LogChange}
    (checked : ∀ e ∈ c.appended, Record.Sealed e)
    (crash : Interrupted (c.effects l) files found) :
    ∃ m, LogStore.openAt (.directory found) = .ok ⟨m, .directory found⟩ ∧ c.Recovered l m := by
  have opens {m : MemberLog} (held : Holds found m) (recovered : c.Recovered l m) :
      ∃ m, LogStore.openAt (.directory found) = .ok ⟨m, .directory found⟩ ∧ c.Recovered l m :=
    ⟨m, LogStore.openAt_eq rfl held, recovered⟩
  cases c with
  | append new =>
    obtain ⟨part, isPrefix, opened⟩ := holds.openAt_appended checked crash
    exact ⟨_, opened, .appended isPrefix⟩
  | truncate start =>
    rcases holds.of_replaceEntries crash with old | new
    · exact opens old (.before _)
    · exact opens new (.after rfl)
  | purge stop =>
    -- The mark is written first, so a crash between the files finds it beside the old entries.
    have marked := holds.writeState { l.hard with purged := some stop }
    rcases crash.of_append with early | late
    · rcases holds.of_writeState early with old | new
      · exact opens old (.before _)
      · exact opens new (.marked stop)
    · rcases marked.of_replaceEntries late with old | new
      · exact opens old (.marked stop)
      · exact opens new (.after rfl)
  | saveVote vote =>
    rcases holds.of_writeState crash with old | new
    · exact opens old (.before _)
    · exact opens new (.after rfl)

end LogFile.Holds

namespace LogStore

open LogFile

/-- Wherever a change of a log is cut short, the log opens: with the vote and the purge mark of
before or after; with the first of the appended entries written over the old ones, or else with the
old or the new entries; and what is not there any longer was covered by the truncation or purge, or
has been written over. Files to which all of the change has come hold the new log and open to it, in
which the appended entries are found. -/
theorem recovers_from_crash {files : Files} {l : MemberLog} (holds : Holds files l) {c : LogChange}
    (checked : ∀ e ∈ c.appended, Record.Sealed e) {found : Files}
    (crash : Interrupted (c.effects l) files found) :
    (∃ m, openAt (.directory found) = .ok ⟨m, .directory found⟩ ∧
      (m.hard = l.hard ∨ m.hard = (c.on l).hard) ∧
      c.Leaves l m ∧
      ∀ n, m.entries.find? n = l.entries.find? n ∨ c.Covers n ∨
        ∃ e ∈ c.appended, e.index = n ∧ m.entries.find? n = some e) ∧
    ((∀ e ∈ c.appended, Record.Fits e) →
      Holds (all files (c.effects l)) (c.on l) ∧
      openAt (.directory (all files (c.effects l))) =
        .ok ⟨c.on l, .directory (all files (c.effects l))⟩ ∧
      ∀ e ∈ c.appended, ∃ d ∈ c.appended, d.index = e.index ∧
        (c.on l).entries.find? e.index = some d) := by
  constructor
  · obtain ⟨m, opened, recovered⟩ := holds.openAt_recovered checked crash
    exact ⟨m, opened, recovered.hard_eq, recovered.leaves, recovered.find?_eq⟩
  · intro fit
    have held := holds.on_effects fit
    exact ⟨held, openAt_eq rfl held, fun _ => c.find?_on_of_mem_appended l⟩

def appendsSecond : LogChange := .append [⟨⟨⟨2, 1⟩, 2⟩, .blank⟩]

theorem recovers_from_crash_tornRecord :
    ∃ files l found m, Holds files l ∧ l.entries.find? 2 = some twoEntries[1] ∧
      Interrupted (appendsSecond.effects l) files found ∧
      openAt (.directory found) = .ok ⟨m, .directory found⟩ ∧
      (∃ part, part <+: appendsSecond.appended ∧
        m.entries = MemberLog.overlay l.entries part) ∧
      openAt (.directory (all files (appendsSecond.effects l))) =
        .ok ⟨appendsSecond.on l, .directory (all files (appendsSecond.effects l))⟩ ∧
      (appendsSecond.on l).entries.find? 2 = some ⟨⟨⟨2, 1⟩, 2⟩, .blank⟩ := by
  have holds := Holds.empty.append fits_twoEntries
  have fits : ∀ e ∈ appendsSecond.appended, Record.Fits e := by
    intro e member
    obtain rfl := List.mem_singleton.mp member
    unfold Record.Fits
    decide +kernel
  obtain ⟨⟨m, opened, -, entries, -⟩, completed⟩ := recovers_from_crash holds
    (c := appendsSecond) (fun e member => .inl (fits e member)) (.cut 20)
  obtain ⟨-, reopened, appended⟩ := completed fits
  obtain ⟨d, among, -, there⟩ := appended _ List.mem_cons_self
  obtain rfl := List.mem_singleton.mp among
  exact ⟨_, _, _, m, holds, rfl, .cut 20, opened, entries, reopened, there⟩

end LogStore

end SeriesCluster
