import SeriesCluster.Proofs.Json.Control
import SeriesCluster.Proofs.Log.Refinement

/-!
What is appended behind a torn record. Opening a log leaves a record that was begun in its file, and
the records of later entries are written behind it, where they are taken for its missing bytes. So
entries survive if and only if the file was cut between records: `survives_iff_cut_between_records`.
-/

namespace SeriesCluster

namespace Crc32

/-- The remainder after bytes as a number, which is worked out before the next byte is taken. -/
def remainder (c : Nat) : List UInt8 → Nat
  | [] => c
  | b :: rest =>
    match c with
    | 0 => remainder (step 0 b).toNat rest
    | n + 1 => remainder (step (UInt32.ofNat (n + 1)) b).toNat rest

theorem remainder_eq (c : UInt32) (bytes : List UInt8) :
    remainder c.toNat bytes = (bytes.foldl step c).toNat := by
  induction bytes generalizing c with
  | nil => rfl
  | cons b rest ih =>
    have same : UInt32.ofNat c.toNat = c := UInt32.ofNat_toNat
    have next : remainder c.toNat (b :: rest) = remainder (step c b).toNat rest := by
      cases value : c.toNat with
      | zero =>
        rw [value] at same
        rw [← same]
        rfl
      | succ n =>
        rw [value] at same
        rw [← same]
        rfl
    rw [next, ih, List.foldl_cons]

theorem ofBytes_eq_remainder (bytes : List UInt8) :
    ofBytes bytes = UInt32.ofNat (remainder 0xffffffff bytes) ^^^ 0xffffffff := by
  have all := remainder_eq 0xffffffff bytes
  change remainder 0xffffffff bytes = _ at all
  rw [all, UInt32.ofNat_toNat]
  rfl

end Crc32

namespace Record

/-- The head of a record that no record begun before it can take for its missing bytes: it has a
long payload, and its first bytes are control characters, which no payload has. -/
structure Foreign (e : Entry) : Prop where
  head : ∃ check, (encode e).take 5 = [1, 1, 0, 0, check] ∧
    Json.isControl (Char.ofNat check.toNat) = true
  length : (encode e).length < UInt16.size

theorem Foreign.control {e : Entry} (foreign : Foreign e) {i : Nat} (early : i < 5) {b : UInt8}
    (found : (encode e)[i]? = some b) : Json.isControl (Char.ofNat b.toNat) = true := by
  obtain ⟨check, head, control⟩ := foreign.head
  rw [← List.getElem?_take_of_lt early, head] at found
  match i, found with
  | 0, rfl | 1, rfl | 2, rfl | 3, rfl => rfl
  | 4, rfl => exact control

theorem front_short {e : Entry} (foreign : Foreign e) {torn : List UInt8} (nonempty : torn ≠ [])
    (short : torn.length < 4) (payload rest : List UInt8) :
    front (torn ++ encode e) ≠ .record payload rest := by
  have size : UInt16.size = 65536 := rfl
  have bound := foreign.length
  obtain ⟨check, head, -⟩ := foreign.head
  have bytes : encode e = 1 :: 1 :: 0 :: 0 :: check :: (encode e).drop 5 := by
    rw [← List.take_append_drop 5 (encode e), head]
    rfl
  rw [bytes] at bound ⊢
  simp only [List.length_cons, List.length_drop] at bound
  unfold front
  split
  · exact Front.noConfusion
  · dsimp only
    rw [if_pos]
    · exact Front.noConfusion
    · match torn, nonempty, short with
      | [x], _, _ =>
        simp [ofLittleEndian, headerLength]
        omega
      | [x, y], _, _ =>
        simp [ofLittleEndian, headerLength]
        omega
      | [x, y, z], _, _ =>
        simp [ofLittleEndian, headerLength]
        omega

theorem payload_of_front {file payload rest : List UInt8} (found : front file = .record payload rest) :
    payload = (file.drop headerLength).take (ofLittleEndian (file.take 4)) := by
  unfold front at found
  split at found
  · cases found
  · dsimp only at found
    split at found
    · cases found
    · split at found
      · cases found
        rfl
      · cases found

theorem toBytes_ne_nil (e : Entry) : Json.toBytes e ≠ [] := by
  intro empty
  have read := ofBytes_entry e
  rw [empty] at read
  have refused : (Json.ofBytes Entry []).toOption = none := by decide
  rw [read] at refused
  cases refused

/-- A payload that is made up of a record that was begun and of a foreign one behind it has a
control character. -/
theorem control_of_front {e d : Entry} (foreign : Foreign e) (fits : Fits d) {torn : List UInt8}
    (begun : Begun d torn) (header : 4 ≤ torn.length) {payload rest : List UInt8}
    (found : front (torn ++ encode e) = .record payload rest) :
    ∃ c ∈ Json.byteChars payload, Json.isControl c = true := by
  have short := begun.short
  have nonempty : 0 < (Json.toBytes d).length := List.length_pos_iff.mpr (toBytes_ne_nil d)
  have own := length_encode e
  rw [length_encode] at short
  simp only [headerLength] at short own
  have announced : ofLittleEndian ((torn ++ encode e).take 4) = (Json.toBytes d).length := by
    rw [List.take_append_of_le_length header, begun.announced header, ofLittleEndian_littleEndian fits]
  have taken := payload_of_front found
  rw [announced] at taken
  -- The first byte of the payload that is not of the record that was begun.
  have within : 8 - torn.length < (encode e).length := by omega
  obtain ⟨b, first⟩ : ∃ b, (encode e)[8 - torn.length]? = some b :=
    ⟨_, List.getElem?_eq_getElem within⟩
  have there : payload[torn.length - 8]? = some b := by
    rw [taken, List.getElem?_take_of_lt (by omega), List.getElem?_drop,
      List.getElem?_append_right (by simp only [headerLength]; omega), ← first]
    congr 1
    simp only [headerLength]
    omega
  have control := foreign.control (by omega) first
  exact ⟨Char.ofNat b.toNat, List.mem_map_of_mem (List.mem_of_getElem? there), control⟩

theorem readAll_foreign {e d : Entry} (foreign : Foreign e) (fits : Fits d) {torn : List UInt8}
    (begun : Begun d torn) (nonempty : torn ≠ []) {entries : List Entry}
    (read : readAll (torn ++ encode e) = .ok entries) : entries = [] := by
  by_cases header : 4 ≤ torn.length
  · cases found : front (torn ++ encode e) with
    | record payload rest =>
      obtain ⟨c, member, control⟩ := control_of_front foreign fits begun header found
      have list : payloads (torn ++ encode e) = payload :: payloads rest := payloads_of_record found
      rw [readAll, list, List.mapM_cons] at read
      cases decoded : Json.ofBytes Entry payload with
      | error fault =>
        rw [decoded] at read
        cases read
      | ok d =>
        have shown := Json.not_isControl_of_decodeBytes decoded c member
        rw [shown] at control
        cases control
    | _ =>
      rw [readAll_of_front (by rw [found]; exact fun _ _ => Front.noConfusion)] at read
      cases read
      rfl
  · rw [readAll_of_front (front_short foreign nonempty (by omega))] at read
    cases read
    rfl

def zeros (term : UInt64) : Entry := ⟨⟨⟨term, 1⟩, 1⟩, .normal ⟨List.replicate 82 0⟩⟩

theorem foreign_of_payload {e : Entry} (check : UInt32) (length : (Json.toBytes e).length = 257)
    (checked : Crc32.ofBytes (Json.toBytes e) = check)
    (control : Json.isControl (Char.ofNat check.toUInt8.toNat) = true) : Foreign e := by
  refine ⟨⟨check.toUInt8, ?_, control⟩, ?_⟩
  · rw [encode, frame, length, checked]
    have low : UInt8.ofNat check.toNat = check.toUInt8 := rfl
    simp [littleEndian, low]
  · rw [length_encode, length]
    decide

theorem length_zeros :
    (Json.toBytes (zeros 16)).length = 257 ∧ (Json.toBytes (zeros 18)).length = 257 := by
  decide +kernel

theorem fits_zeros : Fits (zeros 16) ∧ Fits (zeros 18) := by
  unfold Fits
  rw [length_zeros.1, length_zeros.2]
  decide

theorem foreign_zeros : Foreign (zeros 16) ∧ Foreign (zeros 18) := by
  constructor
  · refine foreign_of_payload 333908483 length_zeros.1 ?_ (by decide)
    rw [Crc32.ofBytes_eq_remainder]
    decide +kernel
  · refine foreign_of_payload 235621902 length_zeros.2 ?_ (by decide)
    rw [Crc32.ofBytes_eq_remainder]
    decide +kernel

end Record

namespace LogStore

open FileEffect LogFile MemberLog

/-- Whether what is appended to the log of a place, once opened, is in the log when the place is
opened again. -/
def Survives (place : Place) (batches : List (List Entry)) : Prop :=
  ∃ first last again, openAt place = .ok first ∧
    first.run? (batches.map fun new => .change (.append new)) = some last ∧
    openAt last.place = .ok again ∧
    again.log.entries = overlay first.log.entries batches.flatten

theorem openAt_directory {files : Files} {hard : HardState}
    (state : readState (bytesIn files stateName) = .ok hard) :
    openAt (.directory files) = match Record.readAll ((bytesIn files name).getD []) with
      | .ok es => .ok ⟨⟨hard, overlay ∅ es⟩, .directory files⟩
      | .error fault => .error (.serialization fault.reason?) := by
  have read : readFiles (.directory files) = (do
      let entries ← Record.readAll ((bytesIn files name).getD [])
      return { hard := hard, entries := overlay ∅ entries }) := by
    rw [readFiles_eq_parts, ← readEntries_eq]
    change (readState (bytesIn files stateName) >>= fun hard => _) = _
    rw [state]
    rfl
  have created : (Place.directory files).created = .directory files := rfl
  rw [openAt, created, read]
  cases Record.readAll ((bytesIn files name).getD []) <;> rfl

theorem run?_append (l : MemberLog) (files : Files) (batches : List (List Entry)) :
    ∃ later, run? ⟨l, .directory files⟩ (batches.map fun new => .change (.append new)) =
        some ⟨{ l with entries := overlay l.entries batches.flatten }, .directory later⟩ ∧
      (bytesIn later name).getD [] =
        (bytesIn files name).getD [] ++ Record.encodeAll batches.flatten ∧
      bytesIn later stateName = bytesIn files stateName := by
  induction batches generalizing l files with
  | nil => exact ⟨files, rfl, (List.append_nil _).symm, rfl⟩
  | cons new batches ih =>
    obtain ⟨later, run, written, state⟩ := ih { l with entries := overlay l.entries new }
      ((FileEffect.append name (Record.encodeAll new)).on files)
    refine ⟨later, ?_, ?_, ?_⟩
    · rw [List.flatten_cons, overlay_append]
      exact run
    · rw [written, bytesIn_on_append, if_pos rfl, List.flatten_cons, Option.getD_some,
        List.append_assoc]
      exact congrArg _ List.flatMap_append.symm
    · rw [state, bytesIn_on_append, if_neg (by decide)]

variable {files : Files} {hard : HardState}

theorem survives_of_whole {whole : List Entry} (fit : ∀ e ∈ whole, Record.Fits e)
    (state : readState (bytesIn files stateName) = .ok hard)
    (written : (bytesIn files name).getD [] = Record.encodeAll whole) {batches : List (List Entry)}
    (fits : ∀ e ∈ batches.flatten, Record.Fits e) : Survives (.directory files) batches := by
  obtain ⟨later, run, appended, kept⟩ := run?_append ⟨hard, overlay ∅ whole⟩ files batches
  have opened := openAt_directory state
  rw [written, Record.readAll_encodeAll fit] at opened
  have both : ∀ e ∈ whole ++ batches.flatten, Record.Fits e := by
    intro e member
    rcases List.mem_append.mp member with member | member
    · exact fit e member
    · exact fits e member
  have again := openAt_directory (kept ▸ state)
  have file : Record.encodeAll whole ++ Record.encodeAll batches.flatten =
      Record.encodeAll (whole ++ batches.flatten) := List.flatMap_append.symm
  rw [appended, written, file, Record.readAll_encodeAll both] at again
  exact ⟨_, _, _, opened, run, again, overlay_append ∅ whole batches.flatten⟩

theorem find?_overlay_one (m : SortedMap UInt64 Entry) (e : Entry) :
    (overlay m [e]).find? e.index = some e := by
  change (m.insert e.index e).find? e.index = some e
  rw [SortedMap.find?_insert, if_pos rfl]

theorem find?_of_survives {whole : List Entry} (fit : ∀ e ∈ whole, Record.Fits e)
    (state : readState (bytesIn files stateName) = .ok hard) {d : Entry} (fits : Record.Fits d)
    {torn : List UInt8} (begun : Record.Begun d torn) (nonempty : torn ≠ [])
    (written : (bytesIn files name).getD [] = Record.encodeAll whole ++ torn) {e : Entry}
    (foreign : Record.Foreign e) (survives : Survives (.directory files) [[e]]) :
    (overlay ∅ whole).find? e.index = some e := by
  obtain ⟨first, last, again, opened, run, reopened, kept⟩ := survives
  rw [openAt_directory state, written, Record.readAll_begun fit fits begun] at opened
  cases opened
  obtain ⟨later, run', appended, state'⟩ := run?_append ⟨hard, overlay ∅ whole⟩ files [[e]]
  rw [run] at run'
  cases run'
  have one : Record.encodeAll [[e]].flatten = Record.encode e := List.append_nil _
  rw [openAt_directory (state' ▸ state), appended, written, List.append_assoc, one,
    Record.readAll_append fit] at reopened
  cases read : Record.readAll (torn ++ Record.encode e) with
  | error fault =>
    rw [read] at reopened
    cases reopened
  | ok entries =>
    obtain rfl := Record.readAll_foreign foreign fits begun nonempty read
    rw [read] at reopened
    cases reopened
    change overlay ∅ (whole ++ []) = overlay (overlay ∅ whole) [e] at kept
    rw [List.append_nil] at kept
    rw [kept]
    exact find?_overlay_one _ e

/-- Wherever the file of a log is cut, opening it gives the entries of its whole records; and all
that is appended then is there when it is opened again if and only if there are no bytes behind
them. -/
theorem survives_iff_cut_between_records {es : List Entry} (fit : ∀ e ∈ es, Record.Fits e) {k : Nat}
    (cut : bytesIn files name = some ((Record.encodeAll es).take k))
    (state : readState (bytesIn files stateName) = .ok hard) :
    ∃ whole, whole <+: es ∧
      openAt (.directory files) = .ok ⟨⟨hard, overlay ∅ whole⟩, .directory files⟩ ∧
      ((∀ batches : List (List Entry), (∀ e ∈ batches.flatten, Record.Fits e) →
          Survives (.directory files) batches) ↔
        (Record.encodeAll es).take k = Record.encodeAll whole) := by
  obtain ⟨whole, torn, split, place⟩ := Record.take_encodeAll es k
  have written : (bytesIn files name).getD [] = Record.encodeAll whole ++ torn := by
    rw [cut, split]
    rfl
  have opened := openAt_directory state
  rcases place with ⟨rfl, rfl⟩ | ⟨d, later, rfl, begun⟩
  · rw [List.append_nil] at written split
    rw [written, Record.readAll_encodeAll fit] at opened
    refine ⟨whole, List.prefix_rfl, opened, ?_⟩
    exact ⟨fun _ => split, fun _ batches fits => survives_of_whole fit state written fits⟩
  · have own : ∀ e ∈ whole, Record.Fits e := fun e member =>
      fit e (List.mem_append_left _ member)
    have fits : Record.Fits d := fit d (by simp)
    rw [written, Record.readAll_begun own fits begun] at opened
    refine ⟨whole, List.prefix_append _ _, opened, ?_⟩
    rw [split]
    constructor
    · intro survives
      by_cases none : torn = []
      · rw [none, List.append_nil]
      · -- At most one of two entries can have been at their position before.
        have first := find?_of_survives own state fits begun none written Record.foreign_zeros.1
          (survives [[Record.zeros 16]] (by simpa using Record.fits_zeros.1))
        have second := find?_of_survives own state fits begun none written Record.foreign_zeros.2
          (survives [[Record.zeros 18]] (by simpa using Record.fits_zeros.2))
        have same : some (Record.zeros 16) = some (Record.zeros 18) := first.symm.trans second
        exact absurd same (by decide)
    · intro none batches fits
      exact survives_of_whole own state (written.trans none) fits

def twoEntries : List Entry :=
  [⟨⟨⟨1, 1⟩, 1⟩, .blank⟩, ⟨⟨⟨1, 1⟩, 2⟩, .normal ⟨List.replicate 40 0⟩⟩]

def tornFiles : Files := (∅ : Files).insert name ((Record.encodeAll twoEntries).take 103).toArray

theorem fits_twoEntries : ∀ e ∈ twoEntries, Record.Fits e := by
  unfold Record.Fits
  decide +kernel

theorem survives_iff_cut_torn :
    ∃ whole, whole <+: twoEntries ∧
      openAt (.directory tornFiles) = .ok ⟨⟨{}, overlay ∅ whole⟩, .directory tornFiles⟩ ∧
      ((∀ batches : List (List Entry), (∀ e ∈ batches.flatten, Record.Fits e) →
          Survives (.directory tornFiles) batches) ↔
        (Record.encodeAll twoEntries).take 103 = Record.encodeAll whole) :=
  survives_iff_cut_between_records fits_twoEntries rfl rfl

/-- An entry that was appended to the torn log, and is not there when the log is opened again. -/
theorem lost_behind_torn_record :
    ∃ first last again, openAt (.directory tornFiles) = .ok first ∧
      first.run? [.change (.append [⟨⟨⟨2, 1⟩, 2⟩, .blank⟩])] = some last ∧
      openAt last.place = .ok again ∧ last.log.entries.find? 2 = some ⟨⟨⟨2, 1⟩, 2⟩, .blank⟩ ∧
      again.log.entries.find? 2 = none := by
  have fits : ∀ e ∈ twoEntries.take 1, Record.Fits e := fun e member =>
    fits_twoEntries e (List.mem_of_mem_take member)
  have cut : (bytesIn tornFiles name).getD [] =
      Record.encodeAll (twoEntries.take 1) ++ (Record.encode twoEntries[1]).take 20 := by
    have length : (Record.encodeAll (twoEntries.take 1)).length = 83 := by decide +kernel
    change (Record.encodeAll (twoEntries.take 1) ++ (Record.encode twoEntries[1] ++ [])).take 103 = _
    rw [List.append_nil, List.take_append, length, List.take_of_length_le (by omega)]
  have begun : Record.Begun twoEntries[1] ((Record.encode twoEntries[1]).take 20) :=
    ⟨List.take_prefix _ _, by decide +kernel⟩
  have opened : openAt (.directory tornFiles) = _ := openAt_directory rfl
  rw [cut, Record.readAll_begun fits (fits_twoEntries _ (by simp)) begun] at opened
  obtain ⟨later, run, appended, state⟩ := run?_append ⟨{}, overlay ∅ (twoEntries.take 1)⟩ tornFiles
    [[⟨⟨⟨2, 1⟩, 2⟩, .blank⟩]]
  -- The torn record announces more than the bytes of it and of the new record together.
  have short : Record.front ((Record.encode twoEntries[1]).take 20 ++
      Record.encodeAll [[⟨⟨⟨2, 1⟩, 2⟩, .blank⟩]].flatten) = .torn := by
    decide +kernel
  have kept : readState (bytesIn later stateName) = .ok {} := by
    rw [state]
    rfl
  have again := openAt_directory kept
  rw [appended, cut, List.append_assoc, Record.readAll_append fits,
    Record.readAll_of_front (by rw [short]; exact fun _ _ => Record.Front.noConfusion)] at again
  exact ⟨_, _, _, opened, run, again, rfl, rfl⟩

end LogStore

end SeriesCluster
