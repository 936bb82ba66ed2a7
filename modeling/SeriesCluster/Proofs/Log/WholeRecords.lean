import SeriesCluster.Proofs.Except
import SeriesCluster.Proofs.Log.Crash

namespace SeriesCluster.Record

/-- The entries whose records end at or before a position of their file. -/
def endingBy (entries : List Entry) (k : Nat) : List Entry :=
  (entries.zipIdx.filter fun e => (encodeAll (entries.take (e.2 + 1))).length ≤ k).map (·.1)

theorem endingBy_cons (e : Entry) (entries : List Entry) (k : Nat) :
    endingBy (e :: entries) k =
      if (encode e).length ≤ k then e :: endingBy entries (k - (encode e).length) else [] := by
  have ending (i : Nat) : (encodeAll ((e :: entries).take (i + 1))).length =
      (encode e).length + (encodeAll (entries.take i)).length := by
    rw [List.take_succ_cons, encodeAll, List.flatMap_cons, List.length_append]
    rfl
  have first : (encodeAll ((e :: entries).take (0 + 1))).length = (encode e).length := by
    rw [ending, List.take_zero, encodeAll, List.flatMap_nil, List.length_nil, Nat.add_zero]
  rw [endingBy, List.zipIdx_cons', List.filter_cons, List.filter_map, first]
  by_cases enough : (encode e).length ≤ k
  · have later : ∀ d ∈ entries.zipIdx,
        decide ((encodeAll ((e :: entries).take (d.2 + 1 + 1))).length ≤ k) =
          decide ((encodeAll (entries.take (d.2 + 1))).length ≤ k - (encode e).length) := by
      intro d _
      rw [ending]
      exact decide_eq_decide.mpr (by omega)
    have kept := List.filter_congr later
    rw [if_pos (decide_eq_true enough), if_pos enough, List.map_cons, List.map_map, endingBy, ← kept]
    rfl
  · have none : ∀ d ∈ entries.zipIdx,
        ¬ decide ((encodeAll ((e :: entries).take (d.2 + 1 + 1))).length ≤ k) = true := by
      intro d _ within
      rw [ending, decide_eq_true_eq] at within
      omega
    have dropped := List.filter_eq_nil_iff.mpr none
    rw [if_neg (by simpa using enough), if_neg enough]
    exact congrArg (fun ds => (ds.map (Prod.map id (· + 1))).map (·.1)) dropped

theorem readAll_take {entries : List Entry} (fit : ∀ e ∈ entries, Fits e) (k : Nat) :
    readAll ((encodeAll entries).take k) = .ok (endingBy entries k) := by
  induction entries generalizing k with
  | nil =>
    rw [encodeAll, List.flatMap_nil, List.take_nil, readAll_nil]
    rfl
  | cons e entries ih =>
    obtain ⟨fits, later⟩ := List.forall_mem_cons.mp fit
    rw [readAll_take_cons fits, endingBy_cons, ih later]
    split <;> rfl

/-- What reading does not go past: less than a header, less than the payload that is announced, or a
payload that does not agree with its check. -/
inductive Stops : List UInt8 → Prop
  | header {rest : List UInt8} (short : rest.length < headerLength) : Stops rest
  | payload {length check : Nat} {body : List UInt8} (lengthBound : length < UInt32.size)
    (checkBound : check < UInt32.size) (short : body.length < length) :
    Stops (littleEndian 4 length ++ littleEndian 4 check ++ body)
  | mismatch {length check : Nat} {body : List UInt8} (lengthBound : length < UInt32.size)
    (checkBound : check < UInt32.size) (enough : length ≤ body.length)
    (differs : (Crc32.ofBytes (body.take length)).toNat ≠ check) :
    Stops (littleEndian 4 length ++ littleEndian 4 check ++ body)

/-- A file is made up of the records of some payloads and of something that reading does not go
past. -/
structure Splits (file : List UInt8) (payloads : List (List UInt8)) (rest : List UInt8) : Prop where
  file_eq : file = payloads.flatMap frame ++ rest
  fit : ∀ payload ∈ payloads, payload.length < UInt32.size
  stops : Stops rest

theorem ofLittleEndian_lt (bytes : List UInt8) : ofLittleEndian bytes < 256 ^ bytes.length := by
  induction bytes with
  | nil => exact Nat.one_pos
  | cons b bytes ih =>
    have low := b.toNat_lt
    rw [ofLittleEndian, List.length_cons, Nat.pow_succ]
    omega

theorem littleEndian_ofLittleEndian (bytes : List UInt8) :
    littleEndian bytes.length (ofLittleEndian bytes) = bytes := by
  induction bytes with
  | nil => rfl
  | cons b bytes ih =>
    have low := b.toNat_lt
    have quotient : (b.toNat + 256 * ofLittleEndian bytes) / 256 = ofLittleEndian bytes := by omega
    have first : UInt8.ofNat (b.toNat + 256 * ofLittleEndian bytes) = b := by
      apply UInt8.toNat_inj.mp
      rw [UInt8.toNat_ofNat']
      omega
    rw [List.length_cons, ofLittleEndian, littleEndian, quotient, ih, first]

theorem exists_word {bytes : List UInt8} (four : bytes.length = 4) :
    ∃ n, n < UInt32.size ∧ bytes = littleEndian 4 n := by
  have bound := ofLittleEndian_lt bytes
  have same := littleEndian_ofLittleEndian bytes
  rw [four] at bound same
  exact ⟨ofLittleEndian bytes, bound, same.symm⟩

theorem frame_or_stops (file : List UInt8) :
    (∃ payload rest, payload.length < UInt32.size ∧ file = frame payload ++ rest) ∨ Stops file := by
  by_cases short : file.length < headerLength
  · exact .inr (.header short)
  · have long : 8 ≤ file.length := Nat.not_lt.mp short
    have four : (file.take 4).length = 4 := by
      rw [List.length_take]
      omega
    have four' : ((file.drop 4).take 4).length = 4 := by
      rw [List.length_take, List.length_drop]
      omega
    obtain ⟨length, lengthBound, first⟩ := exists_word four
    obtain ⟨check, checkBound, second⟩ := exists_word four'
    have headed : file = littleEndian 4 length ++ littleEndian 4 check ++ (file.drop 4).drop 4 := by
      rw [← first, ← second, List.append_assoc, List.take_append_drop, List.take_append_drop]
    generalize (file.drop 4).drop 4 = body at headed
    rw [headed]
    by_cases torn : body.length < length
    · exact .inr (.payload lengthBound checkBound torn)
    · by_cases agrees : (Crc32.ofBytes (body.take length)).toNat = check
      · have own : (body.take length).length = length :=
          List.length_take_of_le (Nat.not_lt.mp torn)
        refine .inl ⟨body.take length, body.drop length, own.symm ▸ lengthBound, ?_⟩
        rw [frame, own, agrees, List.append_assoc _ (body.take length), List.take_append_drop]
      · exact .inr (.mismatch lengthBound checkBound (Nat.not_lt.mp torn) agrees)

theorem front_of_stops {rest : List UInt8} (stops : Stops rest) (payload later : List UInt8) :
    front rest ≠ .record payload later := by
  cases stops with
  | header short =>
    rw [front_short_file short]
    exact Front.noConfusion
  | payload lengthBound checkBound short =>
    rw [front_header lengthBound checkBound, if_pos short]
    exact Front.noConfusion
  | mismatch lengthBound checkBound enough differs =>
    rw [front_header lengthBound checkBound, if_neg (Nat.not_lt.mpr enough), if_neg differs]
    exact Front.noConfusion

theorem exists_splits (file : List UInt8) : ∃ payloads rest, Splits file payloads rest := by
  -- Each record leaves a shorter file behind it.
  induction length : file.length using Nat.strongRecOn generalizing file with
  | ind n ih =>
    rcases frame_or_stops file with ⟨payload, rest, bound, rfl⟩ | stops
    · have shorter : rest.length < n := by
        rw [← length, List.length_append, length_frame, headerLength]
        omega
      obtain ⟨payloads, last, splits⟩ := ih rest.length shorter rest rfl
      refine ⟨payload :: payloads, last, ?_, List.forall_mem_cons.mpr ⟨bound, splits.fit⟩,
        splits.stops⟩
      rw [List.flatMap_cons, List.append_assoc, ← splits.file_eq]
    · exact ⟨[], file, rfl, List.forall_mem_nil _, stops⟩

namespace Splits

variable {file rest : List UInt8} {parts : List (List UInt8)}

theorem payloads_eq (splits : Splits file parts rest) : payloads file = parts := by
  obtain ⟨rfl, fit, stops⟩ := splits
  induction parts with
  | nil => exact payloads_of_front (front_of_stops stops)
  | cons payload parts ih =>
    obtain ⟨bound, later⟩ := List.forall_mem_cons.mp fit
    rw [List.flatMap_cons, List.append_assoc, payloads_frame bound, ih later]

theorem unique (splits : Splits file parts rest) {parts' : List (List UInt8)} {rest' : List UInt8}
    (again : Splits file parts' rest') : parts' = parts ∧ rest' = rest := by
  obtain rfl : parts' = parts := again.payloads_eq.symm.trans splits.payloads_eq
  exact ⟨rfl, List.append_cancel_left (again.file_eq.symm.trans splits.file_eq)⟩

theorem length_le (splits : Splits file parts rest) : headerLength * parts.length ≤ file.length := by
  have headers (parts : List (List UInt8)) :
      headerLength * parts.length ≤ (parts.flatMap frame).length := by
    induction parts with
    | nil => exact Nat.le_refl 0
    | cons payload parts ih =>
      rw [List.length_cons, List.flatMap_cons, List.length_append, length_frame, Nat.mul_succ]
      omega
  rw [splits.file_eq, List.length_append]
  exact Nat.le_trans (headers parts) (Nat.le_add_right ..)

end Splits

/-- The entries of a file that was written as records and cut anywhere are those whose records end at
or before the cut. Any other file gives the entries that its first payloads are, up to where reading
stops, or a fault if one of these is no entry. -/
theorem reads_whole_records :
    (∀ (entries : List Entry) (k : Nat), (∀ e ∈ entries, Fits e) →
      readAll ((encodeAll entries).take k) = .ok (endingBy entries k)) ∧
    ∀ file, ∃ parts rest, Splits file parts rest ∧
      (∀ parts' rest', Splits file parts' rest' → parts' = parts ∧ rest' = rest) ∧
      headerLength * parts.length ≤ file.length ∧
      ∀ entries, readAll file = .ok entries ↔
        List.Forall₂ (fun payload e => Json.ofBytes Entry payload = .ok e) parts entries := by
  refine ⟨fun entries k fit => readAll_take fit k, fun file => ?_⟩
  obtain ⟨parts, rest, splits⟩ := exists_splits file
  refine ⟨parts, rest, splits, fun _ _ again => splits.unique again, splits.length_le, ?_⟩
  intro entries
  rw [readAll, splits.payloads_eq]
  exact mapM_eq_ok_iff

theorem reads_whole_records_torn : (∀ e ∈ LogStore.twoEntries, Fits e) ∧
    readAll ((encodeAll LogStore.twoEntries).take 103) = .ok [⟨⟨⟨1, 1⟩, 1⟩, .blank⟩] := by
  have read := reads_whole_records.1 LogStore.twoEntries 103 LogStore.fits_twoEntries
  have first : endingBy LogStore.twoEntries 103 = [⟨⟨⟨1, 1⟩, 1⟩, .blank⟩] := by decide +kernel
  exact ⟨LogStore.fits_twoEntries, read.trans (congrArg Except.ok first)⟩

end SeriesCluster.Record
