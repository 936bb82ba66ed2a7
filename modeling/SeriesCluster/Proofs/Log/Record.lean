import SeriesCluster.Log.Record
import SeriesCluster.Proofs.Consensus.Lossless

namespace SeriesCluster.Record

theorem length_littleEndian (count n : Nat) : (littleEndian count n).length = count := by
  induction count generalizing n with
  | zero => rfl
  | succ count ih => rw [littleEndian, List.length_cons, ih]

theorem ofLittleEndian_littleEndian {count n : Nat} (bound : n < Nat.pow 256 count) :
    ofLittleEndian (littleEndian count n) = n := by
  induction count generalizing n with
  | zero =>
    have none : n = 0 := Nat.lt_one_iff.mp bound
    rw [none]
    rfl
  | succ count ih =>
    have quotient : n / 256 < Nat.pow 256 count := by
      change n < Nat.pow 256 count * 256 at bound
      exact Nat.div_lt_of_lt_mul (by omega)
    have low : (UInt8.ofNat n).toNat = n % 256 := UInt8.toNat_ofNat'
    rw [littleEndian, ofLittleEndian, ih quotient, low]
    omega

def Fits (e : Entry) : Prop := (Json.toBytes e).length < UInt32.size

theorem length_frame (payload : List UInt8) : (frame payload).length = headerLength + payload.length := by
  simp only [frame, List.length_append, length_littleEndian, headerLength]

theorem length_encode (e : Entry) : (encode e).length = headerLength + (Json.toBytes e).length :=
  length_frame _

theorem front_header {length check : Nat} (lengthBound : length < UInt32.size)
    (checkBound : check < UInt32.size)
    (body : List UInt8) :
    front (littleEndian 4 length ++ littleEndian 4 check ++ body) =
      if body.length < length then .torn
      else if (Crc32.ofBytes (body.take length)).toNat = check then
        .record (body.take length) (body.drop length)
      else .mismatch := by
  have four : (littleEndian 4 length).length = 4 := length_littleEndian 4 length
  have four' : (littleEndian 4 check).length = 4 := length_littleEndian 4 check
  have whole : ¬ ((littleEndian 4 length ++ littleEndian 4 check ++ body).take headerLength).length <
      headerLength := by
    simp only [List.length_take, List.length_append, four, four', headerLength]
    omega
  have first : (littleEndian 4 length ++ littleEndian 4 check ++ body).take 4 = littleEndian 4 length := by
    rw [List.append_assoc, List.take_left' four]
  have second : ((littleEndian 4 length ++ littleEndian 4 check ++ body).drop 4).take 4 =
      littleEndian 4 check := by
    rw [List.append_assoc, List.drop_left' four, List.take_left' four']
  have rest : (littleEndian 4 length ++ littleEndian 4 check ++ body).drop headerLength = body := by
    rw [List.drop_left' (by rw [List.length_append, four, four']; rfl)]
  rw [front, if_neg whole]
  have announced : ofLittleEndian (littleEndian 4 length) = length :=
    ofLittleEndian_littleEndian lengthBound
  have checked : ofLittleEndian (littleEndian 4 check) = check := ofLittleEndian_littleEndian checkBound
  simp only [first, second, rest, announced, checked, List.length_take]
  by_cases short : body.length < length
  · rw [if_pos short, if_pos (by omega)]
  · rw [if_neg short, if_neg (by omega)]

theorem front_frame {payload : List UInt8} (bound : payload.length < UInt32.size) (rest : List UInt8) :
    front (frame payload ++ rest) = .record payload rest := by
  have check : (Crc32.ofBytes payload).toNat < UInt32.size := (Crc32.ofBytes payload).toNat_lt
  rw [frame, List.append_assoc, front_header bound check, List.take_left, List.drop_left]
  simp

theorem payloads_of_record {file payload rest : List UInt8} (found : front file = .record payload rest) :
    payloads file = payload :: payloads rest := by
  rw [payloads]
  split
  · rename_i front_eq
    rw [found] at front_eq
    cases front_eq
    rfl
  · rename_i other
    exact absurd found (other payload rest)

theorem payloads_frame {payload : List UInt8} (bound : payload.length < UInt32.size) (rest : List UInt8) :
    payloads (frame payload ++ rest) = payload :: payloads rest :=
  payloads_of_record (front_frame bound rest)

theorem payloads_encodeAll {entries : List Entry} (fit : ∀ e ∈ entries, Fits e) (rest : List UInt8) :
    payloads (encodeAll entries ++ rest) = entries.map Json.toBytes ++ payloads rest := by
  induction entries with
  | nil => rfl
  | cons e entries ih =>
    rw [encodeAll, List.flatMap_cons, List.append_assoc, encode,
      payloads_frame (fit e List.mem_cons_self), ← encodeAll,
      ih fun d member => fit d (List.mem_cons_of_mem _ member)]
    rfl

theorem ofBytes_entry (e : Entry) : Json.ofBytes Entry (Json.toBytes e) = .ok e :=
  Json.ofBytes_toBytes (by decide) e

theorem readAll_append {entries : List Entry} (fit : ∀ e ∈ entries, Fits e) (rest : List UInt8) :
    readAll (encodeAll entries ++ rest) = (readAll rest).map (entries ++ ·) := by
  have written : (entries.map Json.toBytes).mapM (Json.ofBytes Entry) = .ok entries :=
    Json.mapM_map_eq_ok ofBytes_entry entries
  rw [readAll, payloads_encodeAll fit, List.mapM_append, written, readAll]
  cases (payloads rest).mapM (Json.ofBytes Entry) <;> rfl

theorem readAll_nil : readAll [] = .ok [] := by
  rw [readAll, payloads]
  rfl

theorem readAll_encodeAll {entries : List Entry} (fit : ∀ e ∈ entries, Fits e) :
    readAll (encodeAll entries) = .ok entries := by
  have read := readAll_append fit []
  rw [List.append_nil, readAll_nil] at read
  rw [read]
  exact congrArg Except.ok (List.append_nil entries)

/-- The bytes of a record that was begun and not ended. -/
structure Begun (e : Entry) (torn : List UInt8) : Prop where
  isPrefix : torn <+: encode e
  short : torn.length < (encode e).length

theorem take_encodeAll (entries : List Entry) (k : Nat) :
    ∃ whole torn, (encodeAll entries).take k = encodeAll whole ++ torn ∧
      (whole = entries ∧ torn = [] ∨ ∃ e later, entries = whole ++ e :: later ∧ Begun e torn) := by
  induction entries generalizing k with
  | nil => exact ⟨[], [], List.take_nil, .inl ⟨rfl, rfl⟩⟩
  | cons e entries ih =>
    have split : encodeAll (e :: entries) = encode e ++ encodeAll entries := List.flatMap_cons
    rw [split, List.take_append]
    by_cases enough : (encode e).length ≤ k
    · obtain ⟨whole, torn, cut, place⟩ := ih (k - (encode e).length)
      refine ⟨e :: whole, torn, ?_, ?_⟩
      · rw [cut, List.take_of_length_le enough, ← List.append_assoc]
        rfl
      · rcases place with ⟨rfl, rfl⟩ | ⟨d, later, rfl, begun⟩
        · exact .inl ⟨rfl, rfl⟩
        · exact .inr ⟨d, later, rfl, begun⟩
    · have none : k - (encode e).length = 0 := by omega
      refine ⟨[], (encode e).take k, ?_, .inr ⟨e, entries, rfl, List.take_prefix _ _, ?_⟩⟩
      · rw [none, List.take_zero, List.append_nil]
        rfl
      · rw [List.length_take]
        omega

theorem Begun.announced {e : Entry} {torn : List UInt8} (begun : Begun e torn)
    (header : 4 ≤ torn.length) : torn.take 4 = littleEndian 4 (Json.toBytes e).length := by
  obtain ⟨rest, same⟩ := begun.isPrefix
  have first : (torn ++ rest).take 4 = torn.take 4 := List.take_append_of_le_length header
  rw [← first, same, encode, frame, List.append_assoc, List.take_left' (length_littleEndian 4 _)]

theorem front_begun {e : Entry} (fits : Fits e) {torn : List UInt8} (begun : Begun e torn)
    (payload rest : List UInt8) : front torn ≠ .record payload rest := by
  have short := begun.short
  rw [length_encode] at short
  unfold front
  split
  · exact Front.noConfusion
  · rename_i whole
    simp only [List.length_take, headerLength] at whole short
    have announced : ofLittleEndian (torn.take 4) = (Json.toBytes e).length := by
      rw [begun.announced (by omega), ofLittleEndian_littleEndian fits]
    dsimp only
    rw [announced, if_pos]
    · exact Front.noConfusion
    · simp only [List.length_take, List.length_drop, headerLength]
      omega

theorem payloads_of_front {file : List UInt8} (none : ∀ payload rest, front file ≠ .record payload rest) :
    payloads file = [] := by
  rw [payloads]
  split
  · rename_i payload rest found
    exact absurd found (none payload rest)
  · rfl

theorem readAll_of_front {file : List UInt8} (none : ∀ payload rest, front file ≠ .record payload rest) :
    readAll file = .ok [] := by
  rw [readAll, payloads_of_front none]
  rfl

/-- A cut behind the first record leaves its entry to be read, and a cut in it nothing. -/
theorem readAll_take_cons {e : Entry} (fits : Fits e) (entries : List Entry) (k : Nat) :
    readAll ((encodeAll (e :: entries)).take k) =
      if (encode e).length ≤ k then
        (readAll ((encodeAll entries).take (k - (encode e).length))).map (e :: ·)
      else .ok [] := by
  have split : encodeAll (e :: entries) = encode e ++ encodeAll entries := List.flatMap_cons
  rw [split]
  by_cases enough : (encode e).length ≤ k
  · have one : encode e = encodeAll [e] := (List.append_nil _).symm
    rw [if_pos enough, List.take_append, List.take_of_length_le enough, one,
      readAll_append (by simpa using fits), ← one]
    rfl
  · have begun : Begun e ((encode e).take k) :=
      ⟨List.take_prefix _ _, by rw [List.length_take]; omega⟩
    rw [if_neg enough, List.take_append_of_le_length (by omega),
      readAll_of_front (front_begun fits begun)]

theorem readAll_begun {whole : List Entry} (fit : ∀ e ∈ whole, Fits e) {e : Entry} (fits : Fits e)
    {torn : List UInt8} (begun : Begun e torn) : readAll (encodeAll whole ++ torn) = .ok whole := by
  rw [readAll_append fit, readAll_of_front (front_begun fits begun)]
  exact congrArg Except.ok (List.append_nil whole)

end SeriesCluster.Record
