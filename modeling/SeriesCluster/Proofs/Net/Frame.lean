import Mathlib.Algebra.Group.Nat.Defs
import SeriesCluster.Net.Frame
import SeriesCluster.Proofs.Except

namespace SeriesCluster.Frame

section Carrying

variable {α : Type} [Json.Codec α]

@[simp] theorem type_carrying (type : UInt8) (a : α) : (carrying type a).type = type := rfl

@[simp] theorem payload_carrying (type : UInt8) (a : α) :
    (carrying type a).payload = Json.toBytes a := rfl

theorem decodePayload_carrying {a : α} (kept : Json.ofBytes α (Json.toBytes a) = .ok a)
    (type : UInt8) : decodePayload α (carrying type a).payload = .ok a := by
  rw [payload_carrying, decodePayload, kept]
  rfl

end Carrying

theorem bigEndian_succ (count n : Nat) :
    bigEndian (count + 1) n = UInt8.ofNat (n / 256 ^ count) :: bigEndian count n := rfl

theorem length_bigEndian (count n : Nat) : (bigEndian count n).length = count := by
  induction count with
  | zero => rfl
  | succ count ih => rw [bigEndian_succ, List.length_cons, ih]

theorem foldl_bigEndian (count n acc : Nat) :
    (bigEndian count n).foldl (fun n b => 256 * n + b.toNat) acc =
      acc * 256 ^ count + n % 256 ^ count := by
  induction count generalizing acc with
  | zero =>
    have none : bigEndian 0 n = [] := rfl
    simp [none, Nat.mod_one]
  | succ count ih =>
    have high : (UInt8.ofNat (n / 256 ^ count)).toNat = n / 256 ^ count % 256 := UInt8.toNat_ofNat'
    rw [bigEndian_succ, List.foldl_cons, ih, high, Nat.mod_pow_succ, Nat.pow_succ]
    rw [Nat.add_mul, Nat.mul_comm 256 acc, Nat.mul_assoc, Nat.mul_comm 256 (256 ^ count)]
    rw [Nat.mul_comm (n / 256 ^ count % 256), Nat.add_assoc, Nat.add_comm (n % 256 ^ count)]

theorem ofBigEndian_bigEndian {count n : Nat} (bound : n < 256 ^ count) :
    ofBigEndian (bigEndian count n) = n := by
  rw [ofBigEndian, foldl_bigEndian, Nat.zero_mul, Nat.zero_add, Nat.mod_eq_of_lt bound]

def Fits (f : Frame) : Prop := f.payload.length < UInt64.size

/-- Whether a frame is read; longer ones are refused. -/
def Allowed (f : Frame) : Prop := f.payload.length ≤ maxFrameLength

instance (f : Frame) : Decidable f.Fits :=
  inferInstanceAs (Decidable (f.payload.length < UInt64.size))

instance (f : Frame) : Decidable f.Allowed :=
  inferInstanceAs (Decidable (f.payload.length ≤ maxFrameLength))

theorem Allowed.fits {f : Frame} (allowed : f.Allowed) : f.Fits :=
  Nat.lt_of_le_of_lt allowed (by decide)

theorem length_header (f : Frame) : f.header.length = headerLength := by
  rw [header, List.length_cons, length_bigEndian]
  rfl

theorem length_bytes (f : Frame) : f.bytes.length = headerLength + f.payload.length := by
  rw [bytes, List.length_append, length_header]

theorem front_header {f : Frame} (fits : f.Fits) (body : List UInt8) :
    front (f.header ++ body) =
      if maxFrameLength < f.payload.length then .tooLong f.payload.length
      else if body.length < f.payload.length then .cut
      else .frame ⟨f.type, body.take f.payload.length⟩ (body.drop f.payload.length) := by
  have eight : (bigEndian 8 f.payload.length).length = 8 := length_bigEndian ..
  have whole : ¬ (bigEndian 8 f.payload.length ++ body).length < 8 := by
    rw [List.length_append, eight]
    omega
  have announced : ofBigEndian (bigEndian 8 f.payload.length) = f.payload.length :=
    ofBigEndian_bigEndian fits
  rw [header, List.cons_append, front, if_neg whole, List.take_left' eight, List.drop_left' eight]
  simp only [announced]

theorem front_short {stream : List UInt8} (some : stream ≠ []) (short : stream.length < headerLength) :
    front stream = .cut := by
  cases stream with
  | nil => exact absurd rfl some
  | cons type rest =>
    rw [List.length_cons, headerLength] at short
    rw [front, if_pos (by omega)]

section Cut

variable {f : Frame} {more : List UInt8} {k : Nat}

/-- What stands at the front of a stream of which the first `k` bytes have come. -/
theorem front_take (fits : f.Fits) (more : List UInt8) (k : Nat) :
    front ((f.bytes ++ more).take k) =
      if k = 0 then .finished
      else if k < headerLength then .cut
      else if ¬ f.Allowed then .tooLong f.payload.length
      else if k < f.bytes.length then .cut
      else .frame f (more.take (k - f.bytes.length)) := by
  by_cases none : k = 0
  · rw [if_pos none, none, List.take_zero, front]
  rw [if_neg none]
  by_cases short : k < headerLength
  · have size : ((f.bytes ++ more).take k).length = k := by
      rw [List.length_take, List.length_append, length_bytes]
      omega
    have some : (f.bytes ++ more).take k ≠ [] := fun empty => by
      rw [empty] at size
      exact none size.symm
    rw [if_pos short, front_short some (by rwa [size])]
  have behind : (f.bytes ++ more).take k = f.header ++ (f.payload ++ more).take (k - headerLength) := by
    rw [bytes, List.append_assoc, List.take_append, length_header,
      List.take_of_length_le (by rw [length_header]; omega)]
  rw [if_neg short, behind, front_header fits]
  by_cases allowed : f.Allowed
  · have notLong : ¬ maxFrameLength < f.payload.length := Nat.not_lt.mpr allowed
    rw [if_neg notLong, if_neg (not_not_intro allowed), length_bytes]
    by_cases cut : k < headerLength + f.payload.length
    · rw [if_pos cut, if_pos]
      rw [List.length_take]
      omega
    · rw [if_neg cut, if_neg (by rw [List.length_take, List.length_append]; omega)]
      have split : (f.payload ++ more).take (k - headerLength) =
          f.payload ++ more.take (k - (headerLength + f.payload.length)) := by
        rw [List.take_append, List.take_of_length_le (by omega), Nat.sub_sub]
      rw [split, List.take_left, List.drop_left]
  · have long : maxFrameLength < f.payload.length := Nat.lt_of_not_le allowed
    rw [if_pos long, if_pos allowed]

theorem front_whole (allowed : f.Allowed) (whole : f.bytes.length ≤ k) :
    front ((f.bytes ++ more).take k) = .frame f (more.take (k - f.bytes.length)) := by
  have header : headerLength ≤ f.bytes.length := by
    rw [length_bytes]
    exact Nat.le_add_right ..
  have some : 0 < headerLength := by decide
  rw [front_take allowed.fits, if_neg (by omega), if_neg (by omega),
    if_neg (not_not_intro allowed), if_neg (by omega)]

theorem next_whole (allowed : f.Allowed) (whole : f.bytes.length ≤ k) :
    next ((f.bytes ++ more).take k) = .ok (f, more.take (k - f.bytes.length)) := by
  rw [next, next?, front_whole allowed whole]
  rfl

def stopAt (f : Frame) (k : Nat) : Error :=
  if ¬ f.Allowed ∧ headerLength ≤ k then .frameTooLong f.payload.length else .ofIo .unexpectedEof

theorem next_stopped (fits : f.Fits) (stays : ¬ (f.Allowed ∧ f.bytes.length ≤ k)) :
    next ((f.bytes ++ more).take k) = .error (f.stopAt k) := by
  rw [next, next?, front_take fits, stopAt]
  by_cases none : k = 0
  · have short : ¬ headerLength ≤ k := by
      rw [none]
      decide
    rw [if_pos none, if_neg fun both => short both.2]
    rfl
  rw [if_neg none]
  by_cases short : k < headerLength
  · rw [if_pos short, if_neg fun both => Nat.not_le.mpr short both.2]
    rfl
  rw [if_neg short]
  by_cases allowed : f.Allowed
  · have cut : k < f.bytes.length := Nat.lt_of_not_le fun whole => stays ⟨allowed, whole⟩
    rw [if_neg (not_not_intro allowed), if_pos cut, if_neg fun both => both.1 allowed]
    rfl
  · rw [if_pos allowed, if_pos ⟨allowed, Nat.not_lt.mp short⟩]
    rfl

end Cut

/-- How many of the frames that are sent can be read from the first `k` bytes. -/
def arrived : Nat → List Frame → Nat
  | _, [] => 0
  | k, f :: rest =>
    if f.Allowed ∧ f.bytes.length ≤ k then arrived (k - f.bytes.length) rest + 1 else 0

theorem le_arrived_iff {frames : List Frame} {k m : Nat} : m ≤ arrived k frames ↔
    m ≤ frames.length ∧ ((frames.take m).flatMap bytes).length ≤ k ∧
      ∀ f ∈ frames.take m, f.Allowed := by
  induction frames generalizing k m with
  | nil =>
    cases m with
    | zero => simp
    | succ m => simp [arrived]
  | cons f rest ih =>
    cases m with
    | zero => simp
    | succ m =>
      rw [arrived, List.take_succ_cons, List.flatMap_cons, List.length_append, List.length_cons,
        List.forall_mem_cons]
      split
      · rename_i comes
        rw [Nat.add_le_add_iff_right, Nat.add_le_add_iff_right, ih]
        constructor
        · rintro ⟨within, whole, allowed⟩
          exact ⟨within, by omega, comes.1, allowed⟩
        · rintro ⟨within, whole, -, allowed⟩
          exact ⟨within, by omega, allowed⟩
      · rename_i stays
        constructor
        · intro impossible
          omega
        · rintro ⟨-, whole, allowed, -⟩
          exact absurd ⟨allowed, by omega⟩ stays

theorem front_stopped {f : Frame} {more : List UInt8} {k : Nat} (fits : f.Fits)
    (stays : ¬ (f.Allowed ∧ f.bytes.length ≤ k)) (g : Frame) (rest : List UInt8) :
    front ((f.bytes ++ more).take k) ≠ .frame g rest := by
  intro found
  have stopped : next ((f.bytes ++ more).take k) = .error (f.stopAt k) := next_stopped fits stays
  rw [next, next?, found] at stopped
  cases stopped

/-- From the first `k` bytes the frames that have come are read, and no more. -/
theorem readAll_take {frames : List Frame} (fits : ∀ f ∈ frames, f.Fits) (k : Nat) :
    (readAll ((frames.flatMap bytes).take k)).1 = frames.take (arrived k frames) := by
  induction frames generalizing k with
  | nil =>
    rw [List.flatMap_nil, List.take_nil, readAll]
    rfl
  | cons f frames ih =>
    rw [List.flatMap_cons, arrived, readAll]
    by_cases comes : f.Allowed ∧ f.bytes.length ≤ k
    · have whole := @front_whole f (frames.flatMap bytes) k comes.1 comes.2
      have later := ih (fun g member => fits g (List.mem_cons_of_mem _ member)) (k - f.bytes.length)
      rw [if_pos comes, List.take_succ_cons, ← later]
      split
      all_goals rename_i found
      all_goals rw [whole] at found
      all_goals cases found
      rfl
    · rw [if_neg comes, List.take_zero]
      split
      all_goals rename_i found
      · rfl
      · exact absurd found (front_stopped (fits f List.mem_cons_self) comes _ _)
      · rfl
      · rfl

theorem front_bytes {f : Frame} (allowed : f.Allowed) (rest : List UInt8) :
    front (f.bytes ++ rest) = .frame f rest := by
  have whole : f.bytes.length ≤ (f.bytes ++ rest).length := by
    rw [List.length_append]
    exact Nat.le_add_right ..
  have all : (f.bytes ++ rest).take (f.bytes ++ rest).length = f.bytes ++ rest := List.take_length
  rw [← all, front_whole allowed whole, List.length_append, Nat.add_sub_cancel_left,
    List.take_length]

theorem next?_bytes {f : Frame} (allowed : f.Allowed) (rest : List UInt8) :
    next? (f.bytes ++ rest) = .ok (some (f, rest)) := by
  rw [next?, front_bytes allowed]

theorem next_bytes {f : Frame} (allowed : f.Allowed) (rest : List UInt8) :
    next (f.bytes ++ rest) = .ok (f, rest) := by
  rw [next, next?_bytes allowed]
  rfl

theorem front_refused {f : Frame} (fits : f.Fits) (refused : ¬ f.Allowed) (rest : List UInt8) :
    front (f.bytes ++ rest) = .tooLong f.payload.length := by
  rw [bytes, List.append_assoc, front_header fits, if_pos (Nat.lt_of_not_le refused)]

theorem next_refused {f : Frame} (fits : f.Fits) (refused : ¬ f.Allowed) (rest : List UInt8) :
    next (f.bytes ++ rest) = .error (.frameTooLong f.payload.length) := by
  rw [next, next?, front_refused fits refused]
  rfl

theorem message_carrying {α : Type} [Json.Codec α] {a : α} {type : UInt8}
    (kept : Json.ofBytes α (Json.toBytes a) = .ok a) (allowed : (carrying type a).Allowed)
    (peer : String) (rest : List UInt8) :
    message α peer type ((carrying type a).bytes ++ rest) = .ok (a, rest) := by
  rw [message, next_bytes allowed, ok_bind]
  dsimp only
  rw [if_neg (not_not_intro (type_carrying type a)), decodePayload_carrying kept]
  rfl

theorem readAll_bytes {frames : List Frame} (allowed : ∀ f ∈ frames, f.Allowed) :
    readAll (frames.flatMap bytes) = (frames, none) := by
  induction frames with
  | nil =>
    rw [List.flatMap_nil, readAll]
    rfl
  | cons f frames ih =>
    have here := front_bytes (allowed f List.mem_cons_self) (frames.flatMap bytes)
    have later := ih fun g member => allowed g (List.mem_cons_of_mem _ member)
    rw [List.flatMap_cons, readAll]
    split
    all_goals rename_i found
    all_goals rw [here] at found
    all_goals cases found
    rw [later]

end SeriesCluster.Frame
