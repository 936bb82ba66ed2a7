import SeriesCluster.Proofs.Net.Frame

namespace SeriesCluster.Frame

variable {frames : List Frame} {f : Frame} {rest : List UInt8} {k : Nat} {stop : Option Error}

/-- Reading again and again gives these frames, and then a clean end or an error. -/
inductive Reads : List UInt8 → List Frame → Option Error → Prop
  | finished {stream : List UInt8} (last : next? stream = .ok none) : Reads stream [] none
  | failed {stream : List UInt8} {e : Error} (last : next? stream = .error e) :
    Reads stream [] (some e)
  | frame {stream rest : List UInt8} {f : Frame} {frames : List Frame} {stop : Option Error}
    (first : next? stream = .ok (some (f, rest))) (later : Reads rest frames stop) :
    Reads stream (f :: frames) stop

theorem next?_whole (allowed : f.Allowed) (whole : f.bytes.length ≤ k) (more : List UInt8) :
    next? ((f.bytes ++ more).take k) = .ok (some (f, more.take (k - f.bytes.length))) := by
  rw [next?, front_whole allowed whole]

theorem next?_part (allowed : f.Allowed) (some : 0 < k) (part : k < f.bytes.length)
    (more : List UInt8) : next? ((f.bytes ++ more).take k) = .error (.ofIo .unexpectedEof) := by
  rw [next?, front_take allowed.fits, if_neg (Nat.ne_of_gt some), if_neg (not_not_intro allowed),
    if_pos part, ite_self]

theorem next?_tooLong {length : List UInt8} (eight : length.length = 8)
    (long : maxFrameLength < ofBigEndian length) (type : UInt8) (rest : List UInt8) :
    next? (type :: (length ++ rest)) = .error (.frameTooLong (ofBigEndian length)) := by
  have whole : ¬ (length ++ rest).length < 8 := by
    rw [List.length_append]
    omega
  rw [next?, front, if_neg whole, List.take_left' eight]
  simp only [if_pos long]

theorem Reads.append (allowed : ∀ f ∈ frames, f.Allowed) {others : List Frame}
    (reads : Reads rest others stop) :
    Reads (frames.flatMap bytes ++ rest) (frames ++ others) stop := by
  induction frames with
  | nil => exact reads
  | cons f frames ih =>
    have first := next?_bytes (allowed f List.mem_cons_self) (frames.flatMap bytes ++ rest)
    rw [List.flatMap_cons, List.append_assoc]
    exact .frame first (ih fun g member => allowed g (List.mem_cons_of_mem _ member))

theorem reads_take (allowed : ∀ f ∈ frames, f.Allowed) (k : Nat) :
    Reads ((frames.flatMap bytes).take k) (frames.take (arrived k frames))
      (if (frames.flatMap bytes).take k = (frames.take (arrived k frames)).flatMap bytes then none
        else some (.ofIo .unexpectedEof)) := by
  induction frames generalizing k with
  | nil =>
    rw [List.flatMap_nil, List.take_nil, List.take_nil, List.flatMap_nil, if_pos rfl]
    exact .finished rfl
  | cons f frames ih =>
    have first : f.Allowed := allowed f List.mem_cons_self
    rw [List.flatMap_cons, arrived]
    by_cases whole : f.bytes.length ≤ k
    · have later := ih (fun g member => allowed g (List.mem_cons_of_mem _ member)) (k - f.bytes.length)
      have come : (f.bytes ++ frames.flatMap bytes).take k =
          f.bytes ++ (frames.flatMap bytes).take (k - f.bytes.length) := by
        rw [List.take_append, List.take_of_length_le whole]
      rw [if_pos ⟨first, whole⟩, List.take_succ_cons, List.flatMap_cons]
      have read := next?_whole first whole (frames.flatMap bytes)
      rw [come] at read ⊢
      simp only [List.append_cancel_left_eq]
      exact .frame read later
    · rw [if_neg fun comes => whole comes.2, List.take_zero, List.flatMap_nil]
      rcases Nat.eq_zero_or_pos k with rfl | some
      · rw [List.take_zero, if_pos rfl]
        exact .finished rfl
      · have something : (f.bytes ++ frames.flatMap bytes).take k ≠ [] := by
          intro none
          have short := congrArg List.length none
          rw [List.length_take, List.length_append, List.length_nil] at short
          omega
        rw [if_neg something]
        exact .failed (next?_part first some (Nat.lt_of_not_le whole) _)

theorem reads_exactly (allowed : ∀ f ∈ frames, f.Allowed) :
    (∀ k, ∃ m, (∀ j, j ≤ m ↔ j ≤ frames.length ∧ ((frames.take j).flatMap bytes).length ≤ k) ∧
      Reads ((frames.flatMap bytes).take k) (frames.take m)
        (if (frames.flatMap bytes).take k = (frames.take m).flatMap bytes then none
          else some (.ofIo .unexpectedEof))) ∧
    ∀ (type : UInt8) (length rest : List UInt8), length.length = 8 →
      maxFrameLength < ofBigEndian length →
      Reads (frames.flatMap bytes ++ type :: (length ++ rest)) frames
        (some (.frameTooLong (ofBigEndian length))) := by
  refine ⟨fun k => ⟨arrived k frames, fun j => ?_, reads_take allowed k⟩, ?_⟩
  · rw [le_arrived_iff]
    constructor
    · rintro ⟨within, whole, -⟩
      exact ⟨within, whole⟩
    · rintro ⟨within, whole⟩
      exact ⟨within, whole, fun f member => allowed f (List.mem_of_mem_take member)⟩
  · intro type length rest eight long
    have refused : Reads (type :: (length ++ rest)) [] (some (.frameTooLong (ofBigEndian length))) :=
      .failed (next?_tooLong eight long type rest)
    have reads := refused.append allowed
    rwa [List.append_nil] at reads

def twoFrames : List Frame := [⟨7, [1, 2, 3]⟩, ⟨9, []⟩]

theorem reads_exactly_twoFrames : (∀ f ∈ twoFrames, f.Allowed) ∧
    Reads ((twoFrames.flatMap bytes).take 20) [⟨7, [1, 2, 3]⟩] (some (.ofIo .unexpectedEof)) ∧
    Reads (twoFrames.flatMap bytes ++ 9 :: ([0, 0, 0, 0, 4, 0, 0, 1] ++ [5])) twoFrames
      (some (.frameTooLong 67108865)) := by
  have allowed : ∀ f ∈ twoFrames, f.Allowed := by decide
  obtain ⟨cut, refused⟩ := reads_exactly allowed
  obtain ⟨m, whole, reads⟩ := cut 20
  have one : m = 1 := by
    have least := (whole 1).mpr (by decide)
    have most : ¬ 2 ≤ m := fun two => absurd ((whole 2).mp two) (by decide)
    omega
  subst one
  rw [if_neg (by decide)] at reads
  exact ⟨allowed, reads, refused 9 [0, 0, 0, 0, 4, 0, 0, 1] [5] (by decide) (by decide)⟩

end SeriesCluster.Frame
