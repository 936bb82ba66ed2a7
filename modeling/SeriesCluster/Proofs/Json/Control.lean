import SeriesCluster.Json.Codec

namespace SeriesCluster.Json

def isControl (c : Char) : Bool := c.toNat < 0x20 && !isSpace c

/-- A reader has come from a text to its rest and met no control character on the way. -/
def Passes (cs rest : List Char) : Prop := ∀ c ∈ cs, isControl c = true → c ∈ rest

namespace Passes

variable {cs mid rest : List Char}

theorem refl (cs : List Char) : Passes cs cs := fun _ member _ => member

theorem trans (first : Passes cs mid) (later : Passes mid rest) : Passes cs rest :=
  fun c member control => later c (first c member control) control

theorem cons {c : Char} (shown : isControl c = false) (later : Passes cs rest) :
    Passes (c :: cs) rest := fun d member control => by
  rcases List.mem_cons.mp member with rfl | member
  · rw [shown] at control
    cases control
  · exact later d member control

theorem dropWhile {p : Char → Bool} (shown : ∀ c, p c = true → isControl c = false)
    (cs : List Char) : Passes cs (cs.dropWhile p) := by
  induction cs with
  | nil => exact refl []
  | cons c cs ih =>
    rw [List.dropWhile_cons]
    split
    · rename_i dropped
      exact ih.cons (shown c dropped)
    · exact refl _

theorem skipSpace (cs : List Char) : Passes cs (skipSpace cs) :=
  dropWhile (fun c blank => by simp [isControl, blank]) cs

theorem token {c : Char} (found : Json.skipSpace cs = c :: mid) (shown : isControl c = false)
    (later : Passes mid rest) : Passes cs rest :=
  (skipSpace cs).trans (found ▸ later.cons shown)

end Passes

theorem isControl_of_le {c : Char} (shown : 0x20 ≤ c.toNat) : isControl c = false := by
  have visible : ¬ c.toNat < 0x20 := Nat.not_lt.mpr shown
  simp [isControl, visible]

theorem isControl_of_isDigit {c : Char} (digit : c.isDigit = true) : isControl c = false := by
  simp only [Char.isDigit, Bool.and_eq_true, decide_eq_true_eq] at digit
  have low : 0x30 ≤ c.toNat := digit.1
  exact isControl_of_le (by omega)

theorem isControl_of_hexDigit? {c : Char} {n : Nat} (read : Text.hexDigit? c = some n) :
    isControl c = false := by
  unfold Text.hexDigit? at read
  split at read
  · rename_i digit
    exact isControl_of_isDigit digit
  · split at read
    · rename_i letter
      have low : 'a'.toNat ≤ c.toNat := letter.1
      exact isControl_of_le (Nat.le_trans (by decide) low)
    · split at read
      · rename_i letter
        have low : 'A'.toNat ≤ c.toNat := letter.1
        exact isControl_of_le (Nat.le_trans (by decide) low)
      · cases read

theorem isControl_of_hexByte? {a b : Char} {n : UInt8} (read : Text.hexByte? a b = some n) :
    isControl a = false ∧ isControl b = false := by
  unfold Text.hexByte? at read
  simp only [Option.bind_eq_bind, Option.bind_eq_some_iff] at read
  obtain ⟨high, first, low, second, -⟩ := read
  exact ⟨isControl_of_hexDigit? first, isControl_of_hexDigit? second⟩

theorem passes_hexCode? {a b c d : Char} {n : Nat} (read : hexCode? a b c d = some n)
    {cs rest : List Char} (later : Passes cs rest) : Passes (a :: b :: c :: d :: cs) rest := by
  unfold hexCode? at read
  simp only [Option.bind_eq_bind, Option.bind_eq_some_iff] at read
  obtain ⟨high, first, low, second, -⟩ := read
  obtain ⟨shownA, shownB⟩ := isControl_of_hexByte? first
  obtain ⟨shownC, shownD⟩ := isControl_of_hexByte? second
  exact (((later.cons shownD).cons shownC).cons shownB).cons shownA

theorem isControl_of_escaped? {c d : Char} (read : escaped? c = some d) : isControl c = false := by
  unfold escaped? at read
  split at read
  all_goals first | rfl | cases read

theorem passes_stringUnits {cs rest : List Char} {units : List TextUnit}
    (read : stringUnits cs = some (units, rest)) : Passes cs rest := by
  fun_induction stringUnits cs generalizing units with
  | case1 => cases read
  | case2 tail =>
    cases read
    exact (Passes.refl _).cons rfl
  | case3 a b c d tail ih =>
    simp only [Option.bind_eq_bind, Option.bind_eq_some_iff] at read
    obtain ⟨code, hex, ⟨others, left⟩, later, same⟩ := read
    cases same
    exact ((passes_hexCode? hex (ih later)).cons rfl).cons rfl
  | case4 c tail _ ih =>
    simp only [Option.bind_eq_bind, Option.bind_eq_some_iff] at read
    obtain ⟨d, letter, ⟨others, left⟩, later, same⟩ := read
    cases same
    exact ((ih later).cons (isControl_of_escaped? letter)).cons rfl
  | case5 => cases read
  | case6 c tail _ _ _ shown ih =>
    simp only [Option.bind_eq_bind, Option.bind_eq_some_iff] at read
    obtain ⟨⟨others, left⟩, later, same⟩ := read
    cases same
    exact (ih later).cons (isControl_of_le (Nat.not_lt.mp shown))

theorem passes_digits (cs : List Char) : Passes cs (cs.dropWhile Char.isDigit) :=
  .dropWhile (fun _ => isControl_of_isDigit) cs

theorem passes_exponentPart {cs rest : List Char} {e : Int}
    (read : exponentPart cs = some (e, rest)) : Passes cs rest := by
  have digits : ∀ {sign : Int → Int} {cs : List Char},
      exponentPart.digits sign cs = some (e, rest) → Passes cs rest := by
    intro sign cs read
    unfold exponentPart.digits at read
    dsimp only at read
    split at read
    · cases read
    · cases read
      exact passes_digits cs
  unfold exponentPart at read
  split at read
  · exact (digits read).cons rfl
  · exact (digits read).cons rfl
  · exact digits read

theorem passes_afterFraction {negative : Bool} {whole fraction cs rest : List Char} {v : Value}
    (read : unsignedNumber.afterFraction negative whole fraction cs = some (v, rest)) :
    Passes cs rest := by
  unfold unsignedNumber.afterFraction at read
  split at read
  · obtain ⟨⟨e, left⟩, exponent, same⟩ := Option.map_eq_some_iff.mp read
    cases same
    exact (passes_exponentPart exponent).cons rfl
  · obtain ⟨⟨e, left⟩, exponent, same⟩ := Option.map_eq_some_iff.mp read
    cases same
    exact (passes_exponentPart exponent).cons rfl
  · cases read
    exact .refl _

theorem passes_unsignedNumber {negative : Bool} {cs rest : List Char} {v : Value}
    (read : unsignedNumber negative cs = some (v, rest)) : Passes cs rest := by
  have whole := passes_digits cs
  unfold unsignedNumber at read
  dsimp only at read
  split at read
  · cases read
  · refine whole.trans ?_
    split at read
    · rename_i dot left found
      rw [found]
      split at read
      · cases read
      · exact ((passes_digits left).trans (passes_afterFraction read)).cons rfl
    · rename_i letter left found
      obtain ⟨⟨e, left⟩, exponent, same⟩ := Option.map_eq_some_iff.mp read
      cases same
      rw [found]
      exact (passes_exponentPart exponent).cons rfl
    · rename_i letter left found
      obtain ⟨⟨e, left⟩, exponent, same⟩ := Option.map_eq_some_iff.mp read
      cases same
      rw [found]
      exact (passes_exponentPart exponent).cons rfl
    · cases read
      exact .refl _

theorem passes_readName? {cs rest : List Char} {name : Name}
    (read : readName? cs = some (name, rest)) : Passes cs rest := by
  unfold readName? at read
  simp only [Option.bind_eq_bind, Option.bind_eq_some_iff] at read
  obtain ⟨⟨units, left⟩, string, same⟩ := read
  cases same
  exact passes_stringUnits string

theorem passes_orCut {found : Option (Value × List Char)} {cs rest : List Char} {v : Value}
    (passes : ∀ w left, found = some (w, left) → Passes cs left)
    (read : orCut found = (v, some rest)) : Passes cs rest := by
  unfold orCut at read
  split at read
  · cases read
    exact passes _ _ rfl
  · cases read

theorem rest_of_container {room : Nat} {v w : Value} {left : Option (List Char)} {rest : List Char}
    (read : container room v left = (w, some rest)) : left = some rest :=
  congrArg Prod.snd read

structure ReadPasses (fuel : Nat) : Prop where
  value : ∀ (room : Nat) (cs rest : List Char) (v : Value),
    readValue fuel room cs = (v, some rest) → Passes cs rest
  elements : ∀ (room : Nat) (cs rest : List Char) (vs : List Value),
    readElements fuel room cs = (vs, some rest) → Passes cs rest
  members : ∀ (room : Nat) (cs rest : List Char) (ms : List (Name × Value)),
    readMembers fuel room cs = (ms, some rest) → Passes cs rest

namespace ReadPasses

variable {fuel : Nat}

theorem value_succ (ih : ReadPasses fuel) (room : Nat) (cs rest : List Char) (v : Value)
    (read : readValue (fuel + 1) room cs = (v, some rest)) : Passes cs rest := by
  have letters : ∀ (ls : List Char) {left : List Char}, ls.any isControl = false →
      skipSpace cs = ls ++ left → Passes cs left := by
    intro ls left shown found
    refine (Passes.skipSpace cs).trans fun c member control => ?_
    rw [found] at member
    rcases List.mem_append.mp member with member | member
    · exact absurd control (List.any_eq_false.mp shown c member)
    · exact member
  rw [readValue] at read
  split at read
  · rename_i left found
    cases read
    exact letters ['n', 'u', 'l', 'l'] rfl found
  · rename_i left found
    cases read
    exact letters ['t', 'r', 'u', 'e'] rfl found
  · rename_i left found
    cases read
    exact letters ['f', 'a', 'l', 's', 'e'] rfl found
  · rename_i left found
    refine .token found rfl (passes_orCut (fun w left' same => ?_) read)
    obtain ⟨⟨units, left''⟩, string, same⟩ := Option.map_eq_some_iff.mp same
    cases same
    exact passes_stringUnits string
  · rename_i left found
    exact .token found rfl (passes_orCut (fun w left' => passes_unsignedNumber) read)
  · rename_i left found
    split at read
    · rename_i left' found'
      cases rest_of_container read
      exact .token found rfl (.token found' rfl (.refl _))
    · have inner := rest_of_container read
      exact .token found rfl ((Passes.skipSpace left).trans (ih.elements _ _ _ _ (Prod.ext rfl inner)))
  · rename_i left found
    split at read
    · rename_i left' found'
      cases rest_of_container read
      exact .token found rfl (.token found' rfl (.refl _))
    · have inner := rest_of_container read
      exact .token found rfl ((Passes.skipSpace left).trans (ih.members _ _ _ _ (Prod.ext rfl inner)))
  · exact (Passes.skipSpace cs).trans (passes_orCut (fun w left' => passes_unsignedNumber) read)

theorem elements_succ (ih : ReadPasses fuel) (room : Nat) (cs rest : List Char) (vs : List Value)
    (read : readElements (fuel + 1) room cs = (vs, some rest)) : Passes cs rest := by
  rw [readElements] at read
  split at read
  · cases read
  · rename_i v left value
    refine (ih.value _ _ _ _ value).trans ?_
    split at read
    · rename_i left' found
      have inner : (readElements fuel room left').2 = some rest := congrArg Prod.snd read
      exact .token found rfl (ih.elements _ _ _ _ (Prod.ext rfl inner))
    · rename_i left' found
      cases read
      exact .token found rfl (.refl _)
    · cases read

theorem members_succ (ih : ReadPasses fuel) (room : Nat) (cs rest : List Char) (ms : List (Name × Value))
    (read : readMembers (fuel + 1) room cs = (ms, some rest)) : Passes cs rest := by
  rw [readMembers] at read
  split at read
  · rename_i start found
    refine .token found rfl ?_
    split at read
    · cases read
    · rename_i name left named
      refine (passes_readName? named).trans ?_
      split at read
      · rename_i left' colon
        refine .token colon rfl ?_
        split at read
        · cases read
        · rename_i v left'' value
          refine (ih.value _ _ _ _ value).trans ?_
          split at read
          · rename_i more comma
            have inner : (readMembers fuel room more).2 = some rest := congrArg Prod.snd read
            exact .token comma rfl (ih.members _ _ _ _ (Prod.ext rfl inner))
          · rename_i more brace
            cases read
            exact .token brace rfl (.refl _)
          · cases read
      · cases read
  · cases read

end ReadPasses

theorem readPasses (fuel : Nat) : ReadPasses fuel := by
  induction fuel with
  | zero =>
    constructor
    · intro room cs rest v read
      rw [readValue] at read
      cases read
    · intro room cs rest vs read
      rw [readElements] at read
      cases read
    · intro room cs rest ms read
      rw [readMembers] at read
      cases read
  | succ fuel ih => exact ⟨ih.value_succ, ih.elements_succ, ih.members_succ⟩

theorem not_isControl_of_decodeBytes {α : Type} {decode : Value → Except Fault α}
    {bytes : List UInt8} {a : α} (decoded : decodeBytes decode bytes = .ok a) :
    ∀ c ∈ byteChars bytes, isControl c = false := by
  intro c member
  unfold decodeBytes at decoded
  dsimp only at decoded
  cases value : decode (readFront (byteChars bytes)).1 with
  | error fault =>
    rw [value] at decoded
    cases decoded
  | ok b =>
    rw [value] at decoded
    change (if _ then _ else _) = _ at decoded
    split at decoded
    · rename_i blank
      obtain ⟨rest, read, ended⟩ := (Option.any_eq_true _ _).mp blank
      have passes : Passes (byteChars bytes) rest := (readPasses _).value _ _ _ _ (Prod.ext rfl read)
      -- What follows the value is blank, and a blank is no control character.
      have passed := passes.trans (Passes.skipSpace rest)
      rw [List.isEmpty_iff.mp ended] at passed
      cases control : isControl c with
      | false => rfl
      | true => cases passed c member control
    · cases decoded

end SeriesCluster.Json
