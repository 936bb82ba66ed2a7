import SeriesCluster.Proofs.Json.Text

namespace SeriesCluster.Json

inductive Ends : List Char → Prop
  | finished : Ends []
  | comma (rest : List Char) : Ends (',' :: rest)
  | bracket (rest : List Char) : Ends (']' :: rest)
  | brace (rest : List Char) : Ends ('\x7d' :: rest)

theorem seen_of_ascii {cs : List Char} (h : ∀ c ∈ cs, c.toNat < 0x80) : seen cs = cs := by
  induction cs with
  | nil => rfl
  | cons c cs ih =>
    rw [seen_cons_ascii (h c List.mem_cons_self), ih fun d member => h d (List.mem_cons_of_mem _ member)]

theorem isDigit_of_mem_decimal {n : Nat} {c : Char} (h : c ∈ Nat.toDigits 10 n) : c.isDigit :=
  Nat.isDigit_of_mem_toDigits (by decide) (by decide) h

theorem toNat_of_isDigit {c : Char} (h : c.isDigit) : 0x30 ≤ c.toNat ∧ c.toNat ≤ 0x39 := by
  simp only [Char.isDigit, Bool.and_eq_true, decide_eq_true_eq] at h
  exact h

theorem ne_of_isDigit {c d : Char} (h : c.isDigit) (other : d.toNat < 0x30 ∨ 0x39 < d.toNat) :
    c ≠ d := by
  have bounds := toNat_of_isDigit h
  rintro rfl
  omega

theorem isSpace_of_isDigit {c : Char} (h : c.isDigit) : isSpace c = false := by
  simp [isSpace, ne_of_isDigit h (d := ' ') (by decide), ne_of_isDigit h (d := '\n') (by decide),
    ne_of_isDigit h (d := '\t') (by decide), ne_of_isDigit h (d := '\r') (by decide)]

theorem ascii_of_isDigit {c : Char} (h : c.isDigit) : c.toNat < 0x80 :=
  Nat.lt_of_le_of_lt (toNat_of_isDigit h).2 (by decide)

theorem seen_decimal (n : Nat) : seen (Nat.toDigits 10 n) = Nat.toDigits 10 n :=
  seen_of_ascii fun _ member => ascii_of_isDigit (isDigit_of_mem_decimal member)

theorem foldl_decimal (n : Nat) :
    (Nat.toDigits 10 n).foldl (fun n c => 10 * n + digitValue c) 0 = n :=
  Nat.ofDigitChars_ten_toDigits

theorem head?_toDigits {n : Nat} (h : 0 < n) : (Nat.toDigits 10 n).head? ≠ some '0' := by
  induction n using Nat.strongRecOn with
  | _ n ih =>
    rw [Nat.toDigits_eq_if (by decide)]
    split
    · simp
      omega
    · have front := ih (n / 10) (by omega) (by omega)
      rw [List.head?_append]
      cases first : (Nat.toDigits 10 (n / 10)).head? with
      | none =>
        rw [List.head?_eq_none_iff] at first
        exact absurd first Nat.toDigits_ne_nil
      | some c => simpa [first] using front

def StopsDigits (cs : List Char) : Prop := ∀ c ∈ cs.head?, c.isDigit = false

theorem Ends.stopsDigits {rest : List Char} (ends : Ends rest) : StopsDigits rest := by
  cases ends with
  | finished => nofun
  | comma | bracket | brace =>
    rintro c ⟨⟩
    decide

theorem takeWhile_digits {ds rest : List Char} (digits : ∀ c ∈ ds, c.isDigit)
    (stops : StopsDigits rest) :
    (ds ++ rest).takeWhile Char.isDigit = ds ∧ (ds ++ rest).dropWhile Char.isDigit = rest := by
  have stop : rest.takeWhile Char.isDigit = [] ∧ rest.dropWhile Char.isDigit = rest := by
    cases rest with
    | nil => exact ⟨rfl, rfl⟩
    | cons c cs =>
      have other : c.isDigit = false := stops c rfl
      simp [other]
  rw [List.takeWhile_append_of_pos digits, List.dropWhile_append_of_pos digits, stop.1, stop.2]
  exact ⟨List.append_nil ds, rfl⟩

theorem unsignedNumber_decimal (negative : Bool) (n : Nat) {rest : List Char} (ends : Ends rest) :
    unsignedNumber negative (Nat.toDigits 10 n ++ rest) =
      some (integerValue negative (Nat.toDigits 10 n), rest) := by
  obtain ⟨whole, after⟩ := takeWhile_digits (fun c => isDigit_of_mem_decimal (n := n)) ends.stopsDigits
  have present : (Nat.toDigits 10 n).isEmpty = false := by simp [Nat.toDigits_ne_nil]
  have shortest : ((Nat.toDigits 10 n).length > 1 && (Nat.toDigits 10 n).head? == some '0') = false := by
    rcases Nat.eq_zero_or_pos n with rfl | positive
    · rfl
    · simp [head?_toDigits positive]
  unfold unsignedNumber
  rw [whole, after]
  dsimp only
  rw [present, shortest]
  cases ends <;> rfl

theorem integerValue_natural {n : Nat} (h : n < UInt64.size) :
    integerValue false (Nat.toDigits 10 n) = .int n := by
  simp [integerValue, foldl_decimal, h]

theorem integerValue_negative {n : Nat} (positive : 0 < n) (bound : n ≤ Int64.minValue.toInt.natAbs) :
    integerValue true (Nat.toDigits 10 n) = .int (-n) := by
  simp only [integerValue, foldl_decimal, if_true]
  rw [if_pos ⟨positive, bound⟩]

end SeriesCluster.Json
