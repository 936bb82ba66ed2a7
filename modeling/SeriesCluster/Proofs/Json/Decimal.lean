import SeriesCluster.Json.Codec
import SeriesCluster.Proofs.Json.Number

/-!
Doubles are written as numerals with a point or an exponent (`exists_signed`), and a numeral is read
the same whatever value or end of a container follows it (`unsignedNumber_text`). Whether it is read
as the number that was written is another matter: scaling by powers of ten may be one bit off.
-/

namespace SeriesCluster.Json

structure Numeral where
  whole : List Char
  fraction : List Char
  exponent : Option Int
  whole_ne : whole ≠ []
  whole_digits : ∀ c ∈ whole, c.isDigit
  fraction_digits : ∀ c ∈ fraction, c.isDigit
  decimal : fraction ≠ [] ∨ exponent.isSome

namespace Numeral

def exponentText : Option Int → List Char
  | none => []
  | some e => 'e' :: (if e < 0 then '-' else '+') :: Nat.toDigits 10 e.natAbs

def fractionText (fraction : List Char) : List Char :=
  if fraction.isEmpty then [] else '.' :: fraction

def text (n : Numeral) : List Char := n.whole ++ (fractionText n.fraction ++ exponentText n.exponent)

def value? (n : Numeral) (negative : Bool) : Option Value :=
  if n.whole.length > 1 && n.whole.head? == some '0' then none
  else some (decimalValue negative n.whole n.fraction (n.exponent.getD 0))

theorem exponentPart_text (e : Int) {rest : List Char} (ends : Ends rest) :
    exponentPart ((if e < 0 then '-' else '+') :: Nat.toDigits 10 e.natAbs ++ rest) =
      some (e, rest) := by
  obtain ⟨digits, after⟩ :=
    takeWhile_digits (fun c => isDigit_of_mem_decimal (n := e.natAbs)) ends.stopsDigits
  have some : (Nat.toDigits 10 e.natAbs).isEmpty = false := by simp [Nat.toDigits_ne_nil]
  by_cases negative : e < 0
  · have same : -(e.natAbs : Int) = e := by omega
    rw [if_pos negative, List.cons_append, exponentPart, exponentPart.digits]
    simp only [digits, after, some, foldl_decimal, same]
    rfl
  · have same : (e.natAbs : Int) = e := by omega
    rw [if_neg negative, List.cons_append, exponentPart, exponentPart.digits]
    simp only [digits, after, some, foldl_decimal, id, same]
    rfl

theorem stopsDigits_exponentText (e : Option Int) {rest : List Char} (ends : Ends rest) :
    StopsDigits (exponentText e ++ rest) := by
  cases e with
  | none => exact ends.stopsDigits
  | some e =>
    rintro c ⟨⟩
    decide

theorem afterFraction_text (negative : Bool) (whole fraction : List Char) (e : Option Int)
    {rest : List Char} (ends : Ends rest) :
    unsignedNumber.afterFraction negative whole fraction (exponentText e ++ rest) =
      some (decimalValue negative whole fraction (e.getD 0), rest) := by
  cases e with
  | none => cases ends <;> rfl
  | some e =>
    have read := exponentPart_text e ends
    rw [exponentText, List.cons_append, unsignedNumber.afterFraction, read]
    rfl

theorem stopsDigits_fractionText (fraction : List Char) {rest : List Char}
    (stops : StopsDigits rest) : StopsDigits (fractionText fraction ++ rest) := by
  cases fraction with
  | nil => exact stops
  | cons d ds =>
    rintro c ⟨⟩
    decide

theorem unsignedNumber_text (negative : Bool) (n : Numeral) {rest : List Char} (ends : Ends rest) :
    unsignedNumber negative (n.text ++ rest) = (n.value? negative).map fun v => (v, rest) := by
  obtain ⟨whole, fraction, e, nonempty, digits, places, decimal⟩ := n
  obtain ⟨read, after⟩ := takeWhile_digits digits
    (stopsDigits_fractionText fraction (stopsDigits_exponentText e ends))
  have present : whole.isEmpty = false := by simpa using nonempty
  rw [text, value?, List.append_assoc, List.append_assoc, unsignedNumber]
  simp only [read, after, present, Bool.false_or]
  by_cases long : whole.length > 1 && whole.head? == some '0'
  · rw [if_pos long, if_pos long]
    rfl
  · rw [if_neg long, if_neg long]
    cases fraction with
    | nil =>
      cases e with
      | none => simp at decimal
      | some e =>
        change (exponentPart ((if e < 0 then '-' else '+') :: Nat.toDigits 10 e.natAbs ++ rest)).map
          _ = _
        rw [exponentPart_text e ends]
        rfl
    | cons d ds =>
      obtain ⟨read, after⟩ := takeWhile_digits places (stopsDigits_exponentText e ends)
      change (if ((d :: ds ++ (exponentText e ++ rest)).takeWhile Char.isDigit).isEmpty then none
        else unsignedNumber.afterFraction negative whole
          ((d :: ds ++ (exponentText e ++ rest)).takeWhile Char.isDigit)
          ((d :: ds ++ (exponentText e ++ rest)).dropWhile Char.isDigit)) = _
      rw [read, after, afterFraction_text negative whole (d :: ds) e ends]
      rfl

theorem isDigit_zeros {count : Nat} : ∀ c ∈ List.replicate count '0', c.isDigit := by
  intro c member
  rw [List.eq_of_mem_replicate member]
  decide

theorem exists_pointed {whole fraction : List Char} (before : whole ≠ []) (behind : fraction ≠ [])
    (whole_digits : ∀ c ∈ whole, c.isDigit) (fraction_digits : ∀ c ∈ fraction, c.isDigit) :
    ∃ n : Numeral, whole ++ '.' :: fraction = n.text := by
  refine ⟨⟨whole, fraction, none, before, whole_digits, fraction_digits, .inl behind⟩, ?_⟩
  obtain ⟨c, cs, rfl⟩ := List.exists_cons_of_ne_nil behind
  simp [text, fractionText, exponentText]

theorem exists_write (f : Binary64.NumberFormat) (d : Decimal) :
    ∃ n : Numeral, f.write d = n.text := by
  have digits : ∀ c ∈ Nat.toDigits 10 d.digits, c.isDigit := fun c => isDigit_of_mem_decimal
  have nonempty : Nat.toDigits 10 d.digits ≠ [] := Nat.toDigits_ne_nil
  rw [Binary64.NumberFormat.write]
  generalize Nat.toDigits 10 d.digits = ds at digits nonempty
  have zero : ∀ c ∈ ['0'], c.isDigit := @isDigit_zeros 1
  have within (k : Nat) : (∀ c ∈ ds.take k, c.isDigit) ∧ ∀ c ∈ ds.drop k, c.isDigit :=
    ⟨fun c member => digits c (List.mem_of_mem_take member),
      fun c member => digits c (List.mem_of_mem_drop member)⟩
  dsimp only
  -- The point stands behind the digits, between two of them, before them, or there is an exponent.
  split
  · split
    · refine exists_pointed ?_ (List.cons_ne_nil _ _) ?_ zero
      · simp [nonempty]
      · exact List.forall_mem_append.mpr ⟨digits, isDigit_zeros⟩
    · split
      · refine exists_pointed ?_ ?_ (within _).1 (within _).2
        · simp [nonempty]
        · rw [ne_eq, List.drop_eq_nil_iff]
          omega
      · rw [List.cons_append]
        refine exists_pointed (List.cons_ne_nil _ []) ?_ zero ?_
        · simp [nonempty]
        · exact List.forall_mem_append.mpr ⟨isDigit_zeros, digits⟩
  · refine ⟨⟨ds.take 1, ds.drop 1, some (d.exponent + ds.length - 1), ?_, (within 1).1, (within 1).2,
      .inr rfl⟩, ?_⟩
    · simp [nonempty]
    · rw [text, ← List.append_assoc]
      rfl

def signed (negative : Bool) (n : Numeral) : List Char := if negative then '-' :: n.text else n.text

theorem exists_signed (x : Binary64) : ∃ n : Numeral, x.write = signed x.isNegative n := by
  rw [Binary64.write]
  by_cases zero : x.isZero
  · obtain ⟨n, written⟩ := exists_pointed (List.cons_ne_nil '0' []) (List.cons_ne_nil '0' [])
      (@isDigit_zeros 1) (@isDigit_zeros 1)
    refine ⟨n, ?_⟩
    rw [if_pos zero, signed, ← written]
    rfl
  · obtain ⟨n, written⟩ := exists_write Binary64.plainFormat x.shortest
    refine ⟨n, ?_⟩
    rw [if_neg zero, signed, ← written]

theorem ascii_exponentText (e : Option Int) : ∀ c ∈ exponentText e, c.toNat < 0x80 := by
  cases e with
  | none => exact fun c impossible => absurd impossible List.not_mem_nil
  | some e =>
    have digits : ∀ c ∈ Nat.toDigits 10 e.natAbs, c.toNat < 0x80 := fun c member =>
      ascii_of_isDigit (isDigit_of_mem_decimal member)
    rw [exponentText]
    split <;> simpa using digits

theorem ascii_text (n : Numeral) : ∀ c ∈ n.text, c.toNat < 0x80 := by
  intro c member
  rw [text, List.mem_append, List.mem_append] at member
  rcases member with member | member | member
  · exact ascii_of_isDigit (n.whole_digits c member)
  · rw [fractionText] at member
    split at member
    · cases member
    · rcases List.mem_cons.mp member with rfl | member
      · decide
      · exact ascii_of_isDigit (n.fraction_digits c member)
  · exact ascii_exponentText n.exponent c member

theorem ascii_signed (n : Numeral) (negative : Bool) : ∀ c ∈ n.signed negative, c.toNat < 0x80 := by
  rw [signed]
  split
  · exact List.forall_mem_cons.mpr ⟨by decide, n.ascii_text⟩
  · exact n.ascii_text

theorem exists_text (n : Numeral) : ∃ d ds, n.text = d :: ds ∧ d.isDigit := by
  obtain ⟨d, ds, whole⟩ := List.exists_cons_of_ne_nil n.whole_ne
  refine ⟨d, _, by rw [text, whole, List.cons_append], n.whole_digits d ?_⟩
  rw [whole]
  exact List.mem_cons_self

theorem exists_signed_cons (n : Numeral) (negative : Bool) :
    ∃ c cs, n.signed negative = c :: cs ∧ c.toNat < 0x80 ∧ isSpace c = false ∧ c ≠ ']' := by
  cases negative with
  | true => exact ⟨'-', n.text, rfl, by decide, by decide, by decide⟩
  | false =>
    obtain ⟨d, ds, front, digit⟩ := n.exists_text
    exact ⟨d, ds, front, ascii_of_isDigit digit, isSpace_of_isDigit digit,
      ne_of_isDigit digit (by decide)⟩

theorem decimalValue_cases (negative : Bool) (whole fraction : List Char) (e : Int) :
    (∃ x, decimalValue negative whole fraction e = .float x) ∨
      decimalValue negative whole fraction e = .unreadable := by
  rw [decimalValue]
  dsimp only
  split
  · exact .inl ⟨_, rfl⟩
  · exact .inr rfl

theorem value?_cases {n : Numeral} {negative : Bool} {v : Value} (read : n.value? negative = some v) :
    (∃ x, v = .float x) ∨ v = .unreadable := by
  rw [value?] at read
  split at read
  · cases read
  · cases read
    exact decimalValue_cases ..

end Numeral

end SeriesCluster.Json
