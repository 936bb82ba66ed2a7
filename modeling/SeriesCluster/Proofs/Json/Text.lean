import SeriesCluster.Json.Reader
import SeriesCluster.Json.Writer

namespace SeriesCluster.Json

def seen (cs : List Char) : List Char := byteChars (cs.flatMap String.utf8EncodeChar)

@[simp] theorem seen_nil : seen [] = [] := rfl

@[simp] theorem seen_append (cs ds : List Char) : seen (cs ++ ds) = seen cs ++ seen ds := by
  simp [seen, byteChars]

theorem utf8EncodeChar_ascii {c : Char} (h : c.toNat < 0x80) :
    String.utf8EncodeChar c = [c.toUInt8] := by
  have low : c.val.toNat ≤ 0x7f := Nat.le_of_lt_succ h
  simp only [String.utf8EncodeChar, if_pos low]
  rfl

theorem ofNat_toUInt8 {c : Char} (h : c.toNat < 0x100) : Char.ofNat c.toUInt8.toNat = c := by
  have value : c.toUInt8.toNat = c.toNat := by
    rw [Char.toUInt8, UInt32.toNat_toUInt8]
    exact Nat.mod_eq_of_lt h
  rw [value]
  exact Char.ofNat_toNat c

theorem seen_cons_ascii {c : Char} (h : c.toNat < 0x80) (cs : List Char) :
    seen (c :: cs) = c :: seen cs := by
  have first : Char.ofNat c.toUInt8.toNat = c := ofNat_toUInt8 (by omega)
  simp only [seen, byteChars, List.flatMap_cons, utf8EncodeChar_ascii h, List.singleton_append,
    List.map_cons, first]

theorem high_of_mem_utf8EncodeChar {c : Char} (h : 0x80 ≤ c.toNat) :
    ∀ b ∈ String.utf8EncodeChar c, 0x80 ≤ b.toNat := by
  have high : ¬ c.val.toNat ≤ 0x7f := Nat.not_le.mpr h
  intro b member
  simp only [String.utf8EncodeChar, if_neg high] at member
  split at member
  · simp only [List.mem_cons, List.not_mem_nil, or_false] at member
    rcases member with rfl | rfl <;> simp only [UInt8.toNat_ofNat'] <;> omega
  · split at member
    · simp only [List.mem_cons, List.not_mem_nil, or_false] at member
      rcases member with rfl | rfl | rfl <;> simp only [UInt8.toNat_ofNat'] <;> omega
    · simp only [List.mem_cons, List.not_mem_nil, or_false] at member
      rcases member with rfl | rfl | rfl | rfl <;> simp only [UInt8.toNat_ofNat'] <;> omega

theorem toNat_ofNat_byte (b : UInt8) : (Char.ofNat b.toNat).toNat = b.toNat := by
  have bound : b.toNat < 256 := b.toNat_lt
  have valid : b.toNat.isValidChar := Or.inl (by omega)
  rw [Char.ofNat, dif_pos valid]
  rfl

theorem toUInt8_ofNat (b : UInt8) : (Char.ofNat b.toNat).toUInt8 = b := by
  apply UInt8.toNat_inj.mp
  rw [Char.toUInt8, UInt32.toNat_toUInt8]
  change (Char.ofNat b.toNat).toNat % 256 = b.toNat
  rw [toNat_ofNat_byte]
  exact Nat.mod_eq_of_lt b.toNat_lt

theorem utf8_ofList (cs : List Char) :
    Text.utf8 (String.ofList cs) = cs.flatMap String.utf8EncodeChar := by
  simp [Text.utf8, List.utf8Encode]

theorem utf8_toString (c : Char) : Text.utf8 c.toString = String.utf8EncodeChar c := by
  rw [Char.toString, String.singleton_eq_ofList, utf8_ofList, List.flatMap_singleton]

theorem ofUtf8?_utf8 (s : String) : Text.ofUtf8? (Text.utf8 s) = some s := by
  have same : ByteArray.mk (Text.utf8 s).toArray = s.toByteArray := by
    simp [Text.utf8]
  rw [Text.ofUtf8?, same, String.fromUTF8?, dif_pos s.isValidUTF8]
  rfl

def isNumbered (c : Char) : Bool :=
  c.toNat < 0x20 && !(['\x08', '\x0c', '\n', '\r', '\t'].contains c)

def unitsOf (c : Char) : List TextUnit :=
  if isNumbered c then [.code c.toNat] else (seen [c]).map .char

theorem stringUnits_plain {c : Char} (quote : c ≠ '"') (escape : c ≠ '\\') (shown : 0x20 ≤ c.toNat)
    (rest : List Char) :
    stringUnits (c :: rest) = (stringUnits rest).map fun p => (.char c :: p.1, p.2) := by
  rw [stringUnits]
  · rw [if_neg (by omega)]
    cases stringUnits rest <;> rfl
  · exact quote
  · rintro _ _ _ _ _ rfl
    exact absurd rfl escape
  · rintro _ _ rfl
    exact absurd rfl escape

theorem hexCode?_control {n : Nat} (h : n < 0x20) :
    hexCode? '0' '0' (Nat.digitChar (n / 16)) (Nat.digitChar (n % 16)) = some n := by
  revert h n
  decide

theorem stringUnits_high {bytes : List UInt8} (high : ∀ b ∈ bytes, 0x80 ≤ b.toNat)
    (rest : List Char) :
    stringUnits (byteChars bytes ++ rest) =
      (stringUnits rest).map fun p => ((byteChars bytes).map .char ++ p.1, p.2) := by
  induction bytes with
  | nil => simp [byteChars]
  | cons b bytes ih =>
    have first : 0x80 ≤ (Char.ofNat b.toNat).toNat := by
      rw [toNat_ofNat_byte]
      exact high b List.mem_cons_self
    have differs (c : Char) (low : c.toNat < 0x80) : Char.ofNat b.toNat ≠ c := by
      rintro same
      rw [same] at first
      omega
    change stringUnits (Char.ofNat b.toNat :: (byteChars bytes ++ rest)) = _
    rw [stringUnits_plain (differs _ (by decide)) (differs _ (by decide)) (by omega),
      ih fun b' member => high b' (List.mem_cons_of_mem _ member)]
    cases stringUnits rest <;> rfl

theorem stringUnits_escapeChar (c : Char) (rest : List Char) :
    stringUnits (seen (escapeChar c) ++ rest) =
      (stringUnits rest).map fun p => (unitsOf c ++ p.1, p.2) := by
  have shown : ∀ c : Char, c.toNat < 0x80 → ∀ cs, seen (c :: cs) = c :: seen cs :=
    fun _ => seen_cons_ascii
  unfold escapeChar
  split
  case h_8 quote escape b f n r t =>
    have regular : ¬ c ∈ ['\x08', '\x0c', '\n', '\r', '\t'] := by
      simp only [List.mem_cons, List.not_mem_nil, or_false, not_or]
      exact ⟨b, f, n, r, t⟩
    by_cases control : c.toNat < 0x20
    · have numbered : isNumbered c = true := by simp [isNumbered, control, regular]
      have value : c.toUInt8.toNat = c.toNat := by
        rw [Char.toUInt8, UInt32.toNat_toUInt8]
        exact Nat.mod_eq_of_lt (Nat.lt_trans control (by decide))
      have digits := hexCode?_control control
      have ascii : ∀ n, n < 16 → (Nat.digitChar n).toNat < 0x80 := by decide
      rw [if_pos control, Text.hexDigits, value]
      rw [shown _ (by decide), shown _ (by decide), shown _ (by decide), shown _ (by decide),
        shown _ (ascii _ (by omega)), shown _ (ascii _ (by omega)), seen_nil]
      simp only [List.cons_append, List.nil_append, stringUnits, digits, unitsOf, numbered, if_true]
      cases stringUnits rest <;> rfl
    · have spelled : isNumbered c = false := by simp [isNumbered, control]
      rw [if_neg control, unitsOf, spelled]
      by_cases ascii : c.toNat < 0x80
      · rw [shown c ascii]
        simp only [seen_nil, List.cons_append, List.nil_append]
        rw [stringUnits_plain quote escape (by omega)]
        rfl
      · have read := stringUnits_high (high_of_mem_utf8EncodeChar (c := c) (by omega)) rest
        simpa [seen] using read
  all_goals
    simp [shown, stringUnits, escaped?, unitsOf, isNumbered]
    cases stringUnits rest <;> rfl

theorem stringUnits_escaped (cs rest : List Char) :
    stringUnits (seen (cs.flatMap escapeChar) ++ '"' :: rest) = some (cs.flatMap unitsOf, rest) := by
  induction cs with
  | nil => simp [stringUnits]
  | cons c cs ih =>
    rw [List.flatMap_cons, seen_append, List.append_assoc, stringUnits_escapeChar, ih]
    rfl

theorem unitBytes?_chars (bytes : List UInt8) (units : List TextUnit) :
    unitBytes? ((byteChars bytes).map .char ++ units) = (unitBytes? units).map (bytes ++ ·) := by
  induction bytes with
  | nil => simp [byteChars]
  | cons b bytes ih =>
    change unitBytes? (.char (Char.ofNat b.toNat) :: ((byteChars bytes).map .char ++ units)) = _
    rw [unitBytes?, ih, toUInt8_ofNat]
    cases unitBytes? units <;> rfl

theorem unitBytes?_code {n : Nat} (h : n < 0xd800) (units : List TextUnit) :
    unitBytes? (.code n :: units) =
      (unitBytes? units).map (Text.utf8 (Char.ofNat n).toString ++ ·) := by
  have high : isHighSurrogate n = false := by simp [isHighSurrogate]; omega
  have low : isLowSurrogate n = false := by simp [isLowSurrogate]; omega
  cases units with
  | nil => simp [unitBytes?, high, low]
  | cons u units => cases u <;> simp [unitBytes?, high, low]

theorem unitBytes?_unitsOf (cs : List Char) :
    unitBytes? (cs.flatMap unitsOf) = some (cs.flatMap String.utf8EncodeChar) := by
  induction cs with
  | nil => rfl
  | cons c cs ih =>
    rw [List.flatMap_cons, List.flatMap_cons, unitsOf]
    split
    · rename_i numbered
      have control : c.toNat < 0x20 := by
        simp only [isNumbered, Bool.and_eq_true, decide_eq_true_eq] at numbered
        exact numbered.1
      rw [List.singleton_append, unitBytes?_code (by omega), ih, utf8_toString, Char.ofNat_toNat]
      rfl
    · rw [seen, List.flatMap_singleton, unitBytes?_chars, ih]
      rfl

theorem unitsOf_ascii {cs : List Char} (h : (cs.flatMap unitsOf).all TextUnit.isAscii) :
    cs.flatMap unitsOf = cs.map .char := by
  induction cs with
  | nil => rfl
  | cons c cs ih =>
    simp only [List.flatMap_cons, List.all_append, Bool.and_eq_true] at h
    obtain ⟨first, others⟩ := h
    rw [List.flatMap_cons, List.map_cons, ih others]
    unfold unitsOf at first ⊢
    split at first
    · cases first
    · rename_i spelled
      rw [if_neg spelled]
      by_cases ascii : c.toNat < 0x80
      · rw [seen_cons_ascii ascii]
        rfl
      · exfalso
        obtain ⟨b, member⟩ := List.exists_mem_of_ne_nil _ (String.utf8EncodeChar_ne_nil (c := c))
        have high := high_of_mem_utf8EncodeChar (by omega) b member
        rw [List.all_eq_true] at first
        have low := first (.char (Char.ofNat b.toNat)) (by
          simp only [seen, byteChars, List.flatMap_singleton, List.map_map, List.mem_map]
          exact ⟨b, member, rfl⟩)
        simp only [TextUnit.isAscii, decide_eq_true_eq, toNat_ofNat_byte] at low
        omega

theorem joinUnits_unitsOf (s : String) : joinUnits (s.toList.flatMap unitsOf) = some s := by
  unfold joinUnits
  split
  · rename_i ascii
    rw [unitsOf_ascii ascii, List.filterMap_map]
    change some (String.ofList (s.toList.filterMap some)) = some s
    rw [List.filterMap_some, String.ofList_toList]
  · rw [unitBytes?_unitsOf, ← utf8_ofList, String.ofList_toList]
    exact ofUtf8?_utf8 s

def needsEscape (c : Char) : Bool := c == '"' || c == '\\' || c.toNat < 0x20

theorem escapeChar_of_plain {c : Char} (h : needsEscape c = false) : escapeChar c = [c] := by
  simp only [needsEscape, Bool.or_eq_false_iff, beq_eq_false_iff_ne, decide_eq_false_iff_not] at h
  obtain ⟨⟨quote, escape⟩, shown⟩ := h
  unfold escapeChar
  split
  case h_8 => rw [if_neg shown]
  all_goals first | exact absurd rfl quote | exact absurd rfl escape | exact absurd (by decide) shown

theorem escapeChar_of_escaped {c : Char} (h : needsEscape c = true) :
    ∃ letters, seen (escapeChar c) = '\\' :: letters := by
  unfold escapeChar
  split
  case h_8 quote escape b f n r t =>
    have control : c.toNat < 0x20 := by
      simp only [needsEscape, Bool.or_eq_true, beq_iff_eq, decide_eq_true_eq] at h
      rcases h with (h | h) | h
      · exact absurd h quote
      · exact absurd h escape
      · exact h
    rw [if_pos control]
    exact ⟨_, seen_cons_ascii (by decide) _⟩
  all_goals exact ⟨_, seen_cons_ascii (by decide) _⟩

theorem unitsOf_of_plain {c : Char} (h : needsEscape c = false) :
    unitsOf c = (seen [c]).map .char := by
  have control : ¬ c.toNat < 0x20 := by
    simp only [needsEscape, Bool.or_eq_false_iff, decide_eq_false_iff_not] at h
    exact h.2
  have spelled : isNumbered c = false := by simp [isNumbered, control]
  simp [unitsOf, spelled]

theorem unitsOf_ne_nil (c : Char) : unitsOf c ≠ [] := by
  unfold unitsOf
  split
  · simp
  · simp [seen, byteChars, String.utf8EncodeChar_ne_nil]

theorem not_mem_seen_of_plain {c : Char} (h : needsEscape c = false) : '\\' ∉ seen [c] := by
  by_cases ascii : c.toNat < 0x80
  · rw [seen_cons_ascii ascii]
    rintro member
    rcases List.mem_cons.mp member with rfl | member
    · exact absurd h (by decide)
    · cases member
  · simp only [seen, byteChars, List.flatMap_singleton, List.mem_map, not_exists, not_and]
    intro b member same
    have high := high_of_mem_utf8EncodeChar (by omega) b member
    rw [← toNat_ofNat_byte, same] at high
    exact absurd high (by decide)

/-- An escape in a string shows before its units have been counted off. -/
theorem contains_take_escaped (cs rest : List Char) :
    ((seen (cs.flatMap escapeChar) ++ rest).take (cs.flatMap unitsOf).length).contains '\\' =
      cs.any needsEscape := by
  induction cs with
  | nil => simp
  | cons c cs ih =>
    rw [List.flatMap_cons, List.flatMap_cons, seen_append, List.append_assoc, List.length_append,
      List.any_cons]
    cases h : needsEscape c with
    | true =>
      obtain ⟨letters, front⟩ := escapeChar_of_escaped h
      obtain ⟨u, us, some⟩ := List.exists_cons_of_ne_nil (unitsOf_ne_nil c)
      rw [front, some, List.length_cons, Nat.add_right_comm, List.cons_append, List.take_succ_cons]
      simp
    | false =>
      rw [escapeChar_of_plain h, unitsOf_of_plain h, List.length_map, List.take_length_add_append,
        List.contains_append, ih]
      have absent : (seen [c]).contains '\\' = false := by
        simpa using not_mem_seen_of_plain h
      rw [absent]

def Name.reread : Name → Name
  | .plain text | .escaped text =>
    if text.toList.any needsEscape then .escaped text else .plain text
  | .unreadable => .plain ""

theorem readName?_written (name : Name) (rest : List Char) :
    readName? (seen ((name.text?.getD "").toList.flatMap escapeChar) ++ '"' :: rest) =
      some (name.reread, rest) := by
  unfold readName?
  rw [stringUnits_escaped]
  simp only [Option.bind_eq_bind, Option.bind_some, joinUnits_unitsOf, contains_take_escaped]
  cases name <;> rfl

end SeriesCluster.Json
