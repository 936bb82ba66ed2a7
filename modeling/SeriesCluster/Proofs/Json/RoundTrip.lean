import SeriesCluster.Proofs.Json.Decimal

namespace SeriesCluster

/-- Whether a number is read back as it was written. -/
def Binary64.Exact (x : Binary64) : Prop := Json.ofBytes Binary64 (Json.toBytes x) = .ok x

def AllFinite (xs : List Binary64) : Prop := ∀ x ∈ xs, x.isFinite

instance (xs : List Binary64) : Decidable (AllFinite xs) :=
  inferInstanceAs (Decidable (∀ x ∈ xs, x.isFinite))

def FiniteExact (xs : List Binary64) : Prop := ∀ x ∈ xs, x.isFinite → x.Exact

theorem allFinite_flatMap {α : Type} {as : List α} {f : α → List Binary64} :
    AllFinite (as.flatMap f) ↔ ∀ a ∈ as, AllFinite (f a) :=
  List.forall_mem_flatMap

theorem finiteExact_flatMap {α : Type} {as : List α} {f : α → List Binary64} :
    FiniteExact (as.flatMap f) ↔ ∀ a ∈ as, FiniteExact (f a) :=
  List.forall_mem_flatMap

namespace Json

namespace Value

mutual

/-- The value that is read where a value was written. -/
def reread : Value → Value
  | array elements => array (rereadAll elements)
  | object members => object (rereadMembers members)
  | float x => if x.isFinite then float x else null
  | v => v

def rereadAll : List Value → List Value
  | [] => []
  | v :: rest => v.reread :: rereadAll rest

def rereadMembers : List (Name × Value) → List (Name × Value)
  | [] => []
  | (name, v) :: rest => (name.reread, v.reread) :: rereadMembers rest

end

theorem rereadAll_eq_map (vs : List Value) : rereadAll vs = vs.map reread := by
  induction vs with
  | nil => rfl
  | cons v vs ih => rw [rereadAll, ih, List.map_cons]

theorem rereadMembers_eq_map (ms : List (Name × Value)) :
    rereadMembers ms = ms.map fun m => (m.1.reread, m.2.reread) := by
  induction ms with
  | nil => rfl
  | cons m ms ih => rw [rereadMembers, ih, List.map_cons]

/-- The values that have a text to be read back, with at most `room` containers nested: integers of
64 bits, and doubles that are read as they were written if they are finite. -/
inductive Writable : Nat → Value → Prop
  | null {room : Nat} : Writable room null
  | bool {room : Nat} (b : Bool) : Writable room (bool b)
  | natural {room n : Nat} (bound : n < UInt64.size) : Writable room (int n)
  | negative {room n : Nat} (positive : 0 < n) (bound : n ≤ Int64.minValue.toInt.natAbs) :
    Writable room (int (-n))
  | float {room : Nat} {x : Binary64} (exact : x.isFinite → x.Exact) : Writable room (float x)
  | text {room : Nat} (s : String) : Writable room (text s)
  | array {room : Nat} {elements : List Value} (each : ∀ v ∈ elements, Writable room v) :
    Writable (room + 1) (array elements)
  | object {room : Nat} {members : List (Name × Value)} (each : ∀ m ∈ members, Writable room m.2) :
    Writable (room + 1) (object members)

theorem Writable.mono {room more : Nat} {v : Value} (h : Writable room v) (le : room ≤ more) :
    Writable more v := by
  induction h generalizing more with
  | null => exact null
  | bool b => exact bool b
  | natural bound => exact natural bound
  | negative positive bound => exact negative positive bound
  | float readable => exact float readable
  | text s => exact text s
  | array each ih =>
    obtain ⟨n, rfl⟩ : ∃ n, more = n + 1 := ⟨more - 1, by omega⟩
    exact array fun v member => ih v member (by omega)
  | object each ih =>
    obtain ⟨n, rfl⟩ : ∃ n, more = n + 1 := ⟨more - 1, by omega⟩
    exact object fun m member => ih m member (by omega)

end Value

open Value

theorem skipSpace_cons {c : Char} (h : isSpace c = false) (cs : List Char) :
    skipSpace (c :: cs) = c :: cs := by
  rw [skipSpace, List.dropWhile_cons, h]
  rfl

theorem seen_writeString (s : String) (rest : List Char) :
    seen (writeString s) ++ rest = '"' :: (seen (s.toList.flatMap escapeChar) ++ '"' :: rest) := by
  rw [writeString, List.cons_append, seen_cons_ascii (by decide), seen_append,
    seen_cons_ascii (by decide), seen_nil, List.cons_append, List.append_assoc]
  rfl

theorem readValue_digit {c : Char} (h : c.isDigit) (fuel room : Nat) (cs : List Char) :
    readValue (fuel + 1) room (c :: cs) = orCut (unsignedNumber false (c :: cs)) := by
  rw [readValue, skipSpace_cons (isSpace_of_isDigit h)]
  split
  all_goals first
    | rfl
    | (rename_i same; exact absurd (List.cons.inj same).1 (ne_of_isDigit h (by decide)))

theorem readValue_text (fuel room : Nat) (s : String) (rest : List Char) :
    readValue (fuel + 1) room (seen (writeString s) ++ rest) = (.text s, some rest) := by
  rw [seen_writeString, readValue, skipSpace_cons (by decide)]
  simp only [stringUnits_escaped, Option.map_some, joinUnits_unitsOf, Option.getD_some, orCut]

theorem readValue_natural (fuel room : Nat) {n : Nat} (bound : n < UInt64.size) {rest : List Char}
    (ends : Ends rest) :
    readValue (fuel + 1) room (Nat.toDigits 10 n ++ rest) = (.int n, some rest) := by
  obtain ⟨d, ds, digits⟩ := List.exists_cons_of_ne_nil (Nat.toDigits_ne_nil (n := n) (b := 10))
  have first : d.isDigit := isDigit_of_mem_decimal (n := n) (by simp [digits])
  have number := unsignedNumber_decimal false n ends
  rw [integerValue_natural bound, digits, List.cons_append] at number
  rw [digits, List.cons_append, readValue_digit first, number, orCut]

theorem readValue_negative (fuel room : Nat) {n : Nat} (positive : 0 < n) (bound : n ≤ Int64.minValue.toInt.natAbs)
    {rest : List Char} (ends : Ends rest) :
    readValue (fuel + 1) room ('-' :: Nat.toDigits 10 n ++ rest) = (.int (-n), some rest) := by
  rw [List.cons_append, readValue, skipSpace_cons (by decide)]
  simp only [unsignedNumber_decimal true n ends, integerValue_negative positive bound, orCut]

theorem readValue_signed (fuel room : Nat) (negative : Bool) (n : Numeral) {rest : List Char}
    (ends : Ends rest) :
    readValue (fuel + 1) room (n.signed negative ++ rest) =
      orCut ((n.value? negative).map fun v => (v, rest)) := by
  cases negative with
  | true =>
    rw [Numeral.signed, if_pos rfl, List.cons_append, readValue, skipSpace_cons (by decide)]
    simp only [n.unsignedNumber_text true ends]
  | false =>
    obtain ⟨d, ds, front, digit⟩ := n.exists_text
    have read := n.unsignedNumber_text false ends
    rw [front, List.cons_append] at read
    rw [Numeral.signed, if_neg Bool.false_ne_true, front, List.cons_append, readValue_digit digit, read]

theorem seen_writeValue (v : Value) : byteChars (Text.utf8 v.compact) = seen (writeValue v) := by
  rw [Value.compact, utf8_ofList, seen]

theorem seen_signed (negative : Bool) (n : Numeral) : seen (n.signed negative) = n.signed negative :=
  seen_of_ascii (n.ascii_signed negative)

theorem writeValue_float {x : Binary64} (finite : x.isFinite) : writeValue (.float x) = x.write := by
  rw [writeValue, if_pos finite]

theorem value?_of_exact {x : Binary64} (finite : x.isFinite) (exact : x.Exact) {n : Numeral}
    (written : x.write = n.signed x.isNegative) : n.value? x.isNegative = some (.float x) := by
  have front : readFront (byteChars (toBytes x)) =
      orCut ((n.value? x.isNegative).map fun v => (v, [])) := by
    have read := readValue_signed (n.signed x.isNegative).length nestingLimit x.isNegative n .finished
    have text : byteChars (toBytes x) = n.signed x.isNegative := by
      rw [toBytes, seen_writeValue, ← seen_signed, ← written]
      exact congrArg seen (writeValue_float finite)
    rwa [List.append_nil, ← text] at read
  rw [Binary64.Exact, ofBytes, decodeBytes, front] at exact
  cases value : n.value? x.isNegative with
  | none =>
    rw [value] at exact
    cases exact
  | some v =>
    rw [value] at exact
    rcases Numeral.value?_cases value with ⟨y, rfl⟩ | rfl
    · cases exact
      rfl
    · cases exact

theorem readValue_float {x : Binary64} (finite : x.isFinite) (exact : x.Exact) (fuel room : Nat)
    {rest : List Char} (ends : Ends rest) :
    readValue (fuel + 1) room (seen (writeValue (.float x)) ++ rest) = (.float x, some rest) := by
  obtain ⟨n, written⟩ := Numeral.exists_signed x
  rw [writeValue_float finite, written, seen_signed, readValue_signed fuel room _ n ends,
    value?_of_exact finite exact written]
  rfl

theorem front_of_writable {room : Nat} {v : Value} (h : v.Writable room) :
    ∃ c cs, seen (writeValue v) = c :: cs ∧ isSpace c = false ∧ c ≠ ']' := by
  have ascii {c : Char} (low : c.toNat < 0x80) (cs : List Char) (space : isSpace c = false)
      (other : c ≠ ']') : ∃ d ds, seen (c :: cs) = d :: ds ∧ isSpace d = false ∧ d ≠ ']' :=
    ⟨c, seen cs, seen_cons_ascii low cs, space, other⟩
  cases h with
  | null => exact ascii (by decide) _ (by decide) (by decide)
  | bool b => cases b <;> exact ascii (by decide) _ (by decide) (by decide)
  | @natural _ n bound =>
    obtain ⟨d, ds, digits⟩ := List.exists_cons_of_ne_nil (Nat.toDigits_ne_nil (n := n) (b := 10))
    have first : d.isDigit := isDigit_of_mem_decimal (n := n) (by simp [digits])
    have bounds := toNat_of_isDigit first
    have written : writeValue (.int n) = d :: ds := by simp [writeValue, writeInt, digits]
    rw [written]
    exact ascii (by omega) ds (isSpace_of_isDigit first) (ne_of_isDigit first (by decide))
  | @negative _ n positive bound =>
    have below : (-n : Int) < 0 := by omega
    rw [writeValue, writeInt, if_pos below]
    exact ascii (by decide) _ (by decide) (by decide)
  | @float _ x readable =>
    rw [writeValue]
    split
    · obtain ⟨n, written⟩ := Numeral.exists_signed x
      obtain ⟨c, cs, front, low, space, other⟩ := n.exists_signed_cons x.isNegative
      rw [written, front]
      exact ascii low cs space other
    · exact ascii (by decide) _ (by decide) (by decide)
  | text s => exact ascii (by decide) _ (by decide) (by decide)
  | @array _ elements each =>
    cases elements <;> exact ascii (by decide) _ (by decide) (by decide)
  | @object _ members each =>
    cases members with
    | nil => exact ascii (by decide) _ (by decide) (by decide)
    | cons m ms => exact ascii (by decide) _ (by decide) (by decide)

def elementsText (v : Value) (vs : List Value) : List Char :=
  writeValue v ++ writeElements vs ++ [']']

def membersText (m : Name × Value) (ms : List (Name × Value)) : List Char :=
  writeName m.1 ++ ':' :: writeValue m.2 ++ writeMembers ms ++ ['\x7d']

theorem seen_elementsText_one (v : Value) :
    seen (elementsText v []) = seen (writeValue v) ++ [']'] := by
  simp [elementsText, writeElements, seen_cons_ascii (c := ']') (by decide)]

theorem seen_elementsText_cons (v w : Value) (ws : List Value) :
    seen (elementsText v (w :: ws)) = seen (writeValue v) ++ ',' :: seen (elementsText w ws) := by
  simp [elementsText, writeElements, seen_cons_ascii (c := ',') (by decide)]

theorem seen_membersText_one (m : Name × Value) :
    seen (membersText m []) = seen (writeName m.1) ++ ':' :: (seen (writeValue m.2) ++ ['\x7d']) := by
  simp [membersText, writeMembers, seen_cons_ascii (c := ':') (by decide),
    seen_cons_ascii (c := '\x7d') (by decide)]

theorem seen_membersText_cons (m n : Name × Value) (ns : List (Name × Value)) :
    seen (membersText m (n :: ns)) =
      seen (writeName m.1) ++ ':' :: (seen (writeValue m.2) ++ ',' :: seen (membersText n ns)) := by
  simp [membersText, writeMembers, seen_cons_ascii (c := ':') (by decide),
    seen_cons_ascii (c := ',') (by decide)]

/-- Reading with so much fuel gives back every value, all elements and all members whose text is not
longer than that. -/
structure ReadsBack (fuel : Nat) : Prop where
  value : ∀ (room : Nat) (v : Value) (rest : List Char), v.Writable room → Ends rest →
    (seen (writeValue v)).length ≤ fuel →
    readValue fuel room (seen (writeValue v) ++ rest) = (v.reread, some rest)
  elements : ∀ (room : Nat) (v : Value) (vs : List Value) (rest : List Char),
    (∀ w ∈ v :: vs, w.Writable room) → (seen (elementsText v vs)).length ≤ fuel →
    readElements fuel room (seen (elementsText v vs) ++ rest) = (rereadAll (v :: vs), some rest)
  members : ∀ (room : Nat) (m : Name × Value) (ms : List (Name × Value)) (rest : List Char),
    (∀ n ∈ m :: ms, n.2.Writable room) → (seen (membersText m ms)).length ≤ fuel →
    readMembers fuel room (seen (membersText m ms) ++ rest) = (rereadMembers (m :: ms), some rest)

variable {fuel : Nat}

theorem ReadsBack.elements_succ (ih : ReadsBack fuel) (room : Nat) (v : Value) (vs : List Value)
    (rest : List Char) (writable : ∀ w ∈ v :: vs, w.Writable room)
    (enough : (seen (elementsText v vs)).length ≤ fuel + 1) :
    readElements (fuel + 1) room (seen (elementsText v vs) ++ rest) =
      (rereadAll (v :: vs), some rest) := by
  have first := writable v List.mem_cons_self
  cases vs with
  | nil =>
    rw [seen_elementsText_one] at enough ⊢
    simp only [List.length_append, List.length_singleton] at enough
    have head := ih.value room v (']' :: rest) first (.bracket rest) (by omega)
    rw [List.append_assoc, List.singleton_append, readElements, head]
    rfl
  | cons w ws =>
    rw [seen_elementsText_cons] at enough ⊢
    simp only [List.length_append, List.length_cons] at enough
    have others : ∀ x ∈ w :: ws, x.Writable room := fun x member =>
      writable x (List.mem_cons_of_mem _ member)
    have head := ih.value room v (',' :: (seen (elementsText w ws) ++ rest)) first (.comma _) (by omega)
    have tail := ih.elements room w ws rest others (by omega)
    rw [List.append_assoc, List.cons_append, readElements, head]
    change ((v.reread :: (readElements fuel room _).1, (readElements fuel room _).2) : Read _) = _
    rw [tail]
    rfl

theorem readMembers_last (fuel room : Nat) (name : Name) {rest more : List Char} {v : Value}
    (head : readValue fuel room rest = (v, some ('\x7d' :: more))) :
    readMembers (fuel + 1) room (seen (writeName name) ++ ':' :: rest) =
      ([(name.reread, v)], some more) := by
  rw [writeName, seen_writeString, readMembers, skipSpace_cons (by decide)]
  simp only [readName?_written, skipSpace_cons (c := ':') (by decide), head,
    skipSpace_cons (c := '\x7d') (by decide)]

theorem readMembers_next (fuel room : Nat) (name : Name) {rest more : List Char} {v : Value}
    (head : readValue fuel room rest = (v, some (',' :: more))) :
    readMembers (fuel + 1) room (seen (writeName name) ++ ':' :: rest) =
      ((name.reread, v) :: (readMembers fuel room more).1, (readMembers fuel room more).2) := by
  rw [writeName, seen_writeString, readMembers, skipSpace_cons (by decide)]
  simp only [readName?_written, skipSpace_cons (c := ':') (by decide), head,
    skipSpace_cons (c := ',') (by decide)]

theorem ReadsBack.members_succ (ih : ReadsBack fuel) (room : Nat) (m : Name × Value)
    (ms : List (Name × Value)) (rest : List Char) (writable : ∀ n ∈ m :: ms, n.2.Writable room)
    (enough : (seen (membersText m ms)).length ≤ fuel + 1) :
    readMembers (fuel + 1) room (seen (membersText m ms) ++ rest) =
      (rereadMembers (m :: ms), some rest) := by
  have first := writable m List.mem_cons_self
  cases ms with
  | nil =>
    rw [seen_membersText_one] at enough ⊢
    simp only [List.length_append, List.length_cons, List.length_nil] at enough
    have head := ih.value room m.2 ('\x7d' :: rest) first (.brace rest) (by omega)
    rw [List.append_assoc, List.cons_append, List.append_assoc, List.singleton_append,
      readMembers_last fuel room m.1 head]
    rfl
  | cons n ns =>
    rw [seen_membersText_cons] at enough ⊢
    simp only [List.length_append, List.length_cons] at enough
    have others : ∀ x ∈ n :: ns, x.2.Writable room := fun x member =>
      writable x (List.mem_cons_of_mem _ member)
    have head := ih.value room m.2 (',' :: (seen (membersText n ns) ++ rest)) first (.comma _)
      (by omega)
    have tail := ih.members room n ns rest others (by omega)
    rw [List.append_assoc, List.cons_append, List.append_assoc, List.cons_append,
      readMembers_next fuel room m.1 head, tail]
    rfl

theorem ReadsBack.array_succ (ih : ReadsBack fuel) (room : Nat) (vs : List Value)
    (rest : List Char) (writable : ∀ v ∈ vs, v.Writable room)
    (enough : (seen (writeValue (.array vs))).length ≤ fuel + 1) :
    readValue (fuel + 1) (room + 1) (seen (writeValue (.array vs)) ++ rest) =
      (.array (rereadAll vs), some rest) := by
  cases vs with
  | nil =>
    rw [writeValue, seen_cons_ascii (by decide), seen_cons_ascii (by decide), seen_nil,
      List.cons_append, readValue, skipSpace_cons (by decide)]
    rfl
  | cons v vs =>
    have text : seen (writeValue (.array (v :: vs))) = '[' :: seen (elementsText v vs) := by
      rw [writeValue, List.cons_append, List.cons_append, seen_cons_ascii (by decide), elementsText]
    rw [text] at enough ⊢
    simp only [List.length_cons] at enough
    obtain ⟨c, cs, front, space, other⟩ := front_of_writable (writable v List.mem_cons_self)
    have start : ∃ ds, seen (elementsText v vs) ++ rest = c :: ds := by
      simp [elementsText, front]
    obtain ⟨ds, start⟩ := start
    have read := ih.elements room v vs rest writable (by omega)
    rw [List.cons_append, readValue, skipSpace_cons (by decide)]
    simp only [start, skipSpace_cons space, Nat.add_sub_cancel] at read ⊢
    split
    · rename_i same
      exact absurd (List.cons.inj same).1 other
    · rw [read]
      rfl

theorem ReadsBack.object_succ (ih : ReadsBack fuel) (room : Nat) (ms : List (Name × Value))
    (rest : List Char) (writable : ∀ m ∈ ms, m.2.Writable room)
    (enough : (seen (writeValue (.object ms))).length ≤ fuel + 1) :
    readValue (fuel + 1) (room + 1) (seen (writeValue (.object ms)) ++ rest) =
      (.object (rereadMembers ms), some rest) := by
  cases ms with
  | nil =>
    rw [writeValue, seen_cons_ascii (by decide), seen_cons_ascii (by decide), seen_nil,
      List.cons_append, readValue, skipSpace_cons (by decide)]
    rfl
  | cons m ms =>
    have text : seen (writeValue (.object (m :: ms))) = '\x7b' :: seen (membersText m ms) := by
      obtain ⟨name, v⟩ := m
      simp [writeValue, membersText, seen_cons_ascii (c := '\x7b') (by decide)]
    rw [text] at enough ⊢
    simp only [List.length_cons] at enough
    have start : ∃ ds, seen (membersText m ms) ++ rest = '"' :: ds := by
      simp [membersText, writeName, writeString, seen_cons_ascii (c := '"') (by decide)]
    obtain ⟨ds, start⟩ := start
    have read := ih.members room m ms rest writable (by omega)
    rw [List.cons_append, readValue, skipSpace_cons (by decide)]
    simp only [start, skipSpace_cons (c := '"') (by decide), Nat.add_sub_cancel] at read ⊢
    change container (room + 1) (.object (readMembers fuel room _).1) (readMembers fuel room _).2 = _
    rw [read]
    rfl

theorem ReadsBack.value_succ (ih : ReadsBack fuel) (room : Nat) (v : Value) (rest : List Char)
    (writable : v.Writable room) (ends : Ends rest)
    (enough : (seen (writeValue v)).length ≤ fuel + 1) :
    readValue (fuel + 1) room (seen (writeValue v) ++ rest) = (v.reread, some rest) := by
  cases writable with
  | null =>
    have text : seen (writeValue .null) = ['n', 'u', 'l', 'l'] := by decide
    rw [text, List.cons_append, readValue, skipSpace_cons (by decide)]
    rfl
  | bool b =>
    have text : seen (writeValue (.bool b)) = (toString b).toList := by cases b <;> decide
    rw [text]
    cases b <;> rfl
  | @natural _ n bound =>
    have above : ¬ (n : Int) < 0 := by omega
    have text : seen (writeValue (.int n)) = Nat.toDigits 10 n := by
      rw [writeValue, writeInt, if_neg above, Int.natAbs_natCast, seen_decimal]
    rw [text]
    exact readValue_natural fuel room bound ends
  | @negative _ n positive bound =>
    have below : (-n : Int) < 0 := by omega
    have text : seen (writeValue (.int (-n))) = '-' :: Nat.toDigits 10 n := by
      rw [writeValue, writeInt, if_pos below, Int.natAbs_neg, Int.natAbs_natCast,
        seen_cons_ascii (by decide), seen_decimal]
    rw [text]
    exact readValue_negative fuel room positive bound ends
  | @float _ x readable =>
    rw [Value.reread]
    by_cases finite : x.isFinite
    · rw [if_pos finite]
      exact readValue_float finite (readable finite) fuel room ends
    · have text : seen (writeValue (.float x)) = ['n', 'u', 'l', 'l'] := by
        rw [writeValue, if_neg finite]
        decide
      rw [if_neg finite, text, List.cons_append, readValue, skipSpace_cons (by decide)]
      rfl
  | text s => exact readValue_text fuel room s rest
  | array each => exact ih.array_succ _ _ _ each enough
  | object each => exact ih.object_succ _ _ _ each enough

theorem readsBack (fuel : Nat) : ReadsBack fuel := by
  induction fuel with
  | zero =>
    refine ⟨fun room v rest writable _ short => ?_, fun room v vs rest _ short => ?_,
      fun room m ms rest _ short => ?_⟩
    · obtain ⟨c, cs, front, -⟩ := front_of_writable writable
      simp [front] at short
    · simp [elementsText, seen_cons_ascii (c := ']') (by decide)] at short
    · simp [membersText, seen_cons_ascii (c := ':') (by decide)] at short
  | succ fuel ih => exact ⟨ih.value_succ, ih.elements_succ, ih.members_succ⟩

theorem readFront_compact {v : Value} (h : v.Writable nestingLimit) :
    readFront (byteChars (Text.utf8 v.compact)) = (v.reread, some []) := by
  have read := (readsBack ((seen (writeValue v)).length + 1)).value nestingLimit v [] h .finished
    (Nat.le_succ _)
  rwa [List.append_nil, ← seen_writeValue] at read

theorem decodeBytes_compact {α : Type} (decode : Value → Except Fault α) {v : Value}
    (writable : v.Writable nestingLimit) :
    decodeBytes decode (Text.utf8 v.compact) = decode v.reread := by
  rw [decodeBytes, readFront_compact writable]
  cases decoded : decode v.reread with
  | error fault => simp only [decoded]; rfl
  | ok a => simp only [decoded]; rfl

end Json

end SeriesCluster
