import SeriesCluster.Net.Message
import SeriesCluster.Proofs.Json.Lossless
import SeriesCluster.Proofs.Net.Frame

namespace SeriesCluster

open Json

instance : Lossless DataType where
  room := 0
  writable t := .text t.name
  decoded t := by cases t <;> rfl

instance : Lossless ReadStats :=
  .ofRecord 0 (fun _ => rfl) rfl (by decide)
    (fun s => .cons s.seriesCount rfl (by decide) <| .cons s.pointCount rfl (by decide) .nil)
    fun _ => by simp [Members.get_later, bind, Except.bind, pure, Except.pure]

instance : Lossless ReadResponse :=
  .ofRecord 1 (fun _ => rfl) rfl (by decide)
    (fun r => .cons r.dataType rfl (by decide) <| .cons r.stats rfl (by decide) <|
      .cons r.error rfl (by decide) .nil)
    fun _ => by simp [Members.get_later, bind, Except.bind, pure, Except.pure]

instance : Lossless ReadEnd :=
  .ofRecord 1 (fun _ => rfl) rfl (by decide)
    (fun e => .cons e.stats rfl (by decide) <| .cons e.error rfl (by decide) .nil)
    fun _ => by simp [Members.get_later, bind, Except.bind, pure, Except.pure]

instance : Lossless Measurement :=
  .ofRecord 0 (fun _ => rfl) rfl (by decide)
    (fun m => .cons m.database rfl (by decide) <| .cons m.retentionPolicy rfl (by decide) <|
      .cons m.name rfl (by decide) <| .cons m.pattern rfl (by decide) <|
      .cons m.systemIterator rfl (by decide) .nil)
    fun _ => by simp [Members.get_later, bind, Except.bind, pure, Except.pure]

theorem ReadOptions.decodeCount_encode (n : UInt64) :
    ReadOptions.decodeCount (encode n).reread = .ok n := by
  have bound : n.toNat ≤ UInt64.size - 1 := Nat.le_of_lt_succ n.toNat_lt
  change (decodeNat (UInt64.size - 1) "usize" (.int n.toNat)).map UInt64.ofNat = .ok n
  rw [decodeNat_natural _ bound]
  exact congrArg Except.ok UInt64.ofNat_toNat

instance : Lossless ReadOptions :=
  .ofRecord 1 (fun _ => rfl) rfl (by decide)
    (fun o => .cons o.startTime rfl (by decide) <| .cons o.endTime rfl (by decide) <|
      .cons o.ascending rfl (by decide) <| .cons o.fields rfl (by decide) <|
      .cons o.nodeId rfl (by decide) <|
      .one rfl ((Lossless.writable o.limit).mono (by decide))
        (ReadOptions.decodeCount_encode o.limit) .nil)
    fun o => by
      simp [Members.get_later, Members.getBy_later, ReadOptions.decodeCount_encode, bind,
        Except.bind, pure, Except.pure]

instance : Lossless ReadRequest :=
  .ofRecord 2 (fun _ => rfl) rfl (by decide)
    (fun r => .cons r.shardIds rfl (by decide) <| .cons r.measurement rfl (by decide) <|
      .cons r.options rfl (by decide) .nil)
    fun _ => by simp [Members.get_later, bind, Except.bind, pure, Except.pure]

instance : Lossless FieldDimensions :=
  .ofRecord 1 (fun _ => rfl) rfl (by decide)
    (fun d => .cons d.fields rfl (by decide) <| .cons d.dimensions rfl (by decide) .nil)
    fun _ => by simp [Members.get_later, bind, Except.bind, pure, Except.pure]

instance : Lossless DimensionsRequest :=
  .ofRecord 1 (fun _ => rfl) rfl (by decide)
    (fun r => .cons r.shardIds rfl (by decide) <| .cons r.measurement rfl (by decide) .nil)
    fun _ => by simp [Members.get_later, bind, Except.bind, pure, Except.pure]

instance : Lossless DimensionsResponse :=
  .ofRecord 2 (fun _ => rfl) rfl (by decide)
    (fun r => .cons r.dimensions rfl (by decide) <| .cons r.error rfl (by decide) .nil)
    fun _ => by simp [Members.get_later, bind, Except.bind, pure, Except.pure]

theorem Frame.decodePayload_eq_ite {α : Type} [Codec α] {room : Nat} {a : α} {sound : Prop}
    [Decidable sound] (h : KeptIff room a sound) (shallow : room ≤ nestingLimit) (type : UInt8) :
    decodePayload α (carrying type a).payload =
      if sound then .ok a else .error (.serialization none) := by
  by_cases holds : sound
  · rw [if_pos holds]
    exact decodePayload_carrying ((h.kept holds).ofBytes_toBytes shallow) type
  · obtain ⟨fault, refused, silent⟩ := h.ofBytes_refused shallow holds
    rw [if_neg holds, payload_carrying, decodePayload, refused, Except.mapError, silent]

theorem length_utf8 (cs : List Char) : cs.length ≤ (Text.utf8 (String.ofList cs)).length ∧
    (Text.utf8 (String.ofList cs)).length ≤ 4 * cs.length := by
  rw [utf8_ofList]
  induction cs with
  | nil => exact ⟨Nat.le_refl _, Nat.le_refl _⟩
  | cons c cs ih =>
    have least := c.utf8Size_pos
    have most := c.utf8Size_le_four
    rw [List.flatMap_cons, List.length_append, List.length_cons, String.length_utf8EncodeChar]
    omega

theorem length_writeInt_le (i : Int64) : (writeInt i.toInt).length ≤ 20 := by
  have digits : (Nat.toDigits 10 i.toInt.natAbs).length ≤ 19 := by
    have low := i.le_toInt
    have high := i.toInt_lt
    exact (Nat.length_toDigits_le_iff (by decide) (by decide)).mpr (by omega)
  rw [writeInt]
  split
  · rw [List.length_cons]
    omega
  · omega

theorem length_writeValue_stats (s : ReadStats) : (writeValue (encode s)).length ≤ 64 := by
  have text : writeValue (encode s) =
      '\x7b' :: writeName "series_n" ++ ':' :: writeInt s.seriesCount.toInt ++
        (',' :: writeName "point_n" ++ ':' :: writeInt s.pointCount.toInt ++ []) ++ ['\x7d'] := rfl
  have series : (writeName "series_n").length = 10 := by decide +kernel
  have point : (writeName "point_n").length = 9 := by decide +kernel
  have first := length_writeInt_le s.seriesCount
  have second := length_writeInt_le s.pointCount
  rw [text]
  simp only [List.length_append, List.length_cons, List.length_nil, series, point]
  omega

theorem ReadEnd.allowed (stats : ReadStats) :
    (Frame.carrying FrameType.readEnd ({ stats := stats, error := none } : ReadEnd)).Allowed := by
  have text : writeValue (encode ({ stats := stats, error := none } : ReadEnd)) =
      '\x7b' :: writeName "stats" ++ ':' :: writeValue (encode stats) ++
        (',' :: writeName "error" ++ ':' :: ['n', 'u', 'l', 'l'] ++ []) ++ ['\x7d'] := rfl
  have first : (writeName "stats").length = 7 := by decide +kernel
  have second : (writeName "error").length = 7 := by decide +kernel
  have counts := length_writeValue_stats stats
  have bytes := (length_utf8 (writeValue (encode ({ stats := stats, error := none } : ReadEnd)))).2
  rw [text] at bytes
  simp only [List.length_append, List.length_cons, List.length_nil, first, second] at bytes
  have limit : 4 * 100 ≤ maxFrameLength := by decide
  rw [Frame.Allowed, Frame.payload_carrying, toBytes, Value.compact, text]
  omega

theorem ReadResponse.allowed (type : DataType) (stats : ReadStats) :
    (Frame.carrying FrameType.readResponse
      ({ dataType := type, stats := stats, error := none } : ReadResponse)).Allowed := by
  have text : writeValue (encode
      ({ dataType := type, stats := stats, error := none } : ReadResponse)) =
      '\x7b' :: writeName "data_type" ++ ':' :: writeString type.name ++
        (',' :: writeName "stats" ++ ':' :: writeValue (encode stats) ++
          (',' :: writeName "error" ++ ':' :: ['n', 'u', 'l', 'l'] ++ [])) ++ ['\x7d'] := rfl
  have first : (writeName "data_type").length = 11 := by decide +kernel
  have second : (writeName "stats").length = 7 := by decide +kernel
  have third : (writeName "error").length = 7 := by decide +kernel
  have name : (writeString type.name).length ≤ 12 := by
    cases type
    all_goals decide +kernel
  have counts := length_writeValue_stats stats
  have bytes := (length_utf8 (writeValue (encode
    ({ dataType := type, stats := stats, error := none } : ReadResponse)))).2
  rw [text] at bytes
  simp only [List.length_append, List.length_cons, List.length_nil, first, second, third] at bytes
  have limit : 4 * 150 ≤ maxFrameLength := by decide
  rw [Frame.Allowed, Frame.payload_carrying, toBytes, Value.compact, text]
  omega

namespace FieldValue

def floats : FieldValue → List Binary64
  | float x => [x]
  | _ => []

theorem floats_eq_nil {v : FieldValue} (noFloat : ∀ x, v ≠ .float x) : v.floats = [] := by
  cases v with
  | float x => exact absurd rfl (noFloat x)
  | _ => rfl

theorem keptIff_variant {β : Type} [Codec β] {name : String} {wrap : β → FieldValue} {b : β}
    {sound : Prop} (inner : KeptIff 0 b sound) (plain : Name.reread (.plain name) = .plain name)
    (encoded : encode (wrap b) = .object [(.plain name, encode b)])
    (decoder : ∀ v, decodeValue (.object [(.plain name, v)]) =
      decodeVariant (fun _ => .error (.misfit none))
        (fun _ v => ((decode v : Except Fault β).map wrap).mapError Fault.located)
        (.object [(.plain name, v)])) :
    KeptIff 1 (wrap b) sound := by
  have read : decode (encode (wrap b)).reread =
      ((decode (encode b).reread : Except Fault β).map wrap).mapError Fault.located := by
    rw [encoded, Value.reread, Value.rereadMembers, Value.rereadMembers, plain]
    exact (decoder _).trans decodeVariant_object
  refine ⟨?_, fun holds => ?_, fun fails => ?_⟩
  · rw [encoded]
    exact .object (List.forall_mem_singleton.mpr inner.writable)
  · rw [read, inner.decoded holds]
    rfl
  · obtain ⟨fault, refused⟩ := inner.refused fails
    rw [read, refused]
    exact ⟨_, rfl⟩

theorem keptIff {v : FieldValue} (exact : FiniteExact v.floats) : KeptIff 1 v (AllFinite v.floats) := by
  have always {β : Type} [Codec β] [Lossless β] (b : β) (flat : Lossless.room β = 0) :
      KeptIff 0 b (AllFinite []) :=
    flat ▸ .of_kept (Lossless.kept b) (List.forall_mem_nil _)
  cases v with
  | float x =>
    have inner : KeptIff 0 x (AllFinite [x]) := by
      rw [AllFinite, List.forall_mem_singleton]
      exact keptIff_float (exact x List.mem_cons_self)
    exact keptIff_variant inner rfl rfl fun _ => rfl
  | integer i => exact keptIff_variant (always i rfl) rfl rfl fun _ => rfl
  | unsigned n => exact keptIff_variant (always n rfl) rfl rfl fun _ => rfl
  | string s => exact keptIff_variant (always s rfl) rfl rfl fun _ => rfl
  | boolean b => exact keptIff_variant (always b rfl) rfl rfl fun _ => rfl

def oversized : FieldValue := .string (String.ofList (List.replicate maxFrameLength 'a'))

end FieldValue

namespace Point

def written (p : Point) : List (Name × Value) :=
  [("name", encode p.name), ("tags", encode p.tags), ("fields", encode p.fields),
    ("time", encode p.time)]

def floats (p : Point) : List Binary64 := p.fields.toList.flatMap fun e => e.2.floats

theorem keptIff {p : Point} (exact : FiniteExact p.floats) : KeptIff 3 p (AllFinite p.floats) := by
  rw [floats, finiteExact_flatMap] at exact
  rw [floats, allFinite_flatMap]
  have fields : KeptIff 2 p.fields (∀ e ∈ p.fields.toList, AllFinite e.2.floats) :=
    .sortedMap fun e member => FieldValue.keptIff (exact e member)
  have writable : ∀ m ∈ p.written, m.2.Writable 2 := by
    simp only [written, List.forall_mem_cons]
    exact ⟨.text p.name, (Lossless.writable p.tags).mono (by decide), fields.writable,
      (Lossless.writable p.time).mono (by decide), List.forall_mem_nil _⟩
  have encoded : encode p = .object p.written := rfl
  refine .ofRecord encoded rfl (by decide) rfl writable ?_ ?_ ?_
  · exact fun holds => .cons p.name rfl (by decide) <| .cons p.tags rfl (by decide) <|
      .one rfl fields.writable (fields.decoded holds) <| .cons p.time rfl (by decide) .nil
  · intro holds
    have read := fields.decoded holds
    simp [written, Members.get, Members.getBy_later, read, decoded, bind, Except.bind, pure,
      Except.pure]
  · intro fails
    obtain ⟨fault, refused⟩ := fields.refused fails
    simp [written, Members.get, Members.getBy_later, refused, decoded, bind, Except.bind]

theorem not_mem_floats {p : Point} (noFloats : ∀ e ∈ p.fields.toList, ∀ x, e.2 ≠ .float x)
    (x : Binary64) : x ∉ p.floats := by
  intro member
  obtain ⟨e, known, holds⟩ := List.mem_flatMap.mp member
  rw [FieldValue.floats_eq_nil (noFloats e known)] at holds
  cases holds

theorem kept {p : Point} (noFloats : ∀ e ∈ p.fields.toList, ∀ x, e.2 ≠ .float x) : Kept 3 p :=
  (keptIff fun x member => absurd member (not_mem_floats noFloats x)).kept
    fun x member => absurd member (not_mem_floats noFloats x)

/-- Whether a point gets to another node: it is read as it was written, and is no longer than a
frame may be. -/
structure Sendable (p : Point) : Prop where
  kept : ofBytes Point (toBytes p) = .ok p
  allowed : (Frame.carrying FrameType.point p).Allowed

def holding (v : FieldValue) : Point := { name := "cpu", fields := .ofList [("value", v)], time := 0 }

theorem ne_float_of_mem_holding {v : FieldValue} (noFloat : ∀ x, v ≠ .float x) :
    ∀ e ∈ (holding v).fields.toList, ∀ x, e.2 ≠ .float x := by
  intro e member
  obtain rfl : e = ("value", v) := List.mem_singleton.mp member
  exact noFloat

theorem holding_kept {v : FieldValue} (noFloat : ∀ x, v ≠ .float x) : Kept 3 (holding v) :=
  kept (ne_float_of_mem_holding noFloat)

def oversized : Point := holding .oversized

theorem ofBytes_oversized : ofBytes Point (toBytes oversized) = .ok oversized :=
  (holding_kept fun _ => FieldValue.noConfusion).ofBytes_toBytes (by decide)

theorem length_writeString_replicate (n : Nat) :
    (writeString (String.ofList (List.replicate n 'a'))).length = n + 2 := by
  have plain : (List.replicate n 'a').flatMap escapeChar = List.replicate n 'a' := by
    induction n with
    | zero => rfl
    | succ n ih =>
      rw [List.replicate_succ, List.flatMap_cons, ih]
      rfl
  rw [writeString, String.toList_ofList, plain]
  simp

theorem length_writeValue_holding (s : String) :
    (writeValue (encode (holding (.string s)))).length = (writeString s).length + 64 := by
  have text : writeValue (encode (holding (.string s))) =
      '\x7b' :: writeName "name" ++ ':' :: writeString "cpu" ++
        (',' :: writeName "tags" ++ ':' :: ['\x7b', '\x7d'] ++
          (',' :: writeName "fields" ++ ':' ::
            ('\x7b' :: writeName "value" ++ ':' ::
              ('\x7b' :: writeName "String" ++ ':' :: writeString s ++ [] ++ ['\x7d']) ++ [] ++
                ['\x7d']) ++
            (',' :: writeName "time" ++ ':' :: writeInt (0 : Int64).toInt ++ []))) ++ ['\x7d'] := rfl
  have names : (writeName "name").length = 6 ∧ (writeName "tags").length = 6 ∧
      (writeName "fields").length = 8 ∧ (writeName "value").length = 7 ∧
      (writeName "String").length = 8 ∧ (writeName "time").length = 6 ∧
      (writeString "cpu").length = 5 ∧ (writeInt (0 : Int64).toInt).length = 1 := by decide +kernel
  obtain ⟨name, tags, fields, value, string, time, cpu, zero⟩ := names
  rw [text]
  simp only [List.length_append, List.length_cons, List.length_nil, name, tags, fields, value,
    string, time, cpu, zero]
  omega

theorem length_toBytes_oversized :
    maxFrameLength < (toBytes oversized).length ∧ (toBytes oversized).length < UInt64.size := by
  have text : (writeValue (encode oversized)).length = maxFrameLength + 2 + 64 := by
    rw [oversized, FieldValue.oversized, length_writeValue_holding, length_writeString_replicate]
  have bound : 4 * (maxFrameLength + 2 + 64) < UInt64.size := by decide
  obtain ⟨least, most⟩ := length_utf8 (writeValue (encode oversized))
  rw [text] at least most
  rw [toBytes, Value.compact]
  exact ⟨by omega, Nat.lt_of_le_of_lt most bound⟩

theorem fits_oversized (type : UInt8) : (Frame.carrying type oversized).Fits := by
  rw [Frame.Fits, Frame.payload_carrying]
  exact length_toBytes_oversized.2

theorem not_allowed_oversized (type : UInt8) : ¬ (Frame.carrying type oversized).Allowed := by
  rw [Frame.Allowed, Frame.payload_carrying, Nat.not_le]
  exact length_toBytes_oversized.1

end Point

end SeriesCluster
