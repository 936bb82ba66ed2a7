import Mathlib.Data.List.Forall2
import SeriesCluster.Json.Codec
import SeriesCluster.Proofs.Except
import SeriesCluster.Proofs.Json.RoundTrip
import SeriesCluster.Proofs.SortedMap

namespace SeriesCluster.Json

open Value

/-- A type whose data are all read back as they were written, from texts with at most `room`
containers nested. -/
class Lossless (α : Type) [Codec α] where
  room : Nat
  writable (a : α) : (encode a).Writable room
  decoded (a : α) : decode (encode a).reread = .ok a

/-- A type whose data are never written as `null`, so that `null` may stand for no data. -/
class NeverNull (α : Type) [Codec α] : Prop where
  ne_null (a : α) : (encode a).reread ≠ .null

export Lossless (decoded)

variable {α : Type} [Codec α]

/-- Whether some data are read back as they were written, where not all data of their type are. -/
structure Kept (room : Nat) (a : α) : Prop where
  writable : (encode a).Writable room
  decoded : decode (encode a).reread = .ok a

theorem Lossless.kept [Lossless α] (a : α) : Kept (Lossless.room α) a :=
  ⟨Lossless.writable a, Lossless.decoded a⟩

theorem Kept.ofBytes_toBytes {room : Nat} {a : α} (kept : Kept room a)
    (shallow : room ≤ nestingLimit) : ofBytes α (toBytes a) = .ok a := by
  rw [ofBytes, toBytes, decodeBytes_compact _ (kept.writable.mono shallow), decodeLocated,
    kept.decoded]
  rfl

/-- Whether some data have a text, and are read back as they were written if a condition holds, and
not at all if it does not. -/
structure KeptIff (room : Nat) (a : α) (sound : Prop) : Prop where
  writable : (encode a).Writable room
  decoded : sound → decode (encode a).reread = .ok a
  refused : ¬ sound → ∃ fault, (decode (encode a).reread : Except Fault α) = .error fault

namespace KeptIff

variable {room : Nat} {a : α} {sound : Prop}

theorem kept (h : KeptIff room a sound) (holds : sound) : Kept room a :=
  ⟨h.writable, h.decoded holds⟩

theorem of_kept (kept : Kept room a) (holds : sound) : KeptIff room a sound :=
  ⟨kept.writable, fun _ => kept.decoded, fun fails => absurd holds fails⟩

theorem ofBytes_refused (h : KeptIff room a sound) (shallow : room ≤ nestingLimit)
    (fails : ¬ sound) : ∃ fault, ofBytes α (toBytes a) = .error fault ∧ fault.reason? = none := by
  obtain ⟨fault, refused⟩ := h.refused fails
  refine ⟨fault.located, ?_, by cases fault <;> rfl⟩
  rw [ofBytes, toBytes, decodeBytes_compact _ (h.writable.mono shallow), decodeLocated, refused]
  rfl

end KeptIff

theorem ofBytes_toBytes [Lossless α] (shallow : Lossless.room α ≤ nestingLimit) (a : α) :
    ofBytes α (toBytes a) = .ok a :=
  (Lossless.kept a).ofBytes_toBytes shallow

theorem decodeNat_natural {limit n : Nat} (expected : String) (bound : n ≤ limit) :
    decodeNat limit expected (.int n) = .ok n := by
  have range : 0 ≤ (n : Int) ∧ (n : Int) ≤ limit := ⟨Int.natCast_nonneg n, Int.ofNat_le.mpr bound⟩
  rw [decodeNat, if_pos range, Int.toNat_natCast]

instance : Lossless Bool where
  room := 0
  writable b := .bool b
  decoded _ := rfl

instance : Lossless String where
  room := 0
  writable s := .text s
  decoded _ := rfl

instance : Lossless UInt8 where
  room := 0
  writable n := .natural (Nat.lt_trans n.toNat_lt (by decide))
  decoded n := by
    have bound : n.toNat ≤ 255 := Nat.le_of_lt_succ n.toNat_lt
    change (decodeNat 255 "u8" (.int n.toNat)).map UInt8.ofNat = .ok n
    rw [decodeNat_natural _ bound]
    exact congrArg Except.ok UInt8.ofNat_toNat

instance : Lossless UInt64 where
  room := 0
  writable n := .natural n.toNat_lt
  decoded n := by
    have bound : n.toNat ≤ UInt64.size - 1 := Nat.le_of_lt_succ n.toNat_lt
    change (decodeNat (UInt64.size - 1) "u64" (.int n.toNat)).map UInt64.ofNat = .ok n
    rw [decodeNat_natural _ bound]
    exact congrArg Except.ok UInt64.ofNat_toNat

instance : Lossless Int64 where
  room := 0
  writable i := by
    have low := i.le_toInt
    have high := i.toInt_lt
    have least : Int64.minValue.toInt.natAbs = 9223372036854775808 := by decide
    have size : UInt64.size = 18446744073709551616 := rfl
    change (Value.int i.toInt).Writable 0
    by_cases negative : i.toInt < 0
    · have same : i.toInt = -(i.toInt.natAbs : Int) := by omega
      rw [same]
      exact .negative (by omega) (by rw [least]; omega)
    · have same : i.toInt = (i.toInt.toNat : Int) := by omega
      rw [same]
      exact .natural (by omega)
  decoded i := by
    have range : Int64.minValue.toInt ≤ i.toInt ∧ i.toInt ≤ Int64.maxValue.toInt :=
      ⟨i.le_toInt, Int.le_of_lt_add_one i.toInt_lt⟩
    change (if _ then _ else _) = _
    rw [if_pos range, Int64.ofInt_toInt]

theorem keptIff_float {x : Binary64} (exact : x.isFinite → x.Exact) : KeptIff 0 x x.isFinite where
  writable := .float exact
  decoded finite := by
    change decode (Value.float x).reread = _
    rw [reread, if_pos finite]
    rfl
  refused infinite := by
    change ∃ fault, decode (Value.float x).reread = _
    rw [reread, if_neg infinite]
    exact ⟨_, rfl⟩

instance : NeverNull String := ⟨fun _ => Value.noConfusion⟩

instance : NeverNull UInt64 := ⟨fun _ => Value.noConfusion⟩

instance : NeverNull Int64 := ⟨fun _ => Value.noConfusion⟩

theorem decode_present {v : Value} (h : v ≠ .null) :
    (decode v : Except Fault (Option α)) = (decode v).map some := by
  cases v with
  | null => exact absurd rfl h
  | _ => rfl

instance [Lossless α] [NeverNull α] : Lossless (Option α) where
  room := Lossless.room α
  writable
    | none => .null
    | some a => Lossless.writable a
  decoded
    | none => rfl
    | some a => by
      have inner : decode (encode a).reread = Except.ok a := decoded a
      change decode (encode a).reread = Except.ok (some a)
      rw [decode_present (NeverNull.ne_null a), inner]
      rfl

omit [Codec α] in
theorem mapM_map_of_mem {β ε : Type} {write : α → β} {read : β → Except ε α} {as : List α}
    (inverse : ∀ a ∈ as, read (write a) = .ok a) : (as.map write).mapM read = .ok as := by
  induction as with
  | nil => rfl
  | cons a as ih =>
    rw [List.map_cons, List.mapM_cons, inverse a List.mem_cons_self,
      ih fun b member => inverse b (List.mem_cons_of_mem _ member)]
    rfl

omit [Codec α] in
theorem mapM_map_eq_ok {β ε : Type} {write : α → β} {read : β → Except ε α}
    (inverse : ∀ a, read (write a) = .ok a) (as : List α) : (as.map write).mapM read = .ok as :=
  mapM_map_of_mem fun a _ => inverse a

omit [Codec α] in
theorem exists_mapM_error {β ε : Type} {read : β → Except ε α} {bs : List β} {b : β} {fault : ε}
    (member : b ∈ bs) (refused : read b = .error fault) :
    ∃ fault, bs.mapM read = .error fault := by
  induction bs with
  | nil => cases member
  | cons c bs ih =>
    rw [List.mapM_cons]
    cases first : read c with
    | error fault => exact ⟨fault, rfl⟩
    | ok a =>
      rcases List.mem_cons.mp member with rfl | member
      · rw [refused] at first
        cases first
      · obtain ⟨later, failed⟩ := ih member
        rw [failed]
        exact ⟨later, rfl⟩

theorem mapM_decoded [Lossless α] (as : List α) :
    (rereadAll (as.map encode)).mapM decode = Except.ok as := by
  rw [rereadAll_eq_map, List.map_map]
  exact mapM_map_eq_ok decoded as

theorem writable_array [Lossless α] (as : List α) :
    (Value.array (as.map encode)).Writable (Lossless.room α + 1) :=
  .array fun v member => by
    obtain ⟨a, -, rfl⟩ := List.mem_map.mp member
    exact Lossless.writable a

instance [Lossless α] : Lossless (List α) where
  room := Lossless.room α + 1
  writable := writable_array
  decoded := mapM_decoded

instance {κ : Type} [Ord κ] [Std.TransOrd κ] [Codec κ] [Lossless κ] : Lossless (SortedSet κ) where
  room := Lossless.room κ + 1
  writable s := writable_array s.elements
  decoded s := by
    change (do return SortedSet.ofList (← (rereadAll (s.elements.map encode)).mapM decode)) = _
    rw [mapM_decoded]
    exact congrArg Except.ok (SortedSet.ofList_elements s)

theorem decode_list (as : List α) :
    (decode (encode as).reread : Except Fault (List α)) =
      (as.map fun a => (encode a).reread).mapM decode := by
  change (rereadAll (as.map encode)).mapM decode = _
  rw [rereadAll_eq_map, List.map_map]
  rfl

theorem KeptIff.list {as : List α} {room : Nat} {sound : α → Prop}
    (each : ∀ a ∈ as, KeptIff room a (sound a)) : KeptIff (room + 1) as (∀ a ∈ as, sound a) where
  writable := .array fun v member => by
    obtain ⟨a, listed, rfl⟩ := List.mem_map.mp member
    exact (each a listed).writable
  decoded holds := by
    rw [decode_list]
    exact mapM_map_of_mem fun a listed => (each a listed).decoded (holds a listed)
  refused fails := by
    obtain ⟨a, listed, fails⟩ : ∃ a ∈ as, ¬ sound a := by simpa using fails
    obtain ⟨fault, refused⟩ := (each a listed).refused fails
    rw [decode_list]
    exact exists_mapM_error (List.mem_map_of_mem listed) refused

theorem read_reread (text : String) : (Name.reread (.plain text)).read = .ok text := by
  rw [Name.reread]
  split
  · rfl
  · rfl

def rereadEntry (e : String × α) : Name × Value :=
  (Name.reread (.plain e.1), (encode e.2).reread)

def readEntry (member : Name × Value) : Except Fault (String × α) := do
  return (← member.1.read, ← decode member.2)

theorem decode_sortedMap (m : SortedMap String α) :
    (decode (encode m).reread : Except Fault (SortedMap String α)) = do
      return .ofList (← (m.toList.map rereadEntry).mapM readEntry) := by
  let written (e : String × α) : Name × Value := (.plain e.1, encode e.2)
  change decode (Value.object (m.toList.map written)).reread = _
  rw [reread, rereadMembers_eq_map, List.map_map]
  rfl

theorem readEntry_rereadEntry {e : String × α} {answer : Except Fault α}
    (read : decode (encode e.2).reread = answer) :
    readEntry (rereadEntry e) = answer.map fun a => (e.1, a) := by
  rw [readEntry, rereadEntry, read_reread, read]
  cases answer <;> rfl

theorem KeptIff.sortedMap {m : SortedMap String α} {room : Nat} {sound : String × α → Prop}
    (each : ∀ e ∈ m.toList, KeptIff room e.2 (sound e)) :
    KeptIff (room + 1) m (∀ e ∈ m.toList, sound e) where
  writable := .object fun member among => by
    obtain ⟨e, known, rfl⟩ := List.mem_map.mp among
    exact (each e known).writable
  decoded holds := by
    rw [decode_sortedMap, mapM_map_of_mem]
    · exact congrArg Except.ok (SortedMap.ofList_toList m)
    · intro e known
      exact readEntry_rereadEntry ((each e known).decoded (holds e known))
  refused fails := by
    obtain ⟨e, known, fails⟩ : ∃ e ∈ m.toList, ¬ sound e := by
      simpa only [not_forall, exists_prop] using fails
    obtain ⟨fault, refused⟩ := (each e known).refused fails
    obtain ⟨first, failed⟩ := exists_mapM_error (List.mem_map_of_mem known)
      (readEntry_rereadEntry refused)
    rw [decode_sortedMap, failed]
    exact ⟨first, rfl⟩

instance [Lossless α] : Lossless (SortedMap String α) where
  room := Lossless.room α + 1
  writable _ := (KeptIff.sortedMap fun e _ => .of_kept (Lossless.kept e.2) trivial).writable
  decoded _ := (KeptIff.sortedMap fun e _ => .of_kept (Lossless.kept e.2) trivial).decoded
    fun _ _ => trivial

theorem find?_field {fields : List Field} (distinct : (fields.map (·.name)).Nodup) {f : Field}
    (member : f ∈ fields) : fields.find? (·.name == f.name) = some f := by
  induction fields with
  | nil => cases member
  | cons g fields ih =>
    rw [List.map_cons, List.nodup_cons] at distinct
    rcases List.mem_cons.mp member with rfl | member
    · simp
    · have other : g.name ≠ f.name := fun same =>
        distinct.1 (same ▸ List.mem_map_of_mem member)
      rw [List.find?_cons_of_neg (by simpa using other), ih distinct.2 member]

def rereadValues (members : List (Name × Value)) : List (Name × Value) :=
  members.map fun m => (m.1, m.2.reread)

inductive Parts (room : Nat) : List Field → List (Name × Value) → Prop
  | nil : Parts room [] []
  | one {fields : List Field} {members : List (Name × Value)} {β : Type} {name : String} {v : Value}
    {read : Value → Except Fault β} {b : β} (plain : Name.reread (.plain name) = .plain name)
    (writable : v.Writable room) (decoded : read v.reread = .ok b)
    (rest : Parts room fields members) :
    Parts room (fieldBy read name :: fields) ((.plain name, v) :: members)

namespace Parts

variable {room : Nat} {fields : List Field} {members : List (Name × Value)}

theorem cons {β : Type} [Codec β] [Lossless β] {name : String} (b : β)
    (plain : Name.reread (.plain name) = .plain name) (shallow : Lossless.room β ≤ room)
    (rest : Parts room fields members) :
    Parts room (field β name :: fields) ((.plain name, encode b) :: members) :=
  .one plain ((Lossless.writable b).mono shallow) (decoded b) rest

theorem writable (parts : Parts room fields members) : (object members).Writable (room + 1) := by
  refine .object fun m member => ?_
  induction parts with
  | nil => cases member
  | one plain writable decoded rest ih =>
    rcases List.mem_cons.mp member with rfl | member
    · exact writable
    · exact ih member

theorem rereadMembers_eq (parts : Parts room fields members) :
    rereadMembers members = rereadValues members := by
  induction parts with
  | nil => rfl
  | one plain writable decoded rest ih =>
    rw [rereadMembers, plain, ih]
    rfl

theorem checkMembers_eq {all : List Field} (unknown : Unknown) {seen : List String}
    (parts : Parts room fields members)
    (known : ∀ f ∈ fields, all.find? (·.name == f.name) = some f)
    (fresh : ∀ f ∈ fields, f.name ∉ seen) (distinct : (fields.map (·.name)).Nodup) :
    checkMembers all unknown seen (rereadValues members) = .ok () := by
  induction parts generalizing seen with
  | nil => rfl
  | @one fields members β name v read b plain writable decoded rest ih =>
    rw [List.map_cons, List.nodup_cons] at distinct
    change name ∉ fields.map (·.name) ∧ _ at distinct
    have absent : name ∉ seen := fresh (fieldBy read name) List.mem_cons_self
    have unseen : seen.contains name = false := by simpa using absent
    have found : all.find? (·.name == name) = some (fieldBy read name) :=
      known (fieldBy read name) List.mem_cons_self
    have fits : (fieldBy read name).check v.reread = .ok () := by
      change Except.map _ (read v.reread) = _
      rw [decoded]
      rfl
    have later : ∀ g ∈ fields, g.name ∉ name :: seen := fun g member => by
      have here : g.name ≠ name := fun same => distinct.1 (same ▸ List.mem_map_of_mem member)
      have before : g.name ∉ seen := fresh g (List.mem_cons_of_mem _ member)
      simp [here, before]
    have others := ih (fun g member => known g (List.mem_cons_of_mem _ member)) later distinct.2
    rw [rereadValues, List.map_cons, checkMembers]
    simp only [Name.read, Name.text?, bind, Except.bind, found, unseen, fits]
    exact others

theorem checkRecord_eq (parts : Parts room fields members) (expected ofLength : String)
    (unknown : Unknown) (distinct : (fields.map (·.name)).Nodup) :
    checkRecord expected ofLength fields unknown (object members).reread =
      .ok ⟨rereadValues members⟩ := by
  have checked : checkMembers fields unknown [] (rereadValues members) = .ok () :=
    parts.checkMembers_eq unknown (fun _ member => find?_field distinct member)
      (fun _ _ => List.not_mem_nil) distinct
  rw [reread, parts.rereadMembers_eq, checkRecord, checked]
  rfl

omit [Codec α] in
theorem decodeRecord_eq {name : String} {build : Members → Except Fault α} {a : α}
    (parts : Parts room fields members) (distinct : (fields.map (·.name)).Nodup)
    (built : build ⟨rereadValues members⟩ = .ok a) :
    decodeRecord name fields build (object members).reread = .ok a := by
  rw [decodeRecord, parts.checkRecord_eq _ _ _ distinct]
  exact built

end Parts

/-- A record is lossless if it is written as an object with its fields in order and built from them
again. -/
abbrev Lossless.ofRecord (room : Nat) {name : String} {fields : List Field}
    {build : Members → Except Fault α} {members : α → List (Name × Value)}
    (encoded : ∀ a : α, encode a = .object (members a))
    (decoder : (decode : Value → Except Fault α) = decodeRecord name fields build)
    (distinct : (fields.map (·.name)).Nodup) (parts : ∀ a : α, Parts room fields (members a))
    (built : ∀ a : α, build ⟨rereadValues (members a)⟩ = .ok a) : Lossless α where
  room := room + 1
  writable a := by
    rw [encoded]
    exact (parts a).writable
  decoded a := by
    rw [encoded, decoder]
    exact (parts a).decodeRecord_eq distinct (built a)

theorem KeptIff.ofRecord {room : Nat} {name : String} {fields : List Field}
    {build : Members → Except Fault α} {members : List (Name × Value)} {a : α} {sound : Prop}
    (encoded : encode a = .object members)
    (decoder : (decode : Value → Except Fault α) = decodeRecord name fields build)
    (distinct : (fields.map (·.name)).Nodup) (plain : rereadMembers members = rereadValues members)
    (writable : ∀ m ∈ members, m.2.Writable room) (parts : sound → Parts room fields members)
    (built : sound → build ⟨rereadValues members⟩ = .ok a)
    (refused : ¬ sound → ∃ fault, build ⟨rereadValues members⟩ = .error fault) :
    KeptIff (room + 1) a sound where
  writable := by
    rw [encoded]
    exact .object writable
  decoded holds := by
    rw [encoded, decoder]
    exact (parts holds).decodeRecord_eq distinct (built holds)
  refused fails := by
    rw [encoded, decoder, reread, plain, decodeRecord, checkRecord]
    cases checkMembers fields .ignored [] (rereadValues members) with
    | error first => exact ⟨first, rfl⟩
    | ok _ => exact refused fails

theorem NeverNull.ofRecord {members : α → List (Name × Value)}
    (encoded : ∀ a : α, encode a = .object (members a)) : NeverNull α where
  ne_null a := by
    rw [encoded, reread]
    exact Value.noConfusion

@[simp] theorem Members.get_here [Lossless α] (name : String) (a : α)
    (rest : List (Name × Value)) :
    Members.get ⟨rereadValues ((.plain name, encode a) :: rest)⟩ name = Except.ok a := by
  simp [rereadValues, Members.get, Members.getBy, Name.text?, decoded]

@[simp] theorem Members.getBy_here {β : Type} (name : String) (v : Value)
    (rest : List (Name × Value)) (read : Value → Except Fault β) (absent : Option β) :
    Members.getBy ⟨rereadValues ((.plain name, v) :: rest)⟩ name read absent = read v.reread := by
  simp [rereadValues, Members.getBy, Name.text?]

theorem Members.getBy_later {β : Type} {name other : String} (differs : other ≠ name) (v : Value)
    (rest : List (Name × Value)) (read : Value → Except Fault β) (absent : Option β) :
    Members.getBy ⟨rereadValues ((.plain other, v) :: rest)⟩ name read absent =
      Members.getBy ⟨rereadValues rest⟩ name read absent := by
  simp [rereadValues, Members.getBy, Name.text?, differs]

theorem Members.get_later {name other : String} (differs : other ≠ name) (v : Value)
    (rest : List (Name × Value)) :
    (Members.get ⟨rereadValues ((.plain other, v) :: rest)⟩ name : Except Fault α) =
      Members.get ⟨rereadValues rest⟩ name :=
  Members.getBy_later differs v rest decode Codec.absent

omit [Codec α] in
theorem decodeVariant_object {alone : String → Except Fault α}
    {content : String → Value → Except Fault α} {name : String} {v : Value} :
    decodeVariant alone content (.object [(.plain name, v)]) = content name v := by
  rw [decodeVariant]
  simp only [Name.read, Name.text?, bind, Except.bind]
  cases content name v <;> rfl

end SeriesCluster.Json
