import Mathlib.Data.List.Nodup
import SeriesCluster.Proofs.Store.Read
import SeriesCluster.Proofs.Store.Write

namespace SeriesCluster

namespace Shard

open SortedMap

section Fields

variable {fields : SortedMap String FieldValue} {f : String}

theorem find?_overwrite (p : Point) :
    (overwrite fields p).find? f = (p.fields.find? f).or (fields.find? f) := by
  have last (old : SortedMap String FieldValue) : (overwrite old p).find? f =
      (p.fields.toList.filter (·.1 = f)).foldl (filling fun _ e => e.2) (old.find? f) :=
    @find?_foldl_alterBy String (String × FieldValue) FieldValue _ _ _ _ (·.1) (fun _ e => e.2)
      old p.fields.toList f
  have own : overwrite ∅ p = p.fields := ofList_toList p.fields
  rw [last, foldl_filling_last, ← find?_empty f, ← last, own]

theorem find?_foldl_overwrite (points : List Point) :
    (points.foldl overwrite fields).find? f =
      (points.reverse.findSome? (·.fields.find? f)).or (fields.find? f) := by
  induction points using List.reverseRecOn with
  | nil => rfl
  | append_singleton points p ih =>
    rw [List.foldl_append, List.foldl_cons, List.foldl_nil, find?_overwrite, ih,
      List.reverse_append, List.reverse_singleton, List.singleton_append, List.findSome?_cons]
    cases p.fields.find? f with
    | none => rfl
    | some v => rfl

theorem foldl_overwrite_ne_empty {points : List Point} :
    points.foldl overwrite ∅ ≠ ∅ ↔ ∃ p ∈ points, p.fields ≠ ∅ := by
  rw [ne_empty_iff]
  simp only [find?_foldl_overwrite, find?_empty, Option.or_none, List.findSome?_isSome_iff,
    List.mem_reverse, ne_empty_iff]
  exact ⟨fun ⟨f, p, member, found⟩ => ⟨p, member, f, found⟩,
    fun ⟨p, member, f, found⟩ => ⟨f, p, member, found⟩⟩

end Fields

section Places

variable {written : List Point} {name key : String} {time : Int64} {p : Point}

def place (written : List Point) (name key : String) (time : Int64) : List Point :=
  written.filter fun q => q.name = name ∧ q.seriesKey = key ∧ q.time = time

def slot (written : List Point) (name key : String) (time : Int64) : Option Point :=
  (place written name key time).foldl (filling writeSlot) none

def seriesAfter (written : List Point) (name : String) : MeasurementSeries :=
  ((written.foldl writeMeasurement ∅).find? name).getD ∅

theorem find?_seriesAfter (written : List Point) (name key : String) (time : Int64) :
    (((seriesAfter written name).find? key).getD ∅).find? time = slot written name key time := by
  have measurement : seriesAfter written name =
      (written.filter (·.name = name)).foldl writeSeries ∅ := by
    rw [seriesAfter, writeMeasurement, find?_foldl_alterBy, getD_foldl_filling]
    rfl
  have series : ((seriesAfter written name).find? key).getD ∅ =
      ((written.filter (·.name = name)).filter (·.seriesKey = key)).foldl writePoint ∅ := by
    rw [measurement, writeSeries, find?_foldl_alterBy, getD_foldl_filling]
    rfl
  rw [series, writePoint, find?_foldl_alterBy, List.filter_filter, List.filter_filter, slot, place]
  refine congrArg (List.foldl _ _) (List.filter_congr fun q _ => ?_)
  simp [Bool.and_comm, Bool.and_left_comm]

theorem mem_place {q : Point} : q ∈ place written name key time ↔
    q ∈ written ∧ q.name = name ∧ q.seriesKey = key ∧ q.time = time := by
  rw [place, List.mem_filter, decide_eq_true_iff]

theorem slot_eq_some_iff : slot written name key time = some p ↔
    ∃ first, (place written name key time).head? = some first ∧
      p = { first with fields := (place written name key time).foldl overwrite ∅ } := by
  rw [slot]
  cases place written name key time with
  | nil => simp
  | cons first rest =>
    rw [foldl_writeSlot_none]
    simp [eq_comm]

theorem identity_of_slot (found : slot written name key time = some p) :
    p.name = name ∧ p.seriesKey = key ∧ p.time = time := by
  obtain ⟨first, head, rfl⟩ := slot_eq_some_iff.mp found
  exact (mem_place.mp (List.mem_of_head? head)).2

end Places

end Shard

def ReadOptions.everything (ascending : Bool) (node : Option UInt64) : ReadOptions :=
  { ascending := ascending, nodeId := node }

theorem ReadOptions.select_everything (ascending : Bool) (node : Option UInt64)
    (points : SeriesPoints) :
    ((everything ascending node).select points).Perm
      (points.values.filter (!·.fields.isEmpty)) := by
  have ranged : (everything ascending node).inRange points = points.values := by
    rw [inRange, List.filter_eq_self.mpr]
    · rfl
    · intro e _
      have low : Int64.minValue ≤ e.1 := Int64.minValue_le e.1
      have high : e.1 ≤ Int64.maxValue := Int64.le_maxValue e.1
      simp [timeRange, everything, TimeRange.contains, low, high]
  have projected : points.values.map (everything ascending node).project = points.values :=
    List.map_id'' (fun _ => rfl) _
  rw [select, ranged, projected]
  cases ascending with
  | true => exact .refl _
  | false => exact List.reverse_perm _

namespace Shard

open SortedMap

section Given

variable {written : List Point} {name : String} {ascending : Bool} {node : Option UInt64}
  {p : Point}

def givenOf (written : List Point) (name : String) (ascending : Bool) (node : Option UInt64) :
    List Point :=
  (seriesAfter written name).values.flatMap (ReadOptions.everything ascending node).select

theorem mem_select_everything {points : SeriesPoints} :
    p ∈ (ReadOptions.everything ascending node).select points ↔
      (∃ time, points.find? time = some p) ∧ p.fields ≠ ∅ := by
  rw [(ReadOptions.select_everything ascending node points).mem_iff, List.mem_filter, values,
    List.mem_map, ne_eq, ← SortedMap.isEmpty_iff]
  simp only [find?_eq_some_iff, Prod.exists, exists_eq_right, Bool.not_eq_true', Bool.not_eq_true]

theorem find?_of_mem_seriesAfter {key : String} {points : SeriesPoints}
    (known : (key, points) ∈ (seriesAfter written name).toList) (time : Int64) :
    points.find? time = slot written name key time := by
  rw [← find?_seriesAfter, find?_eq_some_iff.mpr known, Option.getD_some]

theorem mem_givenOf : p ∈ givenOf written name ascending node ↔
    slot written name p.seriesKey p.time = some p ∧ p.fields ≠ ∅ := by
  simp only [givenOf, values, List.mem_flatMap, List.mem_map]
  constructor
  · rintro ⟨points, ⟨⟨key, _⟩, known, rfl⟩, selected⟩
    obtain ⟨⟨time, found⟩, fields⟩ := mem_select_everything.mp selected
    rw [find?_of_mem_seriesAfter known] at found
    obtain ⟨-, rfl, rfl⟩ := identity_of_slot found
    exact ⟨found, fields⟩
  · rintro ⟨found, fields⟩
    rw [← find?_seriesAfter] at found
    cases there : (seriesAfter written name).find? p.seriesKey with
    | none =>
      rw [there, Option.getD_none, find?_empty] at found
      cases found
    | some points =>
      rw [there, Option.getD_some] at found
      exact ⟨points, ⟨(p.seriesKey, points), find?_eq_some_iff.mp there, rfl⟩,
        mem_select_everything.mpr ⟨⟨p.time, found⟩, fields⟩⟩

theorem nodup_places :
    ((givenOf written name ascending node).map fun p => (p.seriesKey, p.time)).Nodup := by
  have series {e : String × SeriesPoints} (known : e ∈ (seriesAfter written name).toList)
      {p : Point} (selected : p ∈ (ReadOptions.everything ascending node).select e.2) :
      p.seriesKey = e.1 := by
    obtain ⟨⟨time, found⟩, -⟩ := mem_select_everything.mp selected
    rw [find?_of_mem_seriesAfter known] at found
    exact (identity_of_slot found).2.1
  rw [givenOf, values, List.flatMap_map, List.map_flatMap, List.nodup_flatMap]
  constructor
  · rintro ⟨key, points⟩ known
    have times : points.values.map (·.time) = points.keys := by
      rw [values, keys, List.map_map]
      refine List.map_congr_left fun e member => ?_
      have found := find?_eq_some_iff.mpr (show (e.1, e.2) ∈ points.toList from member)
      rw [find?_of_mem_seriesAfter known] at found
      exact (identity_of_slot found).2.2
    have distinct : (points.values.map (·.time)).Nodup := times ▸ nodup_keys points
    refine List.Nodup.of_map (·.2) ?_
    rw [List.map_map]
    refine (((ReadOptions.select_everything ascending node points).map _).nodup_iff).mpr ?_
    exact distinct.sublist (List.filter_sublist.map _)
  · refine (List.pairwise_map.mp (nodup_keys (seriesAfter written name))).imp_of_mem ?_
    intro e e' known known' other place here there
    obtain ⟨p, selected, rfl⟩ := List.mem_map.mp here
    obtain ⟨q, selected', same⟩ := List.mem_map.mp there
    have same : q.seriesKey = p.seriesKey := (Prod.mk.inj same).1
    exact other (by rw [← series known selected, ← same, series known' selected'])

end Given

end Shard

/-- What tells the points apart that somebody writes: the measurement, the tags and the time. -/
def Point.identity (p : Point) : String × SortedMap String String × Int64 := (p.name, p.tags, p.time)

/-- The last value that was written for a field of a point. -/
def lastValue (written : List Point) (p : Point) (f : String) : Option FieldValue :=
  (written.filter (·.identity = p.identity)).reverse.findSome? (·.fields.find? f)

/-- Points give back what was written of a measurement: one point for all that were written with some
field and the same tags and time, with the last value of each field. -/
structure Restores (written : List Point) (name : String) (given : List Point) : Prop where
  distinct : (given.map Point.identity).Nodup
  sound : ∀ p ∈ given, p.name = name ∧ ∃ q ∈ written, q.fields ≠ ∅ ∧ q.identity = p.identity
  complete : ∀ q ∈ written, q.name = name → q.fields ≠ ∅ → ∃ p ∈ given, p.identity = q.identity
  fields : ∀ p ∈ given, ∀ f, p.fields.find? f = lastValue written p f

/-- Every point with fields has the tags of the first point at its place. -/
def KeepsTags (written : List Point) (name : String) : Prop :=
  ∀ q ∈ written, q.name = name → q.fields ≠ ∅ →
    ∀ first, (Shard.place written name q.seriesKey q.time).head? = some first → first.tags = q.tags

theorem Restores.perm {written given given' : List Point} {name : String} (same : given.Perm given')
    (restores : Restores written name given) : Restores written name given' where
  distinct := (same.map _).nodup_iff.mp restores.distinct
  sound p member := restores.sound p (same.mem_iff.mpr member)
  complete q member named fields := by
    obtain ⟨p, found, equal⟩ := restores.complete q member named fields
    exact ⟨p, same.mem_iff.mp found, equal⟩
  fields p member := restores.fields p (same.mem_iff.mpr member)

theorem findSome?_filter_congr {α β : Type} {g : α → Option β} {keep keep' : α → Bool} {l : List α}
    (same : ∀ a ∈ l, (g a).isSome → keep a = keep' a) :
    (l.filter keep).findSome? g = (l.filter keep').findSome? g := by
  rw [← List.head?_filterMap, ← List.head?_filterMap, List.filterMap_filter, List.filterMap_filter]
  refine congrArg List.head? (List.filterMap_congr fun a member => ?_)
  cases found : g a with
  | none => rw [ite_self, ite_self]
  | some b => rw [same a member (by rw [found, Option.isSome_some])]

section Tags

open Shard

variable {written : List Point} {name : String} {ascending : Bool} {node : Option UInt64}

theorem Point.place_of_identity {p q : Point} (same : p.identity = q.identity) :
    p.name = q.name ∧ p.seriesKey = q.seriesKey ∧ p.time = q.time := by
  obtain ⟨named, tags, time⟩ : p.name = q.name ∧ p.tags = q.tags ∧ p.time = q.time := by
    simpa [identity] using same
  exact ⟨named, by rw [seriesKey, seriesKey, named, tags], time⟩

theorem mem_givenOf_first {key : String} {time : Int64} {first : Point}
    (head : (place written name key time).head? = some first)
    (fields : ∃ q ∈ place written name key time, q.fields ≠ ∅) :
    { first with fields := (place written name key time).foldl overwrite ∅ } ∈
      givenOf written name ascending node := by
  obtain ⟨-, rfl, rfl⟩ := (mem_place.mp (List.mem_of_head? head)).2
  exact mem_givenOf.mpr
    ⟨slot_eq_some_iff.mpr ⟨first, head, rfl⟩, foldl_overwrite_ne_empty.mpr fields⟩

theorem keepsTags_of_restores
    (restores : Restores written name (givenOf written name ascending node)) :
    KeepsTags written name := by
  intro q member named fields first head
  obtain ⟨p, given, same⟩ := restores.complete q member named fields
  obtain ⟨-, key, time⟩ := Point.place_of_identity same
  obtain ⟨there, found, shown⟩ := slot_eq_some_iff.mp (mem_givenOf.mp given).1
  rw [key, time, head] at found
  cases found
  have tags : p.tags = q.tags := congrArg (·.2.1) same
  rw [← tags, shown]

theorem fields_of_mem_givenOf {p : Point} (given : p ∈ givenOf written name ascending node) :
    p.fields = (place written name p.seriesKey p.time).foldl overwrite ∅ := by
  obtain ⟨first, -, shown⟩ := slot_eq_some_iff.mp (mem_givenOf.mp given).1
  exact congrArg Point.fields shown

section Kept

variable (keeps : KeepsTags written name) {p q : Point}
include keeps

theorem KeepsTags.identity_eq (given : p ∈ givenOf written name ascending node)
    (here : q ∈ place written name p.seriesKey p.time) (fields : q.fields ≠ ∅) :
    q.identity = p.identity := by
  have found := (mem_givenOf.mp given).1
  have named := (identity_of_slot found).1
  obtain ⟨first, head, shown⟩ := slot_eq_some_iff.mp found
  obtain ⟨member, qNamed, key, time⟩ := mem_place.mp here
  have tags : first.tags = q.tags := keeps q member qNamed fields first (by rw [key, time, head])
  have pTags : p.tags = first.tags := by rw [shown]
  rw [Point.identity, Point.identity, qNamed, named, time, pTags, tags]

theorem KeepsTags.sound (given : p ∈ givenOf written name ascending node) :
    p.name = name ∧ ∃ q ∈ written, q.fields ≠ ∅ ∧ q.identity = p.identity := by
  obtain ⟨found, fields⟩ := mem_givenOf.mp given
  rw [fields_of_mem_givenOf given] at fields
  obtain ⟨q, here, filled⟩ := foldl_overwrite_ne_empty.mp fields
  exact ⟨(identity_of_slot found).1, q, (mem_place.mp here).1, filled,
    keeps.identity_eq given here filled⟩

theorem KeepsTags.complete (member : q ∈ written) (named : q.name = name) (fields : q.fields ≠ ∅) :
    ∃ p ∈ givenOf written name ascending node, p.identity = q.identity := by
  have here : q ∈ place written name q.seriesKey q.time := mem_place.mpr ⟨member, named, rfl, rfl⟩
  obtain ⟨first, rest, listed⟩ := List.exists_cons_of_ne_nil (List.ne_nil_of_mem here)
  have head : (place written name q.seriesKey q.time).head? = some first := by rw [listed]; rfl
  obtain ⟨firstNamed, -, time⟩ := (mem_place.mp (List.mem_of_head? head)).2
  refine ⟨_, mem_givenOf_first head ⟨q, here, fields⟩, ?_⟩
  have tags := keeps q member named fields first head
  rw [Point.identity, Point.identity, tags, firstNamed, time, named]

theorem KeepsTags.fields (given : p ∈ givenOf written name ascending node) (f : String) :
    p.fields.find? f = lastValue written p f := by
  have named := (identity_of_slot (mem_givenOf.mp given).1).1
  rw [fields_of_mem_givenOf given, find?_foldl_overwrite, SortedMap.find?_empty, Option.or_none,
    lastValue, place, ← List.filter_reverse, ← List.filter_reverse]
  -- A point with other tags may stand at the place, but then it has no fields.
  refine findSome?_filter_congr fun q member value => decide_eq_decide.mpr ⟨fun there => ?_, ?_⟩
  · have fields : q.fields ≠ ∅ := SortedMap.ne_empty_iff.mpr ⟨f, value⟩
    exact keeps.identity_eq given (mem_place.mpr ⟨List.mem_reverse.mp member, there⟩) fields
  · intro same
    obtain ⟨qNamed, key, time⟩ := Point.place_of_identity same
    exact ⟨qNamed.trans named, key, time⟩

end Kept

theorem restores_iff_keepsTags : Restores written name (givenOf written name ascending node) ↔
    KeepsTags written name := by
  constructor
  · exact keepsTags_of_restores
  · intro keeps
    refine ⟨?_, fun p => keeps.sound, fun q => keeps.complete, fun p => keeps.fields⟩
    refine List.pairwise_map.mpr ((List.pairwise_map.mp nodup_places).imp fun other same => ?_)
    obtain ⟨-, key, time⟩ := Point.place_of_identity same
    exact other (by rw [key, time])

end Tags

section Keys

theorem append_inj_of_mark {c : Char} {word word' rest rest' : List Char} (absent : c ∉ word)
    (absent' : c ∉ word') (marked : ∀ a, rest.head? = some a → a = c)
    (marked' : ∀ a, rest'.head? = some a → a = c) (same : word ++ rest = word' ++ rest') :
    word = word' ∧ rest = rest' := by
  have front {word rest : List Char} (absent : c ∉ word)
      (marked : ∀ a, rest.head? = some a → a = c) :
      (word ++ rest).takeWhile (· ≠ c) = word := by
    have stops : rest.takeWhile (· ≠ c) = [] := by
      cases rest with
      | nil => rfl
      | cons a rest => simp [marked a rfl]
    rw [List.takeWhile_append_of_pos, stops, List.append_nil]
    intro a member
    exact decide_eq_true fun equal => absent (equal ▸ member)
  have words : word = word' := by rw [← front absent marked, same, front absent' marked']
  subst words
  exact ⟨rfl, List.append_cancel_left same⟩

def tagText (e : String × String) : List Char := ',' :: e.1.toList ++ '=' :: e.2.toList

theorem toList_keyOf (name : String) (tags : SortedMap String String) :
    (Point.keyOf name tags).toList = name.toList ++ tags.toList.flatMap tagText := by
  rw [Point.keyOf]
  induction tags.toList generalizing name with
  | nil => rw [List.foldl_nil, List.flatMap_nil, List.append_nil]
  | cons e rest ih =>
    rw [List.foldl_cons, ih, List.flatMap_cons, tagText]
    simp [String.toList_append]

/-- Tags that can be read off a key: no equals sign in a name, no comma in a value. -/
def PlainTags (entries : List (String × String)) : Prop :=
  ∀ e ∈ entries, '=' ∉ e.1.toList ∧ ',' ∉ e.2.toList

theorem eq_of_tagTexts {entries entries' : List (String × String)} (plain : PlainTags entries)
    (plain' : PlainTags entries') (same : entries.flatMap tagText = entries'.flatMap tagText) :
    entries = entries' := by
  have marked (entries : List (String × String)) (a : Char)
      (first : (entries.flatMap tagText).head? = some a) : a = ',' := by
    cases entries with
    | nil => cases first
    | cons e rest =>
      cases first
      rfl
  induction entries generalizing entries' with
  | nil =>
    cases entries' with
    | nil => rfl
    | cons e' rest' => cases same
  | cons e rest ih =>
    cases entries' with
    | nil => cases same
    | cons e' rest' =>
      obtain ⟨⟨key, value⟩, later⟩ := List.forall_mem_cons.mp plain
      obtain ⟨⟨key', value'⟩, later'⟩ := List.forall_mem_cons.mp plain'
      simp only [List.flatMap_cons, tagText, List.cons_append, List.append_assoc,
        List.cons.injEq, true_and] at same
      obtain ⟨keys, same⟩ := append_inj_of_mark key key' (by simp) (by simp) same
      obtain ⟨values, same⟩ := append_inj_of_mark value value' (marked rest) (marked rest')
        (List.cons.inj same).2
      have equal : e = e' := Prod.ext (String.toList_inj.mp keys) (String.toList_inj.mp values)
      rw [equal, ih later later' same]

theorem tags_eq_of_seriesKey {p q : Point} (plain : PlainTags p.tags.toList)
    (plain' : PlainTags q.tags.toList) (named : p.name = q.name)
    (same : p.seriesKey = q.seriesKey) : p.tags = q.tags := by
  have texts := congrArg String.toList same
  rw [Point.seriesKey, Point.seriesKey, toList_keyOf, toList_keyOf, named] at texts
  exact SortedMap.ext (eq_of_tagTexts plain plain' (List.append_cancel_left texts))

theorem keepsTags_of_plain {written : List Point} {name : String}
    (plain : ∀ q ∈ written, q.name = name → PlainTags q.tags.toList) : KeepsTags written name := by
  intro q member named _ first head
  obtain ⟨firstMember, firstNamed, key, -⟩ := Shard.mem_place.mp (List.mem_of_head? head)
  exact tags_eq_of_seriesKey (plain first firstMember firstNamed) (plain q member named)
    (firstNamed.trans named.symm) key

end Keys

namespace ShardStore

def writeAll (s : ShardStore) (id : UInt64) (batches : List (List Point)) :
    Except Error ShardStore :=
  batches.foldlM (fun s points => s.write id points) s

section Blank

variable {s : ShardStore} {id : UInt64} {shard : Shard}

theorem exists_writeAll (found : s.shards.find? id = some shard) (enabled : shard.enabled)
    (batches : List (List Point)) : ∃ t, s.writeAll id batches = .ok t ∧
      t.shards.find? id = some (batches.flatten.foldl Shard.store shard) := by
  induction batches generalizing s shard with
  | nil => exact ⟨s, rfl, found⟩
  | cons points batches ih =>
    obtain ⟨next, written, there⟩ : ∃ next, s.write id points = .ok next ∧
        next.shards.find? id = some (points.foldl Shard.store shard) := by
      rw [write, found]
      simp only [enabled, if_true]
      exact ⟨_, rfl, by rw [SortedMap.find?_insert, if_pos rfl]⟩
    have enabledNext : (points.foldl Shard.store shard).enabled := by rwa [Shard.foldl_store]
    obtain ⟨t, rest, last⟩ := ih there enabledNext
    refine ⟨t, ?_, by rw [last, List.flatten_cons, List.foldl_append]⟩
    rw [writeAll, List.foldlM_cons, written]
    exact rest

variable (found : s.shards.find? id = some shard) (enabled : shard.enabled)
  (blank : shard.measurements = ∅)
include found enabled blank

theorem exists_readBack (batches : List (List Point)) (name : String) (ascending : Bool)
    (node : Option UInt64) : ∃ t stream given, s.writeAll id batches = .ok t ∧
      ShardSelection.read ⟨t, [id]⟩ false name (.everything ascending node) = .ok stream ∧
      stream.toPoints = .ok given ∧
      given.Perm (Shard.givenOf batches.flatten name ascending node) := by
  obtain ⟨t, written, there⟩ := exists_writeAll found enabled batches
  obtain ⟨stream, opened, delivers⟩ :=
    ShardSelection.read_delivers ⟨t, [id]⟩ (.everything ascending node) name
  obtain ⟨given, drained, same, -⟩ := delivers.toPoints
  refine ⟨t, stream, given, written, opened, drained, same.trans (.of_eq ?_)⟩
  have contents : t.contents id = batches.flatten.foldl Shard.writeMeasurement ∅ := by
    rw [ShardStore.contents, there, Shard.foldl_store, blank]
    rfl
  have bounded : ¬ (ReadOptions.everything ascending node).isInverted = true := Bool.false_ne_true
  rw [List.flatMap_singleton, ReadOptions.pointsOf, if_neg bounded, contents]
  rfl

theorem restores_iff (batches : List (List Point)) (name : String) (ascending : Bool)
    (node : Option UInt64) : ∃ t stream given, s.writeAll id batches = .ok t ∧
      ShardSelection.read ⟨t, [id]⟩ false name (.everything ascending node) = .ok stream ∧
      stream.toPoints = .ok given ∧
      (Restores batches.flatten name given ↔ KeepsTags batches.flatten name) := by
  obtain ⟨t, stream, given, written, opened, drained, same⟩ :=
    exists_readBack found enabled blank batches name ascending node
  refine ⟨t, stream, given, written, opened, drained, ?_⟩
  rw [← restores_iff_keepsTags]
  exact ⟨Restores.perm same, Restores.perm same.symm⟩

end Blank

def blankShard : Shard := { database := "db0", retentionPolicy := "rp0", enabled := true }

def blankStore : ShardStore := ({} : ShardStore).createShard ⟨"db0", "rp0"⟩ 1 true

def cpuWith (tags : List (String × String)) (fields : List (String × FieldValue)) : Point :=
  { name := "cpu", tags := .ofList tags, fields := .ofList fields, time := 0 }

def overlapping : List (List Point) :=
  [[cpuWith [("host", "a")] [("x", .integer 1)], cpuWith [("host", "b")] [("x", .integer 2)]],
    [cpuWith [("host", "a")] [("y", .integer 3), ("x", .integer 4)]]]

theorem restores_iff_overlapping : blankStore.shards.find? 1 = some blankShard ∧
    blankShard.enabled ∧ blankShard.measurements = ∅ ∧
    ∃ t stream given, blankStore.writeAll 1 overlapping = .ok t ∧
      ShardSelection.read ⟨t, [1]⟩ false "cpu" (.everything true none) = .ok stream ∧
      stream.toPoints = .ok given ∧ Restores overlapping.flatten "cpu" given := by
  obtain ⟨t, stream, given, written, opened, drained, restores⟩ :=
    restores_iff (show blankStore.shards.find? 1 = some blankShard from rfl) rfl rfl overlapping
      "cpu" true none
  refine ⟨rfl, rfl, rfl, t, stream, given, written, opened, drained, restores.mpr ?_⟩
  refine keepsTags_of_plain ?_
  unfold PlainTags
  decide

-- Both points have the key `cpu,a=1,b=2`.
def oneTag : Point := cpuWith [("a", "1,b=2")] [("x", .integer 1)]

def twoTags : Point := cpuWith [("a", "1"), ("b", "2")] [("y", .integer 2)]

def oneTagBothFields : Point := cpuWith [("a", "1,b=2")] [("x", .integer 1), ("y", .integer 2)]

theorem merges_series : ∃ t stream,
    blankStore.writeAll 1 [[oneTag, twoTags]] = .ok t ∧
    ShardSelection.read ⟨t, [1]⟩ false "cpu" (.everything true none) = .ok stream ∧
    stream.toPoints = .ok [oneTagBothFields] ∧
    ¬ Restores [oneTag, twoTags] "cpu" [oneTagBothFields] := by
  obtain ⟨t, stream, given, written, opened, drained, same⟩ :=
    exists_readBack (show blankStore.shards.find? 1 = some blankShard from rfl) rfl rfl
      [[oneTag, twoTags]] "cpu" true none
  have one : Shard.givenOf [oneTag, twoTags] "cpu" true none = [oneTagBothFields] := by decide
  have shown : given = [oneTagBothFields] := List.perm_singleton.mp (same.trans (.of_eq one))
  rw [shown] at drained
  refine ⟨t, stream, written, opened, drained, fun restores => ?_⟩
  obtain ⟨p, member, found⟩ := restores.complete twoTags (by decide) rfl (by decide)
  rw [List.mem_singleton.mp member] at found
  exact absurd found (by decide)

end ShardStore

end SeriesCluster
