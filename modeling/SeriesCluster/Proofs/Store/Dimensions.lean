import SeriesCluster.Proofs.Store.Filed

namespace SeriesCluster

namespace DataType

def Widest (ts : List DataType) : Option DataType → Prop
  | none => ts = []
  | some t => t ∈ ts ∧ ∀ u ∈ ts, u.precedence ≤ t.precedence

theorem wider_choice (t u : DataType) : t.wider u = t ∨ t.wider u = u := by
  rw [wider]
  split
  · exact .inr rfl
  · exact .inl rfl

theorem unknown_wider (t : DataType) : unknown.wider t = t := by
  apply precedence_injective
  rw [precedence_wider]
  exact Nat.zero_max _

namespace Widest

variable {ts us : List DataType} {a b : Option DataType}

theorem toList (a : Option DataType) : Widest a.toList a := by
  cases a with
  | none => rfl
  | some t => simp [Widest]

theorem append (first : Widest ts a) (second : Widest us b) :
    Widest (ts ++ us) (Option.merge wider a b) := by
  cases a with
  | none =>
    cases first
    cases b with
    | none => exact second
    | some u => exact second
  | some t =>
    cases b with
    | none =>
      cases second
      rw [List.append_nil]
      exact first
    | some u =>
      obtain ⟨member, above⟩ := first
      obtain ⟨member', above'⟩ := second
      constructor
      · rcases wider_choice t u with left | right
        · rw [left]
          exact List.mem_append_left _ member
        · rw [right]
          exact List.mem_append_right _ member'
      · intro v among
        rw [precedence_wider]
        rcases List.mem_append.mp among with among | among
        · have bound := above v among
          omega
        · have bound := above' v among
          omega

theorem of_mem (widest : Widest ts a) (same : ∀ t, t ∈ ts ↔ t ∈ us) : Widest us a := by
  cases a with
  | none =>
    cases widest
    apply List.eq_nil_iff_forall_not_mem.mpr
    intro t among
    cases (same t).mpr among
  | some t => exact ⟨(same t).mp widest.1, fun u among => widest.2 u ((same u).mpr among)⟩

theorem unique (first : Widest ts a) (second : Widest ts b) : a = b := by
  cases a with
  | none =>
    cases first
    cases b with
    | none => rfl
    | some u => cases second.1
  | some t =>
    cases b with
    | none =>
      cases second
      cases first.1
    | some u =>
      have le := second.2 t first.1
      have ge := first.2 u second.1
      rw [precedence_injective (Nat.le_antisymm le ge)]

end Widest

end DataType

namespace FieldDimensions

/-- A set has the widest type of each field of some sets, and all their tags. -/
structure Knows (d : FieldDimensions) (ds : List FieldDimensions) : Prop where
  fields : ∀ name, DataType.Widest (ds.filterMap (·.fields.find? name)) (d.fields.find? name)
  dimensions : ∀ name, d.dimensions.mem name ↔ ∃ e ∈ ds, e.dimensions.mem name

/-- Merging some sets in some order and grouping. -/
inductive Merges : List FieldDimensions → FieldDimensions → Prop
  | none : Merges [] {}
  | one (d : FieldDimensions) : Merges [d] d
  | both {ds es : List FieldDimensions} {d e : FieldDimensions} (first : Merges ds d)
    (second : Merges es e) : Merges (ds ++ es) (d.merge e)
  | perm {ds es : List FieldDimensions} {d : FieldDimensions} (same : ds.Perm es)
    (merged : Merges ds d) : Merges es d

theorem find?_merge (d e : FieldDimensions) (name : String) : (d.merge e).fields.find? name =
    Option.merge DataType.wider (d.fields.find? name) (e.fields.find? name) := by
  -- The fold over sets is one over their fields, which touches each field by itself.
  have noted (entries : List (String × DataType)) (d : FieldDimensions) :
      (entries.foldl (fun d e => d.addField e.1 e.2) d).fields =
        entries.foldl (SortedMap.alterBy (·.1) fun old e => (old.getD .unknown).wider e.2)
          d.fields := by
    induction entries generalizing d with
    | nil => rfl
    | cons e entries ih => exact ih (d.addField e.1 e.2)
  have fields : (d.merge e).fields =
      (e.fields.toList.foldl (fun d e => d.addField e.1 e.2) d).fields := rfl
  rw [fields, noted, SortedMap.find?_foldl_alterBy, SortedMap.filter_toList_key]
  cases e.fields.find? name with
  | none => cases d.fields.find? name <;> rfl
  | some u =>
    cases d.fields.find? name with
    | none => exact congrArg some (DataType.unknown_wider u)
    | some t => rfl

theorem mem_merge (d e : FieldDimensions) (name : String) :
    (d.merge e).dimensions.mem name ↔ d.dimensions.mem name ∨ e.dimensions.mem name :=
  SortedSet.mem_union d.dimensions e.dimensions name

namespace Knows

variable {d e : FieldDimensions} {ds es : List FieldDimensions}

theorem none : Knows {} [] where
  fields name := rfl
  dimensions name := by simp [SortedSet.mem, SortedMap.contains]

theorem one (d : FieldDimensions) : d.Knows [d] where
  fields name := by
    have own : [d].filterMap (·.fields.find? name) = (d.fields.find? name).toList := by
      cases found : d.fields.find? name with
      | none => simp [found]
      | some t => simp [found]
    rw [own]
    exact .toList _
  dimensions name := by simp

theorem both (first : d.Knows ds) (second : e.Knows es) : (d.merge e).Knows (ds ++ es) where
  fields name := by
    rw [find?_merge, List.filterMap_append]
    exact (first.fields name).append (second.fields name)
  dimensions name := by
    rw [mem_merge, first.dimensions, second.dimensions]
    simp only [List.mem_append, or_and_right, exists_or]

theorem of_mem (known : d.Knows ds) (same : ∀ x, x ∈ ds ↔ x ∈ es) : d.Knows es where
  fields name := by
    apply (known.fields name).of_mem
    simp only [List.mem_filterMap, same, implies_true]
  dimensions name := by
    rw [known.dimensions]
    simp only [same]

theorem unique (first : d.Knows ds) (second : e.Knows ds) : d = e := by
  have fields : d.fields = e.fields :=
    SortedMap.eq_of_find? fun name => (first.fields name).unique (second.fields name)
  have dimensions : d.dimensions = e.dimensions :=
    SortedSet.eq_of_mem fun name => (first.dimensions name).trans (second.dimensions name).symm
  cases d
  cases e
  cases fields
  cases dimensions
  rfl

theorem foldl {known : List (List FieldDimensions)} (first : d.Knows es)
    (each : List.Forall₂ (fun d ds => d.Knows ds) ds known) :
    (ds.foldl merge d).Knows (es ++ known.flatten) := by
  induction each generalizing d es with
  | nil =>
    rw [List.flatten_nil, List.append_nil]
    exact first
  | cons next later ih =>
    rw [List.flatten_cons, ← List.append_assoc]
    exact ih (first.both next)

theorem all (ds : List FieldDimensions) : (ds.foldl merge {}).Knows ds := by
  have each : List.Forall₂ (fun d ds => d.Knows ds) ds (ds.map ([·])) :=
    List.forall₂_map_right_iff.mpr (List.forall₂_same.mpr fun d _ => one d)
  have known := none.foldl each
  rwa [← List.flatMap_def, List.flatMap_singleton', List.nil_append] at known

theorem merge_eq (known : d.Knows ds) (among : e ∈ ds) : d.merge e = d := by
  have again : (d.merge e).Knows ds := by
    apply (known.both (one e)).of_mem
    intro x
    rw [List.mem_append, List.mem_singleton]
    constructor
    · rintro (member | rfl)
      · exact member
      · exact among
    · exact .inl
  exact again.unique known

end Knows

theorem Merges.knows {ds : List FieldDimensions} {d : FieldDimensions} (merged : Merges ds d) :
    d.Knows ds := by
  induction merged with
  | none => exact .none
  | one d => exact .one d
  | both _ _ first second => exact first.both second
  | perm same _ known => exact known.of_mem fun _ => same.mem_iff

end FieldDimensions

def pointsAmong (pattern : Option Pattern) (name : String)
    (shard : SortedMap String MeasurementSeries) : List Point :=
  (namesAmong pattern name shard).flatMap (pointsNamed shard)

namespace ShardSelection

theorem points_eq (g : ShardSelection) (name : String) :
    g.points name = g.ids.flatMap fun id => pointsNamed (g.store.contents id) name := by
  rw [points, seriesOf_shards, List.flatMap_assoc]
  rfl

theorem mem_points_names (g : ShardSelection) (pattern : Option Pattern) (name : String)
    (p : Point) : p ∈ (g.names pattern name).flatMap g.points ↔
      p ∈ g.ids.flatMap fun id => pointsAmong pattern name (g.store.contents id) := by
  have known {shard : SortedMap String MeasurementSeries} {n : String}
      (member : p ∈ pointsNamed shard n) : n ∈ shard.keys := by
    apply Classical.byContradiction
    intro absent
    rw [pointsNamed, seriesNamed, SortedMap.find?_eq_none absent] at member
    cases member
  simp only [List.mem_flatMap, points_eq, pointsAmong]
  cases pattern with
  | none => simp [names, namesAmong]
  | some pattern =>
    simp only [names, namesAmong, mem_measurementsMatching, List.mem_filter]
    constructor
    · rintro ⟨n, ⟨accepted, -⟩, id, member, held⟩
      exact ⟨id, member, n, ⟨known held, accepted⟩, held⟩
    · rintro ⟨id, member, n, ⟨listed, accepted⟩, held⟩
      exact ⟨n, ⟨accepted, id, member, listed⟩, id, member, held⟩

theorem knows_points (g : ShardSelection) (pattern : Option Pattern) (name : String) :
    (g.fieldDimensions (g.names pattern name)).Knows
      ((g.ids.flatMap fun id => pointsAmong pattern name (g.store.contents id)).map
        dimensionsOf) := by
  rw [fieldDimensions, ← List.foldl_map]
  apply (FieldDimensions.Knows.all _).of_mem
  intro x
  simp only [List.mem_map, mem_points_names]

end ShardSelection

end SeriesCluster
