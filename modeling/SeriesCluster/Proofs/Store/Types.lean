import SeriesCluster.Proofs.Store.Dimensions

namespace SeriesCluster

namespace FieldDimensions

/-- What a set of fields and tags tells of a name: its type as a field if it is one, and otherwise
whether it is a tag. -/
def typeOf (d : FieldDimensions) (name : String) : DataType :=
  match d.fields.find? name with
  | some t => t
  | none => if d.dimensions.mem name then .tag else .unknown

def AboveTags (d : FieldDimensions) : Prop :=
  ∀ name t, d.fields.find? name = some t → DataType.tag.precedence < t.precedence

variable {d e : FieldDimensions}

theorem AboveTags.merge (first : d.AboveTags) (second : e.AboveTags) : (d.merge e).AboveTags := by
  intro name t found
  rw [find?_merge] at found
  cases left : d.fields.find? name with
  | none =>
    rw [left, Option.merge_none_left] at found
    exact second name t found
  | some u =>
    have bound := first name u left
    cases right : e.fields.find? name with
    | none =>
      rw [left, right] at found
      cases found
      exact bound
    | some v =>
      rw [left, right] at found
      cases found
      rw [DataType.precedence_wider]
      omega

/-- A merge tells the wider one of what its two parts tell. -/
theorem typeOf_merge (first : d.AboveTags) (second : e.AboveTags) (name : String) :
    (d.merge e).typeOf name = (d.typeOf name).wider (e.typeOf name) := by
  have tags : (d.merge e).dimensions.mem name =
      (d.dimensions.mem name || e.dimensions.mem name) := by
    rw [Bool.eq_iff_iff, Bool.or_eq_true]
    exact mem_merge d e name
  apply DataType.precedence_injective
  rw [DataType.precedence_wider, typeOf, typeOf, typeOf, find?_merge, tags]
  cases left : d.fields.find? name with
  | none =>
    cases right : e.fields.find? name with
    | none => cases d.dimensions.mem name <;> cases e.dimensions.mem name <;> rfl
    | some v =>
      -- The tag of the first part gives way to the field of the second.
      have bound := second name v right
      cases d.dimensions.mem name with
      | false => exact (Nat.zero_max _).symm
      | true => exact (Nat.max_eq_right (Nat.le_of_lt bound)).symm
  | some u =>
    cases right : e.fields.find? name with
    | none =>
      have bound := first name u left
      cases e.dimensions.mem name with
      | false => exact (Nat.max_zero _).symm
      | true => exact (Nat.max_eq_left (Nat.le_of_lt bound)).symm
    | some v => exact DataType.precedence_wider u v

end FieldDimensions

namespace ShardSelection

open FieldDimensions

theorem tag_lt_dataType (v : FieldValue) : DataType.tag.precedence < v.dataType.precedence := by
  cases v <;> exact of_decide_eq_true rfl

theorem mem_dimensionsOf (name : String) (p : Point) :
    (dimensionsOf p).dimensions.mem name = p.tags.contains name := by
  rw [SortedSet.mem, SortedMap.contains, dimensionsOf, SortedMap.find?_mapValues, Option.isSome_map,
    SortedMap.contains]

theorem aboveTags_dimensionsOf (p : Point) : (dimensionsOf p).AboveTags := by
  intro name t found
  rw [dimensionsOf, SortedMap.find?_mapValues] at found
  obtain ⟨v, -, rfl⟩ := Option.map_eq_some_iff.mp found
  exact tag_lt_dataType v

theorem typeIn_eq_typeOf (name : String) (p : Point) :
    typeIn name p = (dimensionsOf p).typeOf name := by
  rw [typeIn, typeOf, mem_dimensionsOf, dimensionsOf, SortedMap.find?_mapValues]
  cases p.fields.find? name <;> rfl

theorem typeOf_foldl_merge (name : String) (points : List Point) {d : FieldDimensions}
    (above : d.AboveTags) :
    (points.foldl (fun d p => d.merge (dimensionsOf p)) d).typeOf name =
      points.foldl (fun t p => t.wider (typeIn name p)) (d.typeOf name) := by
  induction points generalizing d with
  | nil => rfl
  | cons p points ih =>
    have point := aboveTags_dimensionsOf p
    rw [List.foldl_cons, List.foldl_cons, ih (above.merge point), typeOf_merge above point,
      typeIn_eq_typeOf]

/-- The widest type that a name has in a measurement is what the measurement's fields and tags tell of
the name. -/
theorem mapType_eq_typeOf (g : ShardSelection) (measurement name : String) :
    g.mapType measurement name = (g.fieldDimensions [measurement]).typeOf name := by
  have none : ({} : FieldDimensions).AboveTags := fun name t found => by cases found
  rw [fieldDimensions, List.flatMap_singleton, typeOf_foldl_merge name _ none]
  rfl

end ShardSelection

end SeriesCluster
