namespace SeriesCluster

universe u v w

/-- A finite map, listed by strictly increasing key. -/
structure SortedMap (κ : Type u) (β : Type v) [Ord κ] where
  toList : List (κ × β)
  increasing : toList.Pairwise (fun a b => compare a.1 b.1 = .lt)

namespace SortedMap

variable {κ : Type u} {β : Type v} {γ : Type w} [Ord κ]

instance [DecidableEq κ] [DecidableEq β] : DecidableEq (SortedMap κ β) := fun m n =>
  decidable_of_iff (m.toList = n.toList) (by cases m; cases n; simp)

instance [Repr κ] [Repr β] : Repr (SortedMap κ β) where
  reprPrec m n := reprPrec m.toList n

theorem ext {m n : SortedMap κ β} (h : m.toList = n.toList) : m = n := by
  cases m; cases n; simp_all

def empty : SortedMap κ β := ⟨[], .nil⟩

instance : EmptyCollection (SortedMap κ β) := ⟨empty⟩
instance : Inhabited (SortedMap κ β) := ⟨empty⟩

@[simp] theorem toList_empty : (∅ : SortedMap κ β).toList = [] := rfl

def isEmpty (m : SortedMap κ β) : Bool := m.toList.isEmpty
def size (m : SortedMap κ β) : Nat := m.toList.length
def keys (m : SortedMap κ β) : List κ := m.toList.map (·.1)
def values (m : SortedMap κ β) : List β := m.toList.map (·.2)

def lookup (k : κ) : List (κ × β) → Option β
  | [] => none
  | (k', x) :: rest => if compare k k' = .eq then some x else lookup k rest

def find? (m : SortedMap κ β) (k : κ) : Option β := lookup k m.toList

def contains (m : SortedMap κ β) (k : κ) : Bool := (m.find? k).isSome

def put (k : κ) (x : β) : List (κ × β) → List (κ × β)
  | [] => [(k, x)]
  | (k', y) :: rest =>
    match compare k k' with
    | .lt => (k, x) :: (k', y) :: rest
    | .eq => (k, x) :: rest
    | .gt => (k', y) :: put k x rest

theorem mem_put {k : κ} {x : β} {e : κ × β} {entries : List (κ × β)} (h : e ∈ put k x entries) :
    e = (k, x) ∨ e ∈ entries := by
  induction entries with
  | nil => simpa [put] using h
  | cons head rest ih =>
    obtain ⟨k', y⟩ := head
    simp only [put] at h
    split at h <;> grind

theorem increasing_put [Std.TransOrd κ] (k : κ) (x : β) {entries : List (κ × β)}
    (h : entries.Pairwise (fun a b => compare a.1 b.1 = .lt)) :
    (put k x entries).Pairwise (fun a b => compare a.1 b.1 = .lt) := by
  induction entries with
  | nil => simp [put]
  | cons head rest ih =>
    obtain ⟨k', y⟩ := head
    obtain ⟨below, tail⟩ := List.pairwise_cons.mp h
    simp only [put]
    split
    · rename_i lt
      refine List.pairwise_cons.mpr ⟨?_, h⟩
      intro e member
      rcases List.mem_cons.mp member with rfl | member
      · exact lt
      · exact Std.TransCmp.lt_trans lt (below _ member)
    · rename_i eq
      refine List.pairwise_cons.mpr ⟨?_, tail⟩
      intro e member
      exact Std.TransCmp.lt_of_eq_of_lt eq (below _ member)
    · rename_i gt
      refine List.pairwise_cons.mpr ⟨?_, ih tail⟩
      intro e member
      rcases mem_put member with rfl | member
      · exact Std.OrientedCmp.lt_of_gt gt
      · exact below _ member

def insert [Std.TransOrd κ] (m : SortedMap κ β) (k : κ) (x : β) : SortedMap κ β :=
  ⟨put k x m.toList, increasing_put k x m.increasing⟩

def ofList [Std.TransOrd κ] (entries : List (κ × β)) : SortedMap κ β :=
  entries.foldl (fun m e => m.insert e.1 e.2) ∅

def filter (p : κ → β → Bool) (m : SortedMap κ β) : SortedMap κ β :=
  ⟨m.toList.filter (fun e => p e.1 e.2), m.increasing.filter _⟩

def erase (m : SortedMap κ β) (k : κ) : SortedMap κ β :=
  m.filter (fun k' _ => compare k k' != .eq)

def mapValues (f : κ → β → γ) (m : SortedMap κ β) : SortedMap κ γ :=
  ⟨m.toList.map (fun e => (e.1, f e.1 e.2)), by
    simpa [List.pairwise_map] using m.increasing⟩

def alter [Std.TransOrd κ] (m : SortedMap κ β) (k : κ) (f : Option β → β) : SortedMap κ β :=
  m.insert k (f (m.find? k))

@[simp] theorem toList_insert [Std.TransOrd κ] (m : SortedMap κ β) (k : κ) (x : β) :
    (m.insert k x).toList = put k x m.toList := rfl

theorem lookup_put [Std.TransOrd κ] [Std.LawfulEqOrd κ] [DecidableEq κ] (k k' : κ) (x : β)
    (entries : List (κ × β)) :
    lookup k' (put k x entries) = if k' = k then some x else lookup k' entries := by
  induction entries with
  | nil => simp [put, lookup]
  | cons head rest ih =>
    obtain ⟨j, y⟩ := head
    simp only [put]
    cases order : compare k j with
    | lt => simp only [lookup, Std.LawfulEqOrd.compare_eq_iff_eq]
    | eq =>
      have same : k = j := Std.LawfulEqOrd.compare_eq_iff_eq.mp order
      subst same
      simp only [lookup, Std.LawfulEqOrd.compare_eq_iff_eq]
      split <;> rfl
    | gt =>
      simp only [lookup, Std.LawfulEqOrd.compare_eq_iff_eq, ih]
      by_cases hk : k' = j
      · subst hk
        have : k' ≠ k := by
          rintro rfl
          simp [Std.ReflCmp.compare_self] at order
        simp [this]
      · simp [hk]

theorem find?_insert [Std.TransOrd κ] [Std.LawfulEqOrd κ] [DecidableEq κ] (m : SortedMap κ β)
    (k k' : κ) (x : β) : (m.insert k x).find? k' = if k' = k then some x else m.find? k' :=
  lookup_put k k' x m.toList

theorem lookup_filter_ne [Std.TransOrd κ] [Std.LawfulEqOrd κ] [DecidableEq κ] (k k' : κ)
    (entries : List (κ × β)) :
    lookup k' (entries.filter fun e => compare k e.1 != .eq) =
      if k' = k then none else lookup k' entries := by
  induction entries with
  | nil => simp [lookup]
  | cons head rest ih =>
    obtain ⟨j, y⟩ := head
    by_cases hk : k = j
    · subst hk
      simp only [List.filter_cons, Std.ReflCmp.compare_self, bne_self_eq_false, lookup, ih,
        Std.LawfulEqOrd.compare_eq_iff_eq, Bool.false_eq_true, if_false]
      split <;> rfl
    · have differs : (compare k j != .eq) = true := by
        simpa [Std.LawfulEqOrd.compare_eq_iff_eq] using hk
      simp only [List.filter_cons, differs, if_true, lookup, ih,
        Std.LawfulEqOrd.compare_eq_iff_eq]
      by_cases hj : k' = j
      · subst hj
        simp [Ne.symm hk]
      · simp [hj]

theorem find?_erase [Std.TransOrd κ] [Std.LawfulEqOrd κ] [DecidableEq κ] (m : SortedMap κ β)
    (k k' : κ) : (m.erase k).find? k' = if k' = k then none else m.find? k' :=
  lookup_filter_ne k k' m.toList

end SortedMap

abbrev SortedSet (κ : Type u) [Ord κ] := SortedMap κ Unit

namespace SortedSet

variable {κ : Type u} [Ord κ]

def ofList [Std.TransOrd κ] (elements : List κ) : SortedSet κ :=
  SortedMap.ofList (elements.map (·, ()))

def elements (s : SortedSet κ) : List κ := SortedMap.keys s

def mem (s : SortedSet κ) (x : κ) : Bool := SortedMap.contains s x

def add [Std.TransOrd κ] (s : SortedSet κ) (x : κ) : SortedSet κ := SortedMap.insert s x ()

def union [Std.TransOrd κ] (s t : SortedSet κ) : SortedSet κ := t.elements.foldl add s

end SortedSet

end SeriesCluster
