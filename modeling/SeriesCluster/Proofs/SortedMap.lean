import Mathlib.Tactic.Tauto
import SeriesCluster.SortedMap

namespace SeriesCluster

universe u v

variable {κ : Type u} {β : Type v} [Ord κ]

theorem perm_cons_filter_ne {α : Type u} {β : Type v} [DecidableEq β] (key : α → β) {a : α}
    {l : List α} (distinct : (l.map key).Nodup) (member : a ∈ l) :
    l.Perm (a :: l.filter (key · != key a)) := by
  induction l with
  | nil => cases member
  | cons b l ih =>
    rw [List.map_cons, List.nodup_cons] at distinct
    rcases List.mem_cons.mp member with rfl | member
    · have others : l.filter (key · != key a) = l := by
        refine List.filter_eq_self.mpr fun c listed => ?_
        have other : key c ≠ key a := fun same => distinct.1 (same ▸ List.mem_map_of_mem listed)
        simpa using other
      rw [List.filter_cons_of_neg (by simp), others]
    · have other : key b ≠ key a := fun same => distinct.1 (same ▸ List.mem_map_of_mem member)
      rw [List.filter_cons_of_pos (by simpa using other)]
      exact ((ih distinct.2 member).cons b).trans (.swap ..)

namespace SortedMap

@[simp] theorem find?_empty (k : κ) : (∅ : SortedMap κ β).find? k = none := rfl

theorem isEmpty_iff {m : SortedMap κ β} : m.isEmpty ↔ m = ∅ := by
  rw [isEmpty, List.isEmpty_iff]
  exact ⟨fun none => ext none, fun none => none ▸ rfl⟩

theorem filter_eq_self {m : SortedMap κ β} {keep : κ → β → Bool}
    (all : ∀ e ∈ m.toList, keep e.1 e.2 = true) : m.filter keep = m :=
  ext (List.filter_eq_self.mpr all)

section Lawful

variable [Std.LawfulEqOrd κ]

theorem lookup_isSome_iff (k : κ) (entries : List (κ × β)) :
    (lookup k entries).isSome ↔ k ∈ entries.map (·.1) := by
  induction entries with
  | nil => simp [lookup]
  | cons head rest ih =>
    obtain ⟨k', y⟩ := head
    rw [lookup, List.map_cons, List.mem_cons, ← ih]
    by_cases same : k = k'
    · simp [same]
    · simp [same]

theorem mem_of_lookup {k : κ} {x : β} {entries : List (κ × β)} (found : lookup k entries = some x) :
    (k, x) ∈ entries := by
  induction entries with
  | nil => cases found
  | cons head rest ih =>
    obtain ⟨k', y⟩ := head
    by_cases same : k = k'
    · simp only [lookup, same, Std.ReflOrd.compare_self, if_true] at found
      cases found
      rw [same]
      exact List.mem_cons_self
    · rw [lookup, if_neg (by simpa using same)] at found
      exact List.mem_cons_of_mem _ (ih found)

theorem contains_iff (m : SortedMap κ β) (k : κ) : m.contains k ↔ k ∈ m.keys :=
  lookup_isSome_iff k m.toList

theorem find?_eq_none {m : SortedMap κ β} {k : κ} (absent : k ∉ m.keys) : m.find? k = none := by
  rw [← contains_iff, contains, Option.not_isSome_iff_eq_none] at absent
  exact absent

theorem find?_filter_key (m : SortedMap κ β) (keep : κ → Bool) (k : κ) :
    (m.filter fun k' _ => keep k').find? k = if keep k then m.find? k else none := by
  have listed : ∀ entries : List (κ × β), lookup k (entries.filter fun e => keep e.1) =
      if keep k then lookup k entries else none := by
    intro entries
    induction entries with
    | nil => simp [lookup]
    | cons head rest ih =>
      obtain ⟨k', y⟩ := head
      by_cases same : k = k'
      · subst same
        by_cases kept : keep k <;> simp_all [lookup]
      · by_cases kept : keep k' <;> simp_all [lookup]
  exact listed m.toList

theorem find?_mapValues {γ : Type v} (m : SortedMap κ β) (f : κ → β → γ) (k : κ) :
    (m.mapValues f).find? k = (m.find? k).map (f k) := by
  have listed : ∀ entries : List (κ × β), lookup k (entries.map fun e => (e.1, f e.1 e.2)) =
      (lookup k entries).map (f k) := by
    intro entries
    induction entries with
    | nil => rfl
    | cons head rest ih =>
      rw [List.map_cons, lookup, lookup, ih]
      by_cases same : k = head.1
      · subst same
        simp
      · simp [same]
  exact listed m.toList

end Lawful

section Order

variable [Std.TransOrd κ]

theorem put_last (k : κ) (x : β) {entries : List (κ × β)}
    (below : ∀ e ∈ entries, compare e.1 k = .lt) : put k x entries = entries ++ [(k, x)] := by
  induction entries with
  | nil => rfl
  | cons head rest ih =>
    obtain ⟨k', y⟩ := head
    have above : compare k k' = .gt :=
      Std.OrientedCmp.gt_of_lt (below (k', y) List.mem_cons_self)
    simp only [put, above]
    rw [ih fun e member => below e (List.mem_cons_of_mem _ member), List.cons_append]

theorem toList_foldl_insert (m : SortedMap κ β) {entries : List (κ × β)}
    (increasing : (m.toList ++ entries).Pairwise fun a b => compare a.1 b.1 = .lt) :
    (entries.foldl (fun m e => m.insert e.1 e.2) m).toList = m.toList ++ entries := by
  induction entries generalizing m with
  | nil => rw [List.append_nil]; rfl
  | cons e rest ih =>
    have below : ∀ a ∈ m.toList, compare a.1 e.1 = .lt := fun a member =>
      (List.pairwise_append.mp increasing).2.2 a member e List.mem_cons_self
    have placed : (m.insert e.1 e.2).toList = m.toList ++ [e] := put_last e.1 e.2 below
    rw [List.foldl_cons, ih, placed, List.append_assoc, List.singleton_append]
    rwa [placed, List.append_assoc, List.singleton_append]

theorem ofList_toList (m : SortedMap κ β) : ofList m.toList = m := by
  apply ext
  have listed : (ofList m.toList).toList = (∅ : SortedMap κ β).toList ++ m.toList :=
    toList_foldl_insert ∅ m.increasing
  rwa [toList_empty, List.nil_append] at listed

theorem nodup_keys (m : SortedMap κ β) : m.keys.Nodup := by
  refine List.pairwise_map.mpr (m.increasing.imp fun {a b} less same => ?_)
  rw [same, Std.ReflOrd.compare_self] at less
  cases less

theorem lookup_of_mem {k : κ} {x : β} {entries : List (κ × β)}
    (increasing : entries.Pairwise fun a b => compare a.1 b.1 = .lt) (member : (k, x) ∈ entries) :
    lookup k entries = some x := by
  induction entries with
  | nil => cases member
  | cons head rest ih =>
    obtain ⟨below, increasingRest⟩ := List.pairwise_cons.mp increasing
    rcases List.mem_cons.mp member with rfl | member
    · rw [lookup, if_pos Std.ReflOrd.compare_self]
    · have above : compare k head.1 = .gt := Std.OrientedCmp.gt_of_lt (below _ member)
      rw [lookup, above, if_neg (by decide), ih increasingRest member]

theorem find?_eq_some_iff [Std.LawfulEqOrd κ] {m : SortedMap κ β} {k : κ} {x : β} :
    m.find? k = some x ↔ (k, x) ∈ m.toList :=
  ⟨mem_of_lookup, lookup_of_mem m.increasing⟩

theorem eq_of_find? [Std.LawfulEqOrd κ] {m n : SortedMap κ β} (same : ∀ k, m.find? k = n.find? k) :
    m = n := by
  have distinct (m : SortedMap κ β) : m.toList.Nodup := m.increasing.imp fun {a b} less equal => by
    rw [equal, Std.ReflOrd.compare_self] at less
    cases less
  have permuted : m.toList.Perm n.toList :=
    (List.perm_ext_iff_of_nodup (distinct m) (distinct n)).mpr fun e => by
      rw [← find?_eq_some_iff, ← find?_eq_some_iff, same]
  refine ext (permuted.eq_of_pairwise (fun a b _ _ less more => ?_) m.increasing n.increasing)
  rw [Std.OrientedCmp.gt_of_lt less] at more
  cases more

theorem ne_empty_iff [Std.LawfulEqOrd κ] {m : SortedMap κ β} :
    m ≠ ∅ ↔ ∃ k, (m.find? k).isSome := by
  refine ⟨fun filled => Classical.byContradiction fun missing => ?_, fun ⟨k, found⟩ none => ?_⟩
  · rw [not_exists] at missing
    exact filled (eq_of_find? fun k => by simpa using missing k)
  · rw [none, find?_empty] at found
    cases found

/-- A map of lists holds one thing more when it is put behind the list at a key. -/
theorem flatMap_alter_perm [Std.LawfulEqOrd κ] (m : SortedMap κ (List β)) (k : κ) (x : β) :
    ((m.alter k fun old => old.getD [] ++ [x]).toList.flatMap (·.2)).Perm
      (m.toList.flatMap (·.2) ++ [x]) := by
  obtain ⟨entries, increasing⟩ := m
  rw [alter, toList_insert, find?]
  dsimp only
  induction entries with
  | nil => exact .refl _
  | cons head rest ih =>
    obtain ⟨k', ys⟩ := head
    obtain ⟨below, increasingRest⟩ := List.pairwise_cons.mp increasing
    have later := ih increasingRest
    rw [put, lookup]
    cases order : compare k k' with
    | lt =>
      have above : lookup k rest = none := by
        rw [← Option.not_isSome_iff_eq_none, lookup_isSome_iff]
        intro member
        obtain ⟨e, listed, rfl⟩ := List.mem_map.mp member
        have self := Std.TransCmp.lt_trans order (below e listed)
        rw [Std.ReflOrd.compare_self] at self
        cases self
      simp only [above, reduceCtorEq, if_false, Option.getD_none, List.nil_append,
        List.flatMap_cons]
      exact (List.perm_append_singleton x (ys ++ rest.flatMap (·.2))).symm
    | eq =>
      simp only [if_true, Option.getD_some, List.flatMap_cons, List.append_assoc]
      exact (List.perm_append_singleton x (rest.flatMap (·.2))).symm.append_left ys
    | gt =>
      simp only [reduceCtorEq, if_false, List.flatMap_cons, List.append_assoc]
      exact later.append_left ys

theorem mem_keys_insert [Std.LawfulEqOrd κ] [DecidableEq κ] (m : SortedMap κ β) (k k' : κ) (x : β) :
    k' ∈ (m.insert k x).keys ↔ k' = k ∨ k' ∈ m.keys := by
  rw [← contains_iff, ← contains_iff, contains, contains, find?_insert]
  split
  · rename_i same
    simp [same]
  · rename_i other
    simp [other]

theorem perm_values_erase [Std.LawfulEqOrd κ] [DecidableEq κ] {m : SortedMap κ β} {k : κ} {x : β}
    (found : m.find? k = some x) : m.values.Perm (x :: (m.erase k).values) := by
  have entries := perm_cons_filter_ne Prod.fst m.nodup_keys (find?_eq_some_iff.mp found)
  have others : m.toList.filter (fun e => e.1 != k) = (m.erase k).toList := by
    refine List.filter_congr fun e _ => ?_
    rw [Bool.eq_iff_iff, bne_iff_ne, bne_iff_ne, ne_eq, ne_eq, Std.LawfulEqOrd.compare_eq_iff_eq,
      eq_comm]
  rw [others] at entries
  exact entries.map Prod.snd

theorem filter_toList_key [Std.LawfulEqOrd κ] [DecidableEq κ] (m : SortedMap κ β) (k : κ) :
    m.toList.filter (·.1 = k) = ((m.find? k).map (k, ·)).toList := by
  cases found : m.find? k with
  | none =>
    apply List.filter_eq_nil_iff.mpr
    rintro ⟨k', x⟩ member same
    simp only [decide_eq_true_eq] at same
    rw [same] at member
    rw [find?_eq_some_iff.mpr member] at found
    cases found
  | some x =>
    have entries := perm_cons_filter_ne Prod.fst m.nodup_keys (find?_eq_some_iff.mp found)
    have here := entries.filter (·.1 = k)
    have none : (m.toList.filter (·.1 != k)).filter (·.1 = k) = [] := by simp
    rw [List.filter_cons_of_pos (by simp), none] at here
    exact List.perm_singleton.mp here

theorem mem_keys_erase [Std.LawfulEqOrd κ] [DecidableEq κ] (m : SortedMap κ β) (k k' : κ) :
    k' ∈ (m.erase k).keys ↔ k' ≠ k ∧ k' ∈ m.keys := by
  rw [← contains_iff, ← contains_iff, contains, contains, find?_erase]
  split
  · rename_i same
    simp [same]
  · rename_i other
    simp [other]

end Order

end SortedMap

namespace SortedSet

theorem mem_iff [Std.LawfulEqOrd κ] (s : SortedSet κ) (x : κ) : s.mem x = true ↔ x ∈ s.elements :=
  SortedMap.contains_iff s x

variable [Std.TransOrd κ]

theorem ofList_elements (s : SortedSet κ) : SortedSet.ofList s.elements = s := by
  have pairs : s.elements.map (fun k => (k, ())) = s.toList := by
    rw [SortedSet.elements, SortedMap.keys, List.map_map]
    exact List.map_id' s.toList
  rw [SortedSet.ofList, pairs, SortedMap.ofList_toList]

theorem mem_elements_ofList [Std.LawfulEqOrd κ] [DecidableEq κ] (xs : List κ) (x : κ) :
    x ∈ (ofList xs).elements ↔ x ∈ xs := by
  have added (s : SortedSet κ) : x ∈ SortedMap.keys ((xs.map (·, ())).foldl
      (fun m e => SortedMap.insert m e.1 e.2) s) ↔ x ∈ xs ∨ x ∈ SortedMap.keys s := by
    induction xs generalizing s with
    | nil => simp
    | cons y rest ih =>
      rw [List.map_cons, List.foldl_cons, ih, SortedMap.mem_keys_insert, List.mem_cons]
      tauto
  rw [elements, ofList, SortedMap.ofList, added]
  exact or_iff_left List.not_mem_nil

theorem empty_union (s : SortedSet κ) : union ∅ s = s := by
  have built := ofList_elements s
  rw [ofList, SortedMap.ofList, List.foldl_map] at built
  exact built

variable [Std.LawfulEqOrd κ]

theorem eq_of_mem {s t : SortedSet κ} (same : ∀ x, s.mem x ↔ t.mem x) : s = t := by
  apply SortedMap.eq_of_find?
  intro x
  have known := same x
  rw [mem, mem, SortedMap.contains, SortedMap.contains] at known
  cases here : s.find? x with
  | none =>
    rw [here] at known
    cases there : t.find? x with
    | none => rfl
    | some u =>
      rw [there] at known
      simp at known
  | some u =>
    rw [here] at known
    obtain ⟨v, there⟩ := Option.isSome_iff_exists.mp (known.mp rfl)
    rw [there]

variable [DecidableEq κ]

theorem mem_foldl_add (xs : List κ) (s : SortedSet κ) (x : κ) :
    (xs.foldl add s).mem x = true ↔ s.mem x = true ∨ x ∈ xs := by
  induction xs generalizing s with
  | nil => simp
  | cons y xs ih =>
    rw [List.foldl_cons, ih, mem_iff, mem_iff, add, elements, SortedMap.mem_keys_insert,
      List.mem_cons, elements]
    tauto

theorem mem_union (s t : SortedSet κ) (x : κ) :
    (s.union t).mem x = true ↔ s.mem x = true ∨ t.mem x = true := by
  rw [union, mem_foldl_add, mem_iff t]

end SortedSet

end SeriesCluster
