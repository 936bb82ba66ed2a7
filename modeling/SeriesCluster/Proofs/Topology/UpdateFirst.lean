import Mathlib.Data.List.Flatten
import Mathlib.Data.List.Perm.Basic
import SeriesCluster.Topology.Apply

namespace SeriesCluster

variable {α β : Type} {p : α → Bool} {f : α → α} {l : List α}

theorem updateFirst_of_find?_eq_none (none : l.find? p = none) : updateFirst p f l = l := by
  induction l with
  | nil => rfl
  | cons a l ih =>
    rw [List.find?_eq_none] at none
    have here : p a = false := by simpa using none a (by simp)
    have later : l.find? p = Option.none :=
      List.find?_eq_none.mpr fun b member => none b (List.mem_cons_of_mem _ member)
    rw [updateFirst, here, if_neg Bool.false_ne_true, ih later]

theorem updateFirst_of_find?_eq_some {a : α} (found : l.find? p = some a) :
    ∃ before after, l = before ++ a :: after ∧ updateFirst p f l = before ++ f a :: after := by
  induction l with
  | nil => cases found
  | cons b l ih =>
    rw [List.find?_cons] at found
    cases here : p b with
    | true =>
      rw [here] at found
      cases found
      exact ⟨[], l, rfl, by rw [updateFirst, if_pos here, List.nil_append]⟩
    | false =>
      rw [here] at found
      obtain ⟨before, after, split, updated⟩ := ih found
      refine ⟨b :: before, after, by rw [split, List.cons_append], ?_⟩
      rw [updateFirst, here, if_neg Bool.false_ne_true, updated, List.cons_append]

theorem mem_updateFirst {b : α} (member : b ∈ updateFirst p f l) :
    b ∈ l ∨ ∃ a, l.find? p = some a ∧ b = f a := by
  cases found : l.find? p with
  | none =>
    rw [updateFirst_of_find?_eq_none found] at member
    exact .inl member
  | some a =>
    obtain ⟨before, after, split, updated⟩ := updateFirst_of_find?_eq_some (f := f) found
    rw [updated, List.mem_append, List.mem_cons] at member
    rcases member with early | same | late
    · exact .inl (by simp [split, early])
    · exact .inr ⟨a, rfl, same⟩
    · exact .inl (by simp [split, late])

theorem map_updateFirst {k : α → β} (same : ∀ a, k (f a) = k a) :
    (updateFirst p f l).map k = l.map k := by
  cases found : l.find? p with
  | none => rw [updateFirst_of_find?_eq_none found]
  | some a =>
    obtain ⟨before, after, split, updated⟩ := updateFirst_of_find?_eq_some (f := f) found
    rw [updated, split]
    simp [same]

theorem flatMap_updateFirst_sublist {k : α → List β} (fewer : ∀ a, (k (f a)).Sublist (k a)) :
    ((updateFirst p f l).flatMap k).Sublist (l.flatMap k) := by
  cases found : l.find? p with
  | none => rw [updateFirst_of_find?_eq_none found]
  | some a =>
    obtain ⟨before, after, split, updated⟩ := updateFirst_of_find?_eq_some (f := f) found
    rw [updated, split, List.flatMap_append, List.flatMap_append, List.flatMap_cons,
      List.flatMap_cons]
    exact .append_left (.append_right (fewer a) _) _

theorem flatMap_updateFirst_perm {k : α → List β} {a : α} {new : List β}
    (found : l.find? p = some a) (more : (k (f a)).Perm (k a ++ new)) :
    ((updateFirst p f l).flatMap k).Perm (l.flatMap k ++ new) := by
  obtain ⟨before, after, split, updated⟩ := updateFirst_of_find?_eq_some (f := f) found
  rw [updated, split]
  simp only [List.flatMap_append, List.flatMap_cons, List.append_assoc]
  have behind : (k (f a) ++ after.flatMap k).Perm (k a ++ (new ++ after.flatMap k)) := by
    rw [← List.append_assoc]
    exact more.append_right _
  exact .append_left _ (behind.trans (.append_left _ List.perm_append_comm))

theorem updateFirst_of_any_eq_false (none : l.any p = false) : updateFirst p f l = l :=
  updateFirst_of_find?_eq_none (List.find?_eq_none.mpr (by simpa using none))

theorem updateFirst_congr {g : α → α} {a : α} (found : l.find? p = some a) (same : f a = g a) :
    updateFirst p f l = updateFirst p g l := by
  induction l with
  | nil => rfl
  | cons b l ih =>
    rw [List.find?_cons] at found
    cases here : p b with
    | true =>
      rw [here] at found
      cases found
      simp only [updateFirst, here, if_true, same]
    | false =>
      rw [here] at found
      simp only [updateFirst, here, Bool.false_eq_true, if_false, ih found]

theorem updateFirst_self {a : α} (found : l.find? p = some a) (same : f a = a) :
    updateFirst p f l = l := by
  obtain ⟨before, after, split, updated⟩ := updateFirst_of_find?_eq_some (f := f) found
  rw [updated, same, split]

theorem find?_updateFirst {a : α} (found : l.find? p = some a) (kept : p (f a) = true) :
    (updateFirst p f l).find? p = some (f a) := by
  induction l with
  | nil => cases found
  | cons b l ih =>
    rw [List.find?_cons] at found
    cases here : p b with
    | true =>
      rw [here] at found
      cases found
      simp only [updateFirst, here, if_true, List.find?_cons, kept]
    | false =>
      rw [here] at found
      simp only [updateFirst, here, Bool.false_eq_true, if_false, List.find?_cons]
      exact ih found

theorem updateFirst_updateFirst {g : α → α} {a : α} (found : l.find? p = some a) (kept : p (f a) = true) :
    updateFirst p g (updateFirst p f l) = updateFirst p (g ∘ f) l := by
  induction l with
  | nil => rfl
  | cons b l ih =>
    rw [List.find?_cons] at found
    cases here : p b with
    | true =>
      rw [here] at found
      cases found
      simp only [updateFirst, here, kept, if_true, Function.comp]
    | false =>
      rw [here] at found
      simp only [updateFirst, here, Bool.false_eq_true, if_false, ih found]

end SeriesCluster
