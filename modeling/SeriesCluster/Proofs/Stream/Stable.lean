import Mathlib.Data.List.Permutation
import SeriesCluster.Proofs.Stream.Merge

namespace SeriesCluster

section Sorting

variable {α : Type} {le : α → α → Bool}

/-- Sorting keeps things that are tied with one another as they stand. -/
theorem filter_mergeSort (trans : ∀ a b c, le a b → le b c → le a c)
    (total : ∀ a b, le a b || le b a) {keep : α → Bool} (tied : ∀ a b, keep a → keep b → le a b)
    (l : List α) : (l.mergeSort le).filter keep = l.filter keep := by
  induction l with
  | nil => simp
  | cons a l ih =>
    obtain ⟨before, after, sorted, rest, above⟩ := List.mergeSort_cons trans total a l
    rw [rest, List.filter_append] at ih
    rw [sorted, List.filter_append]
    by_cases kept : keep a
    -- What is sorted before `a` is less than it, and so not kept.
    · have none : before.filter keep = [] := by
        apply List.filter_eq_nil_iff.mpr
        intro b member keptB
        have less := above b member
        simp [tied a b kept keptB] at less
      rw [List.filter_cons_of_pos kept, List.filter_cons_of_pos kept, ← ih, none]
      rfl
    · rw [List.filter_cons_of_neg kept, List.filter_cons_of_neg kept, ih]

end Sorting

def sortPoints (ascending : Bool) (points : List Point) : List Point :=
  points.mergeSort fun p q => pointOrder ascending p q != .gt

section Places

variable {ascending : Bool} {p q : Point} {points points' : List Point}

theorem pointOrder_eq_iff : pointOrder ascending p q = .eq ↔ p.place = q.place := by
  rw [pointOrder_eq]
  exact Std.LawfulEqCmp.compare_eq_iff_eq

theorem place_eq_of_inOrder (before : InOrder ascending p q) (after : InOrder ascending q p) :
    p.place = q.place :=
  pointOrder_eq_iff.mp (Std.OrientedCmp.isLE_antisymm before after)

theorem inOrder_of_place (same : p.place = q.place) : InOrder ascending p q := by
  rw [InOrder, pointOrder_eq_iff.mpr same]
  rfl

theorem mem_iff_of_places
    (same : ∀ a, points.filter (·.place = a) = points'.filter (·.place = a)) :
    p ∈ points ↔ p ∈ points' := by
  have here (l : List Point) : p ∈ l ↔ p ∈ l.filter (·.place = p.place) := by simp
  rw [here points, here points', same]

theorem eq_of_places (inOrder : points.Pairwise (InOrder ascending))
    (inOrder' : points'.Pairwise (InOrder ascending))
    (same : ∀ a, points.filter (·.place = a) = points'.filter (·.place = a)) : points = points' := by
  induction points generalizing points' with
  | nil =>
    apply Eq.symm
    apply List.eq_nil_iff_forall_not_mem.mpr
    intro p member
    exact List.not_mem_nil ((mem_iff_of_places same).mpr member)
  | cons p points ih =>
    cases points' with
    | nil => cases (mem_iff_of_places same).mp List.mem_cons_self
    | cons q points' =>
      obtain ⟨first, later⟩ := List.pairwise_cons.mp inOrder
      obtain ⟨first', later'⟩ := List.pairwise_cons.mp inOrder'
      -- Either head is among the other points or is their head, so neither comes after the other.
      have place : p.place = q.place := by
        rcases List.mem_cons.mp ((mem_iff_of_places same).mp List.mem_cons_self) with equal | among
        · rw [equal]
        · rcases List.mem_cons.mp ((mem_iff_of_places same).mpr List.mem_cons_self) with
            equal | among'
          · rw [equal]
          · exact place_eq_of_inOrder (first q among') (first' p among)
      have heads := same p.place
      rw [List.filter_cons_of_pos (by simp), List.filter_cons_of_pos (by simp [place])] at heads
      obtain ⟨rfl, -⟩ := List.cons.inj heads
      apply congrArg (p :: ·)
      apply ih later later'
      intro a
      have all := same a
      rw [List.filter_cons, List.filter_cons] at all
      split at all
      · exact (List.cons.inj all).2
      · exact all

theorem sortPoints_perm (ascending : Bool) (points : List Point) :
    (sortPoints ascending points).Perm points :=
  List.mergeSort_perm ..

theorem pairwise_sortPoints (ascending : Bool) (points : List Point) :
    (sortPoints ascending points).Pairwise (InOrder ascending) :=
  pairwise_mergeSort ascending points

theorem filter_sortPoints (ascending : Bool) (points : List Point) (a : Int64 × String) :
    (sortPoints ascending points).filter (·.place = a) = points.filter (·.place = a) := by
  apply filter_mergeSort
  · intro p q r before after
    exact inOrder_iff.mpr ((inOrder_iff.mp before).trans (inOrder_iff.mp after))
  · intro p q
    rw [Bool.or_eq_true, inOrder_iff, inOrder_iff]
    exact inOrder_total ascending p q
  · intro p q here here'
    simp only [decide_eq_true_eq] at here here'
    exact inOrder_iff.mpr (inOrder_of_place (here.trans here'.symm))

theorem eq_sortPoints (inOrder : points.Pairwise (InOrder ascending))
    (same : ∀ a, points.filter (·.place = a) = points'.filter (·.place = a)) :
    points = sortPoints ascending points' := by
  apply eq_of_places inOrder (pairwise_sortPoints ascending points')
  intro a
  rw [filter_sortPoints, same]

/-- Sorting some parts first makes no difference. -/
theorem sortPoints_flatMap (ascending : Bool) (parts : List (List Point)) :
    sortPoints ascending (parts.flatMap (sortPoints ascending)) =
      sortPoints ascending parts.flatten := by
  apply eq_sortPoints (pairwise_sortPoints ascending _)
  intro a
  rw [filter_sortPoints, List.filter_flatMap, List.filter_flatten, ← List.flatMap_def]
  simp only [filter_sortPoints]

theorem filter_sortPoints_comm (ascending : Bool) (points : List Point) (keep : Point → Bool) :
    (sortPoints ascending points).filter keep = sortPoints ascending (points.filter keep) := by
  apply eq_sortPoints ((pairwise_sortPoints ascending points).filter keep)
  intro a
  rw [List.filter_filter, List.filter_congr fun p _ => Bool.and_comm .., ← List.filter_filter,
    filter_sortPoints, List.filter_filter, List.filter_filter]
  exact List.filter_congr fun p _ => Bool.and_comm ..

end Places

namespace PointStream

variable {ascending : Bool} {ls : List (List Point)} {out : List Tagged}

theorem filter_flatten_of_first (ordered : ∀ l ∈ ls, l.Pairwise (InOrder ascending)) {i : Nat}
    {p : Point} {rest : List Point}
    (first : Merge.least ascending (ls.map List.head?) = some (i, p))
    (here : ls[i]? = some (p :: rest)) (a : Int64 × String) :
    ls.flatten.filter (·.place = a) =
      (p :: (ls.set i rest).flatten).filter (·.place = a) := by
  -- A point at the place of `p` in an earlier list would have been taken before it.
  have earlier : ∀ j < i, ∀ l, ls[j]? = some l → ∀ q ∈ l, q.place ≠ p.place := by
    intro j before l found q member same
    obtain ⟨r, l, rfl⟩ := List.exists_cons_of_ne_nil (List.ne_nil_of_mem member)
    have next : Precedes ascending (i, p) (j, r) :=
      precedes_of_least first (by rw [List.getElem?_map, found]; rfl)
    have less : pointOrder ascending p r = .lt := by
      rcases next with less | ⟨-, place⟩
      · exact less
      · omega
    have own : InOrder ascending r q := by
      rcases List.mem_cons.mp member with rfl | later
      · exact inOrder_of_place rfl
      · exact List.rel_of_pairwise_cons (ordered _ (List.mem_of_getElem? found)) later
    have above := Std.TransCmp.lt_of_lt_of_isLE less own
    rw [pointOrder_eq_iff.mpr same.symm] at above
    cases above
  clear first
  induction ls generalizing i with
  | nil => cases here
  | cons l ls ih =>
    cases i with
    | zero =>
      cases here
      rfl
    | succ i =>
      have later := ih (fun l member => ordered l (List.mem_cons_of_mem _ member)) here
        (fun j before => earlier (j + 1) (by omega))
      rw [List.flatten_cons, List.filter_append, later, List.set_cons_succ, List.flatten_cons]
      by_cases same : p.place = a
      · have none : l.filter (·.place = a) = [] := by
          apply List.filter_eq_nil_iff.mpr
          intro q member
          simpa [same] using earlier 0 (by omega) l rfl q member
        rw [List.filter_cons_of_pos (by simpa using same),
          List.filter_cons_of_pos (by simpa using same), List.filter_append, none]
        rfl
      · rw [List.filter_cons_of_neg (by simpa using same),
          List.filter_cons_of_neg (by simpa using same), List.filter_append]

theorem Merging.filter_place (run : Merging ascending ls out)
    (ordered : ∀ l ∈ ls, l.Pairwise (InOrder ascending)) (a : Int64 × String) :
    (out.map (·.2)).filter (·.place = a) = ls.flatten.filter (·.place = a) := by
  induction run with
  | done empty =>
    have none := (Merging.done empty).perm
    rw [List.perm_nil.mp none.symm]
    rfl
  | @take ls i p rest out first here later ih =>
    have remain : ∀ l ∈ ls.set i rest, l.Pairwise (InOrder ascending) := by
      intro l member
      rcases List.mem_or_eq_of_mem_set member with member | rfl
      · exact ordered l member
      · exact (List.pairwise_cons.mp (ordered _ (List.mem_of_getElem? here))).2
    rw [filter_flatten_of_first ordered first here, List.map_cons, List.filter_cons, ih remain,
      List.filter_cons]

theorem Merging.eq_sortPoints (run : Merging ascending ls out)
    (ordered : ∀ l ∈ ls, l.Pairwise (InOrder ascending)) :
    out.map (·.2) = sortPoints ascending ls.flatten := by
  have inOrder : (out.map (·.2)).Pairwise (InOrder ascending) :=
    List.pairwise_map.mpr ((run.precedes ordered).imp fun first => first.inOrder)
  exact SeriesCluster.eq_sortPoints inOrder (run.filter_place ordered)

/-- The first points of a merge depend on as many first points of its inputs. -/
theorem Merging.take_eq {ls' : List (List Point)} {out' : List Tagged} {k : Nat}
    (run : Merging ascending ls out) (run' : Merging ascending ls' out')
    (same : ls.map (List.take k) = ls'.map (List.take k)) : out.take k = out'.take k := by
  induction k generalizing ls ls' out out' with
  | zero => rw [List.take_zero, List.take_zero]
  | succ k ih =>
    have heads : ls.map List.head? = ls'.map List.head? := by
      have agree := congrArg (List.map List.head?) same
      simpa [Function.comp_def, List.head?_take] using agree
    have fewer : ls.map (List.take k) = ls'.map (List.take k) := by
      have agree := congrArg (List.map (List.take k)) same
      simpa [Function.comp_def, List.take_take] using agree
    cases run with
    | done empty =>
      rw [heads] at empty
      cases run' with
      | done => rfl
      | take first' =>
        rw [empty] at first'
        cases first'
    | @take _ i p rest _ first here later =>
      rw [heads] at first
      cases run' with
      | done empty =>
        rw [empty] at first
        cases first
      | @take _ _ _ rest' _ first' here' later' =>
        rw [first] at first'
        cases first'
        have rests : rest.take k = rest'.take k := by
          have agree := congrArg (·[i]?) same
          simpa [here, here'] using agree
        rw [List.take_succ_cons, List.take_succ_cons, ih later later']
        rw [List.map_set, List.map_set, fewer, rests]

theorem take_sortPoints_flatMap (ordered : ∀ l ∈ ls, l.Pairwise (InOrder ascending)) (k : Nat) :
    (sortPoints ascending (ls.flatMap (List.take k))).take k =
      (sortPoints ascending ls.flatten).take k := by
  have ordered' : ∀ l ∈ ls.map (List.take k), l.Pairwise (InOrder ascending) := by
    intro l member
    obtain ⟨l, among, rfl⟩ := List.mem_map.mp member
    exact (ordered l among).sublist (List.take_sublist k l)
  obtain ⟨out, run⟩ := exists_merging ascending ls
  obtain ⟨out', run'⟩ := exists_merging ascending (ls.map (List.take k))
  have first := run'.take_eq run (k := k) (by simp [Function.comp_def, List.take_take])
  rw [List.flatMap_def, ← run.eq_sortPoints ordered, ← run'.eq_sortPoints ordered',
    ← List.map_take, ← List.map_take, first]

end PointStream

end SeriesCluster
