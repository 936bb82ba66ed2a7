import Mathlib.Data.List.Perm.Basic
import SeriesCluster.Proofs.Stream.Gives
import SeriesCluster.Proofs.Stream.Order

/-!
A merge of streams gives the points of all its inputs, in their order. Main statement:
`merge_ordered`. The points are told apart by the positions of their inputs. A run of the merge is
described on what its inputs still give (`Merging`); that the streams follow it is one thing
(`Merging.yields`), and what such a run comes to another.
-/

namespace SeriesCluster.PointStream

open Merge

def Yields (s : PointStream) (points : List Point) : Prop := ∃ last, Gives s points none last

abbrev Tagged := Nat × Point

/-- A merge gives one point before another: it comes first in the order of a read or, if neither
does, its input is not a later one. -/
def Precedes (ascending : Bool) (a b : Tagged) : Prop :=
  pointOrder ascending a.2 b.2 = .lt ∨ pointOrder ascending a.2 b.2 = .eq ∧ a.1 ≤ b.1

section Least

variable {ascending : Bool} {heads : List (Option Point)} {a : Tagged}

theorem precedes_self (a : Tagged) : Precedes ascending a a :=
  .inr ⟨Std.ReflCmp.compare_self, Nat.le_refl _⟩

theorem Precedes.inOrder {b : Tagged} (first : Precedes ascending a b) :
    InOrder ascending a.2 b.2 := by
  rcases first with before | ⟨same, -⟩
  · rw [InOrder, before]
    rfl
  · rw [InOrder, same]
    rfl

theorem InOrder.precedes {b : Tagged} (before : InOrder ascending a.2 b.2) (place : a.1 ≤ b.1) :
    Precedes ascending a b := by
  rcases Ordering.isLE_iff_eq_lt_or_eq_eq.mp before with less | same
  · exact .inl less
  · exact .inr ⟨same, place⟩

theorem Precedes.succ {i j : Nat} {p q : Point} (first : Precedes ascending (i, p) (j, q)) :
    Precedes ascending (i + 1, p) (j + 1, q) := by
  rcases first with before | ⟨same, place⟩
  · exact .inl before
  · exact .inr ⟨same, Nat.succ_le_succ place⟩

theorem eq_none_of_least (empty : least ascending heads = none) {j : Nat} {head : Option Point}
    (there : heads[j]? = some head) : head = none := by
  induction heads generalizing j with
  | nil => cases there
  | cons first heads ih =>
    cases first with
    | none =>
      cases j with
      | zero => exact (Option.some.inj there).symm
      | succ j => exact ih (Option.map_eq_none_iff.mp empty) there
    | some p =>
      rw [least] at empty
      split at empty
      · split at empty <;> cases empty
      · cases empty

theorem precedes_of_least (found : least ascending heads = some a) {j : Nat} {q : Point}
    (there : heads[j]? = some (some q)) : Precedes ascending a (j, q) := by
  induction heads generalizing a j with
  | nil => cases found
  | cons head heads ih =>
    cases head with
    | none =>
      obtain ⟨⟨i, p⟩, later, rfl⟩ := Option.map_eq_some_iff.mp found
      cases j with
      | zero => cases there
      | succ j => exact (ih later there).succ
    | some p =>
      rw [least] at found
      split at found
      · rename_i i r later
        split at found
        · rename_i less
          cases found
          cases j with
          | zero =>
            cases there
            exact .inl less
          | succ j => exact (ih later there).succ
        · rename_i notLess
          cases found
          cases j with
          | zero =>
            cases there
            exact precedes_self _
          | succ j =>
            have here : InOrder ascending p r := Std.OrientedCmp.isGE_iff_isLE.mp
              (Ordering.isGE_iff_ne_lt.mpr notLess)
            exact InOrder.precedes (here.trans (ih later there).inOrder) (Nat.zero_le _)
      · rename_i empty
        cases found
        cases j with
        | zero =>
          cases there
          exact precedes_self _
        | succ j => cases eq_none_of_least empty there

end Least

/-- The run of a merge: while an input gives something, the first of the next points is given. -/
inductive Merging (ascending : Bool) : List (List Point) → List Tagged → Prop
  | done {ls : List (List Point)} (empty : least ascending (ls.map List.head?) = none) :
    Merging ascending ls []
  | take {ls : List (List Point)} {i : Nat} {p : Point} {rest : List Point} {out : List Tagged}
    (first : least ascending (ls.map List.head?) = some (i, p)) (here : ls[i]? = some (p :: rest))
    (later : Merging ascending (ls.set i rest) out) : Merging ascending ls ((i, p) :: out)

section Run

variable {ascending : Bool} {ls : List (List Point)} {out : List Tagged}

theorem flatten_set_perm {i : Nat} {p : Point} {rest : List Point}
    (here : ls[i]? = some (p :: rest)) : ls.flatten.Perm (p :: (ls.set i rest).flatten) := by
  induction ls generalizing i with
  | nil => cases here
  | cons l ls ih =>
    cases i with
    | zero =>
      cases here
      exact .refl _
    | succ i => exact ((ih here).append_left l).trans List.perm_middle

theorem exists_of_least {i : Nat} {p : Point}
    (first : least ascending (ls.map List.head?) = some (i, p)) :
    ∃ rest, ls[i]? = some (p :: rest) := by
  have here := getElem?_of_least first
  rw [List.getElem?_map] at here
  obtain ⟨l, found, head⟩ := Option.map_eq_some_iff.mp here
  obtain ⟨rest, rfl⟩ := List.head?_eq_some_iff.mp head
  exact ⟨rest, found⟩

theorem exists_merging (ascending : Bool) (ls : List (List Point)) :
    ∃ out, Merging ascending ls out := by
  rcases first : least ascending (ls.map List.head?) with _ | ⟨i, p⟩
  · exact ⟨[], .done first⟩
  · obtain ⟨rest, here⟩ := exists_of_least first
    have shorter : (ls.set i rest).flatten.length < ls.flatten.length := by
      rw [(flatten_set_perm here).length_eq]
      exact Nat.lt_succ_self _
    obtain ⟨out, later⟩ := exists_merging ascending (ls.set i rest)
    exact ⟨(i, p) :: out, .take first here later⟩
termination_by ls.flatten.length
decreasing_by exact shorter

namespace Merging

theorem perm (run : Merging ascending ls out) : (out.map (·.2)).Perm ls.flatten := by
  induction run with
  | @done ls empty =>
    have nothing : ∀ l ∈ ls, l = [] := fun l member => by
      obtain ⟨j, found⟩ := List.getElem?_of_mem member
      exact List.head?_eq_none_iff.mp
        (eq_none_of_least empty (by rw [List.getElem?_map, found, Option.map_some]))
    rw [List.flatten_eq_nil_iff.mpr nothing]
    exact .refl _
  | take first here later ih => exact (ih.cons _).trans (flatten_set_perm here).symm

theorem own (run : Merging ascending ls out) (j : Nat) :
    (out.filter (·.1 = j)).map (·.2) = ls[j]?.getD [] := by
  induction run with
  | @done ls empty =>
    cases found : ls[j]? with
    | none => rfl
    | some l =>
      have head := eq_none_of_least empty (by rw [List.getElem?_map, found, Option.map_some])
      rw [List.head?_eq_none_iff.mp head]
      rfl
  | @take ls i p rest out first here later ih =>
    by_cases same : i = j
    · subst same
      rw [List.filter_cons_of_pos (by simp), List.map_cons, ih, here]
      rw [List.getElem?_set_self (List.getElem?_eq_some_iff.mp here).1]
      rfl
    · rw [List.filter_cons_of_neg (by simpa using same), ih, List.getElem?_set_ne same]

theorem exists_of_mem (run : Merging ascending ls out) {a : Tagged} (member : a ∈ out) :
    ∃ l, ls[a.1]? = some l ∧ a.2 ∈ l := by
  have given : a.2 ∈ (out.filter (·.1 = a.1)).map (·.2) :=
    List.mem_map_of_mem (List.mem_filter.mpr ⟨member, by simp⟩)
  rw [run.own] at given
  cases found : ls[a.1]? with
  | none =>
    rw [found] at given
    cases given
  | some l =>
    rw [found] at given
    exact ⟨l, rfl, given⟩

/-- What holds between a point and the first ones of all inputs, and so between it and all that
come after those in their inputs, holds along a run. -/
theorem pairwise {R : Tagged → Tagged → Prop} {S : Point → Point → Prop}
    (first_of : ∀ a b, Precedes ascending a b → R a b)
    (extend : ∀ a b q, Precedes ascending a b → S b.2 q → R a (b.1, q))
    (run : Merging ascending ls out) (inputs : ∀ l ∈ ls, l.Pairwise S) : out.Pairwise R := by
  induction run with
  | done empty => exact .nil
  | @take ls i p rest out first here later ih =>
    have whole : (p :: rest).Pairwise S := inputs _ (List.mem_of_getElem? here)
    obtain ⟨before, ordered⟩ := List.pairwise_cons.mp whole
    refine List.pairwise_cons.mpr ⟨?_, ih fun l member => ?_⟩
    · rintro ⟨j, q⟩ member
      obtain ⟨l, found, among⟩ := later.exists_of_mem member
      by_cases same : i = j
      · subst same
        rw [List.getElem?_set_self (List.getElem?_eq_some_iff.mp here).1] at found
        cases found
        exact extend _ (i, p) q (precedes_self _) (before q among)
      · rw [List.getElem?_set_ne same] at found
        obtain ⟨r, l, rfl⟩ := List.exists_cons_of_ne_nil (List.ne_nil_of_mem among)
        have next : Precedes ascending (i, p) (j, r) :=
          precedes_of_least first (by rw [List.getElem?_map, found]; rfl)
        rcases List.mem_cons.mp among with rfl | among
        · exact first_of _ _ next
        · have own := inputs _ (List.mem_of_getElem? found)
          exact extend _ (j, r) q next (List.rel_of_pairwise_cons own among)
    · rcases List.mem_or_eq_of_mem_set member with member | rfl
      · exact inputs l member
      · exact ordered

theorem inTime (run : Merging ascending ls out)
    (inputs : ∀ l ∈ ls, l.Pairwise (InTime ascending)) :
    out.Pairwise fun a b => InTime ascending a.2 b.2 :=
  run.pairwise (fun _ _ first => first.inOrder.inTime)
    (fun _ _ _ first after => first.inOrder.inTime.trans after) inputs

theorem precedes (run : Merging ascending ls out)
    (inputs : ∀ l ∈ ls, l.Pairwise (InOrder ascending)) : out.Pairwise (Precedes ascending) := by
  refine run.pairwise (fun _ _ first => first) (fun a b q first after => ?_) inputs
  rcases first with before | ⟨same, place⟩
  · exact .inl (Std.TransCmp.lt_of_lt_of_isLE before after)
  · have inOrder : InOrder ascending a.2 q := by
      rw [InOrder, Std.TransCmp.congr_left same]
      exact after
    exact InOrder.precedes inOrder place

end Merging

end Run

inductive Ahead : List PointStream → List (Option Point) → List (List Point) → Prop
  | nil : Ahead [] [] []
  | ended {s : PointStream} {inputs : List PointStream} {heads : List (Option Point)}
    {ls : List (List Point)} (others : Ahead inputs heads ls) :
    Ahead (s :: inputs) (none :: heads) ([] :: ls)
  | held {s : PointStream} {p : Point} {rest : List Point} {inputs : List PointStream}
    {heads : List (Option Point)} {ls : List (List Point)} (yields : Yields s rest)
    (others : Ahead inputs heads ls) :
    Ahead (s :: inputs) (some p :: heads) ((p :: rest) :: ls)

section Streams

variable {inputs : List PointStream} {heads : List (Option Point)} {ls : List (List Point)}

theorem Ahead.heads_eq (ahead : Ahead inputs heads ls) : heads = ls.map List.head? := by
  induction ahead with
  | nil => rfl
  | ended others ih => rw [ih]; rfl
  | held yields others ih => rw [ih]; rfl

theorem ahead_of_pulled {s : PointStream} {points : List Point} (yields : Yields s points)
    (others : Ahead inputs heads ls) :
    ∃ t, s.next = (.ok points.head?, t) ∧
      Ahead (t :: inputs) (points.head? :: heads) (points :: ls) := by
  obtain ⟨last, u, leads, ends⟩ := yields
  cases leads with
  | here => exact ⟨last, ends, .ended others⟩
  | @point _ t _ p rest pulled later => exact ⟨t, pulled, .held ⟨last, u, later, ends⟩ others⟩

theorem prime_eq (yields : List.Forall₂ Yields inputs ls) (same : heads.length = inputs.length) :
    ∃ inputs', prime next inputs heads = (none, inputs', ls.map List.head?) ∧
      Ahead inputs' (ls.map List.head?) ls := by
  induction yields generalizing heads with
  | nil =>
    cases List.length_eq_zero_iff.mp same
    exact ⟨[], rfl, .nil⟩
  | @cons s points inputs ls here later ih =>
    obtain ⟨head, heads, rfl⟩ := List.exists_cons_of_length_eq_add_one same
    obtain ⟨inputs', primed, others⟩ := ih (Nat.succ.inj same)
    obtain ⟨t, pulled, ahead⟩ := ahead_of_pulled here others
    refine ⟨t :: inputs', ?_, ahead⟩
    rw [prime, pulled]
    simp only [primed, List.map_cons]

theorem pullAt_eq (ahead : Ahead inputs heads ls) {i : Nat} {p : Point} {rest : List Point}
    (here : ls[i]? = some (p :: rest)) :
    ∃ inputs', pullAt next i inputs = (.ok rest.head?, inputs') ∧
      Ahead inputs' (heads.set i rest.head?) (ls.set i rest) := by
  induction ahead generalizing i with
  | nil => cases here
  | @ended s inputs heads ls others ih =>
    cases i with
    | zero => cases here
    | succ i =>
      obtain ⟨inputs', pulled, ahead⟩ := ih here
      refine ⟨s :: inputs', ?_, .ended ahead⟩
      rw [pullAt, pulled]
  | @held s q r inputs heads ls yields others ih =>
    cases i with
    | zero =>
      cases here
      obtain ⟨t, pulled, ahead⟩ := ahead_of_pulled yields others
      refine ⟨t :: inputs, ?_, ahead⟩
      rw [pullAt, pulled]
    | succ i =>
      obtain ⟨inputs', pulled, ahead⟩ := ih here
      refine ⟨s :: inputs', ?_, .held yields ahead⟩
      rw [pullAt, pulled]

theorem Merging.yields {ascending : Bool} {out : List Tagged} (run : Merging ascending ls out)
    (ahead : Ahead inputs heads ls) :
    Yields (.merged ascending true inputs heads) (out.map (·.2)) := by
  induction run generalizing inputs heads with
  | done empty =>
    refine ⟨.merged ascending true inputs heads, .merged ascending true inputs heads, .here _, ?_⟩
    rw [next_merged, advance, ahead.heads_eq, empty]
    rfl
  | @take ls i p rest out first here later ih =>
    obtain ⟨inputs', pulled, ahead'⟩ := pullAt_eq ahead here
    obtain ⟨last, u, leads, ends⟩ := ih ahead'
    refine ⟨last, u, .point ?_ leads, ends⟩
    rw [next_merged, advance, ahead.heads_eq, first]
    simp only [pulled]

theorem yields_merge {ascending : Bool} {out : List Tagged} (run : Merging ascending ls out)
    (yields : List.Forall₂ Yields inputs ls) : Yields (merge ascending inputs) (out.map (·.2)) := by
  obtain ⟨inputs', primed, ahead⟩ := prime_eq yields (List.length_map fun _ => none)
  obtain ⟨last, u, leads, ends⟩ := run.yields ahead
  -- The first pull goes through the inputs and then does what every later pull does.
  have same : (merge ascending inputs).next =
      (merged ascending true inputs' (ls.map List.head?)).next := by
    rw [merge, next_unprimed, next_merged, primed]
  generalize out.map (·.2) = points at leads ⊢
  cases leads with
  | here => exact ⟨last, _, .here _, same.trans ends⟩
  | point pulled later => exact ⟨last, u, .point (same.trans pulled) later, ends⟩

end Streams

theorem Precedes.le_of_place {ascending : Bool} {a b : Tagged} (first : Precedes ascending a b)
    (same : a.2.place = b.2.place) : a.1 ≤ b.1 := by
  rcases first with before | ⟨-, place⟩
  · have self : placeOrder ascending b.2.place b.2.place = .eq := Std.ReflCmp.compare_self
    rw [pointOrder_eq, same, self] at before
    cases before
  · exact place

theorem exists_yields_of_perm {inputs inputs' : List PointStream} {lists : List (List Point)}
    (same : inputs'.Perm inputs) (yields : List.Forall₂ Yields inputs lists) :
    ∃ lists', List.Forall₂ Yields inputs' lists' ∧ lists'.Perm lists :=
  List.perm_comp_forall₂ same yields

theorem yields_ofPoints (points : List Point) (stats : ReadStats) :
    Yields (ofPoints points stats) points :=
  ⟨_, gives_ofPoints points stats⟩

theorem merge_ordered (ascending : Bool) {inputs : List PointStream} {lists : List (List Point)}
    (yields : List.Forall₂ Yields inputs lists)
    (inTime : ∀ l ∈ lists, l.Pairwise (InTime ascending)) :
    ∃ (out : List Tagged) (last : PointStream),
      (∀ limit, out.length < limit → (merge ascending inputs).drain limit =
        (out.map (fun a => .ok (some a.2)) ++ [.ok none], last)) ∧
      (out.map (·.2)).Perm lists.flatten ∧
      (∀ i, (out.filter (·.1 = i)).map (·.2) = lists[i]?.getD []) ∧
      out.Pairwise (fun a b => InTime ascending a.2 b.2) ∧
      ((∀ l ∈ lists, l.Pairwise (InOrder ascending)) →
        out.Pairwise (fun a b => InOrder ascending a.2 b.2) ∧
        out.Pairwise (fun a b => a.2.place = b.2.place → a.1 ≤ b.1) ∧
        ∀ inputs', inputs'.Perm inputs → ∃ points, Yields (merge ascending inputs') points ∧
          points.map Point.place = out.map (·.2.place)) := by
  obtain ⟨out, run⟩ := exists_merging ascending lists
  obtain ⟨last, gives⟩ := yields_merge run yields
  have drained (limit : Nat) (enough : out.length < limit) :
      (merge ascending inputs).drain limit =
        (out.map (fun a => .ok (some a.2)) ++ [.ok none], last) := by
    rw [gives.drain_eq (by rwa [List.length_map]), List.map_map]
    rfl
  refine ⟨out, last, drained, run.perm, run.own, run.inTime inTime, fun inOrder => ?_⟩
  have precedes := run.precedes inOrder
  have ordered : out.Pairwise fun a b => InOrder ascending a.2 b.2 :=
    precedes.imp fun first => first.inOrder
  refine ⟨ordered, precedes.imp fun first => first.le_of_place, fun inputs' same => ?_⟩
  obtain ⟨lists', yields', permuted⟩ := exists_yields_of_perm same yields
  obtain ⟨out', run'⟩ := exists_merging ascending lists'
  have ordered' : out'.Pairwise fun a b => InOrder ascending a.2 b.2 :=
    (run'.precedes fun l member => inOrder l (permuted.mem_iff.mp member)).imp
      fun first => first.inOrder
  have samePoints : (out'.map (·.2)).Perm (out.map (·.2)) :=
    run'.perm.trans (permuted.flatten.trans run.perm.symm)
  refine ⟨out'.map (·.2), yields_merge run' yields', ?_⟩
  rw [map_place_eq samePoints (List.pairwise_map.mpr ordered') (List.pairwise_map.mpr ordered),
    List.map_map]
  rfl

def cpuAt (time : Int64) : Point := { name := "cpu", time := time }

def threeLists : List (List Point) :=
  [[cpuAt 1, cpuAt 4, cpuAt 9], [cpuAt 2, cpuAt 3], []]

theorem merge_ordered_threeLists :
    List.Forall₂ Yields (threeLists.map fun l => ofPoints l {}) threeLists ∧
      (∀ l ∈ threeLists, l.Pairwise (InTime true)) ∧
      ∃ (out : List Tagged) (last : PointStream),
        (∀ limit, out.length < limit →
          (merge true (threeLists.map fun l => ofPoints l {})).drain limit =
            (out.map (fun a => .ok (some a.2)) ++ [.ok none], last)) ∧
        (out.map (·.2)).Perm threeLists.flatten ∧
        out.Pairwise fun a b => InTime true a.2 b.2 := by
  have yields : List.Forall₂ Yields (threeLists.map fun l => ofPoints l {}) threeLists :=
    .cons (yields_ofPoints _ _) (.cons (yields_ofPoints _ _) (.cons (yields_ofPoints _ _) .nil))
  have inTime : ∀ l ∈ threeLists, l.Pairwise (InTime true) := by decide
  obtain ⟨out, last, drained, permuted, -, ordered, -⟩ := merge_ordered true yields inTime
  exact ⟨yields, inTime, out, last, drained, permuted, ordered⟩

end SeriesCluster.PointStream
