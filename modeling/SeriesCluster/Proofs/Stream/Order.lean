import SeriesCluster.Stream.Basic

namespace SeriesCluster

def Point.place (p : Point) : Int64 × String := (p.time, p.seriesKey)

def timeOrder (ascending : Bool) (t u : Int64) : Ordering :=
  if ascending then compare t u else compare u t

def placeOrder (ascending : Bool) (a b : Int64 × String) : Ordering :=
  (timeOrder ascending a.1 b.1).then (compare a.2 b.2)

/-- One point does not come after another in a direction of time. -/
def InTime (ascending : Bool) (p q : Point) : Prop :=
  if ascending then p.time ≤ q.time else q.time ≤ p.time

/-- One point does not come after another in the order of a read. -/
def InOrder (ascending : Bool) (p q : Point) : Prop := (pointOrder ascending p q).isLE

section Order

variable {ascending : Bool} {p q r : Point}

instance : Decidable (InTime ascending p q) :=
  inferInstanceAs (Decidable (if ascending then p.time ≤ q.time else q.time ≤ p.time))

instance : Decidable (InOrder ascending p q) :=
  inferInstanceAs (Decidable ((pointOrder ascending p q).isLE = true))

theorem pointOrder_eq (p q : Point) :
    pointOrder ascending p q = placeOrder ascending p.place q.place := rfl

instance : Std.TransCmp (timeOrder ascending) where
  eq_swap := by
    cases ascending with
    | true => exact Std.OrientedOrd.eq_swap
    | false => exact Std.OrientedOrd.eq_swap
  isLE_trans before after := by
    cases ascending with
    | true => exact Std.TransOrd.isLE_trans before after
    | false => exact Std.TransOrd.isLE_trans after before

instance : Std.LawfulEqCmp (timeOrder ascending) where
  compare_self := by
    cases ascending with
    | true => exact Std.ReflOrd.compare_self
    | false => exact Std.ReflOrd.compare_self
  eq_of_compare same := by
    cases ascending with
    | true => exact Std.LawfulEqOrd.eq_of_compare same
    | false => exact (Std.LawfulEqOrd.eq_of_compare same).symm

instance : Std.TransCmp (placeOrder ascending) := by
  have time : Std.TransCmp fun a b : Int64 × String => timeOrder ascending a.1 b.1 :=
    { eq_swap := Std.OrientedCmp.eq_swap, isLE_trans := Std.TransCmp.isLE_trans }
  have both : Std.TransCmp (compareLex
      (fun a b : Int64 × String => timeOrder ascending a.1 b.1) (compareOn Prod.snd)) :=
    inferInstance
  exact both

instance : Std.LawfulEqCmp (placeOrder ascending) where
  compare_self := Std.ReflCmp.compare_self
  eq_of_compare same := by
    obtain ⟨time, series⟩ := Ordering.then_eq_eq.mp same
    exact Prod.ext (Std.LawfulEqCmp.eq_of_compare time) (Std.LawfulEqCmp.eq_of_compare series)

instance : Std.TransCmp (pointOrder ascending) where
  eq_swap {p q} := by
    rw [pointOrder_eq, pointOrder_eq]
    exact Std.OrientedCmp.eq_swap
  isLE_trans {p q r} before after := by
    rw [pointOrder_eq] at before after ⊢
    exact Std.TransCmp.isLE_trans before after

theorem inTime_iff : InTime ascending p q ↔ (timeOrder ascending p.time q.time).isLE := by
  cases ascending with
  | true => exact Std.isLE_compare.symm
  | false => exact Std.isLE_compare.symm

theorem InTime.trans (before : InTime ascending p q) (after : InTime ascending q r) :
    InTime ascending p r :=
  inTime_iff.mpr (Std.TransCmp.isLE_trans (inTime_iff.mp before) (inTime_iff.mp after))

theorem InOrder.trans (before : InOrder ascending p q) (after : InOrder ascending q r) :
    InOrder ascending p r :=
  Std.TransCmp.isLE_trans before after

theorem InOrder.inTime (before : InOrder ascending p q) : InTime ascending p q :=
  inTime_iff.mpr (Ordering.isLE_left_of_isLE_then before)

theorem inOrder_iff : (pointOrder ascending p q != .gt) = true ↔ InOrder ascending p q := by
  rw [InOrder]
  cases pointOrder ascending p q with
  | lt => decide
  | eq => decide
  | gt => decide

theorem inOrder_total (ascending : Bool) (p q : Point) :
    InOrder ascending p q ∨ InOrder ascending q p := by
  have swapped : pointOrder ascending p q = (pointOrder ascending q p).swap := Std.OrientedCmp.eq_swap
  rw [InOrder, InOrder, swapped]
  cases pointOrder ascending q p with
  | lt => exact .inr rfl
  | eq => exact .inr rfl
  | gt => exact .inl rfl

theorem pairwise_mergeSort (ascending : Bool) (points : List Point) :
    (points.mergeSort fun p q => pointOrder ascending p q != .gt).Pairwise (InOrder ascending) := by
  refine (List.pairwise_mergeSort (fun p q r before after => ?_) (fun p q => ?_) points).imp
    inOrder_iff.mp
  · exact inOrder_iff.mpr ((inOrder_iff.mp before).trans (inOrder_iff.mp after))
  · rw [Bool.or_eq_true, inOrder_iff, inOrder_iff]
    exact inOrder_total ascending p q

theorem map_place_eq {points points' : List Point} (same : points.Perm points')
    (inOrder : points.Pairwise (InOrder ascending))
    (inOrder' : points'.Pairwise (InOrder ascending)) :
    points.map Point.place = points'.map Point.place := by
  have antisymm (a b : Int64 × String) (before : (placeOrder ascending a b).isLE)
      (after : (placeOrder ascending b a).isLE) : a = b :=
    Std.LawfulEqCmp.eq_of_compare (Std.OrientedCmp.isLE_antisymm before after)
  refine List.Perm.eq_of_pairwise (fun a b _ _ => antisymm a b) ?_ ?_ (same.map _)
  · exact List.pairwise_map.mpr inOrder
  · exact List.pairwise_map.mpr inOrder'

end Order

end SeriesCluster
