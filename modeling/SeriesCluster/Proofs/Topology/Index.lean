import SeriesCluster.Proofs.Topology.Accepted

namespace SeriesCluster.Topology

def KeepsIndex (t : Topology) (result : Except Error Topology) : Prop :=
  ∀ t', result = .ok t' → t'.index = t.index

variable {t t' : Topology}

theorem Accepted.index {c : Command} (accepted : Accepted t c t') : t'.index = t.index := by
  induction accepted with
  | firstMetaNodeSet empty created ih => exact ih
  | _ => rfl

theorem keepsIndex_perform (t : Topology) (c : Command) : KeepsIndex t (t.perform c) :=
  fun _ performed => (accepted_of_perform performed).index

theorem index_of_apply {c : Command} (applied : t.apply c = .ok t') :
    t'.index = t.index + 1 := by
  unfold apply at applied
  cases performed : t.perform c with
  | error e =>
    rw [performed] at applied
    cases applied
  | ok s =>
    rw [performed] at applied
    cases applied
    have same : s.index = t.index := t.keepsIndex_perform c s performed
    exact congrArg (· + 1) same

def countAccepted (t : Topology) : List Command → Nat
  | [] => 0
  | c :: rest =>
    match t.apply c with
    | .ok t' => countAccepted t' rest + 1
    | .error _ => countAccepted t rest

theorem index_applyAll (t : Topology) (commands : List Command) :
    (t.applyAll commands).index = t.index + UInt64.ofNat (t.countAccepted commands) := by
  induction commands generalizing t with
  | nil => exact (UInt64.add_zero t.index).symm
  | cons c commands ih =>
    rw [applyAll, List.foldl_cons, countAccepted]
    cases applied : t.apply c with
    | error e => exact ih t
    | ok t' =>
      have later := ih t'
      rw [index_of_apply applied] at later
      rw [UInt64.ofNat_add, UInt64.add_comm (UInt64.ofNat _), ← UInt64.add_assoc]
      exact later

theorem applyAll_append (t : Topology) (first later : List Command) :
    t.applyAll (first ++ later) = (t.applyAll first).applyAll later :=
  List.foldl_append

end SeriesCluster.Topology
