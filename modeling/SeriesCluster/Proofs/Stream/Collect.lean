import SeriesCluster.Proofs.Stream.Merge
import SeriesCluster.Proofs.Stream.Remote

namespace SeriesCluster.PointStream

open SeriesCluster.Frame RemoteStream

/-- What closing some streams says: the first failure, if there is one. -/
def closing : List (Except Error Unit) → Except Error Unit
  | [] => .ok ()
  | .error e :: _ => .error e
  | .ok _ :: rest => closing rest

theorem close_merged (ascending primed : Bool) (inputs : List PointStream)
    (heads : List (Option Point)) :
    (merged ascending primed inputs heads).close.1 = closing (inputs.map fun s => s.close.1) := by
  simp only [close]
  induction inputs with
  | nil =>
    rw [closeAll]
    rfl
  | cons s inputs ih =>
    rw [closeAll, List.map_cons]
    rcases s.close with ⟨e | done, t⟩
    · rfl
    · exact ih

theorem close_next (s : PointStream) : s.next.2.close.1 = s.close.1 :=
  @kept_nextWithin _ (fun s => s.close.1) (fun _ => closing) close_merged
    (fun _ _ => by simp only [close]) (fun _ => by simp only [close]) s.depth s

theorem Leads.close_eq {s last : PointStream} {points : List Point} (leads : Leads s points last) :
    last.close.1 = s.close.1 := by
  induction leads with
  | here s => rfl
  | @point s rest last p points pulled later ih =>
    have same := close_next s
    rw [pulled] at same
    exact ih.trans same

theorem Gives.close_eq {s last : PointStream} {points : List Point} {fault : Option Error}
    (gives : s.Gives points fault last) : last.close.1 = s.close.1 := by
  obtain ⟨t, leads, ends⟩ := gives
  have same := close_next t
  rw [ends] at same
  exact same.trans leads.close_eq

theorem closing_ok {results : List (Except Error Unit)} (fine : ∀ r ∈ results, r = .ok ()) :
    closing results = .ok () := by
  induction results with
  | nil => rfl
  | cons r results ih =>
    rw [List.forall_mem_cons] at fine
    rw [fine.1, closing, ih fine.2]

theorem toPoints_merge_failed {ascending : Bool} {s last : PointStream} {e : Error}
    (failed : s.next = (.error e, last)) (inputs : List PointStream) :
    (merge ascending (s :: inputs)).toPoints = .error e := by
  have first : (merge ascending (s :: inputs)).next = (.error e, .merged ascending false
      (last :: inputs) (none :: inputs.map fun _ => none)) := by
    simp only [merge, List.map_cons, next_unprimed, Merge.prime, failed]
  have gives : Gives (merge ascending (s :: inputs)) [] (some e) _ := ⟨_, .here _, first⟩
  exact gives.toPoints_failed

/-- A stream gives these points, in the order of a read, and can be closed. -/
def Delivers (ascending : Bool) (s : PointStream) (points : List Point) : Prop :=
  ∃ given, Yields s given ∧ given.Perm points ∧ given.Pairwise (InOrder ascending) ∧
    s.close.1 = .ok ()

namespace Delivers

variable {ascending : Bool} {s : PointStream} {points : List Point}

theorem perm {points' : List Point} (delivers : Delivers ascending s points)
    (same : points.Perm points') : Delivers ascending s points' := by
  obtain ⟨given, yields, permuted, ordered, closed⟩ := delivers
  exact ⟨given, yields, permuted.trans same, ordered, closed⟩

theorem toPoints (delivers : Delivers ascending s points) :
    ∃ given, s.toPoints = .ok given ∧ given.Perm points ∧ given.Pairwise (InOrder ascending) := by
  obtain ⟨given, ⟨last, gives⟩, permuted, ordered, closed⟩ := delivers
  refine ⟨given, ?_, permuted, ordered⟩
  rw [gives.toPoints_eq, gives.close_eq, closed]
  rfl

theorem exists_toPoints {inputs : List PointStream} {lists : List (List Point)}
    (deliver : List.Forall₂ (Delivers ascending) inputs lists) :
    ∃ given, inputs.mapM PointStream.toPoints = .ok given ∧ given.flatten.Perm lists.flatten := by
  induction deliver with
  | nil => exact ⟨[], rfl, .refl _⟩
  | cons here later ih =>
    obtain ⟨points, drained, permuted, -⟩ := here.toPoints
    obtain ⟨given, drainedAll, permutedAll⟩ := ih
    refine ⟨points :: given, ?_, permuted.append permutedAll⟩
    rw [List.mapM_cons, drained, ok_bind, drainedAll]
    rfl

theorem exists_given {inputs : List PointStream} {lists : List (List Point)}
    (deliver : List.Forall₂ (Delivers ascending) inputs lists) :
    ∃ given, List.Forall₂ Yields inputs given ∧ given.flatten.Perm lists.flatten ∧
      (∀ l ∈ given, l.Pairwise (InOrder ascending)) ∧ ∀ s ∈ inputs, s.close.1 = .ok () := by
  induction deliver with
  | nil => exact ⟨[], .nil, .refl _, nofun, nofun⟩
  | cons here later ih =>
    obtain ⟨points, yields, permuted, ordered, closed⟩ := here
    obtain ⟨given, yieldAll, permutedAll, orderedAll, closedAll⟩ := ih
    refine ⟨points :: given, .cons yields yieldAll, permuted.append permutedAll, ?_, ?_⟩
    · exact List.forall_mem_cons.mpr ⟨ordered, orderedAll⟩
    · exact List.forall_mem_cons.mpr ⟨closed, closedAll⟩

theorem merge {inputs : List PointStream} {lists : List (List Point)}
    (deliver : List.Forall₂ (Delivers ascending) inputs lists) :
    Delivers ascending (merge ascending inputs) lists.flatten := by
  obtain ⟨given, yields, permuted, ordered, closed⟩ := exists_given deliver
  obtain ⟨out, run⟩ := exists_merging ascending given
  refine ⟨out.map (·.2), yields_merge run yields, run.perm.trans permuted, ?_, ?_⟩
  · exact List.pairwise_map.mpr ((run.precedes ordered).imp fun first => first.inOrder)
  · rw [PointStream.merge, close_merged]
    refine closing_ok fun r member => ?_
    obtain ⟨s, among, rfl⟩ := List.mem_map.mp member
    exact closed s among

theorem ofPoints (stats : ReadStats) (ordered : points.Pairwise (InOrder ascending)) :
    Delivers ascending (ofPoints points stats) points :=
  ⟨points, yields_ofPoints points stats, .refl _, ordered, by simp only [PointStream.ofPoints, close]⟩

theorem sent (delivers : Delivers ascending s points) (sendable : ∀ p ∈ points, p.Sendable)
    (peer : String) (stats : ReadStats) :
    Delivers ascending
      (.remote (opened peer ((DataNode.streamFrames s).flatMap bytes) stats)) points := by
  obtain ⟨given, ⟨last, gives⟩, permuted, ordered, closed⟩ := delivers
  have done : last.close.1 = .ok () := gives.close_eq.trans closed
  have fine : readEnd none last = { stats := last.close.2.stats, error := none } := by
    simp only [readEnd, done]
  have each : ∀ p ∈ given, p.Sendable := fun p member => sendable p (permuted.mem_iff.mp member)
  have allowed : ∀ f ∈ framesOf given (readEnd none last), f.Allowed := by
    rw [framesOf, List.forall_mem_append, List.forall_mem_map, List.forall_mem_singleton, fine]
    exact ⟨fun p member => (each p member).allowed, ReadEnd.allowed _⟩
  have all : arrived ((framesOf given (readEnd none last)).flatMap bytes).length
      (framesOf given (readEnd none last)) = (framesOf given (readEnd none last)).length := by
    refine Nat.le_antisymm (le_arrived_iff.mp (Nat.le_refl _)).1 (le_arrived_iff.mpr ?_)
    rw [List.take_length]
    exact ⟨Nat.le_refl _, Nat.le_refl _, allowed⟩
  have finished := @gives_finished peer stats _ _ _ (fun p member => (each p member).kept) all
  rw [fine, List.take_length] at finished
  obtain ⟨rest, finished⟩ := finished
  have frames : DataNode.streamFrames s = framesOf given (readEnd none last) :=
    DataNode.streamFrames_eq gives
  rw [frames, fine]
  exact ⟨given, ⟨_, finished⟩, permuted, ordered, by simp only [close]⟩

end Delivers

end SeriesCluster.PointStream
