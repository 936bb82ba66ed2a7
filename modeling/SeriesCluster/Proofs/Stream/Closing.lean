import Mathlib.Logic.Function.Iterate
import SeriesCluster.Proofs.Stream.Collect
import SeriesCluster.Proofs.Stream.Failures

namespace SeriesCluster.PointStream

open Merge

mutual

/-- The lists and nodes that a stream gets its points from, from left to right. -/
def leaves : PointStream → List PointStream
  | listed s => [.listed s]
  | remote s => [.remote s]
  | merged _ _ inputs _ => leavesOf inputs

def leavesOf : List PointStream → List PointStream
  | [] => []
  | s :: rest => s.leaves ++ leavesOf rest

end

theorem closeAll_inputs (inputs : List PointStream) :
    (closeAll inputs).2 = inputs.map (·.close.2) := by
  induction inputs with
  | nil => rw [closeAll, List.map_nil]
  | cons s inputs ih =>
    rw [closeAll, List.map_cons, ← ih]
    rcases s.close with ⟨e | done, t⟩ <;> rfl

theorem close_merged_rest (ascending primed : Bool) (inputs : List PointStream)
    (heads : List (Option Point)) :
    (merged ascending primed inputs heads).close.2 =
      .merged ascending primed (inputs.map (·.close.2)) (heads.map fun _ => none) := by
  rw [close, ← closeAll_inputs]

mutual

theorem leaves_close (s : PointStream) : s.close.2.leaves = s.leaves.map (·.close.2) := by
  cases s with
  | listed s => simp only [close, leaves, List.map_cons, List.map_nil]
  | remote s => simp only [close, leaves, List.map_cons, List.map_nil]
  | merged ascending primed inputs heads =>
    rw [close_merged_rest, leaves, leaves]
    exact leavesOf_close inputs

theorem leavesOf_close (inputs : List PointStream) :
    leavesOf (inputs.map (·.close.2)) = (leavesOf inputs).map (·.close.2) := by
  cases inputs with
  | nil => simp only [List.map_nil, leavesOf]
  | cons s inputs =>
    rw [List.map_cons, leavesOf, leavesOf, List.map_append, leaves_close s, leavesOf_close inputs]

end

theorem closing_append (results results' : List (Except Error Unit)) :
    closing (results ++ results') = closing (closing results :: [closing results']) := by
  induction results with
  | nil =>
    rw [List.nil_append, closing, closing]
    cases closing results' <;> rfl
  | cons r results ih =>
    cases r with
    | error e => rfl
    | ok done => exact ih

theorem closing_cons (r : Except Error Unit) (results : List (Except Error Unit)) :
    closing (r :: results) = closing (r :: [closing results]) := by
  cases r with
  | error e => rfl
  | ok done =>
    rw [closing, closing]
    cases closing results <;> rfl

mutual

theorem close_eq_closing (s : PointStream) : s.close.1 = closing (s.leaves.map (·.close.1)) := by
  cases s with
  | listed s =>
    rw [leaves, List.map_singleton]
    rcases (listed s).close.1 with e | done <;> rfl
  | remote s =>
    rw [leaves, List.map_singleton]
    rcases (remote s).close.1 with e | done <;> rfl
  | merged ascending primed inputs heads =>
    rw [close_merged, leaves]
    exact closing_leavesOf inputs

theorem closing_leavesOf (inputs : List PointStream) :
    closing (inputs.map (·.close.1)) = closing ((leavesOf inputs).map (·.close.1)) := by
  cases inputs with
  | nil => simp only [leavesOf, List.map_nil]
  | cons s inputs =>
    rw [List.map_cons, leavesOf, List.map_append, closing_append, closing_cons, close_eq_closing s,
      closing_leavesOf inputs]

end

mutual

theorem listed_or_remote_of_mem_leaves {leaf : PointStream} (s : PointStream)
    (member : leaf ∈ s.leaves) : (∃ l, leaf = .listed l) ∨ ∃ r, leaf = .remote r := by
  cases s with
  | listed l =>
    rw [leaves, List.mem_singleton] at member
    exact .inl ⟨l, member⟩
  | remote r =>
    rw [leaves, List.mem_singleton] at member
    exact .inr ⟨r, member⟩
  | merged ascending primed inputs heads =>
    rw [leaves] at member
    exact listed_or_remote_of_mem_leavesOf inputs member

theorem listed_or_remote_of_mem_leavesOf {leaf : PointStream} (inputs : List PointStream)
    (member : leaf ∈ leavesOf inputs) : (∃ l, leaf = .listed l) ∨ ∃ r, leaf = .remote r := by
  cases inputs with
  | nil =>
    rw [leavesOf] at member
    cases member
  | cons s inputs =>
    rw [leavesOf] at member
    rcases List.mem_append.mp member with here | later
    · exact listed_or_remote_of_mem_leaves s here
    · exact listed_or_remote_of_mem_leavesOf inputs later

end

/-- The failure with which a list is closed; nodes are closed without one. -/
def closeFault? : PointStream → Option Error
  | listed s => s.closeFault
  | remote _ | merged .. => none

theorem closing_eq_closeFault {streams : List PointStream}
    (simple : ∀ s ∈ streams, (∃ l, s = .listed l) ∨ ∃ r, s = .remote r) :
    closing (streams.map (·.close.1)) = (streams.findSome? closeFault?).elim (.ok ()) .error := by
  induction streams with
  | nil => rfl
  | cons s streams ih =>
    obtain ⟨here, later⟩ := List.forall_mem_cons.mp simple
    rw [List.map_cons, List.findSome?_cons]
    rcases here with ⟨l, rfl⟩ | ⟨r, rfl⟩
    · rw [close, closeFault?]
      cases l.closeFault with
      | none => exact ih later
      | some e => rfl
    · rw [close, closeFault?]
      exact ih later

theorem least_eq_none {ascending : Bool} {heads : List (Option Point)}
    (empty : ∀ head ∈ heads, head = none) : least ascending heads = none := by
  induction heads with
  | nil => rfl
  | cons head heads ih =>
    obtain ⟨rfl, later⟩ := List.forall_mem_cons.mp empty
    rw [least, ih later]
    rfl

theorem prime_ended {inputs : List PointStream} (ended : ∀ s ∈ inputs, s.next.1 = .ok none)
    {heads : List (Option Point)} (empty : ∀ head ∈ heads, head = none) :
    (prime next inputs heads).1 = none ∧ ∀ head ∈ (prime next inputs heads).2.2, head = none := by
  induction inputs generalizing heads with
  | nil => cases heads <;> exact ⟨rfl, empty⟩
  | cons s inputs ih =>
    cases heads with
    | nil => exact ⟨rfl, empty⟩
    | cons head heads =>
      obtain ⟨here, later⟩ := List.forall_mem_cons.mp ended
      obtain ⟨fine, rest⟩ := ih later (List.forall_mem_cons.mp empty).2
      rw [prime]
      rcases pulled : s.next with ⟨first, t⟩
      rw [pulled] at here
      cases here
      exact ⟨fine, List.forall_mem_cons.mpr ⟨rfl, rest⟩⟩

theorem advance_empty {ascending : Bool} {inputs : List PointStream} {heads : List (Option Point)}
    (empty : ∀ head ∈ heads, head = none) :
    (advance next ascending inputs heads).1 = .ok none := by
  rw [advance, least_eq_none empty]

theorem next_merged_ended {ascending primed : Bool} {inputs : List PointStream}
    (ended : ∀ s ∈ inputs, s.next.1 = .ok none) {heads : List (Option Point)}
    (empty : ∀ head ∈ heads, head = none) :
    (merged ascending primed inputs heads).next.1 = .ok none := by
  cases primed with
  | true =>
    rw [next_merged]
    exact advance_empty empty
  | false =>
    obtain ⟨fine, rest⟩ := prime_ended ended empty
    rw [next_unprimed]
    rcases result : prime next inputs heads with ⟨fault, inputs', heads'⟩
    rw [result] at fine rest
    cases fine
    exact advance_empty rest

mutual

theorem next_close (s : PointStream) : s.close.2.next.1 = .ok none := by
  cases s with
  | listed s =>
    rw [close, next_listed]
  | remote s =>
    rw [close, next_closed]
  | merged ascending primed inputs heads =>
    rw [close_merged_rest]
    apply next_merged_ended (next_close_of_mem inputs)
    intro head member
    obtain ⟨_, -, rfl⟩ := List.mem_map.mp member
    rfl

theorem next_close_of_mem (inputs : List PointStream) :
    ∀ s ∈ inputs.map (·.close.2), s.next.1 = .ok none := by
  cases inputs with
  | nil => exact List.forall_mem_nil _
  | cons s inputs =>
    rw [List.map_cons, List.forall_mem_cons]
    exact ⟨next_close s, next_close_of_mem inputs⟩

end

theorem iterate_next_ended {s : PointStream} (ended : s.next.1 = .ok none) (n : Nat) :
    ((fun t => t.next.2)^[n] s).next.1 = .ok none := by
  induction n generalizing s with
  | zero => exact ended
  | succ n ih =>
    rw [Function.iterate_succ_apply]
    have stays : s.next.2.next = (.ok none, s.next.2) := next_ended (Prod.ext ended rfl)
    exact ih (congrArg Prod.fst stays)

/-- Closing a stream closes everything that it gets points from, also behind what fails to close, and
says the first failure from left to right; whenever the stream is pulled then, it has ended. This
rests on what is assumed of a list that fails to close, that it is emptied. -/
theorem close_closes_all (s : PointStream) :
    s.close.2.leaves = s.leaves.map (·.close.2) ∧
      s.close.1 = closing (s.leaves.map (·.close.1)) ∧
      s.close.1 = (s.leaves.findSome? closeFault?).elim (.ok ()) .error ∧
      ∀ n, ((fun t => t.next.2)^[n] s.close.2).next.1 = .ok none := by
  have said := closing_eq_closeFault fun _ => listed_or_remote_of_mem_leaves s
  exact ⟨leaves_close s, close_eq_closing s, (close_eq_closing s).trans said,
    iterate_next_ended (next_close s)⟩

end SeriesCluster.PointStream
