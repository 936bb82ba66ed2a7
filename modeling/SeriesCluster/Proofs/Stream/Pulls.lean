import SeriesCluster.Stream.Basic

namespace SeriesCluster.PointStream

open Merge

section Inputs

variable {β : Type} {pull pull' : PointStream → Pulled × PointStream} {inputs : List PointStream}
  {heads : List (Option Point)}

theorem prime_congr (same : ∀ s ∈ inputs, pull s = pull' s) :
    prime pull inputs heads = prime pull' inputs heads := by
  induction inputs generalizing heads with
  | nil => cases heads <;> rfl
  | cons s inputs ih =>
    cases heads with
    | nil => rfl
    | cons head heads =>
      rw [prime, prime, same s List.mem_cons_self]
      rw [ih fun t member => same t (List.mem_cons_of_mem _ member)]

theorem pullAt_congr {i : Nat} (same : ∀ s ∈ inputs, pull s = pull' s) :
    pullAt pull i inputs = pullAt pull' i inputs := by
  induction inputs generalizing i with
  | nil => cases i <;> rfl
  | cons s inputs ih =>
    cases i with
    | zero => rw [pullAt, pullAt, same s List.mem_cons_self]
    | succ i =>
      rw [pullAt, pullAt, ih fun t member => same t (List.mem_cons_of_mem _ member)]

theorem advance_congr {ascending : Bool} (same : ∀ s ∈ inputs, pull s = pull' s) :
    advance pull ascending inputs heads = advance pull' ascending inputs heads := by
  unfold advance
  split
  · rfl
  · rw [pullAt_congr same]

theorem map_prime {inv : PointStream → β} (kept : ∀ s, inv (pull s).2 = inv s)
    (inputs : List PointStream) (heads : List (Option Point)) :
    (prime pull inputs heads).2.1.map inv = inputs.map inv := by
  induction inputs generalizing heads with
  | nil => cases heads <;> rfl
  | cons s inputs ih =>
    cases heads with
    | nil => rfl
    | cons head heads =>
      have same := kept s
      rw [prime]
      rcases result : pull s with ⟨e | head', s'⟩
      · rw [result] at same
        rw [List.map_cons, List.map_cons, same]
      · rw [result] at same
        rw [List.map_cons, List.map_cons, same, ih]

theorem map_pullAt {inv : PointStream → β} (kept : ∀ s, inv (pull s).2 = inv s) (i : Nat)
    (inputs : List PointStream) : (pullAt pull i inputs).2.map inv = inputs.map inv := by
  induction inputs generalizing i with
  | nil => cases i <;> rfl
  | cons s inputs ih =>
    cases i with
    | zero => rw [pullAt, List.map_cons, List.map_cons, kept]
    | succ i => rw [pullAt, List.map_cons, List.map_cons, ih]

end Inputs

theorem nextWithin_listed (n : Nat) (s : ListedStream) :
    nextWithin n (.listed s) =
      match s.pulls with
      | [] => (.ok none, .listed s)
      | pulled :: rest => (pulled.map some, .listed { s with pulls := rest }) := by
  cases n <;> rfl

theorem nextWithin_remote (n : Nat) (s : RemoteStream) :
    nextWithin n (.remote s) = (s.next.1, .remote s.next.2) := by
  cases n <;> rw [nextWithin]

theorem kept_nextWithin {β : Type} {inv : PointStream → β} (node : Bool → List β → β)
    (merged : ∀ ascending primed inputs heads,
      inv (.merged ascending primed inputs heads) = node ascending (inputs.map inv))
    (listed : ∀ s rest, inv (.listed { s with pulls := rest }) = inv (.listed s))
    (remote : ∀ s : RemoteStream, inv (.remote s.next.2) = inv (.remote s)) (n : Nat)
    (s : PointStream) : inv (nextWithin n s).2 = inv s := by
  have advanced (pull : PointStream → Pulled × PointStream) (kept : ∀ s, inv (pull s).2 = inv s)
      (ascending inputs heads) :
      inv (advance pull ascending inputs heads).2 = node ascending (inputs.map inv) := by
    unfold advance
    split
    · exact merged ..
    · rename_i i p found
      have same := map_pullAt kept i inputs
      rcases result : pullAt pull i inputs with ⟨e | head, inputs'⟩
      · rw [result] at same
        exact (merged ..).trans (congrArg _ same)
      · rw [result] at same
        exact (merged ..).trans (congrArg _ same)
  induction n generalizing s with
  | zero =>
    cases s with
    | listed s =>
      rw [nextWithin_listed]
      split
      · rfl
      · exact listed s _
    | remote s =>
      rw [nextWithin_remote]
      exact remote s
    | merged => rfl
  | succ n ih =>
    cases s with
    | listed s =>
      rw [nextWithin_listed]
      split
      · rfl
      · exact listed s _
    | remote s =>
      rw [nextWithin_remote]
      exact remote s
    | merged ascending primed inputs heads =>
      rw [merged]
      cases primed with
      | true => exact advanced _ ih ascending inputs heads
      | false =>
        rw [nextWithin]
        have same := map_prime ih inputs heads
        rcases result : prime (nextWithin n) inputs heads with ⟨_ | e, inputs', heads'⟩
        · rw [result] at same
          exact (advanced _ ih ascending inputs' heads').trans (congrArg _ same)
        · rw [result] at same
          exact (merged ..).trans (congrArg _ same)

theorem depthOf_eq (inputs : List PointStream) :
    depthOf inputs = (inputs.map depth).foldr max 0 := by
  induction inputs with
  | nil => rw [depthOf]; rfl
  | cons s inputs ih => rw [depthOf, ih]; rfl

theorem depth_nextWithin (n : Nat) (s : PointStream) : (nextWithin n s).2.depth = s.depth :=
  kept_nextWithin (fun _ depths => depths.foldr max 0 + 1)
    (fun _ _ inputs _ => by rw [depth, depthOf_eq]) (fun _ _ => by simp only [depth])
    (fun _ => by simp only [depth]) n s

theorem depth_le_depthOf {s : PointStream} {inputs : List PointStream} (member : s ∈ inputs) :
    s.depth ≤ depthOf inputs := by
  induction inputs with
  | nil => cases member
  | cons t inputs ih =>
    rw [depthOf]
    rcases List.mem_cons.mp member with rfl | member
    · exact Nat.le_max_left ..
    · exact Nat.le_trans (ih member) (Nat.le_max_right ..)

theorem nextWithin_succ {n : Nat} {s : PointStream} (within : s.depth ≤ n) :
    nextWithin (n + 1) s = nextWithin n s := by
  induction n generalizing s with
  | zero =>
    cases s with
    | listed s => rw [nextWithin_listed, nextWithin_listed]
    | remote s => rw [nextWithin_remote, nextWithin_remote]
    | merged ascending primed inputs heads => simp [depth] at within
  | succ n ih =>
    cases s with
    | listed s => rw [nextWithin_listed, nextWithin_listed]
    | remote s => rw [nextWithin_remote, nextWithin_remote]
    | merged ascending primed inputs heads =>
      rw [depth, Nat.add_le_add_iff_right] at within
      have shallow : ∀ s ∈ inputs, nextWithin (n + 1) s = nextWithin n s := fun s member =>
        ih (Nat.le_trans (depth_le_depthOf member) within)
      cases primed with
      | true => exact advance_congr shallow
      | false =>
        rw [nextWithin, nextWithin, prime_congr shallow]
        have same := map_prime (depth_nextWithin n) inputs heads
        rcases result : prime (nextWithin n) inputs heads with ⟨_ | e, inputs', heads'⟩
        · rw [result] at same
          refine advance_congr fun s member => ih ?_
          rw [depthOf_eq, ← same, ← depthOf_eq] at within
          exact Nat.le_trans (depth_le_depthOf member) within
        · rfl

theorem nextWithin_eq {n : Nat} {s : PointStream} (within : s.depth ≤ n) :
    nextWithin n s = s.next := by
  induction within with
  | refl => rfl
  | step within ih => rw [nextWithin_succ within, ih]

theorem next_listed (s : ListedStream) :
    (listed s).next =
      match s.pulls with
      | [] => (.ok none, .listed s)
      | pulled :: rest => (pulled.map some, .listed { s with pulls := rest }) :=
  nextWithin_listed _ s

theorem next_remote (s : RemoteStream) : (remote s).next = (s.next.1, .remote s.next.2) :=
  nextWithin_remote _ s

theorem next_merged {ascending : Bool} {inputs : List PointStream} {heads : List (Option Point)} :
    (merged ascending true inputs heads).next = advance next ascending inputs heads := by
  rw [next, depth, nextWithin]
  exact advance_congr fun s member => nextWithin_eq (depth_le_depthOf member)

theorem next_unprimed {ascending : Bool} {inputs : List PointStream}
    {heads : List (Option Point)} :
    (merged ascending false inputs heads).next =
      match prime next inputs heads with
      | (some e, inputs, heads) => (.error e, .merged ascending false inputs heads)
      | (none, inputs, heads) => advance next ascending inputs heads := by
  have shallow {inputs' : List PointStream} (same : inputs'.map depth = inputs.map depth) :
      ∀ s ∈ inputs', nextWithin (depthOf inputs) s = s.next := fun s member => by
    rw [depthOf_eq, ← same, ← depthOf_eq]
    exact nextWithin_eq (depth_le_depthOf member)
  rw [next, depth, nextWithin, prime_congr (shallow rfl)]
  have same := map_prime (fun s => depth_nextWithin s.depth s) inputs heads
  change (prime next inputs heads).2.1.map depth = _ at same
  rcases result : prime next inputs heads with ⟨_ | e, inputs', heads'⟩
  · rw [result] at same
    exact advance_congr (shallow same)
  · rfl

end SeriesCluster.PointStream
