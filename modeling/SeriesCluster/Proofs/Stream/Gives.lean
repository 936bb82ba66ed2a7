import SeriesCluster.Cluster.Service
import SeriesCluster.Proofs.Except
import SeriesCluster.Proofs.Stream.Pulls

namespace SeriesCluster.PointStream

open Merge

def gained : Pulled → Nat
  | .ok (some _) => 1
  | _ => 0

def held (heads : List (Option Point)) : Nat := heads.countP (·.isSome)

mutual

/-- How many points can be left in a stream. A merge holds some of them already. -/
def left : PointStream → Nat
  | listed s => s.pulls.length
  | remote s => s.unread.length
  | merged _ _ inputs heads => leftOf inputs + held heads

def leftOf : List PointStream → Nat
  | [] => 0
  | s :: rest => s.left + leftOf rest

end

theorem held_cons (head : Option Point) (heads : List (Option Point)) :
    held (head :: heads) = held heads + gained (.ok head) := by
  cases head <;> simp [held, gained]

theorem held_set {heads : List (Option Point)} {i : Nat} {p : Point} (head : Option Point)
    (here : heads[i]? = some (some p)) :
    held (heads.set i head) + 1 = held heads + gained (.ok head) := by
  induction heads generalizing i with
  | nil => cases here
  | cons first heads ih =>
    cases i with
    | zero =>
      cases here
      simp only [List.set_cons_zero, held_cons, gained]
      omega
    | succ i =>
      have later := ih here
      simp only [List.set_cons_succ, held_cons]
      omega

theorem getElem?_of_least {ascending : Bool} {heads : List (Option Point)} {i : Nat} {p : Point}
    (found : least ascending heads = some (i, p)) : heads[i]? = some (some p) := by
  induction heads generalizing i with
  | nil => cases found
  | cons head heads ih =>
    cases head with
    | none =>
      obtain ⟨⟨j, q⟩, later, rfl, rfl⟩ := Option.map_eq_some_iff.mp found
      exact ih later
    | some q =>
      rw [least] at found
      split at found
      · rename_i j r later
        split at found
        · cases found
          exact ih later
        · cases found
          rfl
      · cases found
        rfl

section Inputs

variable {pull : PointStream → Pulled × PointStream} {inputs : List PointStream}
  {heads : List (Option Point)}

theorem left_prime (falls : ∀ s, gained (pull s).1 + (pull s).2.left ≤ s.left)
    (inputs : List PointStream) (heads : List (Option Point)) :
    leftOf (prime pull inputs heads).2.1 + held (prime pull inputs heads).2.2 ≤
      leftOf inputs + held heads := by
  induction inputs generalizing heads with
  | nil => cases heads <;> exact Nat.le_refl _
  | cons s inputs ih =>
    cases heads with
    | nil => exact Nat.le_refl _
    | cons head heads =>
      have here := falls s
      have later := ih heads
      rw [prime, leftOf, held_cons]
      rcases result : pull s with ⟨e | found, s'⟩
      · rw [result] at here
        simp only [leftOf, held_cons, gained] at here ⊢
        omega
      · rw [result] at here
        rcases rest : prime pull inputs heads with ⟨error, inputs', heads'⟩
        rw [rest] at later
        simp only [leftOf, held_cons] at here later ⊢
        omega

theorem left_pullAt (falls : ∀ s, gained (pull s).1 + (pull s).2.left ≤ s.left) (i : Nat)
    (inputs : List PointStream) :
    gained (pullAt pull i inputs).1 + leftOf (pullAt pull i inputs).2 ≤ leftOf inputs := by
  induction inputs generalizing i with
  | nil => cases i <;> exact Nat.le_refl _
  | cons s inputs ih =>
    cases i with
    | zero =>
      have here := falls s
      simp only [pullAt, leftOf]
      omega
    | succ i =>
      have later := ih i
      simp only [pullAt, leftOf]
      omega

theorem left_advance (falls : ∀ s, gained (pull s).1 + (pull s).2.left ≤ s.left)
    (ascending : Bool) :
    gained (advance pull ascending inputs heads).1 + (advance pull ascending inputs heads).2.left ≤
      leftOf inputs + held heads := by
  unfold advance
  split
  · exact Nat.le_of_eq (Nat.zero_add _)
  · rename_i i p found
    have here := getElem?_of_least found
    have pulled := left_pullAt falls i inputs
    rcases result : pullAt pull i inputs with ⟨e | head, inputs'⟩
    · rw [result] at pulled
      have replaced := held_set none here
      simp only [gained, left] at pulled replaced ⊢
      omega
    · rw [result] at pulled
      have replaced := held_set head here
      simp only [gained, left] at pulled replaced ⊢
      omega

end Inputs

theorem length_lt_of_next {unread rest : List UInt8} {f : Frame}
    (read : Frame.next unread = .ok (f, rest)) : rest.length < unread.length := by
  rw [Frame.next, Frame.next?] at read
  rcases front : Frame.front unread with _ | ⟨g, tail⟩ | _ | length
  all_goals rw [front] at read
  · cases read
  · cases read
    exact Frame.length_lt_of_front front
  · cases read
  · cases read

theorem length_lt_of_item {peer : String} {unread rest : List UInt8} {found : RemoteStream.Item}
    (read : RemoteStream.item peer unread = .ok (found, rest)) : rest.length < unread.length := by
  obtain ⟨⟨f, tail⟩, next, read⟩ := exists_of_bind_eq_ok read
  have shorter := length_lt_of_next next
  dsimp only at read
  split at read
  · obtain ⟨p, -, read⟩ := exists_of_bind_eq_ok read
    cases read
    exact shorter
  · split at read
    · obtain ⟨e, -, read⟩ := exists_of_bind_eq_ok read
      cases read
      exact shorter
    · cases read

theorem left_remote (s : RemoteStream) :
    gained s.next.1 + s.next.2.unread.length ≤ s.unread.length := by
  rw [RemoteStream.next]
  split
  · exact Nat.le_of_eq (Nat.zero_add _)
  · split
    · exact Nat.le_of_eq (Nat.zero_add _)
    · split
      · rename_i p rest read
        have shorter := length_lt_of_item read
        simp only [gained]
        omega
      · rename_i e rest read
        have shorter := length_lt_of_item read
        split
        · simp only [gained]
          omega
        · simp only [gained]
          omega
      · exact Nat.le_of_eq (Nat.zero_add _)

theorem left_listed (s : ListedStream) :
    gained (listed s).next.1 + (listed s).next.2.left ≤ s.pulls.length := by
  rw [next_listed]
  split
  · exact Nat.le_of_eq (Nat.zero_add _)
  · rename_i pulled rest pulls
    cases pulled with
    | error e =>
      rw [pulls]
      simp [gained, left, Except.map]
    | ok p =>
      rw [pulls]
      simp [gained, left, Except.map, Nat.add_comm]

theorem left_nextWithin (n : Nat) (s : PointStream) :
    gained (nextWithin n s).1 + (nextWithin n s).2.left ≤ s.left := by
  induction n generalizing s with
  | zero =>
    cases s with
    | listed s => exact left_listed s
    | remote s => exact left_remote s
    | merged => exact Nat.le_of_eq (Nat.zero_add _)
  | succ n ih =>
    cases s with
    | listed s =>
      rw [nextWithin_listed, ← next_listed]
      exact left_listed s
    | remote s => exact left_remote s
    | merged ascending primed inputs heads =>
      cases primed with
      | true => exact left_advance ih ascending
      | false =>
        have primes := left_prime ih inputs heads
        rw [nextWithin]
        rcases result : prime (nextWithin n) inputs heads with ⟨_ | e, inputs', heads'⟩
        · rw [result] at primes
          exact Nat.le_trans (left_advance ih ascending) primes
        · rw [result] at primes
          exact Nat.le_trans (Nat.le_of_eq (Nat.zero_add _)) primes

theorem left_lt_of_next {s rest : PointStream} {p : Point}
    (pulled : s.next = (.ok (some p), rest)) : rest.left < s.left := by
  have falls := left_nextWithin s.depth s
  rw [← next, pulled] at falls
  simp only [gained] at falls
  omega

mutual

theorem left_le_pending (s : PointStream) : s.left ≤ s.pending := by
  cases s with
  | listed s => exact Nat.le_refl _
  | remote s => exact Nat.le_refl _
  | merged ascending primed inputs heads =>
    have within := leftOf_le_pendingOf inputs
    have most : held heads ≤ heads.length := List.countP_le_length
    rw [left, pending]
    omega

theorem leftOf_le_pendingOf (inputs : List PointStream) : leftOf inputs ≤ pendingOf inputs := by
  cases inputs with
  | nil => exact Nat.le_refl _
  | cons s inputs =>
    have here := left_le_pending s
    have later := leftOf_le_pendingOf inputs
    rw [leftOf, pendingOf]
    omega

end

inductive Leads : PointStream → List Point → PointStream → Prop
  | here (s : PointStream) : Leads s [] s
  | point {s rest last : PointStream} {p : Point} {points : List Point}
    (pulled : s.next = (.ok (some p), rest)) (later : Leads rest points last) :
    Leads s (p :: points) last

namespace Leads

variable {s last : PointStream} {points : List Point}

theorem length_add_left_le (leads : Leads s points last) : points.length + last.left ≤ s.left := by
  induction leads with
  | here s => exact Nat.le_of_eq (Nat.zero_add _)
  | point pulled later ih =>
    have shorter := left_lt_of_next pulled
    rw [List.length_cons]
    omega

theorem drain_eq (leads : Leads s points last) (limit : Nat) :
    s.drain (limit + points.length) =
      (points.map (fun p => .ok (some p)) ++ (last.drain limit).1, (last.drain limit).2) := by
  induction leads with
  | here s => rfl
  | point pulled later ih =>
    rw [List.length_cons, ← Nat.add_assoc, drain, pulled]
    simp only [ih, List.map_cons, List.cons_append]

theorem collect_eq (leads : Leads s points last) (limit : Nat) :
    s.collect (limit + points.length) =
      ((last.collect limit).1.map (points ++ ·), (last.collect limit).2) := by
  induction leads with
  | here s =>
    rw [List.length_nil, Nat.add_zero]
    rcases s.collect limit with ⟨e | found, t⟩
    · rfl
    · rfl
  | @point s rest last p points pulled later ih =>
    rw [List.length_cons, ← Nat.add_assoc, collect, pulled]
    simp only [ih]
    rcases last.collect limit with ⟨e | found, t⟩
    · rfl
    · rfl

theorem pullAll_eq (leads : Leads s points last) (limit : Nat) :
    DataNode.pullAll (limit + points.length) s =
      (points ++ (DataNode.pullAll limit last).1, (DataNode.pullAll limit last).2) := by
  induction leads with
  | here s => rfl
  | point pulled later ih =>
    rw [List.length_cons, ← Nat.add_assoc, DataNode.pullAll, pulled]
    simp only [ih, List.cons_append]

end Leads

def outcome : Option Error → Pulled
  | none => .ok none
  | some e => .error e

/-- Pulling gives some points, then the end or a failure, and leaves a stream behind. -/
def Gives (s : PointStream) (points : List Point) (fault : Option Error) (last : PointStream) :
    Prop :=
  ∃ t, Leads s points t ∧ t.next = (outcome fault, last)

theorem gives_ofPoints (points : List Point) (stats : ReadStats) :
    Gives (ofPoints points stats) points none (ofPoints [] stats) := by
  refine ⟨ofPoints [] stats, ?_, next_listed _⟩
  induction points with
  | nil => exact .here _
  | cons p points ih => exact .point (next_listed _) ih

namespace Gives

variable {s last : PointStream} {points : List Point} {fault : Option Error}

theorem length_le_pending (gives : Gives s points fault last) : points.length ≤ s.pending := by
  obtain ⟨t, leads, ends⟩ := gives
  have most := leads.length_add_left_le
  have pending := left_le_pending s
  omega

theorem pullAll_eq (gives : Gives s points fault last) {limit : Nat}
    (enough : points.length < limit) : DataNode.pullAll limit s = (points, fault, last) := by
  obtain ⟨t, leads, ends⟩ := gives
  obtain ⟨more, rfl⟩ := Nat.exists_eq_add_of_lt enough
  rw [show points.length + more + 1 = more + 1 + points.length by omega, leads.pullAll_eq]
  cases fault with
  | none => simp [DataNode.pullAll, ends, outcome]
  | some e => simp [DataNode.pullAll, ends, outcome]

theorem drain_eq (gives : Gives s points none last) {limit : Nat}
    (enough : points.length < limit) :
    s.drain limit = (points.map (fun p => .ok (some p)) ++ [.ok none], last) := by
  obtain ⟨t, leads, ends⟩ := gives
  obtain ⟨more, rfl⟩ := Nat.exists_eq_add_of_lt enough
  rw [show points.length + more + 1 = more + 1 + points.length by omega, leads.drain_eq, drain,
    ends]
  rfl

theorem toPoints_eq (gives : Gives s points none last) :
    s.toPoints = last.close.1.map fun _ => points := by
  have enough := gives.length_le_pending
  obtain ⟨t, leads, ends⟩ := gives
  obtain ⟨more, size⟩ := Nat.exists_eq_add_of_le' enough
  rw [toPoints, size, Nat.add_right_comm, leads.collect_eq, collect, ends]
  simp only [outcome]
  cases last.close.1 with
  | error e => rfl
  | ok done => simp [Except.map]

theorem toPoints_failed {e : Error} (gives : Gives s points (some e) last) :
    s.toPoints = .error e := by
  have enough := gives.length_le_pending
  obtain ⟨t, leads, ends⟩ := gives
  obtain ⟨more, size⟩ := Nat.exists_eq_add_of_le' enough
  rw [toPoints, size, Nat.add_right_comm, leads.collect_eq, collect, ends]
  rfl

end Gives

end SeriesCluster.PointStream
