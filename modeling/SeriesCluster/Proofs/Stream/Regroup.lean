import SeriesCluster.Proofs.Stream.Stable

/-!
Merging groups of streams and then the merges comes to merging all of the streams at once: the same
points in the same order, those at one place included, and the same counts. Main statement:
`merge_merges`. For the counts of a drained merge it has to be known what the merge leaves behind,
which is each of its inputs drained (`exists_left_merge`).
-/

namespace SeriesCluster

namespace ReadStats

theorem sum_cons (a : ReadStats) (all : List ReadStats) : sum (a :: all) = a.add (sum all) := by
  have start (b : ReadStats) : all.foldl add b = b.add (sum all) := by
    rw [sum]
    induction all generalizing b with
    | nil => simp [add]
    | cons c all ih => rw [List.foldl_cons, List.foldl_cons, ih, ih (add {} c), zero_add, add_assoc]
  rw [sum, List.foldl_cons, zero_add, start]

theorem sum_append (all all' : List ReadStats) : sum (all ++ all') = (sum all).add (sum all') := by
  induction all with
  | nil => exact (zero_add _).symm
  | cons a all ih => rw [List.cons_append, sum_cons, ih, sum_cons, add_assoc]

end ReadStats

namespace PointStream

open Merge

theorem stats_merged {ascending primed : Bool} {inputs : List PointStream}
    {heads : List (Option Point)} :
    (merged ascending primed inputs heads).stats = .sum (inputs.map stats) := by
  rw [stats]
  congr 1
  induction inputs with
  | nil => rw [statsOf]; rfl
  | cons s inputs ih => rw [statsOf, ih, List.map_cons]

theorem sum_stats_flatten {groups : List (List PointStream)} {merges : List PointStream}
    (counts : List.Forall₂ (fun g m => m.stats = .sum (g.map stats)) groups merges) :
    ReadStats.sum (merges.map stats) = .sum (groups.flatten.map stats) := by
  induction counts with
  | nil => rfl
  | cons here later ih =>
    rw [List.map_cons, ReadStats.sum_cons, here, ih, List.flatten_cons, List.map_append,
      ReadStats.sum_append]

/-- Pulling a stream to its end, without a failure, leaves another behind. -/
def Leaves (s last : PointStream) : Prop := ∃ points, Gives s points none last

/-- Inputs of a merge with the points that are held of them: what is left behind of each. -/
inductive Nears : List PointStream → List (Option Point) → List PointStream → Prop
  | nil : Nears [] [] []
  | ended (last : PointStream) {inputs lasts : List PointStream} {heads : List (Option Point)}
    (others : Nears inputs heads lasts) : Nears (last :: inputs) (none :: heads) (last :: lasts)
  | held (p : Point) {s last : PointStream} {inputs lasts : List PointStream}
    {heads : List (Option Point)} (leaves : Leaves s last) (others : Nears inputs heads lasts) :
    Nears (s :: inputs) (some p :: heads) (last :: lasts)

section Left

variable {ascending : Bool} {inputs lasts : List PointStream} {heads : List (Option Point)}
  {s last t : PointStream} {points : List Point}

theorem nears_of_pulled (leaves : Leaves s last) (others : Nears inputs heads lasts) :
    ∃ head t, s.next = (.ok head, t) ∧ Nears (t :: inputs) (head :: heads) (last :: lasts) := by
  obtain ⟨points, u, leads, ends⟩ := leaves
  cases leads with
  | here => exact ⟨none, last, ends, .ended last others⟩
  | @point _ t _ p rest pulled later =>
    exact ⟨some p, t, pulled, .held p ⟨rest, u, later, ends⟩ others⟩

theorem nears_of_prime (leave : List.Forall₂ Leaves inputs lasts)
    (same : heads.length = inputs.length) :
    ∃ inputs' heads', prime next inputs heads = (none, inputs', heads') ∧
      Nears inputs' heads' lasts := by
  induction leave generalizing heads with
  | nil =>
    cases List.length_eq_zero_iff.mp same
    exact ⟨[], [], rfl, .nil⟩
  | cons here later ih =>
    obtain ⟨head, heads, rfl⟩ := List.exists_cons_of_length_eq_add_one same
    obtain ⟨inputs', heads', primed, others⟩ := ih (Nat.succ.inj same)
    obtain ⟨first, t, pulled, nears⟩ := nears_of_pulled here others
    refine ⟨t :: inputs', first :: heads', ?_, nears⟩
    rw [prime, pulled]
    simp only [primed]

theorem Nears.pullAt (nears : Nears inputs heads lasts) {i : Nat} {p : Point}
    (here : heads[i]? = some (some p)) :
    ∃ head inputs', Merge.pullAt next i inputs = (.ok head, inputs') ∧
      Nears inputs' (heads.set i head) lasts := by
  induction nears generalizing i with
  | nil => cases here
  | ended last others ih =>
    cases i with
    | zero => cases here
    | succ i =>
      obtain ⟨head, inputs', pulled, nears⟩ := ih here
      exact ⟨head, last :: inputs', by rw [Merge.pullAt, pulled], .ended last nears⟩
  | @held q s last inputs lasts heads leaves others ih =>
    cases i with
    | zero =>
      obtain ⟨head, t, pulled, nears⟩ := nears_of_pulled leaves others
      exact ⟨head, t :: inputs, by rw [Merge.pullAt, pulled], nears⟩
    | succ i =>
      obtain ⟨head, inputs', pulled, nears⟩ := ih here
      exact ⟨head, s :: inputs', by rw [Merge.pullAt, pulled], .held q leaves nears⟩

theorem Nears.eq_lasts (nears : Nears inputs heads lasts) (empty : ∀ head ∈ heads, head = none) :
    inputs = lasts := by
  induction nears with
  | nil => rfl
  | ended last others ih => rw [ih fun head member => empty head (List.mem_cons_of_mem _ member)]
  | held p leaves others ih => cases empty (some p) List.mem_cons_self

theorem Nears.point (nears : Nears inputs heads lasts) {p : Point}
    (pulled : (merged ascending true inputs heads).next = (.ok (some p), t)) :
    ∃ inputs' heads', t = merged ascending true inputs' heads' ∧ Nears inputs' heads' lasts := by
  rw [next_merged, advance] at pulled
  split at pulled
  · cases pulled
  · rename_i i q found
    obtain ⟨head, inputs', given, nears'⟩ := nears.pullAt (getElem?_of_least found)
    rw [given] at pulled
    cases pulled
    exact ⟨inputs', heads.set i head, rfl, nears'⟩

theorem Nears.finish (nears : Nears inputs heads lasts)
    (pulled : (merged ascending true inputs heads).next = (.ok none, t)) :
    t = merged ascending true lasts heads := by
  rw [next_merged, advance] at pulled
  split at pulled
  · rename_i empty
    cases pulled
    rw [nears.eq_lasts]
    intro head member
    obtain ⟨j, found⟩ := List.getElem?_of_mem member
    exact eq_none_of_least empty found
  · rename_i i q found
    obtain ⟨head, inputs', given, -⟩ := nears.pullAt (getElem?_of_least found)
    rw [given] at pulled
    cases pulled

theorem Nears.exists_left (nears : Nears inputs heads lasts)
    (gives : Gives (merged ascending true inputs heads) points none last) :
    ∃ heads', last = merged ascending true lasts heads' := by
  obtain ⟨u, leads, ends⟩ := gives
  generalize start : merged ascending true inputs heads = s at leads
  induction leads generalizing inputs heads with
  | here s =>
    subst start
    exact ⟨heads, nears.finish ends⟩
  | point pulled later ih =>
    subst start
    obtain ⟨inputs', heads', rfl, nears'⟩ := nears.point pulled
    exact ih nears' ends rfl

theorem exists_left_merge (leave : List.Forall₂ Leaves inputs lasts)
    (gives : Gives (merge ascending inputs) points none last) :
    ∃ heads, last = merged ascending true lasts heads := by
  have unpulled : (inputs.map fun _ => (none : Option Point)).length = inputs.length :=
    List.length_map _
  obtain ⟨inputs', heads', primed, nears⟩ := nears_of_prime leave unpulled
  have same : (merge ascending inputs).next = (merged ascending true inputs' heads').next := by
    rw [merge, next_unprimed, next_merged, primed]
  obtain ⟨u, leads, ends⟩ := gives
  cases leads with
  | here => exact nears.exists_left ⟨_, .here _, same.symm.trans ends⟩
  | point pulled later => exact nears.exists_left ⟨u, .point (same.symm.trans pulled) later, ends⟩

end Left

theorem exists_leaves {inputs : List PointStream} {lists : List (List Point)}
    (yields : List.Forall₂ Yields inputs lists) : ∃ lasts, List.Forall₂ Leaves inputs lasts := by
  induction yields with
  | nil => exact ⟨[], .nil⟩
  | @cons s points inputs lists here later ih =>
    obtain ⟨last, gives⟩ := here
    obtain ⟨lasts, leave⟩ := ih
    exact ⟨last :: lasts, .cons ⟨points, gives⟩ leave⟩

/-- A merge of inputs that are in order gives their points, sorted, and counts in the end what they
do. -/
theorem exists_gives_merge {ascending : Bool} {inputs lasts : List PointStream}
    {lists : List (List Point)} (yields : List.Forall₂ Yields inputs lists)
    (inOrder : ∀ l ∈ lists, l.Pairwise (InOrder ascending))
    (leave : List.Forall₂ Leaves inputs lasts) :
    ∃ last, Gives (merge ascending inputs) (sortPoints ascending lists.flatten) none last ∧
      last.stats = .sum (lasts.map stats) := by
  obtain ⟨out, run⟩ := exists_merging ascending lists
  obtain ⟨last, gives⟩ := yields_merge run yields
  rw [run.eq_sortPoints inOrder] at gives
  obtain ⟨heads, rfl⟩ := exists_left_merge leave gives
  exact ⟨_, gives, stats_merged⟩

theorem exists_gives_merges {ascending : Bool} {groups : List (List PointStream)}
    {lists : List (List (List Point))} (yields : List.Forall₂ (List.Forall₂ Yields) groups lists)
    (inOrder : ∀ ls ∈ lists, ∀ l ∈ ls, l.Pairwise (InOrder ascending)) :
    ∃ lasts drained,
      List.Forall₂ Yields (groups.map (merge ascending))
        (lists.map fun ls => sortPoints ascending ls.flatten) ∧
      List.Forall₂ Yields groups.flatten lists.flatten ∧
      List.Forall₂ Leaves (groups.map (merge ascending)) drained ∧
      List.Forall₂ Leaves groups.flatten lasts.flatten ∧
      List.Forall₂ (fun g m => m.stats = .sum (g.map stats)) lasts drained := by
  induction yields with
  | nil => exact ⟨[], [], .nil, .nil, .nil, .nil, .nil⟩
  | @cons inputs ls groups lists here later ih =>
    rw [List.forall_mem_cons] at inOrder
    obtain ⟨lasts, drained, merges, all, leave, leaveAll, counts⟩ := ih inOrder.2
    obtain ⟨own, leaveOwn⟩ := exists_leaves here
    obtain ⟨last, gives, count⟩ := exists_gives_merge here inOrder.1 leaveOwn
    exact ⟨own :: lasts, last :: drained, .cons ⟨last, gives⟩ merges, List.rel_append here all,
      .cons ⟨_, gives⟩ leave, List.rel_append leaveOwn leaveAll, .cons count counts⟩

theorem merge_merges (ascending : Bool) {groups : List (List PointStream)}
    {lists : List (List (List Point))} (yields : List.Forall₂ (List.Forall₂ Yields) groups lists)
    (inOrder : ∀ ls ∈ lists, ∀ l ∈ ls, l.Pairwise (InOrder ascending)) :
    ∃ (points : List Point) (nested flat : PointStream),
      (∀ limit, points.length < limit →
        (merge ascending (groups.map (merge ascending))).drain limit =
            (points.map (fun p => .ok (some p)) ++ [.ok none], nested) ∧
          (merge ascending groups.flatten).drain limit =
            (points.map (fun p => .ok (some p)) ++ [.ok none], flat)) ∧
      points = sortPoints ascending lists.flatten.flatten ∧
      (merge ascending (groups.map (merge ascending))).stats =
        (merge ascending groups.flatten).stats ∧
      nested.stats = flat.stats := by
  obtain ⟨lasts, drained, merges, all, leave, leaveAll, counts⟩ :=
    exists_gives_merges yields inOrder
  have sorted : ∀ l ∈ lists.map fun ls => sortPoints ascending ls.flatten,
      l.Pairwise (InOrder ascending) := by
    intro l member
    obtain ⟨ls, -, rfl⟩ := List.mem_map.mp member
    exact pairwise_sortPoints ascending _
  have inOrderAll : ∀ l ∈ lists.flatten, l.Pairwise (InOrder ascending) := by
    intro l member
    obtain ⟨ls, among, member⟩ := List.mem_flatten.mp member
    exact inOrder ls among l member
  obtain ⟨nested, gives, count⟩ := exists_gives_merge merges sorted leave
  obtain ⟨flat, givesAll, countAll⟩ := exists_gives_merge all inOrderAll leaveAll
  -- Both merges are sorted, and stable sorting does not see that groups have been sorted before.
  have points : sortPoints ascending (lists.map fun ls => sortPoints ascending ls.flatten).flatten =
      sortPoints ascending lists.flatten.flatten := by
    have parts := sortPoints_flatMap ascending (lists.map List.flatten)
    rwa [List.flatMap_map, List.flatMap_def, ← List.flatten_flatten] at parts
  rw [points] at gives
  refine ⟨_, nested, flat, ?_, rfl, ?_, ?_⟩
  · intro limit enough
    exact ⟨gives.drain_eq enough, givesAll.drain_eq enough⟩
  · rw [merge, merge, stats_merged, stats_merged]
    apply sum_stats_flatten
    apply List.forall₂_map_right_iff.mpr
    apply List.forall₂_same.mpr
    intro g _
    exact stats_merged
  · rw [count, countAll, sum_stats_flatten counts]

def cpuHolding (time i : Int64) : Point :=
  { cpuAt time with fields := .ofList [("value", .integer i)] }

def tiedLists : List (List (List Point)) :=
  [[[cpuHolding 1 1, cpuHolding 2 2], [cpuHolding 2 3, cpuHolding 4 4]], [],
    [[], [cpuHolding 2 5, cpuHolding 2 6, cpuHolding 3 7]]]

def tiedGroups : List (List PointStream) := tiedLists.map (·.map (ofPoints · ⟨1, 2⟩))

theorem yields_tied : List.Forall₂ (List.Forall₂ Yields) tiedGroups tiedLists := by
  apply List.forall₂_map_left_iff.mpr
  apply List.forall₂_same.mpr
  intro ls _
  apply List.forall₂_map_left_iff.mpr
  apply List.forall₂_same.mpr
  intro l _
  exact yields_ofPoints l _

def tiedPoints : List Point :=
  [(1, 1), (2, 2), (2, 3), (2, 5), (2, 6), (3, 7), (4, 4)].map fun e => cpuHolding e.1 e.2

theorem merge_merges_tied :
    List.Forall₂ (List.Forall₂ Yields) tiedGroups tiedLists ∧
      (∀ ls ∈ tiedLists, ∀ l ∈ ls, l.Pairwise (InOrder true)) ∧
      ∃ nested flat : PointStream,
        (∀ limit, 7 < limit →
          (merge true (tiedGroups.map (merge true))).drain limit =
              (tiedPoints.map (fun p => .ok (some p)) ++ [.ok none], nested) ∧
            (merge true tiedGroups.flatten).drain limit =
              (tiedPoints.map (fun p => .ok (some p)) ++ [.ok none], flat)) ∧
        nested.stats = flat.stats := by
  have inOrder : ∀ ls ∈ tiedLists, ∀ l ∈ ls, l.Pairwise (InOrder true) := by decide
  have sorted : sortPoints true tiedLists.flatten.flatten = tiedPoints := by cbv
  obtain ⟨points, nested, flat, drained, rfl, -, same⟩ := merge_merges true yields_tied inOrder
  rw [sorted] at drained
  exact ⟨yields_tied, inOrder, nested, flat, drained, same⟩

end PointStream

end SeriesCluster
