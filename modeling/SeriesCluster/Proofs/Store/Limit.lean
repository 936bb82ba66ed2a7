import Mathlib.Data.List.TakeDrop
import SeriesCluster.Proofs.Store.Plain

namespace SeriesCluster

open PointStream

section Parts

variable {α : Type} {k : Nat}

theorem length_flatMap_take_bounds (k : Nat) (ls : List (List α)) :
    (ls.flatMap (List.take k)).length ≤ ls.flatten.length ∧
      ((ls.flatMap (List.take k)).length < k →
        (ls.flatMap (List.take k)).length = ls.flatten.length) := by
  induction ls with
  | nil => simp
  | cons l ls ih =>
    simp only [List.flatMap_cons, List.flatten_cons, List.length_append, List.length_take]
    omega

theorem length_flatten_pos_iff (ls : List (List α)) :
    0 < ls.flatten.length ↔ 0 < (ls.filter (0 < ·.length)).length := by
  induction ls with
  | nil => simp
  | cons l ls ih =>
    rw [List.flatten_cons, List.length_append, List.filter_cons]
    split
    · rename_i filled
      simp only [decide_eq_true_eq] at filled
      simp only [List.length_cons]
      omega
    · rename_i empty
      simp only [decide_eq_true_eq] at empty
      omega

theorem length_flatMap_take_le_iff (limited : 0 < k) (ls : List (List α)) :
    (ls.flatMap (List.take k)).length ≤ k ↔
      ls.flatten.length ≤ k ∨ (ls.filter (0 < ·.length)).length ≤ 1 := by
  induction ls with
  | nil => simp
  | cons l ls ih =>
    have bounds := length_flatMap_take_bounds k ls
    have filled := length_flatten_pos_iff ls
    simp only [List.flatMap_cons, List.flatten_cons, List.length_append, List.length_take,
      List.filter_cons, decide_eq_true_eq]
    -- If `l` and another part are filled, no part can be cut without exceeding the limit.
    split
    · simp only [List.length_cons]
      omega
    · omega

end Parts

theorem sortPoints_flatMap_take_iff {ascending : Bool} {ls : List (List Point)} {k : Nat}
    (ordered : ∀ l ∈ ls, l.Pairwise (InOrder ascending)) (limited : 0 < k) :
    sortPoints ascending (ls.flatMap (List.take k)) = (sortPoints ascending ls.flatten).take k ↔
      ls.flatten.length ≤ k ∨ (ls.filter (0 < ·.length)).length ≤ 1 := by
  rw [← take_sortPoints_flatMap ordered, List.take_self_eq_iff, (sortPoints_perm ..).length_eq]
  exact length_flatMap_take_le_iff limited ls

namespace ReadOptions

def unlimited (opt : ReadOptions) : ReadOptions := { opt with limit := 0 }

/-- The points that a read takes of one series in a shard. -/
def taken (opt : ReadOptions) (shard : SortedMap String MeasurementSeries) (name key : String) :
    List Point :=
  if opt.isInverted then [] else opt.select (pointsKeyed shard name key)

variable {opt : ReadOptions} {shard : SortedMap String MeasurementSeries} {name key : String}

theorem taken_limited (limited : opt.limit ≠ 0) :
    opt.taken shard name key = (opt.unlimited.taken shard name key).take opt.limit.toNat := by
  have same : opt.unlimited.isInverted = opt.isInverted := rfl
  rw [taken, taken, same]
  split
  · rw [List.take_nil]
  · rw [select, select, if_neg limited]
    rfl

theorem mem_select (filed : Filed shard) {p : Point}
    (member : p ∈ opt.select (pointsKeyed shard name key)) :
    p ∈ opt.plain (pointsKeyed shard name key).values := by
  have directed (points : List Point)
      (among : p ∈ if opt.ascending then points else points.reverse) : p ∈ points := by
    split at among
    · exact among
    · exact List.mem_reverse.mp among
  rw [opt.select_eq filed] at member
  dsimp only at member
  split at member
  · exact directed _ member
  · exact directed _ (List.mem_of_mem_take member)

theorem seriesKey_of_mem_select (filed : Filed shard) {p : Point}
    (member : p ∈ opt.select (pointsKeyed shard name key)) : p.seriesKey = key := by
  have place := (opt.places_plain_sublist _).mem (List.mem_map_of_mem (mem_select filed member))
  obtain ⟨q, stored, same⟩ := List.mem_map.mp place
  rw [← filed.seriesKey_eq stored]
  exact (congrArg Prod.snd same).symm

theorem pairwise_select (filed : Filed shard) (unlimited : opt.limit = 0) :
    (opt.select (pointsKeyed shard name key)).Pairwise (InOrder opt.ascending) := by
  have times : (opt.plain (pointsKeyed shard name key).values).Pairwise fun p q =>
      p.time < q.time := by
    have stored : ((pointsKeyed shard name key).values.map Point.place).Pairwise (·.1 < ·.1) :=
      List.pairwise_map.mpr (filed.increasing name key)
    have given := stored.sublist (opt.places_plain_sublist _)
    exact (List.pairwise_map (f := Point.place)).mp given
  have directed : (opt.select (pointsKeyed shard name key)).Pairwise fun p q =>
      timeOrder opt.ascending p.time q.time = .lt := by
    rw [opt.select_eq filed]
    simp only [unlimited, if_true]
    cases opt.ascending with
    | true => exact times.imp Std.compare_eq_lt.mpr
    | false => exact List.pairwise_reverse.mpr (times.imp Std.compare_eq_lt.mpr)
  refine directed.imp ?_
  intro p q before
  rw [InOrder, pointOrder_eq, placeOrder, Point.place, Point.place, before]
  rfl

theorem pairwise_taken (filed : Filed shard) (name key : String) :
    (opt.unlimited.taken shard name key).Pairwise (InOrder opt.ascending) := by
  rw [taken]
  split
  · exact .nil
  · have inOrder : (opt.unlimited.select (pointsKeyed shard name key)).Pairwise
        (InOrder opt.unlimited.ascending) := pairwise_select filed rfl
    exact inOrder

theorem filter_pointsOf (filed : Filed shard) (name key : String) :
    (opt.pointsOf shard name).filter (·.seriesKey = key) = opt.taken shard name key := by
  rw [pointsOf, taken]
  split
  · rfl
  · have own : ∀ e ∈ (seriesNamed shard name).toList, (opt.select e.2).filter (·.seriesKey = key) =
        if e.1 = key then opt.select e.2 else [] := by
      intro e known
      rw [← pointsKeyed_of_mem known]
      split
      · rename_i same
        apply List.filter_eq_self.mpr
        intro p member
        simpa [same] using seriesKey_of_mem_select filed member
      · rename_i other
        apply List.filter_eq_nil_iff.mpr
        intro p member
        simpa [seriesKey_of_mem_select filed member] using other
    have others : ∀ e ∈ (seriesNamed shard name).toList, decide (e.1 = key) = false →
        (if e.1 = key then opt.select e.2 else []) = [] := by
      intro e _ other
      rw [if_neg (of_decide_eq_false other)]
    rw [← seriesNamed, SortedMap.values, List.flatMap_map, List.filter_flatMap,
      List.flatMap_congr own, ← flatMap_filter_eq others, SortedMap.filter_toList_key, pointsKeyed]
    cases (seriesNamed shard name).find? key with
    | none => simp [select, inRange, SortedMap.toList_empty]
    | some points => simp

end ReadOptions

namespace ShardSelection

def holders (g : ShardSelection) (name key : String) (opt : ReadOptions) : List UInt64 :=
  g.ids.filter fun id => (opt.plain (g.store.stored id name)).any (·.seriesKey = key)

variable {s : ShardStore} {opt : ReadOptions}

theorem taken_pos_iff {id : UInt64} (filed : Filed (s.contents id)) (name key : String) :
    0 < (opt.unlimited.taken (s.contents id) name key).length ↔
      (opt.plain (s.stored id name)).any (·.seriesKey = key) := by
  have same : ((opt.unlimited.pointsOf (s.contents id) name).filter (·.seriesKey = key)).Perm
      ((opt.plain (s.stored id name)).filter (·.seriesKey = key)) :=
    (pointsOf_perm_plain filed rfl).filter _
  rw [← ReadOptions.filter_pointsOf filed, same.length_eq, List.length_filter_pos_iff,
    List.any_eq_true]

/-- A read with a limit gives exactly the first points of a series if the series is no longer than
the limit or stands in one shard of the group. -/
theorem limit_per_series_iff (reachable : s.Reachable) (ids : List UInt64) (name : String)
    (limited : opt.limit ≠ 0) :
    ∃ stream whole given all,
      ShardSelection.read ⟨s, ids⟩ false name opt = .ok stream ∧ stream.toPoints = .ok given ∧
      ShardSelection.read ⟨s, ids⟩ false name opt.unlimited = .ok whole ∧
      whole.toPoints = .ok all ∧
      ∀ key, (given.filter (·.seriesKey = key)).take opt.limit.toNat =
          (all.filter (·.seriesKey = key)).take opt.limit.toNat ∧
        (given.filter (·.seriesKey = key) =
            (all.filter (·.seriesKey = key)).take opt.limit.toNat ↔
          (all.filter (·.seriesKey = key)).length ≤ opt.limit.toNat ∨
            (ShardSelection.holders ⟨s, ids⟩ name key opt).length ≤ 1) := by
  obtain ⟨stats, opened, -⟩ := exists_read_eq ⟨s, ids⟩ name opt
  obtain ⟨stats', opened', -⟩ := exists_read_eq ⟨s, ids⟩ name opt.unlimited
  refine ⟨_, _, _, _, opened, toPoints_ofPoints .., opened', toPoints_ofPoints .., ?_⟩
  intro key
  -- Sorting does not move points of one series apart, so each series is sorted by itself.
  let parts := ids.map fun id => opt.unlimited.taken (s.contents id) name key
  have ordered : ∀ l ∈ parts, l.Pairwise (InOrder opt.ascending) := by
    intro l member
    obtain ⟨id, -, rfl⟩ := List.mem_map.mp member
    exact ReadOptions.pairwise_taken (reachable.filed id) name key
  have filtered (o : ReadOptions) : (ids.flatMap fun id => o.pointsOf (s.contents id) name).filter
      (·.seriesKey = key) = ids.flatMap fun id => o.taken (s.contents id) name key := by
    rw [List.filter_flatMap]
    apply List.flatMap_congr
    intro id _
    exact ReadOptions.filter_pointsOf (reachable.filed id) name key
  have given : (ids.flatMap fun id => opt.taken (s.contents id) name key) =
      parts.flatMap (List.take opt.limit.toNat) := by
    rw [List.flatMap_map]
    apply List.flatMap_congr
    intro id _
    exact ReadOptions.taken_limited limited
  have all : (ids.flatMap fun id => opt.unlimited.taken (s.contents id) name key) =
      parts.flatten := List.flatMap_def
  have holding : (parts.filter (0 < ·.length)).length =
      (ShardSelection.holders ⟨s, ids⟩ name key opt).length := by
    rw [List.filter_map, List.length_map, holders]
    apply congrArg
    apply List.filter_congr
    intro id _
    rw [Bool.eq_iff_iff, ← taken_pos_iff (reachable.filed id)]
    exact decide_eq_true_iff
  have positive : 0 < opt.limit.toNat :=
    Nat.pos_of_ne_zero fun zero => limited (UInt64.toNat_inj.mp zero)
  have same : opt.unlimited.ascending = opt.ascending := rfl
  dsimp only
  rw [filter_sortPoints_comm, filter_sortPoints_comm, filtered, filtered, given, all, same]
  constructor
  · exact take_sortPoints_flatMap ordered _
  · rw [(sortPoints_perm ..).length_eq, ← holding]
    exact sortPoints_flatMap_take_iff ordered positive

theorem limit_per_series_iff_sharedSeries : sharedSeries.Reachable ∧
    ({ ascending := false, limit := 1 } : ReadOptions).limit ≠ 0 ∧
    ∃ stream whole given all,
      ShardSelection.read ⟨sharedSeries, [2, 7]⟩ false "cpu" { ascending := false, limit := 1 } =
        .ok stream ∧ stream.toPoints = .ok given ∧
      ShardSelection.read ⟨sharedSeries, [2, 7]⟩ false "cpu" { ascending := false } = .ok whole ∧
      whole.toPoints = .ok all ∧
      given.filter (·.seriesKey = "cpu") = (all.filter (·.seriesKey = "cpu")).take 1 := by
  obtain ⟨stream, whole, given, all, opened, drained, opened', drained', first⟩ :=
    limit_per_series_iff reachable_sharedSeries [2, 7] "cpu"
      (show ({ ascending := false, limit := 1 } : ReadOptions).limit ≠ 0 by decide)
  have one : ShardSelection.holders ⟨sharedSeries, [2, 7]⟩ "cpu" "cpu"
      { ascending := false, limit := 1 } = [2] := by cbv
  have exact := (first "cpu").2.mpr (.inr (by rw [one]; decide))
  exact ⟨reachable_sharedSeries, by decide, stream, whole, given, all, opened, drained, opened',
    drained', exact⟩

/-- Each shard gives one point of the series. -/
theorem limit_exceeded : sharedSeries.Reachable ∧ ([1, 2] : List UInt64).Nodup ∧
    ∃ stream whole,
      ShardSelection.read ⟨sharedSeries, [1, 2]⟩ false "cpu" { limit := 1 } = .ok stream ∧
      stream.toPoints = .ok [cpuReport 1 10, cpuReport 2 20] ∧
      ShardSelection.read ⟨sharedSeries, [1, 2]⟩ false "cpu" {} = .ok whole ∧
      whole.toPoints =
        .ok [cpuReport 1 10, cpuReport 2 20, cpuReport 3 11, cpuReport 3 21] ∧
      [cpuReport 1 10, cpuReport 2 20].filter (·.seriesKey = "cpu") ≠
        ([cpuReport 1 10, cpuReport 2 20, cpuReport 3 11, cpuReport 3 21].filter
          (·.seriesKey = "cpu")).take 1 := by
  obtain ⟨stats, opened, -⟩ := exists_read_eq ⟨sharedSeries, [1, 2]⟩ "cpu" { limit := 1 }
  obtain ⟨stats', opened', -⟩ := exists_read_eq ⟨sharedSeries, [1, 2]⟩ "cpu" {}
  refine ⟨reachable_sharedSeries, by decide, _, _, opened, ?_, opened', ?_, by decide⟩
  · rw [toPoints_ofPoints]
    cbv
  · rw [toPoints_ofPoints]
    cbv

end ShardSelection

end SeriesCluster
