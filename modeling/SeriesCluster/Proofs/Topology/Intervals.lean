import Mathlib
import SeriesCluster.Proofs.Topology.Policies

namespace SeriesCluster

namespace ShardGroup

def interval (g : ShardGroup) : Int64 × Int64 := (g.startTime, g.endTime)

def liveStart (g : ShardGroup) : List Int64 := if g.isDeleted then [] else [g.startTime]

theorem mem_liveStart {g : ShardGroup} {t : Int64} :
    t ∈ g.liveStart ↔ g.isDeleted = false ∧ t = g.startTime := by
  unfold liveStart
  split <;> simp [*]

theorem contains_iff (g : ShardGroup) (t : Int64) :
    g.contains t = true ↔ g.startTime.toInt ≤ t.toInt ∧ t.toInt < g.endTime.toInt := by
  simp [contains, Int64.le_iff_toInt_le, Int64.lt_iff_toInt_lt]

end ShardGroup

namespace RetentionPolicy

theorem span_pos (p : RetentionPolicy) : 0 < (p.span : Int) := by
  have : 1 ≤ p.span := Nat.le_max_left _ _
  omega

theorem interval?_eq_some {span : Nat} {t start stop : Int64}
    (interval : interval? span t = some (start, stop)) :
    start.toInt = t.toInt - t.toInt % span ∧ stop.toInt = start.toInt + span := by
  unfold interval? at interval
  simp only [Int64.toInt_minValue, Int64.toInt_maxValue] at interval
  split at interval
  · rename_i fits
    cases interval
    have first : (Int64.ofInt (t.toInt - t.toInt % span)).toInt = t.toInt - t.toInt % span :=
      Int64.toInt_ofInt_of_le fits.1 (by omega)
    refine ⟨first, ?_⟩
    rw [first]
    exact Int64.toInt_ofInt_of_le (by omega) (by omega)
  · cases interval

/-- The groups of a policy, deleted ones too, take aligned intervals of the policy's span, and no two
live ones take the same. -/
structure OnGrid (p : RetentionPolicy) : Prop where
  spanned : 0 < p.shardGroupDuration.nanos
  aligned : ∀ g ∈ p.shardGroups, (p.span : Int) ∣ g.startTime.toInt ∧
    g.endTime.toInt = g.startTime.toInt + p.span
  ordered : p.shardGroups.Pairwise fun g h => g.startTime ≤ h.startTime
  apart : (p.shardGroups.flatMap ShardGroup.liveStart).Nodup

theorem nanos_shardGroupDurationFor (d : Duration) : 0 < (shardGroupDurationFor d).nanos := by
  unfold shardGroupDurationFor
  split
  · decide
  · split <;> decide

theorem onGrid_ofSpec {spec : PolicySpec} {p : RetentionPolicy} (asked : ofSpec spec = .ok p) :
    p.OnGrid := by
  unfold ofSpec at asked
  dsimp only at asked
  split at asked
  · cases asked
  · cases asked
    refine ⟨?_, nofun, .nil, .nil⟩
    dsimp only
    split
    · exact nanos_shardGroupDurationFor _
    · rename_i nonzero
      simp only [Duration.isZero, beq_iff_eq] at nonzero
      omega

namespace OnGrid

variable {p : RetentionPolicy}

theorem edited (grid : p.OnGrid) {groups : List ShardGroup}
    (same : groups.map ShardGroup.interval = p.shardGroups.map ShardGroup.interval)
    (fewer : (groups.flatMap ShardGroup.liveStart).Sublist
      (p.shardGroups.flatMap ShardGroup.liveStart)) :
    OnGrid { p with shardGroups := groups } where
  spanned := grid.spanned
  aligned g member := by
    have listed : g.interval ∈ p.shardGroups.map ShardGroup.interval :=
      same ▸ List.mem_map_of_mem member
    obtain ⟨before, known, unchanged⟩ := List.mem_map.mp listed
    obtain ⟨start, stop⟩ := Prod.mk.inj unchanged
    have aligned := grid.aligned before known
    rw [start, stop] at aligned
    exact aligned
  ordered := by
    have starts : groups.map (·.startTime) = p.shardGroups.map (·.startTime) := by
      have first := congrArg (List.map Prod.fst) same
      rw [List.map_map, List.map_map] at first
      exact first
    have ordered := List.pairwise_map.mpr grid.ordered
    rw [← starts] at ordered
    exact List.pairwise_map.mp ordered
  apart := grid.apart.sublist fewer

theorem not_mem_liveStarts (grid : p.OnGrid) {t start stop : Int64} (uncovered : p.groupAt? t = none)
    (interval : interval? p.span t = some (start, stop)) :
    start ∉ p.shardGroups.flatMap ShardGroup.liveStart := by
  intro member
  obtain ⟨g, listed, live⟩ := List.mem_flatMap.mp member
  obtain ⟨live, same⟩ := ShardGroup.mem_liveStart.mp live
  obtain ⟨first, -⟩ := interval?_eq_some interval
  have stop := (grid.aligned g listed).2
  have positive := p.span_pos
  have low := Int.emod_nonneg t.toInt (by omega : (p.span : Int) ≠ 0)
  have high := Int.emod_lt_of_pos t.toInt positive
  -- A live group with this start has the whole interval, and the time with it.
  have covers : g.contains t = true := by
    rw [ShardGroup.contains_iff, stop, ← same]
    omega
  have free := List.find?_eq_none.mp uncovered g listed
  rw [live, covers] at free
  exact free rfl

theorem grown (grid : p.OnGrid) {t : Int64} {g : ShardGroup} (live : g.isDeleted = false)
    (uncovered : p.groupAt? t = none)
    (interval : interval? p.span t = some (g.startTime, g.endTime)) :
    OnGrid { p with
      shardGroups := (p.shardGroups ++ [g]).mergeSort fun a b => a.startTime ≤ b.startTime } where
  spanned := grid.spanned
  aligned h member := by
    rcases List.mem_append.mp (List.mem_mergeSort.mp member) with kept | new
    · exact grid.aligned h kept
    · cases List.mem_singleton.mp new
      obtain ⟨first, last⟩ := interval?_eq_some interval
      refine ⟨?_, last⟩
      rw [first]
      exact Int.dvd_self_sub_emod
  ordered := by
    have sorted : ((p.shardGroups ++ [g]).mergeSort fun a b => a.startTime ≤ b.startTime).Pairwise
        fun a b => decide (a.startTime ≤ b.startTime) = true :=
      List.pairwise_mergeSort (fun a b c => by simpa using Int64.le_trans)
        (fun a b => by simpa using Int64.le_total _ _) _
    simpa using sorted
  apart := by
    have sorted := List.mergeSort_perm (p.shardGroups ++ [g]) fun a b => a.startTime ≤ b.startTime
    rw [(sorted.flatMap_right ShardGroup.liveStart).nodup_iff, List.flatMap_append,
      List.flatMap_singleton, ShardGroup.liveStart, live, if_neg Bool.false_ne_true,
      ← List.concat_eq_append, List.nodup_concat]
    exact ⟨grid.not_mem_liveStarts uncovered interval, grid.apart⟩

theorem evolves {p' : RetentionPolicy} (grid : p.OnGrid) (step : p.Evolves p') : p'.OnGrid := by
  cases step with
  | grown g live uncovered interval => exact grid.grown live uncovered interval
  | disowned node =>
    refine grid.edited ?_ ?_
    · rw [List.map_map]
      rfl
    · rw [List.flatMap_map]
      exact .refl _
  | groupDeleted id deletedAt =>
    refine grid.edited (map_updateFirst fun _ => rfl) (flatMap_updateFirst_sublist fun g => ?_)
    exact List.nil_sublist _
  | shardDropped id =>
    exact grid.edited (map_updateFirst fun _ => rfl) (flatMap_updateFirst_sublist fun _ => .refl _)

end OnGrid

/-- The groups of a policy are ordered intervals of one length, and live ones do not overlap. -/
structure Tiled (p : RetentionPolicy) (span : Int) : Prop where
  positive : 0 < span
  aligned : ∀ g ∈ p.shardGroups, span ∣ g.startTime.toInt
  length : ∀ g ∈ p.shardGroups, g.endTime.toInt = g.startTime.toInt + span
  ordered : p.shardGroups.Pairwise fun g h => g.startTime ≤ h.startTime
  disjoint : p.shardGroups.Pairwise fun g h =>
    g.isDeleted = false → h.isDeleted = false → g.endTime ≤ h.startTime
  unique : ∀ t, (p.shardGroups.filter fun g => !g.isDeleted && g.contains t).length ≤ 1

theorem add_le_of_dvd {n a b : Int} (first : n ∣ a) (second : n ∣ b) (less : a < b) : a + n ≤ b := by
  have apart : n ≤ b - a := Int.le_of_dvd (by omega) (Int.dvd_sub second first)
  omega

theorem length_le_one_of_pairwise {α : Type} {l : List α} {q : α → Bool}
    (exclusive : l.Pairwise fun a b => q a = true → q b = true → False) :
    (l.filter q).length ≤ 1 := by
  have kept := exclusive.filter q
  have holds : ∀ a ∈ l.filter q, q a = true := fun a member => (List.mem_filter.mp member).2
  match filtered : l.filter q with
  | [] => simp
  | [_] => simp
  | a :: b :: _ =>
    rw [filtered] at kept holds
    exact absurd (holds b (by simp)) ((List.pairwise_cons.mp kept).1 b (by simp) (holds a (by simp)))

theorem OnGrid.disjoint {p : RetentionPolicy} (grid : p.OnGrid) :
    p.shardGroups.Pairwise fun g h =>
      g.isDeleted = false → h.isDeleted = false → g.endTime ≤ h.startTime := by
  have apart := (List.nodup_flatMap.mp grid.apart).2
  -- Starts that are in order and differ are a whole span apart, since both are on the grid.
  refine List.Pairwise.imp_of_mem ?_ (grid.ordered.and apart)
  rintro g h first second ⟨order, differ⟩ live alive
  have unequal : g.startTime ≠ h.startTime := fun same =>
    differ (ShardGroup.mem_liveStart.mpr ⟨live, rfl⟩) (ShardGroup.mem_liveStart.mpr ⟨alive, same⟩)
  have less : g.startTime.toInt < h.startTime.toInt := by
    have le := Int64.le_iff_toInt_le.mp order
    have ne : g.startTime.toInt ≠ h.startTime.toInt := fun same => unequal (Int64.toInt_inj.mp same)
    omega
  obtain ⟨aligned, stop⟩ := grid.aligned g first
  rw [Int64.le_iff_toInt_le, stop]
  exact add_le_of_dvd aligned (grid.aligned h second).1 less

theorem OnGrid.tiled {p : RetentionPolicy} (grid : p.OnGrid) : p.Tiled p.span where
  positive := p.span_pos
  aligned g listed := (grid.aligned g listed).1
  length g listed := (grid.aligned g listed).2
  ordered := grid.ordered
  disjoint := grid.disjoint
  unique t := by
    refine length_le_one_of_pairwise (grid.disjoint.imp ?_)
    intro g h disjoint first second
    rw [Bool.and_eq_true, Bool.not_eq_true', ShardGroup.contains_iff] at first second
    have beyond := Int64.le_iff_toInt_le.mp (disjoint first.1 second.1)
    omega

theorem OnGrid.span_eq {p : RetentionPolicy} (grid : p.OnGrid) :
    p.span = min p.shardGroupDuration.nanos Int64.maxValue.toInt.natAbs := by
  have spanned : 1 ≤ p.shardGroupDuration.nanos := grid.spanned
  have positive : 1 ≤ Int64.maxValue.toInt.natAbs := by decide
  exact Nat.max_eq_right (Nat.le_min.mpr ⟨spanned, positive⟩)

end RetentionPolicy

namespace Topology

theorem Reachable.onGrid {t : Topology} (reached : Reachable t) {p : RetentionPolicy}
    (listed : t.Lists p) : p.OnGrid :=
  reached.everyPolicy RetentionPolicy.onGrid_ofSpec RetentionPolicy.OnGrid.evolves p listed

/-- In every topology that commands lead to, the groups of each policy tile the times with intervals of
the policy's shard group duration, as far as it is within a timestamp. -/
theorem policies_tiled {t : Topology} (reached : Reachable t) {d : Database}
    (known : d ∈ t.databases) {p : RetentionPolicy} (listed : p ∈ d.policies) :
    p.Tiled (min p.shardGroupDuration.nanos Int64.maxValue.toInt.natAbs : Nat) := by
  have grid : p.OnGrid := reached.onGrid ⟨d, known, listed⟩
  rw [← grid.span_eq]
  exact grid.tiled

def recreating : List Command :=
  [.createDataNode "a:8086" "a:8088",
    .createDatabase "db" (some { name := "rp", shardGroupDuration := some .hour }),
    .createShardGroup "db" "rp" 0, .createShardGroup "db" "" (-1),
    .deleteShardGroup "db" "rp" 1 7, .createShardGroup "db" "rp" 5]

def recreatedPolicy : RetentionPolicy :=
  ⟨"rp", .zero, .hour, 1,
    [⟨2, -3600000000000, 0, none, [⟨2, [⟨1⟩]⟩]⟩, ⟨1, 0, 3600000000000, some 7, [⟨1, [⟨1⟩]⟩]⟩,
      ⟨3, 0, 3600000000000, none, [⟨3, [⟨1⟩]⟩]⟩]⟩

theorem databases_recreating :
    (({} : Topology).applyAll recreating).databases = [⟨"db", "rp", [recreatedPolicy]⟩] := by
  cbv

theorem policies_tiled_recreated :
    Reachable (({} : Topology).applyAll recreating) ∧
      (({} : Topology).applyAll recreating).databases = [⟨"db", "rp", [recreatedPolicy]⟩] ∧
      recreatedPolicy.Tiled 3600000000000 := by
  have reached : Reachable (({} : Topology).applyAll recreating) := Reachable.empty.applyAll recreating
  have known : ⟨"db", "rp", [recreatedPolicy]⟩ ∈ (({} : Topology).applyAll recreating).databases := by
    rw [databases_recreating]
    exact List.mem_singleton.mpr rfl
  exact ⟨reached, databases_recreating, policies_tiled reached known (List.mem_singleton.mpr rfl)⟩

end Topology

end SeriesCluster
