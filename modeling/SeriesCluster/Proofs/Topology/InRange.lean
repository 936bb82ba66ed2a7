import SeriesCluster.Proofs.Topology.Addressed

namespace SeriesCluster

theorem TimeRange.contains_iff (r : TimeRange) (t : Int64) :
    r.contains t = true ↔ r.start.toInt ≤ t.toInt ∧ t.toInt ≤ r.stop.toInt := by
  simp [contains, Int64.le_iff_toInt_le]

namespace ShardGroup

theorem overlaps_iff (g : ShardGroup) (r : TimeRange) :
    g.overlaps r = true ↔
      g.startTime.toInt ≤ r.stop.toInt ∧ r.start.toInt < g.endTime.toInt := by
  simp [overlaps, Int64.le_iff_toInt_le, Int64.lt_iff_toInt_lt]

theorem overlaps_iff_exists {g : ShardGroup} {r : TimeRange}
    (filled : g.startTime.toInt < g.endTime.toInt) (upright : r.start ≤ r.stop) :
    g.overlaps r = true ↔ ∃ t, r.contains t = true ∧ g.contains t = true := by
  rw [Int64.le_iff_toInt_le] at upright
  constructor
  · intro overlaps
    obtain ⟨first, last⟩ := (g.overlaps_iff r).mp overlaps
    -- The later of the two starts lies in both.
    by_cases later : g.startTime.toInt ≤ r.start.toInt
    · use r.start
      rw [r.contains_iff, g.contains_iff]
      omega
    · use g.startTime
      rw [r.contains_iff, g.contains_iff]
      omega
  · rintro ⟨t, inRange, inGroup⟩
    rw [r.contains_iff] at inRange
    rw [g.contains_iff] at inGroup
    rw [g.overlaps_iff]
    omega

end ShardGroup

namespace RetentionPolicy.OnGrid

variable {p : RetentionPolicy}

theorem filled (grid : p.OnGrid) {g : ShardGroup} (listed : g ∈ p.shardGroups) :
    g.startTime.toInt < g.endTime.toInt := by
  have stop := (grid.aligned g listed).2
  have positive := p.span_pos
  omega

theorem pairwise_live (grid : p.OnGrid) {q : ShardGroup → Bool}
    (live : ∀ g, q g = true → g.isDeleted = false) :
    (p.shardGroups.filter q).Pairwise fun g h => g.startTime < h.startTime := by
  apply (grid.disjoint.filter q).imp_of_mem
  intro g h first second disjoint
  obtain ⟨listed, chosen⟩ := List.mem_filter.mp first
  have filled := grid.filled listed
  have beyond := disjoint (live g chosen) (live h (List.mem_filter.mp second).2)
  rw [Int64.le_iff_toInt_le] at beyond
  rw [Int64.lt_iff_toInt_lt]
  omega

end RetentionPolicy.OnGrid

namespace Topology

variable {t : Topology}

theorem groupsIn_of_onGrid {database name : String} {p : RetentionPolicy} (grid : p.OnGrid)
    (known : t.policy database name = .ok p) (range : TimeRange) :
    t.groupsIn database name range =
      .ok (p.shardGroups.filter fun g => !g.isDeleted && g.overlaps range) := by
  have ordered := grid.pairwise_live (q := fun g => !g.isDeleted && g.overlaps range) (by simp_all)
  unfold groupsIn
  rw [known, ok_bind]
  apply congrArg Except.ok
  apply List.mergeSort_of_pairwise
  exact ordered.imp fun less => decide_eq_true (Int64.le_of_lt less)

theorem WellFormed.policy_of_named (formed : t.WellFormed) {d : Database} (known : d ∈ t.databases)
    {p : RetentionPolicy} (listed : p ∈ d.policies) {name : String}
    (named : p.name = if name = "" then d.defaultPolicy else name) : t.policy d.name name = .ok p := by
  have resolved : d.resolve name = p.name := by
    rw [named, Database.resolve]
    simp
  rw [formed.policy_iff known, Database.policy?, resolved]
  exact find?_key_of_nodup (formed.databases d known).policies_distinct listed

/-- In every topology that commands lead to, a range of times finds those live groups of a policy that
hold one of its times, each of them once, in the order of their starts. -/
theorem finds_common_times (reached : Reachable t) {d : Database} (known : d ∈ t.databases)
    {p : RetentionPolicy} (listed : p ∈ d.policies) {name : String}
    (named : p.name = if name = "" then d.defaultPolicy else name) {range : TimeRange}
    (upright : range.start ≤ range.stop) :
    ∃ groups, t.groupsIn d.name name range = .ok groups ∧
      groups.Pairwise (fun g h => g.startTime < h.startTime) ∧ groups.Nodup ∧
      ∀ g, g ∈ groups ↔ g ∈ p.shardGroups ∧ g.isDeleted = false ∧
        ∃ time, range.contains time = true ∧ g.contains time = true := by
  have grid : p.OnGrid := reached.onGrid ⟨d, known, listed⟩
  have found := groupsIn_of_onGrid grid (reached.wellFormed.policy_of_named known listed named) range
  have ordered := grid.pairwise_live (q := fun g => !g.isDeleted && g.overlaps range) (by simp_all)
  refine ⟨_, found, ordered, ?_, ?_⟩
  · apply ordered.imp
    intro g h less same
    exact Int64.lt_irrefl (same ▸ less)
  · intro g
    rw [List.mem_filter, Bool.and_eq_true, Bool.not_eq_true']
    apply and_congr_right
    intro held
    rw [ShardGroup.overlaps_iff_exists (grid.filled held) upright]

theorem finds_common_times_atEnds :
    Reachable (({} : Topology).applyAll recreating) ∧
      (({} : Topology).applyAll recreating).databases = [⟨"db", "rp", [recreatedPolicy]⟩] ∧
      ∃ groups, (({} : Topology).applyAll recreating).groupsIn "db" "" ⟨-1, 0⟩ = .ok groups ∧
        groups.map (·.id) = [2, 3] ∧ groups.Nodup ∧
        ∀ g, g ∈ groups ↔ g ∈ recreatedPolicy.shardGroups ∧ g.isDeleted = false ∧
          ∃ time, TimeRange.contains ⟨-1, 0⟩ time = true ∧ g.contains time = true := by
  have reached : Reachable (({} : Topology).applyAll recreating) := Reachable.empty.applyAll recreating
  have known : ⟨"db", "rp", [recreatedPolicy]⟩ ∈ (({} : Topology).applyAll recreating).databases := by
    rw [databases_recreating]
    exact List.mem_cons_self
  have named : recreatedPolicy.name = if "" = "" then "rp" else "" := rfl
  have upright : (⟨-1, 0⟩ : TimeRange).start ≤ (⟨-1, 0⟩ : TimeRange).stop := by decide
  obtain ⟨groups, found, -, distinct, members⟩ :=
    finds_common_times reached known List.mem_cons_self named upright
  have ids : ((({} : Topology).applyAll recreating).groupsIn "db" "" ⟨-1, 0⟩).map
      (·.map (·.id)) = .ok [2, 3] := by
    cbv
  rw [found] at ids
  exact ⟨reached, databases_recreating, groups, found, Except.ok.inj ids, distinct, members⟩

end Topology

end SeriesCluster
