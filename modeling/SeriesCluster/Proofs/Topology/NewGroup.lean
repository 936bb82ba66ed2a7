import Mathlib
import SeriesCluster.Proofs.Topology.Intervals

namespace SeriesCluster

namespace RetentionPolicy

variable {p : RetentionPolicy} {t : Int64}

/-- Where the interval starts that holds a time: the multiple of the span below it. -/
def startOf (p : RetentionPolicy) (t : Int64) : Int := t.toInt / p.span * p.span

def HasInterval (p : RetentionPolicy) (t : Int64) : Prop :=
  Int64.minValue.toInt ≤ p.startOf t ∧ p.startOf t + p.span ≤ Int64.maxValue.toInt

theorem startOf_eq_sub (p : RetentionPolicy) (t : Int64) :
    p.startOf t = t.toInt - t.toInt % p.span := by
  have whole := Int.mul_ediv_add_emod t.toInt p.span
  rw [startOf, Int.mul_comm]
  omega

theorem interval?_eq_none_iff : interval? p.span t = none ↔ ¬ p.HasInterval t := by
  rw [HasInterval, startOf_eq_sub, interval?]
  split
  · rename_i fits
    simpa using fits
  · rename_i outside
    simpa using outside

theorem OnGrid.eq_startOf (grid : p.OnGrid) {g : ShardGroup} (listed : g ∈ p.shardGroups)
    (holds : g.contains t = true) :
    g.startTime.toInt = p.startOf t ∧ g.endTime.toInt = p.startOf t + p.span := by
  obtain ⟨⟨k, start⟩, stop⟩ := grid.aligned g listed
  obtain ⟨after, before⟩ := (g.contains_iff t).mp holds
  have positive := p.span_pos
  rw [Int.mul_comm] at start
  -- The group starts `k` spans away from zero, and the time lies less than a span behind its start.
  have low : k ≤ t.toInt / p.span := by
    rw [Int.le_ediv_iff_mul_le positive]
    omega
  have high : t.toInt / p.span < k + 1 := by
    rw [Int.ediv_lt_iff_lt_mul positive, Int.add_mul]
    omega
  have same : t.toInt / p.span = k := by omega
  rw [startOf, same]
  omega

theorem OnGrid.hasInterval_of_groupAt? (grid : p.OnGrid) {g : ShardGroup}
    (covered : p.groupAt? t = some g) : p.HasInterval t := by
  have holds := List.find?_some covered
  rw [Bool.and_eq_true] at holds
  obtain ⟨start, stop⟩ := grid.eq_startOf (List.mem_of_find?_eq_some covered) holds.2
  rw [HasInterval, ← stop, ← start]
  exact ⟨g.startTime.minValue_le_toInt, g.endTime.toInt_le⟩

end RetentionPolicy

namespace Topology

variable {t t' : Topology} {database policy : String} {timestamp : Int64} {p : RetentionPolicy}

def insertGroup (g : ShardGroup) (groups : List ShardGroup) : List ShardGroup :=
  (groups ++ [g]).mergeSort fun a b => a.startTime ≤ b.startTime

def addGroup (t : Topology) (database : String) (p : RetentionPolicy) (g : ShardGroup) : Topology :=
  { t with
    databases := (t.updatePolicy database p.name (insertGroup g)).databases
    maxShardGroupId := t.maxShardGroupId + 1
    maxShardId := t.maxShardId + UInt64.ofNat g.shards.length }

theorem createShardGroup_of_no_nodes (none : t.dataNodes = []) :
    t.createShardGroup database policy timestamp = .error (.refused .noDataNodes) := by
  rw [createShardGroup, none]
  rfl

theorem createShardGroup_of_node (nodes : t.dataNodes ≠ []) :
    t.createShardGroup database policy timestamp = do
      let p ← t.policy database policy
      if (p.groupAt? timestamp).isSome then return t
      match RetentionPolicy.interval? p.span timestamp with
      | none => throw (.refused (.noInterval timestamp p.span))
      | some (start, stop) => return t.addGroup database p (t.newGroup p start stop) := by
  have listed : (t.dataNodes.map (·.id)).isEmpty = false := by simpa using nodes
  rw [createShardGroup]
  dsimp only
  rw [listed, if_neg Bool.false_ne_true]
  rfl

theorem createShardGroup_of_covered (nodes : t.dataNodes ≠ [])
    (known : t.policy database policy = .ok p) (covered : (p.groupAt? timestamp).isSome) :
    t.createShardGroup database policy timestamp = .ok t := by
  rw [createShardGroup_of_node nodes, known, ok_bind, if_pos covered]
  rfl

theorem createShardGroup_of_uncovered (nodes : t.dataNodes ≠ [])
    (known : t.policy database policy = .ok p) (uncovered : p.groupAt? timestamp = none) :
    t.createShardGroup database policy timestamp =
      match RetentionPolicy.interval? p.span timestamp with
      | none => .error (.refused (.noInterval timestamp p.span))
      | some (start, stop) => .ok (t.addGroup database p (t.newGroup p start stop)) := by
  rw [createShardGroup_of_node nodes, known, ok_bind, uncovered, Option.isSome_none,
    if_neg Bool.false_ne_true]
  rfl

inductive GroupRefused (t : Topology) (database policy : String) (timestamp : Int64) : Error → Prop
  | noNodes (none : t.dataNodes = []) :
    GroupRefused t database policy timestamp (.refused .noDataNodes)
  | noPolicy {fault : Error} (nodes : t.dataNodes ≠ [])
    (unknown : t.policy database policy = .error fault) :
    GroupRefused t database policy timestamp fault
  | noInterval {p : RetentionPolicy} (nodes : t.dataNodes ≠ [])
    (known : t.policy database policy = .ok p) (outside : ¬ p.HasInterval timestamp) :
    GroupRefused t database policy timestamp (.refused (.noInterval timestamp p.span))

theorem Reachable.groupAt?_eq_none (reached : Reachable t) (known : t.policy database policy = .ok p)
    (outside : ¬ p.HasInterval timestamp) : p.groupAt? timestamp = none := by
  have grid : p.OnGrid := reached.onGrid (lists_of_policy known)
  cases found : p.groupAt? timestamp with
  | none => rfl
  | some g => exact absurd (grid.hasInterval_of_groupAt? found) outside

theorem GroupRefused.apply_eq (reached : Reachable t) {fault : Error}
    (refused : t.GroupRefused database policy timestamp fault) :
    t.apply (.createShardGroup database policy timestamp) = .error fault := by
  rw [apply, perform]
  cases refused with
  | noNodes none =>
    rw [createShardGroup_of_no_nodes none]
    rfl
  | noPolicy nodes unknown =>
    rw [createShardGroup_of_node nodes, unknown]
    rfl
  | noInterval nodes known outside =>
    rw [createShardGroup_of_uncovered nodes known (reached.groupAt?_eq_none known outside),
      RetentionPolicy.interval?_eq_none_iff.mpr outside]
    rfl

theorem exists_createShardGroup_eq (nodes : t.dataNodes ≠ [])
    (known : t.policy database policy = .ok p) (within : p.HasInterval timestamp) :
    ∃ s, t.createShardGroup database policy timestamp = .ok s := by
  cases found : p.groupAt? timestamp with
  | some g => exact ⟨t, createShardGroup_of_covered nodes known (by rw [found]; rfl)⟩
  | none =>
    rw [createShardGroup_of_uncovered nodes known found]
    cases interval : RetentionPolicy.interval? p.span timestamp with
    | none => exact absurd within (RetentionPolicy.interval?_eq_none_iff.mp interval)
    | some ends => exact ⟨_, rfl⟩

theorem Reachable.createsGroup_iff (reached : Reachable t) :
    (∃ t', t.apply (.createShardGroup database policy timestamp) = .ok t') ↔
      t.dataNodes ≠ [] ∧ ∃ p, t.policy database policy = .ok p ∧ p.HasInterval timestamp := by
  constructor
  · rintro ⟨t', applied⟩
    have accepted : ∀ fault, ¬ t.GroupRefused database policy timestamp fault := by
      intro fault refused
      rw [refused.apply_eq reached] at applied
      cases applied
    have nodes : t.dataNodes ≠ [] := fun none => accepted _ (.noNodes none)
    refine ⟨nodes, ?_⟩
    cases known : t.policy database policy with
    | error fault => exact absurd (.noPolicy nodes known) (accepted fault)
    | ok p =>
      by_contra outside
      exact accepted _ (.noInterval nodes known fun within => outside ⟨p, rfl, within⟩)
  · rintro ⟨nodes, p, known, within⟩
    obtain ⟨s, created⟩ := exists_createShardGroup_eq nodes known within
    refine ⟨{ s with index := s.index + 1 }, ?_⟩
    rw [apply, perform, created]
    rfl

theorem Reachable.groupRefused_iff (reached : Reachable t) {fault : Error} :
    t.apply (.createShardGroup database policy timestamp) = .error fault ↔
      t.GroupRefused database policy timestamp fault := by
  constructor
  · intro refused
    have sound : ∀ e, t.GroupRefused database policy timestamp e → e = fault := by
      intro e given
      rw [given.apply_eq reached] at refused
      exact Except.error.inj refused
    by_cases nodes : t.dataNodes = []
    · exact sound _ (.noNodes nodes) ▸ .noNodes nodes
    cases known : t.policy database policy with
    | error e => exact sound e (.noPolicy nodes known) ▸ .noPolicy nodes known
    | ok p =>
      have outside : ¬ p.HasInterval timestamp := by
        intro within
        obtain ⟨t', applied⟩ := reached.createsGroup_iff.mpr ⟨nodes, p, known, within⟩
        rw [applied] at refused
        cases refused
      exact sound _ (.noInterval nodes known outside) ▸ .noInterval nodes known outside
  · exact GroupRefused.apply_eq reached

end Topology

end SeriesCluster
