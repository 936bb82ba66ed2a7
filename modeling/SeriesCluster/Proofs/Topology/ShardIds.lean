import Mathlib
import SeriesCluster.Proofs.Topology.Groups
import SeriesCluster.Proofs.Topology.IdPool

namespace SeriesCluster.Topology

def shardIds (t : Topology) : List UInt64 := t.gather ShardGroup.shardIds

def groupIds (t : Topology) : List UInt64 := t.gather fun g => [g.id]

def shardPool (t : Topology) : IdPool := ⟨t.shardIds, t.maxShardId⟩

def groupPool (t : Topology) : IdPool := ⟨t.groupIds, t.maxShardGroupId⟩

theorem shrinks_shardIds : Shrinks ShardGroup.shardIds where
  disowned _ g := by simp [ShardGroup.shardIds, disown, Function.comp_def]
  deleted _ _ := .refl _
  dropped _ _ := List.filter_sublist.map _

theorem shrinks_id : Shrinks fun g => [g.id] where
  disowned _ _ := .refl _
  deleted _ _ := .refl _
  dropped _ _ := .refl _

variable {t t' : Topology}

theorem shardIds_newGroup (t : Topology) (p : RetentionPolicy) (start stop : Int64) :
    (t.newGroup p start stop).shardIds =
      t.shardPool.next (t.newGroup p start stop).shards.length := by
  simp [ShardGroup.shardIds, newGroup, newShards, IdPool.next, shardPool, Function.comp_def]

theorem Accepted.shardPool {c : Command} (accepted : Accepted t c t') :
    t.shardPool.Step t'.shardPool := by
  rcases accepted.gathered shrinks_shardIds with ⟨kept, -, shards⟩ | ⟨added, -, shards⟩
  · have step : t.shardPool.Step ⟨t'.shardIds, t.maxShardId⟩ := .returned kept
    rwa [← shards] at step
  · rw [shardIds_newGroup] at added
    have step : t.shardPool.Step ⟨t'.shardIds, t.maxShardId + UInt64.ofNat _⟩ := .given added
    rwa [← shards] at step

theorem Accepted.groupPool {c : Command} (accepted : Accepted t c t') :
    t.groupPool.Step t'.groupPool := by
  rcases accepted.gathered shrinks_id with ⟨kept, groups, -⟩ | ⟨added, groups, -⟩
  · have step : t.groupPool.Step ⟨t'.groupIds, t.maxShardGroupId⟩ := .returned kept
    rwa [← groups] at step
  · have one : t.groupPool.next 1 = [t.maxShardGroupId + 1] := by simp [IdPool.next, Topology.groupPool]
    have step : t.groupPool.Step ⟨t'.groupIds, t.maxShardGroupId + UInt64.ofNat 1⟩ :=
      .given (one ▸ added)
    rwa [show UInt64.ofNat 1 = 1 from rfl, ← groups] at step

/-- Commands that lead from one topology to another, with room in both counters for all ids that they
give out. -/
inductive Leads (t : Topology) : Topology → Prop
  | refl : Leads t t
  | step {u v : Topology} {c : Command} (prior : Leads t u) (applied : u.apply c = .ok v)
    (shards : u.shardPool.Fits v.shardPool) (groups : u.groupPool.Fits v.groupPool) : Leads t v

namespace Leads

theorem shardPool (run : Leads t t') : t.shardPool.Leads t'.shardPool := by
  induction run with
  | refl => exact .refl
  | step prior applied shards groups ih =>
    obtain ⟨s, accepted, rfl⟩ := accepted_of_apply applied
    exact ih.tail ⟨accepted.shardPool, shards⟩

theorem groupPool (run : Leads t t') : t.groupPool.Leads t'.groupPool := by
  induction run with
  | refl => exact .refl
  | step prior applied shards groups ih =>
    obtain ⟨s, accepted, rfl⟩ := accepted_of_apply applied
    exact ih.tail ⟨accepted.groupPool, groups⟩

end Leads

theorem mem_locations {l : ShardLocation} :
    l ∈ t.locations ↔ ∃ d ∈ t.databases, ∃ p ∈ d.policies, ∃ g ∈ p.shardGroups, ∃ s ∈ g.shards,
      l = ⟨d.name, p.name, g.id, s⟩ := by
  simp [locations, eq_comm]

theorem map_locations (t : Topology) : t.locations.map (·.shard.id) = t.shardIds := by
  simp only [locations, List.map_flatMap, List.map_map]
  rfl

/-- Whether the place of a shard id is asked for with success wherever a group holds it, and only
then. -/
structure Locates (t : Topology) (id : UInt64) : Prop where
  found : ∀ d ∈ t.databases, ∀ p ∈ d.policies, ∀ g ∈ p.shardGroups, ∀ s ∈ g.shards, s.id = id →
    t.shardLocation? id = some ⟨d.name, p.name, g.id, s⟩
  none_iff : t.shardLocation? id = none ↔
    ∀ d ∈ t.databases, ∀ p ∈ d.policies, ∀ g ∈ p.shardGroups, id ∉ g.shardIds

theorem locates (distinct : t.shardIds.Nodup) (id : UInt64) : t.Locates id where
  found d known p listed g member s held same := by
    have place : ⟨d.name, p.name, g.id, s⟩ ∈ t.locations :=
      mem_locations.mpr ⟨d, known, p, listed, g, member, s, held, rfl⟩
    rw [← map_locations] at distinct
    cases found : t.shardLocation? id with
    | none =>
      have other := List.find?_eq_none.mp found _ place
      simp [same] at other
    | some l =>
      have there : l ∈ t.locations := List.mem_of_find?_eq_some found
      have named : l.shard.id = id := by simpa using List.find?_some found
      rw [List.inj_on_of_nodup_map distinct there place (named.trans same.symm)]
  none_iff := by
    simp only [shardLocation?, List.find?_eq_none, mem_locations, ShardGroup.shardIds]
    constructor
    · rintro free d known p listed g member held
      obtain ⟨s, held, same⟩ := List.mem_map.mp held
      have other := free _ ⟨d, known, p, listed, g, member, s, held, rfl⟩
      simp [same] at other
    · rintro free l ⟨d, known, p, listed, g, member, s, held, rfl⟩ same
      have same : s.id = id := by simpa using same
      exact free d known p listed g member (List.mem_map.mpr ⟨s, held, same⟩)

/-- Along commands from the empty topology ids are distinct and counted, an id that is gone does not
come back, and a shard is found where it is. -/
theorem ids_given_once {t u v : Topology} (first : Leads {} t) (second : Leads t u)
    (third : Leads u v) :
    t.shardPool.Sound ∧ t.groupPool.Sound ∧
      (∀ id ∈ t.shardIds, id ∉ u.shardIds → id ∉ v.shardIds) ∧
      (∀ id ∈ t.groupIds, id ∉ u.groupIds → id ∉ v.groupIds) ∧ ∀ id, t.Locates id := by
  have shards : t.shardPool.Sound := first.shardPool.sound ⟨.nil, nofun⟩
  have groups : t.groupPool.Sound := first.groupPool.sound ⟨.nil, nofun⟩
  refine ⟨shards, groups, ?_, ?_, locates shards.nodup⟩
  · intro id was gone
    exact second.shardPool.not_mem shards third.shardPool was gone
  · intro id was gone
    exact second.groupPool.not_mem groups third.groupPool was gone

def hourly (index last : UInt64) (groups : List ShardGroup) : Topology where
  index := index
  dataNodes := [⟨1, "a:8086", "a:8088", false⟩]
  databases := [⟨"db", "rp", [⟨"rp", .zero, .hour, 1, groups⟩]⟩]
  maxNodeId := 1
  maxShardGroupId := last
  maxShardId := last

def firstHour (shards : List ShardInfo) : ShardGroup := ⟨1, 0, 3600000000000, none, shards⟩

def hourBefore : ShardGroup := ⟨2, -3600000000000, 0, none, [⟨2, [⟨1⟩]⟩]⟩

theorem leads_firstHour : Leads {} (hourly 3 1 [firstHour [⟨1, [⟨1⟩]⟩]]) := by
  have node : ({} : Topology).apply (.createDataNode "a:8086" "a:8088") =
      .ok { index := 1, dataNodes := [⟨1, "a:8086", "a:8088", false⟩], maxNodeId := 1 } := by
    cbv
  have database :
      ({ index := 1, dataNodes := [⟨1, "a:8086", "a:8088", false⟩], maxNodeId := 1 } :
        Topology).apply (.createDatabase "db" (some { name := "rp", shardGroupDuration := some .hour })) =
      .ok (hourly 2 0 []) := by
    cbv
  have group : (hourly 2 0 []).apply (.createShardGroup "db" "" 5) =
      .ok (hourly 3 1 [firstHour [⟨1, [⟨1⟩]⟩]]) := by
    cbv
  refine .step (.step (.step .refl node ?_ ?_) database ?_ ?_) group ?_ ?_
  all_goals
    unfold IdPool.Fits
    decide

theorem leads_dropped :
    Leads (hourly 3 1 [firstHour [⟨1, [⟨1⟩]⟩]]) (hourly 4 1 [firstHour []]) := by
  have dropped : (hourly 3 1 [firstHour [⟨1, [⟨1⟩]⟩]]).apply (.dropShard 1) =
      .ok (hourly 4 1 [firstHour []]) := by
    cbv
  refine .step .refl dropped ?_ ?_
  all_goals
    unfold IdPool.Fits
    decide

theorem leads_hourBefore :
    Leads (hourly 4 1 [firstHour []]) (hourly 5 2 [hourBefore, firstHour []]) := by
  have group : (hourly 4 1 [firstHour []]).apply (.createShardGroup "db" "rp" (-1)) =
      .ok (hourly 5 2 [hourBefore, firstHour []]) := by
    cbv
  refine .step .refl group ?_ ?_
  all_goals
    unfold IdPool.Fits
    decide

theorem ids_given_once_hourly :
    ∃ t u v, Leads {} t ∧ Leads t u ∧ Leads u v ∧ t.shardIds = [1] ∧ u.shardIds = [] ∧
      v.shardIds = [2] ∧ 1 ∉ v.shardIds ∧ ∀ id, t.Locates id := by
  obtain ⟨-, -, gone, -, located⟩ := ids_given_once leads_firstHour leads_dropped leads_hourBefore
  refine ⟨_, _, _, leads_firstHour, leads_dropped, leads_hourBefore, by decide, by decide,
    by decide, ?_, located⟩
  exact gone 1 (by decide) (by decide)

end SeriesCluster.Topology
