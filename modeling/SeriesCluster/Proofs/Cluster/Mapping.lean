import SeriesCluster.Cluster.Mapping
import SeriesCluster.Proofs.Cluster.Routing
import SeriesCluster.Proofs.Store.Read
import SeriesCluster.Proofs.Topology.ShardIds

namespace SeriesCluster

namespace Mapper

theorem contents_createMissing (policy : ReconcilePolicy) (source : Source) (ids : List UInt64)
    (e : ShardEngine) (id : UInt64) :
    (createMissing policy source ids e).2.store.contents id = e.store.contents id := by
  induction ids generalizing e with
  | nil => rfl
  | cons first rest ih =>
    rw [createMissing]
    cases created : e.createShard source first with
    | ok e' =>
      have same : e'.store.contents id = e.store.contents id := by
        unfold ShardEngine.createShard at created
        split at created
        · cases created
        · cases created
          exact e.store.contents_createShard source first id true
      exact (ih e').trans same
    | error cause =>
      cases policy with
      | fail => rfl
      | ignore => exact ih e
      | warn => exact ih e

def ownedShards (groups : List ShardGroup) : List ShardInfo :=
  (groups.flatMap (·.shards)).filter fun shard => !shard.owners.isEmpty

/-- A source has been given the shards of these groups, each routed to one node that owns it. -/
structure Located (reader : UInt64) (groups : List ShardGroup) (s : SourceMapping) : Prop where
  shards : s.shards = ownedShards groups
  covers : s.routing.Covers reader (ownedShards groups)

structure Maps (reader : UInt64) (lookup : GroupLookup) (start : ShardEngine) (s : State) : Prop where
  contents : ∀ id, s.engine.store.contents id = start.store.contents id
  located : ∀ source info, s.sources.find? source = some info →
    ∃ groups, lookup source = .ok groups ∧ Located reader groups info

namespace Maps

variable {m : Mapper} {lookup : GroupLookup} {start : ShardEngine} {s : State}

theorem begin (reader : UInt64) (lookup : GroupLookup) (start : ShardEngine) :
    Maps reader lookup start { engine := start } where
  contents _ := rfl
  located _ _ found := nomatch found

theorem mapGroups (maps : Maps m.nodeId lookup start s) (picks : Picks) {source : Source}
    {groups : List ShardGroup} (known : lookup source = .ok groups) :
    Maps m.nodeId lookup start (m.mapGroups picks source groups s).2 := by
  have kept (ids : List UInt64) (id : UInt64) :
      (reconcile m.policy source ids s.engine).2.store.contents id = start.store.contents id :=
    (contents_createMissing ..).trans (maps.contents id)
  have owned : ∀ shard ∈ ownedShards groups, shard.owners.isEmpty = false := fun shard member => by
    simpa using (List.mem_filter.mp member).2
  have covers := (Routing.Covers.empty m.nodeId).extend owned picks s.used
  unfold Mapper.mapGroups
  dsimp only
  split
  · exact ⟨kept _, maps.located⟩
  · refine ⟨kept _, fun other info found => ?_⟩
    dsimp only at found
    rw [SortedMap.find?_insert] at found
    split at found
    · rename_i same
      cases found
      exact ⟨groups, same ▸ known, rfl, covers⟩
    · exact maps.located other info found

theorem mapSource (maps : Maps m.nodeId lookup start s) (picks : Picks) (source : Source) :
    Maps m.nodeId lookup start (m.mapSource lookup picks source s).2 := by
  unfold Mapper.mapSource
  split
  · exact maps
  · have noted : Maps m.nodeId lookup start { s with lookups := s.lookups ++ [source] } :=
      ⟨maps.contents, maps.located⟩
    dsimp only
    split
    · exact noted
    · rename_i groups known
      exact noted.mapGroups picks known

theorem mapMeasurements (maps : Maps m.nodeId lookup start s) (picks : Picks)
    (asked : List Measurement) :
    Maps m.nodeId lookup start (m.mapMeasurements lookup picks asked s).2 := by
  induction asked generalizing s with
  | nil => exact maps
  | cons q asked ih =>
    have mapped := maps.mapSource picks q.source
    rw [Mapper.mapMeasurements]
    split
    · rename_i failed
      rwa [failed] at mapped
    · rename_i done
      rw [done] at mapped
      exact ih mapped

end Maps

end Mapper

namespace Topology

variable {t : Topology} {database policy : String} {range : TimeRange} {groups : List ShardGroup}

theorem exists_of_groupsIn (found : t.groupsIn database policy range = .ok groups) :
    ∃ d p, t.database? database = some d ∧ d.policy? policy = some p ∧
      groups.Perm (p.shardGroups.filter fun g => !g.isDeleted && g.overlaps range) := by
  obtain ⟨p, known, listed⟩ := exists_of_bind_eq_ok found
  cases listed
  obtain ⟨d, here, named⟩ := exists_of_policy known
  exact ⟨d, p, here, named, List.mergeSort_perm _ _⟩

theorem nodup_ownedShards (distinct : t.shardIds.Nodup)
    (found : t.groupsIn database policy range = .ok groups) :
    ((Mapper.ownedShards groups).map (·.id)).Nodup := by
  obtain ⟨d, p, known, named, same⟩ := exists_of_groupsIn found
  have inDatabase := (List.nodup_flatMap.mp distinct).1 d (List.mem_of_find?_eq_some known)
  have inPolicy : (p.shardGroups.flatMap ShardGroup.shardIds).Nodup :=
    (List.nodup_flatMap.mp inDatabase).1 p (List.mem_of_find?_eq_some named)
  have inGroups : (groups.flatMap ShardGroup.shardIds).Nodup :=
    (same.flatMap_right _).nodup_iff.mpr
      (inPolicy.sublist (List.filter_sublist.flatMap _))
  have all : (groups.flatMap (·.shards)).map (·.id) = groups.flatMap ShardGroup.shardIds :=
    List.map_flatMap
  exact (all ▸ inGroups).sublist (List.filter_sublist.map _)

theorem exists_location_of_owned (found : t.groupsIn database policy range = .ok groups)
    {s : ShardInfo} (member : s ∈ Mapper.ownedShards groups) : ∃ l ∈ t.locations, l.shard = s := by
  obtain ⟨d, p, known, named, same⟩ := exists_of_groupsIn found
  obtain ⟨g, among, held⟩ := List.mem_flatMap.mp (List.mem_filter.mp member).1
  have listed := List.mem_of_find?_eq_some named
  have here := (List.mem_filter.mp (same.mem_iff.mp among)).1
  exact ⟨_, mem_locations.mpr
    ⟨d, List.mem_of_find?_eq_some known, p, listed, g, here, s, held, rfl⟩, rfl⟩

end Topology

end SeriesCluster
