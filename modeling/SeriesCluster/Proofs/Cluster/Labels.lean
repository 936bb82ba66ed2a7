import SeriesCluster.Cluster.Service
import SeriesCluster.Proofs.Cluster.Sources
import SeriesCluster.Proofs.Store.Write
import SeriesCluster.Proofs.Topology.ShardIds

namespace SeriesCluster

namespace ShardStore

theorem ownerOf?_createShard (s : ShardStore) (owner : Source) (id id' : UInt64) (enabled : Bool) :
    (s.createShard owner id enabled).ownerOf? id' =
      if id' = id then (s.ownerOf? id).or (some owner) else s.ownerOf? id' := by
  unfold ownerOf? createShard
  rw [SortedMap.find?_insert]
  by_cases same : id' = id
  · rw [if_pos same, if_pos same]
    cases s.shards.find? id with
    | none => rfl
    | some shard => rfl
  · rw [if_neg same, if_neg same]

theorem ownerOf?_createAll (s : ShardStore) (owner : Source) (ids : List UInt64) (id : UInt64) :
    (s.createAll owner ids).ownerOf? id =
      (s.ownerOf? id).or (if id ∈ ids then some owner else none) := by
  induction ids generalizing s with
  | nil => simp [createAll]
  | cons first ids ih =>
    have later : s.createAll owner (first :: ids) =
        (s.createShard owner first true).createAll owner ids := rfl
    rw [later, ih, ownerOf?_createShard]
    by_cases same : id = first
    · subst same
      cases s.ownerOf? id <;> simp
    · simp [same]

theorem ownerOf?_write {s t : ShardStore} {id : UInt64} {points : List Point}
    (written : s.write id points = .ok t) (id' : UInt64) : t.ownerOf? id' = s.ownerOf? id' := by
  rw [write] at written
  split at written
  · cases written
  · rename_i shard found
    split at written
    · cases written
      unfold ownerOf?
      rw [SortedMap.find?_insert, Shard.foldl_store]
      by_cases same : id' = id
      · rw [if_pos same, same, found]
        rfl
      · rw [if_neg same]
    · cases written

theorem write_of_absent {s : ShardStore} {id : UInt64} (absent : s.ownerOf? id = none)
    (points : List Point) : s.write id points = .error (.shardNotFound id) := by
  rw [write, Option.map_eq_none_iff.mp absent]

end ShardStore

theorem ShardEngine.ownerOf?_supply {e : ShardEngine} {owner recorded : Source} {ids : List UInt64}
    {id : UInt64} (found : (e.supply owner ids).store.ownerOf? id = some recorded) :
    e.store.ownerOf? id = some recorded ∨ id ∈ ids ∧ recorded = owner := by
  unfold supply at found
  cases fault : e.creationFault with
  | some cause =>
    rw [fault] at found
    exact .inl found
  | none =>
    rw [fault] at found
    dsimp only at found
    rw [ShardStore.ownerOf?_createAll] at found
    rcases Option.or_eq_some_iff.mp found with before | ⟨-, new⟩
    · exact .inl before
    · split at new
      · rename_i asked
        cases new
        exact .inr ⟨asked, rfl⟩
      · cases new

def ShardLocation.source (place : ShardLocation) : Source := ⟨place.database, place.retentionPolicy⟩

theorem DataNode.ownerOf?_writeShard {n : DataNode} {id : UInt64} {place : ShardLocation}
    (absent : n.engine.store.ownerOf? id = none) (able : n.engine.creationFault = none)
    (located : n.locate id = .ok (some place)) (points : List Point) :
    (n.writeShard id points).1 = .ok () ∧
      (n.writeShard id points).2.store.ownerOf? id = some place.source := by
  obtain ⟨⟨store, fault⟩, locate⟩ := n
  cases able
  have refused : ShardEngine.write ⟨store, none⟩ id points = .error (.shardNotFound id) := by
    rw [ShardEngine.write, ShardStore.write_of_absent absent]
    rfl
  obtain ⟨filled, written⟩ := store.exists_write_createShard place.source id points
  have stored : ShardEngine.write ⟨store.createShard place.source id true, none⟩ id points =
      .ok ⟨filled, none⟩ := by
    rw [ShardEngine.write, written]
    rfl
  have step : writeShard ⟨⟨store, none⟩, locate⟩ id points = (.ok (), ⟨filled, none⟩) := by
    rw [writeShard, refused]
    dsimp only at located ⊢
    rw [located]
    dsimp only [ShardEngine.createShard]
    rw [← ShardLocation.source, stored]
  rw [step]
  refine ⟨rfl, ?_⟩
  rw [ShardStore.ownerOf?_write written, ShardStore.ownerOf?_createShard, if_pos rfl, absent]
  rfl

theorem Database.eq_resolve_iff (d : Database) (name : String) :
    name = d.resolve name ↔ (name = "" → d.defaultPolicy = "") := by
  by_cases unnamed : name = ""
  · have default : d.resolve name = d.defaultPolicy := by simp [resolve, unnamed]
    rw [default, unnamed]
    exact ⟨fun same _ => same.symm, fun same => (same rfl).symm⟩
  · have own : d.resolve name = name := by simp [resolve, unnamed]
    simp [own, unnamed]

namespace Mapper

/-- Whether all shards that are new came of looking up the source under which they are recorded. -/
def CreatedFor (m : Mapper) (lookup : GroupLookup) (start : ShardStore) (s : State) : Prop :=
  ∀ id owner, s.engine.store.ownerOf? id = some owner → start.ownerOf? id = some owner ∨
    owner ∈ s.lookups ∧ ∃ groups, lookup owner = .ok groups ∧
      id ∈ idsOwnedBy m.nodeId (groups.flatMap (·.shards))

theorem CreatedFor.resolve {m : Mapper} {lookup : GroupLookup} {picks : Picks} {start : ShardStore}
    (source : Source) (s : State) (created : CreatedFor m lookup start s) :
    CreatedFor m lookup start (m.resolve lookup picks source s).2 := by
  have step := m.resolve_resolved lookup picks source s
  generalize m.resolve lookup picks source s = result at step ⊢
  have longer {owner : Source} (looked : owner ∈ s.lookups) : owner ∈ s.lookups ++ [source] :=
    List.mem_append_left _ looked
  cases step with
  | refused refusal =>
    intro id owner recorded
    rcases created id owner recorded with before | ⟨looked, groups⟩
    · exact .inl before
    · exact .inr ⟨longer looked, groups⟩
  | @mapped groups used found free =>
    intro id owner recorded
    rcases ShardEngine.ownerOf?_supply recorded with before | ⟨asked, rfl⟩
    · rcases created id owner before with before | ⟨looked, groups⟩
      · exact .inl before
      · exact .inr ⟨longer looked, groups⟩
    · exact .inr ⟨by simp, groups, found, List.mem_of_mem_filter asked⟩

/-- A shard that mapping a query creates is recorded under one of its sources, and is one of the
node's shards that the lookup of this source gave. -/
theorem created_for_source {m : Mapper} {lookup : GroupLookup} {picks : Picks}
    {sources : List QuerySource} {engine : ShardEngine} {id : UInt64} {owner : Source}
    (absent : engine.store.ownerOf? id = none)
    (created : (m.mapShards lookup picks sources engine).2.engine.store.ownerOf? id = some owner) :
    owner ∈ QuerySource.distinctSources sources ∧ ∃ groups, lookup owner = .ok groups ∧
      id ∈ idsOwnedBy m.nodeId (groups.flatMap (·.shards)) := by
  have kept : CreatedFor m lookup engine.store
      (m.resolveAll lookup picks (QuerySource.distinctSources sources) { engine := engine }).2 :=
    resolveAll_keeps CreatedFor.resolve _ fun _ _ before => .inl before
  have outcome := m.resolveAll_outcome lookup picks (QuerySource.distinctSources sources)
    { engine := engine }
  rw [mapShards_eq] at created
  generalize m.resolveAll lookup picks (QuerySource.distinctSources sources) _ = run
    at kept outcome created
  rcases kept id owner created with before | ⟨looked, groups⟩
  · rw [absent] at before
    cases before
  · refine ⟨?_, groups⟩
    cases outcome with
    | all free lookups keys =>
      rw [lookups] at looked
      exact looked
    | upTo split free refusal lookups =>
      rw [lookups] at looked
      rw [split]
      simp only [List.nil_append, List.mem_append, List.mem_singleton] at looked
      simp only [List.mem_append, List.mem_cons]
      tauto

def lookupIn (t : Topology) (range : TimeRange) : GroupLookup := fun k =>
  t.groupsIn k.database k.retentionPolicy range

def nodeIn (t : Topology) (e : ShardEngine) : DataNode := ⟨e, fun id => .ok (t.shardLocation? id)⟩

theorem located_of_lookup {t : Topology} (distinct : t.shardIds.Nodup) {range : TimeRange}
    {source : Source} {groups : List ShardGroup} (found : lookupIn t range source = .ok groups)
    {node id : UInt64} (held : id ∈ idsOwnedBy node (groups.flatMap (·.shards))) :
    ∃ d place, t.database? source.database = some d ∧ t.shardLocation? id = some place ∧
      place.source = ⟨source.database, d.resolve source.retentionPolicy⟩ := by
  obtain ⟨d, p, known, named, groupsOf⟩ := Topology.exists_of_groupsIn found
  obtain ⟨s, chosen, same⟩ := List.mem_map.mp held
  obtain ⟨g, member, inside⟩ := List.mem_flatMap.mp (List.mem_of_mem_filter chosen)
  have database : d.name = source.database := by simpa using List.find?_some known
  have policy : p.name = d.resolve source.retentionPolicy := by simpa using List.find?_some named
  have listed := List.mem_of_mem_filter (groupsOf.mem_iff.mp member)
  have located := (Topology.locates distinct id).found d (List.mem_of_find?_eq_some known) p
    (List.mem_of_find?_eq_some named) g listed s inside same
  refine ⟨d, _, known, located, ?_⟩
  rw [ShardLocation.source, database, policy]

/-- As long as ids of shards are distinct: a shard that mapping a query creates is recorded under one
of its sources. A first write records it where it is located, in the policy that the name in this
source stands for. These are the same exactly if a policy is named, or the default policy of the
database is one without a name. -/
theorem labelled_as_located_iff {t : Topology} (run : Topology.Leads {} t) {m : Mapper} {picks : Picks}
    {sources : List QuerySource} {range : TimeRange} {engine : ShardEngine} {id : UInt64}
    {owner : Source} (absent : engine.store.ownerOf? id = none)
    (created : (m.mapShards (lookupIn t range) picks sources engine).2.engine.store.ownerOf? id =
      some owner) :
    owner ∈ QuerySource.distinctSources sources ∧
      ∃ d place, t.database? owner.database = some d ∧ t.shardLocation? id = some place ∧
        place.source = ⟨owner.database, d.resolve owner.retentionPolicy⟩ ∧
        (∀ e points, e.store.ownerOf? id = none → e.creationFault = none →
          ((nodeIn t e).writeShard id points).2.store.ownerOf? id = some place.source) ∧
        (owner = place.source ↔ (owner.retentionPolicy = "" → d.defaultPolicy = "")) := by
  have distinct : t.shardIds.Nodup := (run.shardPool.sound ⟨.nil, nofun⟩).nodup
  obtain ⟨asked, groups, found, held⟩ := created_for_source absent created
  obtain ⟨d, place, known, located, names⟩ := located_of_lookup distinct found held
  refine ⟨asked, d, place, known, located, names, ?_, ?_⟩
  · intro e points free able
    exact (DataNode.ownerOf?_writeShard free able (congrArg Except.ok located) points).2
  · rw [names, ← d.eq_resolve_iff]
    cases owner
    simp

def oneShard : Topology := .hourly 3 1 [Topology.firstHour [⟨1, [⟨1⟩]⟩]]

def afterQuery (name : String) : ShardStore :=
  (mapShards { nodeId := 1 } (lookupIn oneShard ⟨0, 9⟩) (fun _ => 0)
    [.measurement { database := "db", retentionPolicy := name, name := "cpu" }] {}).2.engine.store

theorem labelled_as_located_iff_named :
    (afterQuery "rp").ownerOf? 1 = some ⟨"db", "rp"⟩ ∧
      ∃ place, oneShard.shardLocation? 1 = some place ∧ ⟨"db", "rp"⟩ = place.source := by
  have absent : ({} : ShardEngine).store.ownerOf? 1 = none := rfl
  have created : (afterQuery "rp").ownerOf? 1 = some ⟨"db", "rp"⟩ := by cbv
  obtain ⟨-, d, place, -, located, -, -, same⟩ :=
    labelled_as_located_iff Topology.leads_firstHour absent created
  refine ⟨created, place, located, same.mpr ?_⟩
  intro unnamed
  simp at unnamed

/-- A query that leaves out the name of the policy, for the default, creates the shard without it. -/
theorem labelled_otherwise_unnamed :
    Topology.Leads {} oneShard ∧ (afterQuery "").ownerOf? 1 = some ⟨"db", ""⟩ ∧
      (oneShard.shardLocation? 1).map (·.source) = some ⟨"db", "rp"⟩ ∧
      ((nodeIn oneShard {}).writeShard 1 []).2.store.ownerOf? 1 = some ⟨"db", "rp"⟩ :=
  ⟨Topology.leads_firstHour, by cbv, by cbv, by cbv⟩

end Mapper

end SeriesCluster
