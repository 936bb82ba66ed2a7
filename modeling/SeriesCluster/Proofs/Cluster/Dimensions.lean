import SeriesCluster.Proofs.Cluster.Query
import SeriesCluster.Proofs.Net.Message
import SeriesCluster.Proofs.Store.Dimensions

namespace SeriesCluster

open SeriesCluster.Frame

namespace DataNode

variable {n : DataNode} {r : DimensionsRequest} {pattern : Option Pattern}

theorem fieldDimensions_eq (n : DataNode) (compiled : r.measurement.compiled? = .ok pattern) :
    n.fieldDimensions r = .ok ((n.engine.select r.shardIds).fieldDimensions
      ((n.engine.select r.shardIds).names pattern r.measurement.name)) := by
  obtain ⟨ms, targeted, named⟩ := exists_targets (n.engine.select r.shardIds) compiled
  rw [fieldDimensions, targeted, ok_bind, named]
  rfl

theorem serve_dimensions (allowed : (carrying FrameType.dimensionsRequest r).Allowed) :
    (n.serve (carrying FrameType.dimensionsRequest r).bytes).1 =
      (carrying FrameType.dimensionsResponse (n.dimensionsResponse r)).bytes := by
  have kept : Json.ofBytes DimensionsRequest (Json.toBytes r) = .ok r :=
    Json.ofBytes_toBytes (by decide) r
  have served : n.serveFrame (carrying FrameType.dimensionsRequest r) =
      n.closes [carrying FrameType.dimensionsResponse (n.dimensionsResponse r)] := by
    rw [serveFrame, type_carrying, if_neg (by decide), if_neg (by decide), if_pos rfl,
      decodePayload_carrying kept]
  rw [serve_closes allowed served, List.flatMap_singleton]

end DataNode

def DimensionsResponse.told (r : DimensionsResponse) : Except Error FieldDimensions :=
  match r.error with
  | some text => .error (.remote text)
  | none => .ok r.dimensions

namespace Dialer

/-- What a question to another node relies on: that it is the node that is asked, and that the
lengths of the question and of its answer can be written. -/
structure Hears (d : Dialer) (node : UInt64) (n : DataNode) (r : DimensionsRequest) : Prop where
  reaches : d.Reaches node n
  asked : (carrying FrameType.dimensionsRequest r).Fits
  answered : (carrying FrameType.dimensionsResponse (n.dimensionsResponse r)).Fits

section Ask

variable {d : Dialer} {node : UInt64} {n : DataNode} {ids : List UInt64} {q : Measurement}
  {c : Connection} {found : FieldDimensions}

theorem fieldDimensions_dialed (dialed : d.dial node = .ok c) (reaches : d.Reaches node n) :
    d.fieldDimensions node ids q =
      message DimensionsResponse c.peer FrameType.dimensionsResponse (n.serve
        (carrying FrameType.dimensionsRequest
          ({ shardIds := ids, measurement := q } : DimensionsRequest)).bytes).1 >>=
        fun answer => answer.1.told := by
  rw [fieldDimensions, dialed, ok_bind]
  dsimp only
  rw [reaches c dialed]
  rfl

theorem fieldDimensions_allowed {pattern : Option Pattern} (compiled : q.compiled? = .ok pattern)
    (dialed : d.dial node = .ok c) (reaches : d.Reaches node n)
    (asked : (carrying FrameType.dimensionsRequest
      ({ shardIds := ids, measurement := q } : DimensionsRequest)).Allowed)
    (answered : (carrying FrameType.dimensionsResponse
      (n.dimensionsResponse { shardIds := ids, measurement := q })).Allowed) :
    d.fieldDimensions node ids q = .ok ((n.engine.select ids).fieldDimensions
      ((n.engine.select ids).names pattern q.name)) := by
  have kept := Json.ofBytes_toBytes (by decide)
    (n.dimensionsResponse { shardIds := ids, measurement := q })
  have received := message_carrying kept answered c.peer []
  rw [List.append_nil] at received
  rw [fieldDimensions_dialed dialed reaches, DataNode.serve_dimensions asked, received, ok_bind,
    DataNode.dimensionsResponse, DataNode.fieldDimensions_eq n compiled]
  rfl

theorem fieldDimensions_eq {pattern : Option Pattern} (compiled : q.compiled? = .ok pattern)
    (hears : d.Hears node n { shardIds := ids, measurement := q })
    (answered : d.fieldDimensions node ids q = .ok found) :
    found = (n.engine.select ids).fieldDimensions ((n.engine.select ids).names pattern q.name) := by
  obtain ⟨c, dialed, -⟩ := exists_of_bind_eq_ok answered
  -- Too long a question is not answered, and too long an answer is not read.
  have allowed : (carrying FrameType.dimensionsRequest
      ({ shardIds := ids, measurement := q } : DimensionsRequest)).Allowed := by
    apply Decidable.byContradiction
    intro refused
    rw [fieldDimensions_dialed dialed hears.reaches,
      DataNode.serve_refused hears.asked refused] at answered
    cases answered
  have allowed' : (carrying FrameType.dimensionsResponse
      (n.dimensionsResponse { shardIds := ids, measurement := q })).Allowed := by
    apply Decidable.byContradiction
    intro refused
    have long := next_refused hears.answered refused []
    rw [List.append_nil] at long
    rw [fieldDimensions_dialed dialed hears.reaches, DataNode.serve_dimensions allowed, message,
      long] at answered
    cases answered
  rw [fieldDimensions_allowed compiled dialed hears.reaches allowed allowed'] at answered
  exact (Except.ok.inj answered).symm

end Ask

end Dialer

def ShardSelection.tell (g : ShardSelection) (q : Measurement) : Except Error FieldDimensions := do
  return g.fieldDimensions (← ShardMapping.namesIn g q)

theorem ShardSelection.tell_eq (g : ShardSelection) {q : Measurement} {pattern : Option Pattern}
    (compiled : q.compiled? = .ok pattern) :
    g.tell q = .ok (g.fieldDimensions (g.names pattern q.name)) := by
  rw [tell, g.namesIn_eq compiled, ok_bind]
  rfl

namespace ShardMapping

def shardIds (m : ShardMapping) (source : Source) : List UInt64 :=
  match m.sources.find? source with
  | some s => s.shards.map (·.id)
  | none => []

def remotes (m : ShardMapping) (source : Source) : List (UInt64 × List UInt64) :=
  match m.sources.find? source with
  | some s => s.routing.elsewhere.toList
  | none => []

def toldHere (store : ShardStore) (ids : List UInt64) (q : Measurement) :
    Except Error FieldDimensions :=
  if ids.isEmpty then .ok {}
  else do return FieldDimensions.merge {} (← ShardSelection.tell ⟨store, ids⟩ q)

theorem fieldDimensions_of_source {m : ShardMapping} {q : Measurement} {s : SourceMapping}
    (source : m.sources.find? q.source = some s) (store : ShardStore) (d : Dialer) :
    m.fieldDimensions store d q = do
      let here ← toldHere store s.routing.here q
      let found ← s.routing.elsewhere.toList.mapM fun e => d.fieldDimensions e.1 e.2 q
      return found.foldl FieldDimensions.merge here := by
  rw [fieldDimensions, source, toldHere]
  dsimp only
  by_cases none : s.routing.here.isEmpty
  · have ours : m.localShards? store q.source = .none := by
      simp [localShards?, source, SourceMapping.hasLocal, none]
    rw [ours, if_pos none]
    rfl
  · have ours : m.localShards? store q.source = some ⟨store, s.routing.here⟩ := by
      simp [localShards?, source, SourceMapping.hasLocal, none]
    rw [ours, if_neg none, ShardSelection.tell]
    simp only [bind_assoc, pure_bind]

end ShardMapping

/-- What the points of a measurement in some shards tell, one by one. -/
def toldBy (held : UInt64 → SortedMap String MeasurementSeries) (pattern : Option Pattern)
    (name : String) (ids : List UInt64) : List FieldDimensions :=
  (ids.flatMap fun id => pointsAmong pattern name (held id)).map ShardSelection.dimensionsOf

section Told

variable {held : UInt64 → SortedMap String MeasurementSeries} {pattern : Option Pattern}
  {name : String}

theorem toldBy_append (ids ids' : List UInt64) : toldBy held pattern name (ids ++ ids') =
    toldBy held pattern name ids ++ toldBy held pattern name ids' := by
  rw [toldBy, List.flatMap_append, List.map_append]
  rfl

theorem toldBy_flatMap {α : Type} (as : List α) (f : α → List UInt64) :
    toldBy held pattern name (as.flatMap f) = as.flatMap fun a => toldBy held pattern name (f a) := by
  rw [toldBy, List.flatMap_assoc, List.map_flatMap]
  rfl

theorem toldBy_perm {ids ids' : List UInt64} (same : ids.Perm ids') :
    (toldBy held pattern name ids).Perm (toldBy held pattern name ids') :=
  (same.flatMap_right _).map _

theorem ShardSelection.knows_held (g : ShardSelection) (pattern : Option Pattern) (name : String)
    (same : ∀ id ∈ g.ids, g.store.contents id = held id) :
    (g.fieldDimensions (g.names pattern name)).Knows (toldBy held pattern name g.ids) := by
  have points : (g.ids.flatMap fun id => pointsAmong pattern name (g.store.contents id)) =
      g.ids.flatMap fun id => pointsAmong pattern name (held id) :=
    List.flatMap_congr fun id member => congrArg _ (same id member)
  rw [toldBy, ← points]
  exact g.knows_points pattern name

theorem ShardMapping.toldHere_knows {q : Measurement} {store : ShardStore} {ids : List UInt64}
    (compiled : q.compiled? = .ok pattern) (same : ∀ id ∈ ids, store.contents id = held id) :
    ∃ here, toldHere store ids q = .ok here ∧ here.Knows (toldBy held pattern q.name ids) := by
  rw [toldHere]
  split
  · rename_i none
    rw [List.isEmpty_iff.mp none]
    exact ⟨{}, rfl, .none⟩
  · have known := ShardSelection.knows_held ⟨store, ids⟩ pattern q.name same
    rw [ShardSelection.tell_eq _ compiled, ok_bind]
    exact ⟨_, rfl, FieldDimensions.Knows.none.both known⟩

end Told

namespace Cluster

section Map

variable {c c' : Cluster} {m : Mapper} {picks : Picks} {sources : List QuerySource}
  {range : TimeRange} {mapping : ShardMapping} {lookups : Nat} {d : Dialer} {q : Measurement}
  {pattern : Option Pattern} {held : UInt64 → SortedMap String MeasurementSeries}

theorem fieldDimensions_knows
    (mapped : c.map m picks sources range = ((.ok mapping, lookups), c'))
    (holds : c.Holds held) (compiled : q.compiled? = .ok pattern)
    (hears : ∀ e ∈ mapping.remotes q.source,
      d.Hears e.1 (c'.dataNode e.1) { shardIds := e.2, measurement := q })
    (answers : ∀ e ∈ mapping.remotes q.source, (d.fieldDimensions e.1 e.2 q).isOk) :
    ∃ found, mapping.fieldDimensions (c'.store m.nodeId) d q = .ok found ∧
      found.Knows (toldBy held pattern q.name (mapping.shardIds q.source)) := by
  obtain ⟨kept, -, -, located⟩ := located_of_map mapped
  rw [ShardMapping.shardIds]
  rw [ShardMapping.remotes] at hears answers
  cases source : mapping.sources.find? q.source with
  | none =>
    rw [ShardMapping.fieldDimensions, source]
    exact ⟨{}, rfl, .none⟩
  | some s =>
    rw [source] at hears answers
    obtain ⟨groups, inRange, place⟩ := located q.source s source
    obtain ⟨ours, theirs⟩ := contents_of_located holds kept inRange place
    obtain ⟨here, told, known⟩ := ShardMapping.toldHere_knows compiled ours
    have each : ∀ e ∈ s.routing.elsewhere.toList, ∃ found,
        d.fieldDimensions e.1 e.2 q = .ok found ∧
          found.Knows (toldBy held pattern q.name e.2) := by
      intro e among
      have answered := answers e among
      cases asked : d.fieldDimensions e.1 e.2 q with
      | error cause =>
        rw [asked] at answered
        cases answered
      | ok found =>
        refine ⟨found, rfl, ?_⟩
        rw [Dialer.fieldDimensions_eq compiled (hears e among) asked]
        exact ShardSelection.knows_held _ pattern q.name (theirs e among)
    obtain ⟨found, asked, known'⟩ := exists_mapM_eq_ok each
    have all := known.foldl (List.forall₂_map_right_iff.mpr known')
    rw [← List.flatMap_def, ← toldBy_flatMap, ← toldBy_append] at all
    refine ⟨found.foldl FieldDimensions.merge here, ?_, all.of_mem ?_⟩
    · rw [ShardMapping.fieldDimensions_of_source source, told, ok_bind, asked]
      rfl
    · intro x
      dsimp only
      rw [place.shards]
      exact (toldBy_perm place.covers.once).mem_iff

/-- No order and no grouping of a merge, and no repetition in it, changes what is known of fields and
tags. So all nodes of a mapped query know together what one store with its shards knows, whichever
owners have been picked. -/
theorem dimensions_as_one_store :
    (∀ ds d, FieldDimensions.Merges ds d → d.Knows ds ∧ d = ds.foldl FieldDimensions.merge {} ∧
      ∀ e ∈ ds, d.merge e = d) ∧
    ∀ (c c' : Cluster) (m : Mapper) (picks : Picks) (sources : List QuerySource)
      (range : TimeRange) (mapping : ShardMapping) (lookups : Nat) (d : Dialer) (q : Measurement)
      (pattern : Option Pattern) (held : UInt64 → SortedMap String MeasurementSeries)
      (whole : ShardStore),
      c.map m picks sources range = ((.ok mapping, lookups), c') →
      c.Holds held →
      q.compiled? = .ok pattern →
      (∀ e ∈ mapping.remotes q.source,
        d.Hears e.1 (c'.dataNode e.1) { shardIds := e.2, measurement := q }) →
      (∀ e ∈ mapping.remotes q.source, (d.fieldDimensions e.1 e.2 q).isOk) →
      (∀ id ∈ mapping.shardIds q.source, whole.contents id = held id) →
      ∃ found, mapping.fieldDimensions (c'.store m.nodeId) d q = .ok found ∧
        ShardSelection.tell ⟨whole, mapping.shardIds q.source⟩ q = .ok found ∧
        ∀ groups, mapping.sources.contains q.source →
          c.topology.groupsIn q.database q.retentionPolicy range = .ok groups →
          mapping.shardIds q.source = (Mapper.ownedShards groups).map (·.id) := by
  constructor
  · intro ds d merged
    have known := merged.knows
    exact ⟨known, known.unique (.all ds), fun e among => known.merge_eq among⟩
  · intro c c' m picks sources range mapping lookups d q pattern held whole mapped holds compiled
      hears answers same
    obtain ⟨found, told, known⟩ := fieldDimensions_knows mapped holds compiled hears answers
    have reference := ShardSelection.knows_held ⟨whole, mapping.shardIds q.source⟩ pattern q.name
      same
    refine ⟨found, told, ?_, ?_⟩
    · rw [ShardSelection.tell_eq _ compiled, known.unique reference]
    · intro groups named inRange
      obtain ⟨s, source⟩ := Option.isSome_iff_exists.mp named
      obtain ⟨-, -, -, located⟩ := located_of_map mapped
      obtain ⟨groups', found', place⟩ := located q.source s source
      obtain rfl : groups' = groups := Except.ok.inj (found'.symm.trans inRange)
      rw [ShardMapping.shardIds, source]
      dsimp only
      rw [place.shards]

end Map

section Pair

def typed (t : DataType) : FieldDimensions := { fields := .ofList [("value", t)] }

def dimensionsOfPair : DimensionsRequest := { shardIds := [1], measurement := cpu }

theorem dimensionsResponse_pair :
    ((mappedPair (.boolean true)).dataNode 2).dimensionsResponse dimensionsOfPair =
      ⟨typed .boolean, none⟩ := by
  cbv

theorem asked_pair : (carrying FrameType.dimensionsRequest dimensionsOfPair).Allowed := by
  decide +kernel

theorem answered_pair : (carrying FrameType.dimensionsResponse
    (((mappedPair (.boolean true)).dataNode 2).dimensionsResponse dimensionsOfPair)).Allowed := by
  rw [dimensionsResponse_pair]
  decide +kernel

theorem answers_pair :
    ((pairDialer (.boolean true)).fieldDimensions 2 [1] cpu).isOk := by
  have named : cpu.compiled? = .ok none := rfl
  rw [Dialer.fieldDimensions_allowed named (dial_pair _) (reaches_pair _) asked_pair answered_pair]
  rfl

theorem tell_pair : ShardSelection.tell ⟨oneShard (.boolean true), [1]⟩ cpu = .ok (typed .boolean) := by
  cbv

theorem dimensions_as_one_store_pair :
    (((typed .float).merge (typed .boolean)).merge (typed .integer)).Knows
        [typed .integer, typed .float, typed .boolean] ∧
      (((typed .float).merge (typed .boolean)).merge (typed .integer)).merge (typed .boolean) =
        ((typed .float).merge (typed .boolean)).merge (typed .integer) ∧
      (pairDialer (.boolean true)).Hears 2 ((mappedPair (.boolean true)).dataNode 2)
        dimensionsOfPair ∧
      cpuMapping.fieldDimensions ((mappedPair (.boolean true)).store 1)
        (pairDialer (.boolean true)) cpu = .ok (typed .boolean) := by
  obtain ⟨merging, mapped⟩ := dimensions_as_one_store
  have merged : FieldDimensions.Merges [typed .integer, typed .float, typed .boolean]
      (((typed .float).merge (typed .boolean)).merge (typed .integer)) :=
    .perm (by decide) (.both (.both (.one (typed .float)) (.one (typed .boolean)))
      (.one (typed .integer)))
  have hears : (pairDialer (.boolean true)).Hears 2 ((mappedPair (.boolean true)).dataNode 2)
      dimensionsOfPair := ⟨reaches_pair _, asked_pair.fits, answered_pair.fits⟩
  have remotes : cpuMapping.remotes cpu.source = [(2, [1])] := by cbv
  have ids : cpuMapping.shardIds cpu.source = [1] := by cbv
  obtain ⟨found, told, reference, -⟩ := mapped (pair (.boolean true)) (mappedPair (.boolean true))
    { nodeId := 1 } (fun _ => 0) [.measurement cpu] ⟨0, 9⟩ cpuMapping 1 (pairDialer (.boolean true))
    cpu none (oneShard (.boolean true)).contents (oneShard (.boolean true)) (map_pair _)
    (holds_pair _) rfl
    (by
      rw [remotes]
      exact List.forall_mem_singleton.mpr hears)
    (by
      rw [remotes]
      exact List.forall_mem_singleton.mpr answers_pair)
    (fun _ _ => rfl)
  rw [ids, tell_pair] at reference
  cases reference
  obtain ⟨knows, -, again⟩ := merging _ _ merged
  exact ⟨knows, again (typed .boolean) (by decide), hears, told⟩

end Pair

end Cluster

end SeriesCluster
