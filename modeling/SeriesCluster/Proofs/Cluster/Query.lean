import SeriesCluster.Proofs.Cluster.Mapping
import SeriesCluster.Proofs.Cluster.Service

namespace SeriesCluster

open PointStream

def ShardSelection.collect (g : ShardSelection) (q : Measurement) (opt : ReadOptions) :
    Except Error (List Point) := do
  let streams ← (← ShardMapping.namesIn g q).mapM fun n => g.read false n opt
  return (← streams.mapM PointStream.toPoints).flatten

namespace ShardSelection

variable {q : Measurement} {pattern : Option Pattern}

theorem namesIn_eq (g : ShardSelection) (compiled : q.compiled? = .ok pattern) :
    ShardMapping.namesIn g q = .ok (g.names pattern q.name) := by
  rw [ShardMapping.namesIn, compiled, ok_bind]
  cases pattern with
  | none => rfl
  | some p => rfl

theorem exists_collect (g : ShardSelection) (opt : ReadOptions)
    (compiled : q.compiled? = .ok pattern) :
    ∃ points, g.collect q opt = .ok points ∧
      points.Perm (g.ids.flatMap fun id => opt.pointsIn pattern q.name (g.store.contents id)) := by
  obtain ⟨streams, lists, opened, deliver, all⟩ := g.reads opt pattern q.name
  obtain ⟨given, drained, same⟩ := Delivers.exists_toPoints deliver
  refine ⟨given.flatten, ?_, same.trans all⟩
  rw [collect, g.namesIn_eq compiled, ok_bind, opened, ok_bind, drained]
  rfl

end ShardSelection

namespace Dialer

def opens (d : Dialer) (q : Measurement) (opt : ReadOptions) (e : UInt64 × List UInt64) : Bool :=
  (d.read e.1 e.2 false q opt).isOk

def streams (d : Dialer) (q : Measurement) (opt : ReadOptions) (nodes : List (UInt64 × List UInt64)) :
    List PointStream :=
  nodes.filterMap fun e => (d.read e.1 e.2 false q opt).toOption

section Streams

variable {d : Dialer} {q : Measurement} {opt : ReadOptions} {e : UInt64 × List UInt64}

theorem opens_of_read {s : PointStream} (read : d.read e.1 e.2 false q opt = .ok s) :
    d.opens q opt e := by
  rw [opens, read]
  rfl

theorem not_opens_of_read {cause : Error} (read : d.read e.1 e.2 false q opt = .error cause) :
    ¬ d.opens q opt e := by
  rw [opens, read]
  exact Bool.false_ne_true

theorem streams_cons {s : PointStream} (read : d.read e.1 e.2 false q opt = .ok s)
    (nodes : List (UInt64 × List UInt64)) :
    d.streams q opt (e :: nodes) = s :: d.streams q opt nodes := by
  rw [streams, List.filterMap_cons, read]
  rfl

theorem streams_cons_failed {cause : Error} (read : d.read e.1 e.2 false q opt = .error cause)
    (nodes : List (UInt64 × List UInt64)) :
    d.streams q opt (e :: nodes) = d.streams q opt nodes := by
  rw [streams, List.filterMap_cons, read]
  rfl

end Streams

end Dialer

namespace ShardMapping

def streamsHere (store : ShardStore) (ids : List UInt64) (q : Measurement) (opt : ReadOptions) :
    Except Error (List PointStream) :=
  if ids.isEmpty then .ok []
  else do (← namesIn ⟨store, ids⟩ q).mapM fun n => ShardSelection.read ⟨store, ids⟩ false n opt

theorem read_eq {m : ShardMapping} {q : Measurement} {s : SourceMapping} {opt : ReadOptions}
    (source : m.sources.find? q.source = some s) (anywhere : opt.nodeId = none) (store : ShardStore)
    (d : Dialer) : m.read store d false q opt = do
      let here ← streamsHere store s.routing.here q (opt.clamp m.minTime m.maxTime)
      return .merge opt.ascending (here ++
        d.streams q (opt.clamp m.minTime m.maxTime) s.routing.elsewhere.toList) := by
  have routed : m.routingFor s (opt.clamp m.minTime m.maxTime) = s.routing := by
    rw [routingFor, show (opt.clamp m.minTime m.maxTime).nodeId = none from anywhere]
  unfold read
  dsimp only
  rw [source]
  dsimp only
  rw [routed, streamsHere]
  split
  · rfl
  · rw [bind_assoc]
    rfl

end ShardMapping

def idsWhere (p : UInt64 × List UInt64 → Bool) (nodes : List (UInt64 × List UInt64)) : List UInt64 :=
  (nodes.filter p).flatMap (·.2)

section Where

variable {p : UInt64 × List UInt64 → Bool} {e : UInt64 × List UInt64}

theorem idsWhere_cons (holds : p e) (nodes : List (UInt64 × List UInt64)) :
    idsWhere p (e :: nodes) = e.2 ++ idsWhere p nodes := by
  rw [idsWhere, List.filter_cons_of_pos holds]
  rfl

theorem idsWhere_cons_not (fails : ¬ p e) (nodes : List (UInt64 × List UInt64)) :
    idsWhere p (e :: nodes) = idsWhere p nodes := by
  rw [idsWhere, List.filter_cons_of_neg fails]
  rfl

end Where

/-- The shards of some groups that have owners, but for those of the nodes that cannot be read. -/
def Dialer.readable (d : Dialer) (q : Measurement) (opt : ReadOptions) (groups : List ShardGroup)
    (s : SourceMapping) : List UInt64 :=
  ((Mapper.ownedShards groups).map (·.id)).filter fun id =>
    !(idsWhere (fun e => !d.opens q opt e) s.routing.elsewhere.toList).contains id

theorem filter_idsWhere_perm (p : UInt64 × List UInt64 → Bool) {here : List UInt64}
    {nodes : List (UInt64 × List UInt64)} (distinct : (here ++ nodes.flatMap (·.2)).Nodup) :
    ((here ++ nodes.flatMap (·.2)).filter fun id =>
      !(idsWhere (fun e => !p e) nodes).contains id).Perm (here ++ idsWhere p nodes) := by
  have split : (nodes.flatMap (·.2)).Perm (idsWhere p nodes ++ idsWhere (fun e => !p e) nodes) := by
    rw [idsWhere, idsWhere, ← List.flatMap_append]
    exact ((List.filter_append_perm p nodes).flatMap_right _).symm
  have all := split.append_left here
  rw [← List.append_assoc] at all
  have apart := (List.nodup_append.mp (all.nodup_iff.mp distinct)).2.2
  have kept : (here ++ idsWhere p nodes).filter (fun id =>
      !(idsWhere (fun e => !p e) nodes).contains id) = here ++ idsWhere p nodes := by
    refine List.filter_eq_self.mpr fun id member => ?_
    rw [Bool.not_eq_true', ← Bool.not_eq_true, List.contains_iff_mem]
    exact fun left => apart id member id left rfl
  have gone : (idsWhere (fun e => !p e) nodes).filter (fun id =>
      !(idsWhere (fun e => !p e) nodes).contains id) = [] := by
    refine List.filter_eq_nil_iff.mpr fun id member => ?_
    rw [Bool.not_eq_true, Bool.not_eq_false', List.contains_iff_mem]
    exact member
  refine (all.filter _).trans ?_
  rw [List.filter_append, kept, gone, List.append_nil]

section Read

variable {c : Cluster} {d : Dialer} {q : Measurement} {opt : ReadOptions} {pattern : Option Pattern}
  {held : UInt64 → SortedMap String MeasurementSeries}

theorem Dialer.streams_deliver (compiled : q.compiled? = .ok pattern)
    {nodes : List (UInt64 × List UInt64)}
    (relies : ∀ e ∈ nodes, d.opens q opt e → d.Relies e.1 (c.dataNode e.1) pattern
      { shardIds := e.2, measurement := q, options := opt })
    (holds : ∀ e ∈ nodes, ∀ id ∈ e.2, (c.store e.1).contents id = held id) :
    ∃ lists, List.Forall₂ (Delivers opt.ascending) (d.streams q opt nodes) lists ∧
      lists.flatten =
        (idsWhere (d.opens q opt) nodes).flatMap fun id => opt.pointsIn pattern q.name (held id) := by
  induction nodes with
  | nil => exact ⟨[], .nil, rfl⟩
  | cons e nodes ih =>
    rw [List.forall_mem_cons] at relies holds
    obtain ⟨lists, deliver, all⟩ := ih relies.2 holds.2
    cases read : d.read e.1 e.2 false q opt with
    | error cause =>
      refine ⟨lists, ?_, ?_⟩
      · rwa [Dialer.streams_cons_failed read]
      · rw [idsWhere_cons_not (Dialer.not_opens_of_read read), all]
    | ok s =>
      have opens := Dialer.opens_of_read read
      have same : (e.2.flatMap fun id =>
          opt.pointsIn pattern q.name ((c.dataNode e.1).engine.store.contents id)) =
          e.2.flatMap fun id => opt.pointsIn pattern q.name (held id) :=
        List.flatMap_congr fun id member => congrArg _ (holds.1 id member)
      have first := Dialer.read_delivers compiled (relies.1 opens) read
      rw [same] at first
      refine ⟨(e.2.flatMap fun id => opt.pointsIn pattern q.name (held id)) :: lists, ?_, ?_⟩
      · rw [Dialer.streams_cons read]
        exact .cons first deliver
      · rw [idsWhere_cons opens, List.flatten_cons, all, List.flatMap_append]

theorem ShardMapping.streamsHere_deliver (opt : ReadOptions) (compiled : q.compiled? = .ok pattern)
    {store : ShardStore} {ids : List UInt64} (holds : ∀ id ∈ ids, store.contents id = held id) :
    ∃ streams lists, streamsHere store ids q opt = .ok streams ∧
      List.Forall₂ (Delivers opt.ascending) streams lists ∧
      lists.flatten.Perm (ids.flatMap fun id => opt.pointsIn pattern q.name (held id)) := by
  have same : (ids.flatMap fun id => opt.pointsIn pattern q.name (store.contents id)) =
      ids.flatMap fun id => opt.pointsIn pattern q.name (held id) :=
    List.flatMap_congr fun id member => congrArg _ (holds id member)
  rw [← same]
  cases ids with
  | nil => exact ⟨[], [], rfl, .nil, .refl _⟩
  | cons first rest =>
    obtain ⟨streams, lists, opened, deliver, all⟩ :=
      ShardSelection.reads ⟨store, first :: rest⟩ opt pattern q.name
    refine ⟨streams, lists, ?_, deliver, all⟩
    rw [streamsHere, if_neg (by simp), ShardSelection.namesIn_eq _ compiled, ok_bind, opened]

end Read

namespace Cluster

/-- All owners of a shard hold the same points of it. -/
def Holds (c : Cluster) (held : UInt64 → SortedMap String MeasurementSeries) : Prop :=
  ∀ l ∈ c.topology.locations, ∀ node ∈ l.shard.ownerIds,
    (c.store node).contents l.shard.id = held l.shard.id

section Map

variable {c c' : Cluster} {m : Mapper} {picks : Picks} {sources : List QuerySource}
  {range : TimeRange} {mapping : ShardMapping} {lookups : Nat}

theorem located_of_map (mapped : c.map m picks sources range = ((.ok mapping, lookups), c')) :
    (∀ node id, (c'.store node).contents id = (c.store node).contents id) ∧
      mapping.minTime = m.minTime ∧ mapping.maxTime = m.maxTime ∧
      ∀ source s, mapping.sources.find? source = some s → ∃ groups,
        c.topology.groupsIn source.database source.retentionPolicy range = .ok groups ∧
          Mapper.Located m.nodeId groups s := by
  have maps := (Mapper.Maps.begin m.nodeId
    (fun s => c.topology.groupsIn s.database s.retentionPolicy range)
    (c.engine m.nodeId)).mapMeasurements picks (QuerySource.allMeasurements sources)
  unfold map Mapper.mapShards at mapped
  dsimp only at mapped
  revert maps mapped
  generalize m.mapMeasurements _ picks _ _ = made
  intro mapped maps
  obtain ⟨result | done, s⟩ := made
  · cases mapped
  · cases mapped
    refine ⟨fun node id => ?_, rfl, rfl, maps.located⟩
    rw [store, store, engine, engine, setEngine, SortedMap.find?_insert]
    by_cases own : node = m.nodeId
    · rw [if_pos own, own]
      exact maps.contents id
    · rw [if_neg own]

section Located

variable {held : UInt64 → SortedMap String MeasurementSeries} {q : Measurement} {s : SourceMapping}
  {groups : List ShardGroup} {pattern : Option Pattern} {opt clamped : ReadOptions}

theorem contents_of_located (holds : c.Holds held)
    (kept : ∀ node id, (c'.store node).contents id = (c.store node).contents id)
    (inRange : c.topology.groupsIn q.database q.retentionPolicy range = .ok groups)
    (place : Mapper.Located m.nodeId groups s) :
    (∀ id ∈ s.routing.here, (c'.store m.nodeId).contents id = held id) ∧
      ∀ e ∈ s.routing.elsewhere.toList, ∀ id ∈ e.2, (c'.store e.1).contents id = held id := by
  have owned {id : UInt64} {shard : ShardInfo} (member : shard ∈ Mapper.ownedShards groups)
      {node : UInt64} (own : node ∈ shard.ownerIds) (named : shard.id = id) :
      (c'.store node).contents id = held id := by
    obtain ⟨l, listed, rfl⟩ := c.topology.exists_location_of_owned inRange member
    rw [kept, ← named]
    exact holds l listed node own
  constructor
  · intro id member
    obtain ⟨shard, among, named, own⟩ := place.covers.here id member
    exact owned among own named
  · intro e listed id member
    obtain ⟨shard, among, named, own⟩ := place.covers.elsewhere e listed id member
    exact owned among own named

theorem readable_perm (distinct : c.topology.shardIds.Nodup)
    (inRange : c.topology.groupsIn q.database q.retentionPolicy range = .ok groups)
    (place : Mapper.Located m.nodeId groups s) (d : Dialer) :
    (s.routing.here ++ idsWhere (d.opens q opt) s.routing.elsewhere.toList).Perm
      (d.readable q opt groups s) := by
  have nodup := place.covers.once.nodup_iff.mpr (c.topology.nodup_ownedShards distinct inRange)
  exact (filter_idsWhere_perm _ nodup).symm.trans (place.covers.once.filter _)

theorem read_delivers (mapped : c.map m picks sources range = ((.ok mapping, lookups), c'))
    (distinct : c.topology.shardIds.Nodup) (holds : c.Holds held)
    (source : mapping.sources.find? q.source = some s)
    (inRange : c.topology.groupsIn q.database q.retentionPolicy range = .ok groups)
    (compiled : q.compiled? = .ok pattern) (anywhere : opt.nodeId = none)
    (cut : opt.clamp m.minTime m.maxTime = clamped) (d : Dialer)
    (relies : ∀ e ∈ s.routing.elsewhere.toList, d.opens q clamped e →
      d.Relies e.1 (c'.dataNode e.1) pattern
        { shardIds := e.2, measurement := q, options := clamped }) :
    ∃ stream, mapping.read (c'.store m.nodeId) d false q opt = .ok stream ∧
      Delivers opt.ascending stream ((d.readable q clamped groups s).flatMap fun id =>
        clamped.pointsIn pattern q.name (held id)) := by
  obtain ⟨kept, lower, upper, located⟩ := located_of_map mapped
  obtain ⟨groups', found, place⟩ := located q.source s source
  obtain rfl : groups' = groups := Except.ok.inj (found.symm.trans inRange)
  obtain ⟨here, elsewhere⟩ := contents_of_located holds kept inRange place
  obtain ⟨ours, lists, opened, deliver, gives⟩ :=
    ShardMapping.streamsHere_deliver clamped compiled here
  obtain ⟨others, deliverOthers, givesOthers⟩ :=
    Dialer.streams_deliver compiled relies elsewhere
  have direction : clamped.ascending = opt.ascending := by
    rw [← cut]
    rfl
  have all : (lists ++ others).flatten.Perm ((d.readable q clamped groups' s).flatMap fun id =>
      clamped.pointsIn pattern q.name (held id)) := by
    rw [List.flatten_append, givesOthers]
    refine (gives.append_right _).trans ?_
    rw [← List.flatMap_append]
    exact (readable_perm distinct inRange place d).flatMap_right _
  rw [direction] at deliver deliverOthers
  refine ⟨_, ?_, (Delivers.merge (List.rel_append deliver deliverOthers)).perm all⟩
  rw [ShardMapping.read_eq source anywhere, lower, upper, cut, opened, ok_bind]
  rfl

end Located

/-- Reading a mapped source collects what one store that holds the shards in range gives, but for
the shards that are routed to nodes which cannot be read, in the order of a read. -/
theorem reads_as_one_store (mapped : c.map m picks sources range = ((.ok mapping, lookups), c'))
    (distinct : c.topology.shardIds.Nodup) {held : UInt64 → SortedMap String MeasurementSeries}
    (holds : c.Holds held) {q : Measurement} {s : SourceMapping} {groups : List ShardGroup}
    (source : mapping.sources.find? q.source = some s)
    (inRange : c.topology.groupsIn q.database q.retentionPolicy range = .ok groups)
    {pattern : Option Pattern} (compiled : q.compiled? = .ok pattern) {opt clamped : ReadOptions}
    (anywhere : opt.nodeId = none) (cut : opt.clamp m.minTime m.maxTime = clamped) (d : Dialer)
    (relies : ∀ e ∈ s.routing.elsewhere.toList, d.opens q clamped e →
      d.Relies e.1 (c'.dataNode e.1) pattern
        { shardIds := e.2, measurement := q, options := clamped })
    (whole : ShardStore) (same : ∀ id ∈ d.readable q clamped groups s, whole.contents id = held id) :
    (d.readable q clamped groups s).Nodup ∧ ∃ stream points reference,
      mapping.read (c'.store m.nodeId) d false q opt = .ok stream ∧ stream.toPoints = .ok points ∧
        ShardSelection.collect ⟨whole, d.readable q clamped groups s⟩ q clamped = .ok reference ∧
        points.Perm reference ∧ points.Pairwise (InOrder opt.ascending) := by
  obtain ⟨stream, opened, delivers⟩ :=
    read_delivers mapped distinct holds source inRange compiled anywhere cut d relies
  obtain ⟨points, drained, permuted, ordered⟩ := delivers.toPoints
  obtain ⟨reference, collected, expected⟩ :=
    ShardSelection.exists_collect ⟨whole, d.readable q clamped groups s⟩ clamped compiled
  have stored : ((d.readable q clamped groups s).flatMap fun id =>
      clamped.pointsIn pattern q.name (whole.contents id)) =
      (d.readable q clamped groups s).flatMap fun id => clamped.pointsIn pattern q.name (held id) :=
    List.flatMap_congr fun id member => congrArg _ (same id member)
  have nodup := c.topology.nodup_ownedShards distinct inRange
  exact ⟨nodup.filter _, stream, points, reference, opened, drained, collected,
    permuted.trans (stored ▸ expected.symm), ordered⟩

end Map

section Pair

def oneShard (v : FieldValue) : ShardStore where
  shards := .ofList [(1, {
    database := "db"
    retentionPolicy := "rp"
    enabled := true
    measurements := .ofList [("cpu", .ofList [("cpu", .ofList [(0, Point.holding v)])])] })]

def pair (v : FieldValue) : Cluster where
  topology := {
    dataNodes := [⟨1, "a:8086", "a:8088", false⟩, ⟨2, "b:8086", "b:8088", false⟩]
    databases := [⟨"db", "rp", [⟨"rp", .zero, .hour, 1, [⟨1, 0, 10, none, [⟨1, [⟨2⟩]⟩]⟩]⟩]⟩] }
  engines := .ofList [(2, { store := oneShard v })]
  reachable := [("b:8088", 2)]

def mappedPair (v : FieldValue) : Cluster := (pair v).setEngine 1 {}

def cpu : Measurement := { database := "db", retentionPolicy := "rp", name := "cpu" }

def cpuShards : SourceMapping where
  routing := { elsewhere := .ofList [(2, [1])] }
  shards := [⟨1, [⟨2⟩]⟩]

def cpuMapping : ShardMapping where
  nodeId := 1
  minTime := none
  maxTime := none
  sources := .ofList [(cpu.source, cpuShards)]

variable (v : FieldValue)

theorem map_pair : (pair v).map { nodeId := 1 } (fun _ => 0) [.measurement cpu] ⟨0, 9⟩ =
    ((.ok cpuMapping, 1), mappedPair v) := by
  cbv

theorem groupsIn_pair : (pair v).topology.groupsIn "db" "rp" ⟨0, 9⟩ =
    .ok [⟨1, 0, 10, none, [⟨1, [⟨2⟩]⟩]⟩] := by
  cbv

theorem nodup_pair : (pair v).topology.shardIds.Nodup := by
  have one : (pair v).topology.shardIds = [1] := by cbv
  rw [one]
  exact List.pairwise_singleton _ _

theorem find?_cpuMapping : cpuMapping.sources.find? cpu.source = some cpuShards := by
  cbv

theorem holds_pair : (pair v).Holds (oneShard v).contents := by
  intro l listed node own
  have one : (pair v).topology.locations = [⟨"db", "rp", 1, ⟨1, [⟨2⟩]⟩⟩] := by cbv
  rw [one, List.mem_singleton] at listed
  subst listed
  rw [ShardInfo.ownerIds, List.map_singleton, List.mem_singleton] at own
  subst own
  rfl

def pairDialer : Dialer := (mappedPair v).dialer (.ofSeconds 2)

theorem dial_pair : (pairDialer v).dial 2 = .ok ⟨"b:8088", (mappedPair v).reply 2⟩ := rfl

theorem reaches_pair : (pairDialer v).Reaches 2 ((mappedPair v).dataNode 2) := by
  intro c dialed f
  rw [dial_pair] at dialed
  cases dialed
  rfl

theorem pointsIn_pair : (([1] : List UInt64).flatMap fun id =>
    ReadOptions.pointsIn {} none "cpu" ((oneShard v).contents id)) = [Point.holding v] := by
  cbv

theorem allowed_pair : (Frame.carrying FrameType.readRequest
    ({ shardIds := [1], measurement := cpu, options := {} } : ReadRequest)).Allowed := by
  decide +kernel

theorem relies_pair {v : FieldValue} (sendable : (Point.holding v).Sendable) :
    (pairDialer v).Relies 2 ((mappedPair v).dataNode 2) none
      { shardIds := [1], measurement := cpu, options := {} } where
  reaches := reaches_pair v
  fits := allowed_pair.fits
  sendable id member p among := by
    have held : p ∈ [Point.holding v] := by
      rw [← pointsIn_pair v]
      exact List.mem_flatMap.mpr ⟨id, member, among⟩
    rwa [List.mem_singleton.mp held]

theorem read_pair : ∃ s last, PointStream.Gives s [Point.holding v] none last ∧
    (pairDialer v).read 2 [1] false cpu {} = .ok (.remote (RemoteStream.opened "b:8088"
      ((DataNode.streamFrames s).flatMap Frame.bytes) s.stats)) := by
  obtain ⟨type, s, opened, delivers⟩ := ((mappedPair v).dataNode 2).openRead_delivers
    (r := { shardIds := [1], measurement := cpu, options := {} }) rfl
  obtain ⟨given, ⟨last, gives⟩, same, -⟩ := delivers
  obtain rfl : given = [Point.holding v] :=
    List.perm_singleton.mp (same.trans (.of_eq (pointsIn_pair v)))
  exact ⟨s, last, gives, Dialer.read_eq (dial_pair v) (reaches_pair v) allowed_pair opened⟩

theorem opens_pair : (pairDialer v).opens cpu {} (2, [1]) := by
  obtain ⟨s, last, -, read⟩ := read_pair v
  exact Dialer.opens_of_read read

theorem readable_pair : (pairDialer v).readable cpu {} [⟨1, 0, 10, none, [⟨1, [⟨2⟩]⟩]⟩] cpuShards =
    [1] := by
  have none : idsWhere (fun e => !(pairDialer v).opens cpu {} e) [(2, [1])] = [] := by
    rw [idsWhere_cons_not (by simp [opens_pair v])]
    rfl
  rw [Dialer.readable, show cpuShards.routing.elsewhere.toList = [(2, [1])] from rfl, none]
  rfl

theorem collect_pair : ShardSelection.collect ⟨oneShard v, [1]⟩ cpu {} = .ok [Point.holding v] := by
  obtain ⟨points, collected, same⟩ := ShardSelection.exists_collect ⟨oneShard v, [1]⟩ {}
    (show cpu.compiled? = .ok none from rfl)
  rw [collected, List.perm_singleton.mp (same.trans (.of_eq (pointsIn_pair v)))]

theorem mappingRead_pair {v : FieldValue} {s : PointStream}
    (read : (pairDialer v).read 2 [1] false cpu {} = .ok s) :
    cpuMapping.read ((mappedPair v).store 1) (pairDialer v) false cpu {} = .ok (.merge true [s]) := by
  have cut : ReadOptions.clamp {} cpuMapping.minTime cpuMapping.maxTime = {} := rfl
  have here : ShardMapping.streamsHere ((mappedPair v).store 1) cpuShards.routing.here cpu {} =
      .ok [] := rfl
  have elsewhere : cpuShards.routing.elsewhere.toList = [(2, [1])] := rfl
  have others : (pairDialer v).streams cpu {} [(2, [1])] = [s] := Dialer.streams_cons read []
  rw [ShardMapping.read_eq find?_cpuMapping rfl, cut, here, ok_bind, elsewhere, others]
  rfl

theorem reads_as_one_store_pair : (pairDialer (.boolean true)).opens cpu {} (2, [1]) ∧
    ∃ stream points reference,
      cpuMapping.read ((mappedPair (.boolean true)).store 1) (pairDialer (.boolean true)) false cpu
          {} = .ok stream ∧
        stream.toPoints = .ok points ∧
        ShardSelection.collect ⟨oneShard (.boolean true), [1]⟩ cpu {} = .ok reference ∧
        points.Perm reference ∧ points.Pairwise (InOrder true) := by
  have kept : Json.ofBytes Point (Json.toBytes (Point.holding (.boolean true))) =
      .ok (Point.holding (.boolean true)) :=
    (Point.holding_kept fun _ => FieldValue.noConfusion).ofBytes_toBytes (by decide)
  have allowed : (Frame.carrying FrameType.point (Point.holding (.boolean true))).Allowed := by
    decide +kernel
  have named : cpu.compiled? = .ok none := rfl
  have anywhere : ({} : ReadOptions).nodeId = none := rfl
  have cut : ReadOptions.clamp {} none none = {} := rfl
  obtain ⟨-, read⟩ := reads_as_one_store (map_pair (.boolean true)) (nodup_pair _) (holds_pair _)
    find?_cpuMapping (groupsIn_pair _) named anywhere cut (pairDialer (.boolean true))
    (fun e member _ => by
      rw [List.mem_singleton.mp member]
      exact relies_pair ⟨kept, allowed⟩)
    (oneShard (.boolean true)) (fun _ _ => rfl)
  rw [readable_pair] at read
  exact ⟨opens_pair _, read⟩

/-- A point that is longer than a frame may be makes the whole read fail. -/
theorem reads_fail_oversized :
    (pair .oversized).map { nodeId := 1 } (fun _ => 0) [.measurement cpu] ⟨0, 9⟩ =
        ((.ok cpuMapping, 1), mappedPair .oversized) ∧
      (pair .oversized).topology.shardIds.Nodup ∧
      (pair .oversized).Holds (oneShard .oversized).contents ∧
      (pairDialer .oversized).Reaches 2 ((mappedPair .oversized).dataNode 2) ∧
      Json.ofBytes Point (Json.toBytes Point.oversized) = .ok Point.oversized ∧
      (pairDialer .oversized).opens cpu {} (2, [1]) ∧
      ShardSelection.collect ⟨oneShard .oversized, [1]⟩ cpu {} = .ok [Point.oversized] ∧
      ∃ stream,
        cpuMapping.read ((mappedPair .oversized).store 1) (pairDialer .oversized) false cpu {} =
          .ok stream ∧
        stream.toPoints = .error (.frameTooLong (Json.toBytes Point.oversized).length) := by
  obtain ⟨s, last, gives, read⟩ := read_pair .oversized
  obtain ⟨rest, refused⟩ := exists_next_refused gives (Point.fits_oversized _)
    (Point.not_allowed_oversized _) "b:8088" s.stats
  exact ⟨map_pair _, nodup_pair _, holds_pair _, reaches_pair _, Point.ofBytes_oversized,
    opens_pair _, collect_pair _, _, mappingRead_pair read, toPoints_merge_failed refused []⟩

end Pair

end Cluster

end SeriesCluster
