import SeriesCluster.Cluster.Network
import SeriesCluster.Cluster.Nodes
import SeriesCluster.Proofs.Store.Read

namespace SeriesCluster

open SeriesCluster.Frame PointStream

namespace DataNode

variable {n : DataNode} {r : ReadRequest} {pattern : Option Pattern}

theorem exists_targets (g : ShardSelection) {m : Measurement} (compiled : m.compiled? = .ok pattern) :
    ∃ ms, targets g m = .ok ms ∧ ms.map (·.name) = g.names pattern m.name := by
  rw [targets, compiled, ok_bind]
  cases pattern with
  | none => exact ⟨[m], rfl, rfl⟩
  | some p =>
    refine ⟨(g.measurementsMatching p).map m.withName, rfl, ?_⟩
    rw [List.map_map]
    exact List.map_id _

theorem openRead_delivers (n : DataNode) (compiled : r.measurement.compiled? = .ok pattern) :
    ∃ type s, n.openRead r = .ok (type, s) ∧
      Delivers r.options.ascending s (r.shardIds.flatMap fun id =>
        r.options.pointsIn pattern r.measurement.name (n.engine.store.contents id)) := by
  obtain ⟨ms, targeted, named⟩ := exists_targets (n.engine.select r.shardIds) compiled
  obtain ⟨streams, lists, opened, deliver, all⟩ :=
    (n.engine.select r.shardIds).reads r.options pattern r.measurement.name
  rw [← named, List.mapM_map] at opened
  refine ⟨askedType (n.engine.select r.shardIds) ms r.options.fields,
    .merge r.options.ascending streams, ?_, (Delivers.merge deliver).perm all⟩
  rw [openRead, targeted, ok_bind, show ms.mapM _ = .ok streams from opened]
  rfl

theorem serve_closes {f : Frame} {frames : List Frame} (allowed : f.Allowed)
    (served : n.serveFrame f = n.closes frames) : (n.serve f.bytes).1 = frames.flatMap bytes := by
  have one : f.bytes = [f].flatMap bytes := (List.append_nil _).symm
  rw [serve, one, readAll_bytes (List.forall_mem_singleton.mpr allowed), serveFrames, served]
  rfl

theorem serve_read (allowed : (carrying FrameType.readRequest r).Allowed) :
    (n.serve (carrying FrameType.readRequest r).bytes).1 = (n.readFrames r).flatMap bytes := by
  have kept : Json.ofBytes ReadRequest (Json.toBytes r) = .ok r := Json.ofBytes_toBytes (by decide) r
  apply serve_closes allowed
  rw [serveFrame, type_carrying, if_neg (by decide), if_pos rfl, decodePayload_carrying kept]

theorem serve_refused {f : Frame} (fits : f.Fits) (refused : ¬ f.Allowed) :
    (n.serve f.bytes).1 = [] := by
  have long := front_refused fits refused []
  rw [List.append_nil] at long
  have none : (readAll f.bytes).1 = [] := by
    rw [readAll]
    split
    all_goals rename_i found
    all_goals rw [long] at found
    all_goals cases found
  rw [serve, none]
  rfl

end DataNode

def Dialer.Reaches (d : Dialer) (node : UInt64) (n : DataNode) : Prop :=
  ∀ c, d.dial node = .ok c → ∀ f, c.request .cluster f = (n.serve f.bytes).1

theorem RemoteStream.ofResponse_carrying (peer : String) (type : DataType) (stats : ReadStats)
    (rest : List UInt8) :
    ofResponse peer ((carrying FrameType.readResponse
      ({ dataType := type, stats := stats, error := none } : ReadResponse)).bytes ++ rest) =
      .ok (type, opened peer rest stats) := by
  rw [ofResponse, message_carrying (Json.ofBytes_toBytes (by decide) _)
    (ReadResponse.allowed type stats)]
  rfl

namespace Dialer

/-- What a read of another node relies on: that it is the node that is asked, that the length of the
request can be written, and that the points which are selected there get through. -/
structure Relies (d : Dialer) (node : UInt64) (n : DataNode) (pattern : Option Pattern)
    (r : ReadRequest) : Prop where
  reaches : d.Reaches node n
  fits : (carrying FrameType.readRequest r).Fits
  sendable : ∀ id ∈ r.shardIds, ∀ p ∈ r.options.pointsIn pattern r.measurement.name
    (n.engine.store.contents id), p.Sendable

section Read

variable {d : Dialer} {node : UInt64} {n : DataNode} {ids : List UInt64} {q : Measurement}
  {opt : ReadOptions}

theorem read_dialed {c : Connection} (dialed : d.dial node = .ok c) (reaches : d.Reaches node n) :
    d.read node ids false q opt = (RemoteStream.ofResponse c.peer (n.serve
      (carrying FrameType.readRequest
        ({ shardIds := ids, measurement := q, options := opt } : ReadRequest)).bytes).1).map
      fun answer => .remote answer.2 := by
  rw [read, dialed, ok_bind, if_neg Bool.false_ne_true]
  dsimp only
  rw [reaches c dialed]
  rfl

theorem read_eq {c : Connection} {type : DataType} {s : PointStream} (dialed : d.dial node = .ok c)
    (reaches : d.Reaches node n)
    (allowed : (carrying FrameType.readRequest
      ({ shardIds := ids, measurement := q, options := opt } : ReadRequest)).Allowed)
    (opened : n.openRead { shardIds := ids, measurement := q, options := opt } = .ok (type, s)) :
    d.read node ids false q opt = .ok (.remote
      (RemoteStream.opened c.peer ((DataNode.streamFrames s).flatMap bytes) s.stats)) := by
  rw [read_dialed dialed reaches, DataNode.serve_read allowed, DataNode.readFrames, opened]
  dsimp only
  rw [List.flatMap_cons, RemoteStream.ofResponse_carrying]
  rfl

theorem read_refused {c : Connection} {s : PointStream} (dialed : d.dial node = .ok c)
    (reaches : d.Reaches node n)
    (fits : (carrying FrameType.readRequest
      ({ shardIds := ids, measurement := q, options := opt } : ReadRequest)).Fits)
    (refused : ¬ (carrying FrameType.readRequest
      ({ shardIds := ids, measurement := q, options := opt } : ReadRequest)).Allowed) :
    d.read node ids false q opt ≠ .ok s := by
  rw [read_dialed dialed reaches, DataNode.serve_refused fits refused]
  nofun

theorem read_delivers {s : PointStream} {pattern : Option Pattern}
    (compiled : q.compiled? = .ok pattern)
    (relies : d.Relies node n pattern { shardIds := ids, measurement := q, options := opt })
    (opened : d.read node ids false q opt = .ok s) :
    Delivers opt.ascending s
      (ids.flatMap fun id => opt.pointsIn pattern q.name (n.engine.store.contents id)) := by
  obtain ⟨c, dialed, -⟩ := exists_of_bind_eq_ok opened
  have allowed : (carrying FrameType.readRequest
      ({ shardIds := ids, measurement := q, options := opt } : ReadRequest)).Allowed :=
    Decidable.byContradiction fun refused => read_refused dialed relies.reaches relies.fits refused opened
  obtain ⟨type, stream, found, delivers⟩ := n.openRead_delivers
    (r := { shardIds := ids, measurement := q, options := opt }) compiled
  rw [read_eq dialed relies.reaches allowed found] at opened
  cases opened
  refine delivers.sent (fun p member => ?_) c.peer stream.stats
  obtain ⟨id, among, held⟩ := List.mem_flatMap.mp member
  exact relies.sendable id among p held

end Read

end Dialer

end SeriesCluster
