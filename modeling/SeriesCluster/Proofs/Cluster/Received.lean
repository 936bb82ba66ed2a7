import SeriesCluster.Proofs.Cluster.Forward
import SeriesCluster.Proofs.Stream.Remote

namespace SeriesCluster

open SeriesCluster.Frame

instance (x : Binary64) : Decidable x.Exact :=
  inferInstanceAs (Decidable (Json.ofBytes Binary64 (Json.toBytes x) = .ok x))

instance (xs : List Binary64) : Decidable (FiniteExact xs) :=
  inferInstanceAs (Decidable (∀ x ∈ xs, x.isFinite → x.Exact))

namespace DataNode

theorem serveFrame_eq_ite (n : DataNode) {r : WriteRequest} (exact : FiniteExact r.floats) :
    n.serveFrame r.frame =
      if AllFinite r.floats then ⟨[n.responseFrame r], true, (n.written r).engine⟩
      else n.closes [] := by
  have received := WriteRequest.received_eq_ite exact
  by_cases finite : AllFinite r.floats
  · rw [if_pos finite] at received
    rw [if_pos finite, serveFrame_write received]
  · rw [if_neg finite] at received
    rw [if_neg finite, serveFrame_unreadable received]

end DataNode

namespace Point

def received (p : Point) : Except Error Point :=
  decodePayload Point (carrying FrameType.point p).payload

theorem received_eq_ite {p : Point} (exact : FiniteExact p.floats) :
    p.received = if AllFinite p.floats then .ok p else .error (.serialization none) :=
  decodePayload_eq_ite (keptIff exact) (by decide) FrameType.point

end Point

namespace RemoteStream

theorem item_carrying {p : Point} (allowed : (carrying FrameType.point p).Allowed) (peer : String)
    (rest : List UInt8) :
    item peer ((carrying FrameType.point p).bytes ++ rest) =
      p.received.map fun p => (.point p, rest) := by
  rw [item, next_bytes allowed, ok_bind]
  dsimp only
  rw [type_carrying, if_pos rfl, ← Point.received]
  cases p.received <;> rfl

theorem next_carrying {p : Point} (exact : FiniteExact p.floats)
    (allowed : (carrying FrameType.point p).Allowed) (peer : String) (rest : List UInt8)
    (stats : ReadStats) :
    (opened peer ((carrying FrameType.point p).bytes ++ rest) stats).next.1 =
      if AllFinite p.floats then .ok (some p) else .error (.serialization none) := by
  have read := item_carrying allowed peer rest
  rw [Point.received_eq_ite exact] at read
  by_cases finite : AllFinite p.floats
  · rw [if_pos finite] at read
    simp [opened, next, read, Except.map, finite]
  · rw [if_neg finite] at read
    simp [opened, next, read, Except.map, finite]

end RemoteStream

/-- A batch that is forwarded and a point that is read get to the other node unchanged if their numbers
are finite, and not at all otherwise. -/
theorem received_iff_finite {r : WriteRequest} {p : Point} (batchExact : FiniteExact r.floats)
    (pointExact : FiniteExact p.floats) :
    (r.received = (if AllFinite r.floats then .ok r else .error (.serialization none)) ∧
      ∀ n : DataNode, n.serveFrame r.frame =
        if AllFinite r.floats then ⟨[n.responseFrame r], true, (n.written r).engine⟩
        else n.closes []) ∧
    p.received = (if AllFinite p.floats then .ok p else .error (.serialization none)) ∧
      ((carrying FrameType.point p).Allowed →
        ∀ (peer : String) (rest : List UInt8) (stats : ReadStats),
          (RemoteStream.opened peer ((carrying FrameType.point p).bytes ++ rest) stats).next.1 =
            if AllFinite p.floats then .ok (some p) else .error (.serialization none)) := by
  refine ⟨⟨WriteRequest.received_eq_ite batchExact, fun n => n.serveFrame_eq_ite batchExact⟩,
    Point.received_eq_ite pointExact, fun allowed peer rest stats => ?_⟩
  exact RemoteStream.next_carrying pointExact allowed peer rest stats

def finiteReports : WriteRequest where
  shardId := 7
  points := [Point.holding (.float ⟨0x3fb999999999999a⟩), Point.holding (.float ⟨0x8000000000000000⟩),
    Point.holding (.float ⟨0x444b1ae4d6e2ef50⟩)]

theorem received_iff_finite_reports :
    FiniteExact finiteReports.floats ∧ FiniteExact (Point.holding (.float .notANumber)).floats ∧
      (carrying FrameType.point (Point.holding (.float .notANumber))).Allowed ∧
      finiteReports.received = .ok finiteReports ∧
      (Point.holding (.float .notANumber)).received = .error (.serialization none) := by
  have batchExact : FiniteExact finiteReports.floats := by decide +kernel
  have pointExact : FiniteExact (Point.holding (.float .notANumber)).floats := by decide +kernel
  have finite : AllFinite finiteReports.floats := by decide +kernel
  have infinite : ¬ AllFinite (Point.holding (.float .notANumber)).floats := by decide +kernel
  obtain ⟨⟨batch, -⟩, point, -⟩ := received_iff_finite batchExact pointExact
  rw [if_pos finite] at batch
  rw [if_neg infinite] at point
  exact ⟨batchExact, pointExact, by decide +kernel, batch, point⟩

def infiniteReport : WriteRequest where
  shardId := 7
  points := [Point.holding (.float .positiveInfinity)]

/-- The owner of a shard stores an infinite number that is written on its own node, and a read there
gives it back. The same batch is not stored when it is forwarded, and the point is not read from
another node. -/
theorem infinite_lost :
    (newOwner.writeShard infiniteReport.shardId infiniteReport.points).1 = .ok () ∧
      infiniteReport.received = .error (.serialization none) ∧
      (({} : ShardWriter).forward newOwner infiniteReport ⟨.ok (), none, .ok ⟨1000, 1000, .closed⟩⟩).1 =
        .error (.ofIo .unexpectedEof) ∧
      (PointStream.ofPoints infiniteReport.points {}).next.1 =
        .ok (some (Point.holding (.float .positiveInfinity))) ∧
      (RemoteStream.opened "b:8088" ((DataNode.streamFrames
        (PointStream.ofPoints infiniteReport.points {})).flatMap bytes) {}).next.1 =
          .error (.serialization none) := by
  decide +kernel

end SeriesCluster
