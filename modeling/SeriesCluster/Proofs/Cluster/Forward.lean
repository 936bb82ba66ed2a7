import SeriesCluster.Cluster.Writer
import SeriesCluster.Proofs.Net.Message
import SeriesCluster.Proofs.Store.Filed

namespace SeriesCluster

open SeriesCluster.Frame

instance : Json.Lossless WriteResponse :=
  .ofRecord 0 (fun _ => rfl) rfl (by decide)
    (fun r => .cons r.code rfl (by decide) <| .cons r.message rfl (by decide) .nil)
    fun r => by
      simp [Json.Members.getBy_later, Json.decoded, bind, Except.bind, pure, Except.pure]

namespace WriteRequest

def frame (r : WriteRequest) : Frame := .carrying FrameType.writeRequest r

theorem type_frame (r : WriteRequest) : r.frame.type = FrameType.writeRequest := rfl

def received (r : WriteRequest) : Except Error WriteRequest :=
  decodePayload WriteRequest r.frame.payload

def floats (r : WriteRequest) : List Binary64 := r.points.flatMap Point.floats

theorem keptIff {r : WriteRequest} (exact : FiniteExact r.floats) :
    Json.KeptIff 5 r (AllFinite r.floats) := by
  rw [floats, finiteExact_flatMap] at exact
  rw [floats, allFinite_flatMap]
  have points : Json.KeptIff 4 r.points (∀ p ∈ r.points, AllFinite p.floats) :=
    .list fun p member => Point.keptIff (exact p member)
  have encoded : Json.encode r =
    .object [("shard_id", Json.encode r.shardId), ("points", Json.encode r.points)] := rfl
  refine .ofRecord encoded rfl (by decide) rfl ?_ ?_ ?_ ?_
  · simp only [List.forall_mem_cons]
    exact ⟨(Json.Lossless.writable r.shardId).mono (by decide), points.writable,
      List.forall_mem_nil _⟩
  · exact fun holds => .cons r.shardId rfl (by decide) <|
      .one rfl points.writable (points.decoded holds) .nil
  · intro holds
    have read := points.decoded holds
    simp [Json.Members.get, Json.Members.getBy_later, read, Json.decoded, bind, Except.bind, pure,
      Except.pure]
  · intro fails
    obtain ⟨fault, refused⟩ := points.refused fails
    simp [Json.Members.get, Json.Members.getBy_later, refused, Json.decoded, bind, Except.bind]

theorem received_eq_ite {r : WriteRequest} (exact : FiniteExact r.floats) :
    r.received = if AllFinite r.floats then .ok r else .error (.serialization none) :=
  decodePayload_eq_ite (keptIff exact) (by decide) FrameType.writeRequest

theorem received_eq {r : WriteRequest}
    (noFloats : ∀ p ∈ r.points, ∀ e ∈ p.fields.toList, ∀ x, e.2 ≠ .float x) :
    r.received = .ok r := by
  have none : ∀ x, x ∉ r.floats := by
    intro x member
    obtain ⟨p, sent, held⟩ := List.mem_flatMap.mp member
    exact Point.not_mem_floats (noFloats p sent) x held
  rw [received_eq_ite fun x member => absurd member (none x), if_pos]
  exact fun x member => absurd member (none x)

end WriteRequest

namespace DataNode

variable {n : DataNode} {r batch : WriteRequest}

def accepts (n : DataNode) (batch : WriteRequest) : Except Error Unit :=
  (n.writeShard batch.shardId batch.points).1

def written (n : DataNode) (batch : WriteRequest) : DataNode :=
  { n with engine := (n.writeShard batch.shardId batch.points).2 }

def responseFrame (n : DataNode) (batch : WriteRequest) : Frame :=
  .carrying FrameType.writeResponse (writeResponse (n.accepts batch))

/-- Whether shards are those of a node with a batch written to them as a whole, and nothing else: to
the shard that is there or, if there is none, to one that is created where the topology places it. -/
structure Applied (n : DataNode) (batch : WriteRequest) (t : ShardEngine) : Prop where
  written : n.engine.write batch.shardId batch.points = .ok t ∨
    n.engine.store.shards.find? batch.shardId = none ∧ ∃ place base,
      n.locate batch.shardId = .ok (some place) ∧
      n.engine.createShard ⟨place.database, place.retentionPolicy⟩ batch.shardId = .ok base ∧
      base.write batch.shardId batch.points = .ok t
  contents_eq : ∀ id, t.store.contents id =
    if id = batch.shardId then batch.points.foldl Shard.writeMeasurement (n.engine.store.contents id)
    else n.engine.store.contents id

namespace Applied

variable {t : ShardEngine}

theorem of_write (written : n.engine.write batch.shardId batch.points = .ok t) :
    n.Applied batch t where
  written := .inl written
  contents_eq := ShardEngine.contents_write written

theorem of_createShard {place : ShardLocation} {base : ShardEngine}
    (absent : n.engine.store.shards.find? batch.shardId = none)
    (located : n.locate batch.shardId = .ok (some place))
    (creates : n.engine.createShard ⟨place.database, place.retentionPolicy⟩ batch.shardId = .ok base)
    (written : base.write batch.shardId batch.points = .ok t) : n.Applied batch t where
  written := .inr ⟨absent, place, base, located, creates, written⟩
  contents_eq id := by
    rw [ShardEngine.contents_write written, ShardEngine.contents_createShard creates]

theorem again (applied : n.Applied batch t) : t.write batch.shardId batch.points = .ok t := by
  rcases applied.written with written | ⟨-, place, base, -, -, written⟩
  · exact ShardEngine.write_again written
  · exact ShardEngine.write_again written

end Applied

theorem writeShard_cases (n : DataNode) (batch : WriteRequest) :
    (∃ cause, n.writeShard batch.shardId batch.points = (.error cause, n.engine)) ∨
      ∃ t, n.writeShard batch.shardId batch.points = (.ok (), t) ∧ n.Applied batch t := by
  generalize result : n.writeShard batch.shardId batch.points = answer
  rw [writeShard] at result
  split at result
  · rename_i t stored
    cases result
    exact .inr ⟨t, rfl, .of_write stored⟩
  · rename_i missing
    split at result
    · cases result
      exact .inl ⟨_, rfl⟩
    · cases result
      exact .inl ⟨_, rfl⟩
    · rename_i place located
      split at result
      · cases result
        exact .inl ⟨_, rfl⟩
      · rename_i base creates
        obtain ⟨t, stored⟩ := ShardEngine.exists_write_createShard creates batch.points
        simp only [stored] at result
        cases result
        have absent := ShardEngine.find?_of_shardNotFound missing
        exact .inr ⟨t, rfl, .of_createShard absent located creates stored⟩
  · cases result
    exact .inl ⟨_, rfl⟩

theorem written_of_error {cause : Error}
    (refused : n.writeShard batch.shardId batch.points = (.error cause, n.engine)) :
    n.written batch = n := by
  rw [written, refused]

theorem writeShard_written (n : DataNode) (batch : WriteRequest) :
    (n.written batch).writeShard batch.shardId batch.points =
      n.writeShard batch.shardId batch.points := by
  rcases n.writeShard_cases batch with ⟨cause, refused⟩ | ⟨t, result, applied⟩
  · rw [written_of_error refused]
  · rw [written, result, writeShard, applied.again]

theorem written_written (n : DataNode) (batch : WriteRequest) :
    (n.written batch).written batch = n.written batch := by
  rw [written, writeShard_written]
  rfl

theorem accepts_written (n : DataNode) (batch : WriteRequest) :
    (n.written batch).accepts batch = n.accepts batch := by
  rw [accepts, writeShard_written, accepts]

theorem serveFrame_write (decoded : r.received = .ok batch) :
    n.serveFrame r.frame = ⟨[n.responseFrame batch], true, (n.written batch).engine⟩ := by
  have read : decodePayload WriteRequest r.frame.payload = .ok batch := decoded
  rw [serveFrame, if_pos r.type_frame, read]
  rfl

theorem serveFrame_unreadable {cause : Error} (unreadable : r.received = .error cause) :
    n.serveFrame r.frame = n.closes [] := by
  have read : decodePayload WriteRequest r.frame.payload = .error cause := unreadable
  rw [serveFrame, if_pos r.type_frame, read]

theorem serve_take (fits : r.frame.Fits) (k : Nat) :
    n.serve (r.frame.bytes.take k) = ([], n.engine) ∨
      ∃ batch, r.received = .ok batch ∧ n.serve (r.frame.bytes.take k) =
        ((n.responseFrame batch).bytes, (n.written batch).engine) := by
  have frames := readAll_take (List.forall_mem_singleton.mpr fits) k
  rw [List.flatMap_singleton, arrived] at frames
  by_cases comes : r.frame.Allowed ∧ r.frame.bytes.length ≤ k
  · rw [if_pos comes, arrived] at frames
    cases decoded : r.received with
    | error cause =>
      refine .inl ?_
      rw [serve, frames, List.take_succ_cons, serveFrames, serveFrame_unreadable decoded]
      rfl
    | ok batch =>
      refine .inr ⟨batch, rfl, ?_⟩
      rw [serve, frames, List.take_succ_cons, serveFrames, serveFrame_write decoded]
      simp [serveFrames]
  · refine .inl ?_
    rw [serve, frames, if_neg comes]
    rfl

end DataNode

namespace Exchange

theorem ofFrame_response (response : WriteResponse) :
    ofFrame (.carrying FrameType.writeResponse response) = .done response := by
  have decoded := decodePayload_carrying (Json.ofBytes_toBytes (by decide) response)
    FrameType.writeResponse
  rw [ofFrame, if_neg (by simp), decoded]

theorem eq_of_done {b : Break} {found : Front} {response : WriteResponse}
    (done : read b found = .done response) :
    ∃ f rest, found = .frame f rest ∧ ofFrame f = .done response := by
  unfold read at done
  split at done
  · split at done <;> cases done
  · exact ⟨_, _, rfl, done⟩
  · cases done
  · cases done
  · cases done
  · split at done <;> cases done

theorem code_eq_of_outcome {response : WriteResponse}
    (stored : (Exchange.done response).outcome = .ok ()) :
    response.code = WriteResponse.stored.code := by
  rw [outcome] at stored
  split at stored
  · assumption
  · cases stored

theorem exists_done_of_outcome {x : Exchange} (stored : x.outcome = .ok ()) :
    ∃ response, x = .done response ∧ response.code = WriteResponse.stored.code := by
  cases x with
  | done response => exact ⟨response, rfl, code_eq_of_outcome stored⟩
  | stale cause => cases stored
  | failed cause => cases stored

end Exchange

theorem accepts_of_code {n : DataNode} {batch : WriteRequest}
    (stored : (DataNode.writeResponse (n.accepts batch)).code = WriteResponse.stored.code) :
    n.accepts batch = .ok () := by
  cases result : n.accepts batch with
  | ok _ => rfl
  | error cause =>
    rw [result] at stored
    cases stored

/-- What a call can come to: the owner is as it was or as one write of the batch leaves it, and the
latter if the call says so. -/
def AtMostOnce (n : DataNode) (r : WriteRequest) (result : Except Error Unit) (after : DataNode) :
    Prop :=
  after = n ∧ result ≠ .ok () ∨ ∃ batch, r.received = .ok batch ∧ after = n.written batch ∧
    (result = .ok () → n.accepts batch = .ok ())

/-- Whether the lengths of the request and of its answer fit the headers of their frames. -/
structure FramesFit (n : DataNode) (r : WriteRequest) : Prop where
  request : r.frame.Fits
  response : ∀ batch, r.received = .ok batch → (n.responseFrame batch).Fits

section Forward

variable {n : DataNode} {r : WriteRequest}

theorem FramesFit.written {batch : WriteRequest} (fit : FramesFit n r)
    (decoded : r.received = .ok batch) : FramesFit (n.written batch) r where
  request := fit.request
  response other decoded' := by
    obtain rfl : batch = other := Except.ok.inj (decoded.symm.trans decoded')
    rw [DataNode.responseFrame, DataNode.accepts_written]
    exact fit.response batch decoded

theorem exchange_atMostOnce (fit : FramesFit n r) (fate : Fate) :
    AtMostOnce n r (n.exchange r fate).1.outcome (n.exchange r fate).2 := by
  rw [DataNode.exchange, ← WriteRequest.frame]
  rcases n.serve_take fit.request fate.arrived with served | ⟨batch, decoded, served⟩
  · rw [served]
    refine .inl ⟨rfl, fun stored => ?_⟩
    obtain ⟨response, done, -⟩ := Exchange.exists_done_of_outcome stored
    obtain ⟨f, rest, found, -⟩ := Exchange.eq_of_done done
    rw [List.take_nil, front] at found
    cases found
  · rw [served]
    refine .inr ⟨batch, decoded, rfl, fun stored => ?_⟩
    obtain ⟨response, done, code⟩ := Exchange.exists_done_of_outcome stored
    obtain ⟨f, rest, found, read⟩ := Exchange.eq_of_done done
    have whole := front_take (fit.response batch decoded) [] fate.returned
    rw [List.append_nil, found] at whole
    split_ifs at whole
    cases whole
    rw [DataNode.responseFrame, Exchange.ofFrame_response] at read
    cases read
    exact accepts_of_code code

theorem exchangeAnew_atMostOnce (fit : FramesFit n r) (anew : Except Error Fate) :
    AtMostOnce n r (n.exchangeAnew r anew).1 (n.exchangeAnew r anew).2 := by
  cases anew with
  | error cause => exact .inl ⟨rfl, nofun⟩
  | ok fate => exact exchange_atMostOnce fit fate

theorem AtMostOnce.of_written {batch : WriteRequest} {result : Except Error Unit}
    {after : DataNode} (decoded : r.received = .ok batch)
    (again : AtMostOnce (n.written batch) r result after) : AtMostOnce n r result after := by
  refine .inr ⟨batch, decoded, ?_⟩
  rcases again with ⟨same, failed⟩ | ⟨other, decoded', same, accepted⟩
  · exact ⟨same, fun stored => absurd stored failed⟩
  · obtain rfl : batch = other := Except.ok.inj (decoded.symm.trans decoded')
    rw [DataNode.written_written] at same
    rw [DataNode.accepts_written] at accepted
    exact ⟨same, accepted⟩

theorem forward_atMostOnce (fit : FramesFit n r) (pooled : Option Fate)
    (anew : Except Error Fate) :
    AtMostOnce n r (n.forward r pooled anew).1 (n.forward r pooled anew).2 := by
  cases pooled with
  | none => exact exchangeAnew_atMostOnce fit anew
  | some fate =>
    have first := exchange_atMostOnce fit fate
    rw [DataNode.forward]
    split
    · rename_i cause after exchanged
      rw [exchanged] at first
      rcases first with ⟨rfl, -⟩ | ⟨batch, decoded, rfl, -⟩
      · exact exchangeAnew_atMostOnce fit anew
      · exact (exchangeAnew_atMostOnce (fit.written decoded) anew).of_written decoded
    · rename_i x after answered exchanged
      rw [exchanged] at first
      exact first

/-- A write that is forwarded leaves the owner as it was or with the whole batch written once, as one
write of it there leaves it; and with the latter if the call says that it has been written. -/
theorem forward_once (w : ShardWriter) (c : Course) (fit : FramesFit n r) :
    ((w.forward n r c).2 = n ∨ ∃ batch, r.received = .ok batch ∧
      (w.forward n r c).2 = { n with engine := (n.writeShard batch.shardId batch.points).2 } ∧
      n.Applied batch (w.forward n r c).2.engine) ∧
    ((w.forward n r c).1 = .ok () → ∃ batch, r.received = .ok batch ∧
      n.writeShard batch.shardId batch.points = (.ok (), (w.forward n r c).2.engine) ∧
      n.Applied batch (w.forward n r c).2.engine) := by
  have once : AtMostOnce n r (w.forward n r c).1 (w.forward n r c).2 := by
    rw [ShardWriter.forward]
    split
    · exact .inl ⟨rfl, nofun⟩
    · split
      · exact .inl ⟨rfl, nofun⟩
      · exact forward_atMostOnce fit c.pooled c.anew
  rcases once with ⟨same, failed⟩ | ⟨batch, decoded, same, accepted⟩
  · exact ⟨.inl same, fun stored => absurd stored failed⟩
  rw [same]
  rcases n.writeShard_cases batch with ⟨cause, refused⟩ | ⟨t, result, applied⟩
  · refine ⟨.inl (DataNode.written_of_error refused), fun stored => ?_⟩
    have accepted := accepted stored
    rw [DataNode.accepts, refused] at accepted
    cases accepted
  · have engine : (n.written batch).engine = t := by rw [DataNode.written, result]
    rw [engine]
    exact ⟨.inr ⟨batch, decoded, rfl, applied⟩, fun _ => ⟨batch, decoded, result, applied⟩⟩

end Forward

def newOwner : DataNode where
  engine := {}
  locate id := .ok (some ⟨"db", "rp", 1, ⟨id, []⟩⟩)

def twoReports : WriteRequest where
  shardId := 7
  points := [Point.holding (.integer 1), Point.holding (.integer 2)]

def resent : Course where
  admitted := .ok ()
  pooled := some ⟨1000, 0, .broken (.ofIo .connectionReset)⟩
  anew := .ok ⟨1000, 1000, .closed⟩

theorem forward_once_resent : FramesFit newOwner twoReports ∧
    (({} : ShardWriter).forward newOwner twoReports resent).1 = .ok () ∧
    newOwner.writeShard twoReports.shardId twoReports.points =
      (.ok (), (({} : ShardWriter).forward newOwner twoReports resent).2.engine) ∧
    newOwner.Applied twoReports (({} : ShardWriter).forward newOwner twoReports resent).2.engine := by
  have decoded : twoReports.received = .ok twoReports := WriteRequest.received_eq fun p member => by
    rcases List.mem_cons.mp member with rfl | member
    · exact Point.ne_float_of_mem_holding nofun
    · obtain rfl := List.mem_singleton.mp member
      exact Point.ne_float_of_mem_holding nofun
  have fit : FramesFit newOwner twoReports := by
    refine ⟨by decide +kernel, fun batch received => ?_⟩
    obtain rfl : twoReports = batch := Except.ok.inj (decoded.symm.trans received)
    decide +kernel
  have stored : (({} : ShardWriter).forward newOwner twoReports resent).1 = .ok () := by
    decide +kernel
  obtain ⟨batch, received, once, applied⟩ := (forward_once {} resent fit).2 stored
  obtain rfl : twoReports = batch := Except.ok.inj (decoded.symm.trans received)
  exact ⟨fit, stored, once, applied⟩

end SeriesCluster
