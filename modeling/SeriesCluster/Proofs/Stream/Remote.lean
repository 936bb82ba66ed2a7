import SeriesCluster.Proofs.Net.Frame
import SeriesCluster.Proofs.Net.Message
import SeriesCluster.Proofs.Stream.Gives

namespace SeriesCluster

open SeriesCluster.Frame

/-- The end that is sent behind the points of a stream which has ended, or failed, and been closed. -/
def PointStream.readEnd (fault : Option Error) (last : PointStream) : ReadEnd where
  stats := last.close.2.stats
  error :=
    match fault, last.close.1 with
    | some e, _ => some e.message
    | none, .error e => some e.message
    | none, .ok _ => none

theorem DataNode.streamFrames_eq {s last : PointStream} {points : List Point} {fault : Option Error}
    (gives : s.Gives points fault last) :
    streamFrames s = points.map (carrying FrameType.point) ++
      [carrying FrameType.readEnd (PointStream.readEnd fault last)] := by
  have pulled := gives.pullAll_eq (Nat.lt_succ_of_le gives.length_le_pending)
  rw [streamFrames, pulled]
  rfl

namespace RemoteStream

variable {peer : String} {more : List UInt8} {k : Nat}

theorem item_point {p : Point} (kept : Json.ofBytes Point (Json.toBytes p) = .ok p)
    (allowed : (carrying FrameType.point p).Allowed)
    (whole : (carrying FrameType.point p).bytes.length ≤ k) :
    item peer (((carrying FrameType.point p).bytes ++ more).take k) =
      .ok (.point p, more.take (k - (carrying FrameType.point p).bytes.length)) := by
  rw [item, next_whole allowed whole, ok_bind]
  dsimp only
  rw [type_carrying, if_pos rfl, decodePayload_carrying kept]
  rfl

theorem item_finish {e : ReadEnd} (allowed : (carrying FrameType.readEnd e).Allowed)
    (whole : (carrying FrameType.readEnd e).bytes.length ≤ k) :
    item peer (((carrying FrameType.readEnd e).bytes ++ more).take k) =
      .ok (.finish e, more.take (k - (carrying FrameType.readEnd e).bytes.length)) := by
  have kept : Json.ofBytes ReadEnd (Json.toBytes e) = .ok e := Json.ofBytes_toBytes (by decide) e
  rw [item, next_whole allowed whole, ok_bind]
  dsimp only
  rw [type_carrying, if_neg (by decide), if_pos rfl, decodePayload_carrying kept]
  rfl

theorem item_error {unread : List UInt8} {e : Error} (refused : Frame.next unread = .error e) :
    item peer unread = .error e := by
  rw [item, refused]
  rfl

def opened (peer : String) (unread : List UInt8) (stats : ReadStats) : RemoteStream :=
  { peer := peer, unread := unread, stats := stats }

end RemoteStream

namespace PointStream

open RemoteStream

variable {peer : String} {stats : ReadStats}

section Item

variable {unread rest : List UInt8}

theorem next_opened_point {p : Point} (read : item peer unread = .ok (.point p, rest)) :
    (remote (opened peer unread stats)).next = (.ok (some p), .remote (opened peer rest stats)) := by
  simp [next_remote, opened, RemoteStream.next, read]

theorem next_opened_finish {e : ReadEnd} (read : item peer unread = .ok (.finish e, rest)) :
    (remote (opened peer unread stats)).next =
      (outcome (e.error.map .remote), .remote (opened peer rest e.stats).close) := by
  cases found : e.error with
  | none => simp [next_remote, opened, RemoteStream.next, read, found, RemoteStream.close, outcome]
  | some text =>
    simp [next_remote, opened, RemoteStream.next, read, found, RemoteStream.close, outcome]

theorem next_opened_error {e : Error} (refused : Frame.next unread = .error e) :
    (remote (opened peer unread stats)).next =
      (outcome (some e), .remote (opened peer unread stats).close) := by
  simp [next_remote, opened, RemoteStream.next, item_error refused, outcome]

theorem next_closed (s : RemoteStream) : (remote s.close).next = (.ok none, .remote s.close) :=
  next_remote s.close

end Item

def sent (points : List Point) : List UInt8 :=
  (points.map (carrying FrameType.point)).flatMap bytes

theorem leads_remote {points : List Point} {more : List UInt8} {k : Nat}
    (kept : ∀ p ∈ points, Json.ofBytes Point (Json.toBytes p) = .ok p)
    (allowed : ∀ f ∈ points.map (carrying FrameType.point), f.Allowed)
    (whole : (sent points).length ≤ k) :
    Leads (.remote (opened peer ((sent points ++ more).take k) stats)) points
      (.remote (opened peer (more.take (k - (sent points).length)) stats)) := by
  induction points generalizing k with
  | nil => exact .here _
  | cons p points ih =>
    rw [List.map_cons, List.forall_mem_cons] at allowed
    rw [List.forall_mem_cons] at kept
    have split : sent (p :: points) = (carrying FrameType.point p).bytes ++ sent points := rfl
    rw [split, List.length_append] at whole
    have read : item peer ((sent (p :: points) ++ more).take k) =
        .ok (.point p,
          (sent points ++ more).take (k - (carrying FrameType.point p).bytes.length)) := by
      rw [split, List.append_assoc]
      exact item_point kept.1 allowed.1 (by omega)
    have later := ih kept.2 allowed.2 (Nat.le_sub_of_add_le' whole)
    rw [split, List.length_append, ← Nat.sub_sub]
    refine .point ?_ later
    rw [← split, next_opened_point read]

def framesOf (points : List Point) (finish : ReadEnd) : List Frame :=
  points.map (carrying FrameType.point) ++ [carrying FrameType.readEnd finish]

section Frames

variable {points : List Point} {finish : ReadEnd} {k : Nat}

theorem gives_finished (kept : ∀ p ∈ points, Json.ofBytes Point (Json.toBytes p) = .ok p)
    (all : arrived k (framesOf points finish) = (framesOf points finish).length) :
    ∃ rest, Gives (.remote (opened peer (((framesOf points finish).flatMap bytes).take k) stats))
      points (finish.error.map .remote) (.remote (opened peer rest finish.stats).close) := by
  obtain ⟨-, whole, allowed⟩ := le_arrived_iff.mp (Nat.le_of_eq all.symm)
  rw [List.take_length] at whole allowed
  have split : (framesOf points finish).flatMap bytes =
      sent points ++ ((carrying FrameType.readEnd finish).bytes ++ []) := by
    rw [framesOf, List.flatMap_append, List.flatMap_singleton, List.append_nil]
    rfl
  rw [split, List.length_append, List.append_nil] at whole
  rw [framesOf, List.forall_mem_append, List.forall_mem_singleton] at allowed
  rw [split]
  exact ⟨_, _, leads_remote kept allowed.1 (by omega),
    next_opened_finish (item_finish allowed.2 (by omega))⟩

theorem gives_stopped (kept : ∀ p ∈ points, Json.ofBytes Point (Json.toBytes p) = .ok p)
    (fits : ∀ f ∈ framesOf points finish, f.Fits) {f : Frame} {n : Nat}
    (stops : arrived k (framesOf points finish) = n) (here : (framesOf points finish)[n]? = some f) :
    ∃ rest, Gives (.remote (opened peer (((framesOf points finish).flatMap bytes).take k) stats))
      (points.take n)
      (some (f.stopAt (k - (((framesOf points finish).take n).flatMap bytes).length)))
      (.remote (opened peer rest stats).close) := by
  obtain ⟨within, whole, allowed⟩ := le_arrived_iff.mp (Nat.le_of_eq stops.symm)
  obtain ⟨inside, rfl⟩ := List.getElem?_eq_some_iff.mp here
  have before : (framesOf points finish).take n =
      (points.take n).map (carrying FrameType.point) := by
    rw [framesOf, List.length_append, List.length_map, List.length_singleton] at inside
    rw [framesOf, List.take_append_of_le_length (by rw [List.length_map]; omega), List.map_take]
  rw [before] at whole allowed ⊢
  have split : (framesOf points finish).flatMap bytes = sent (points.take n) ++
      ((framesOf points finish)[n].bytes ++
        ((framesOf points finish).drop (n + 1)).flatMap bytes) := by
    rw [sent, ← before, ← List.flatMap_cons, ← List.drop_eq_getElem_cons inside,
      ← List.flatMap_append, List.take_append_drop]
  have stays : ¬ ((framesOf points finish)[n].Allowed ∧
      (framesOf points finish)[n].bytes.length ≤ k - (sent (points.take n)).length) := by
    rintro ⟨comes, last⟩
    have more : n + 1 ≤ arrived k (framesOf points finish) := by
      rw [le_arrived_iff, List.take_succ_eq_append_getElem inside, before, List.flatMap_append,
        List.flatMap_singleton, List.length_append]
      refine ⟨inside, Nat.add_le_of_le_sub' whole last, ?_⟩
      rw [List.forall_mem_append, List.forall_mem_singleton]
      exact ⟨allowed, comes⟩
    omega
  rw [split]
  exact ⟨_, _, leads_remote (fun p member => kept p (List.mem_of_mem_take member)) allowed whole,
    next_opened_error (next_stopped (fits _ (List.getElem_mem inside)) stays)⟩

end Frames

/-- Of a stream's frames the reader gets the points up to the cut, or up to a frame that is refused.
Only an end that has come whole and tells no failure ends them without one. -/
theorem remote_gives {s last : PointStream} {points : List Point} {fault : Option Error}
    {frames : List Frame} (gives : s.Gives points fault last)
    (sends : DataNode.streamFrames s = frames)
    (kept : ∀ p ∈ points, Json.ofBytes Point (Json.toBytes p) = .ok p)
    (fits : ∀ f ∈ frames, f.Fits) (peer : String) (stats : ReadStats) (k : Nat) :
    ∃ (n : Nat) (stop : Option Error) (final : RemoteStream),
      (∀ m, m ≤ n ↔ m ≤ frames.length ∧ ((frames.take m).flatMap bytes).length ≤ k ∧
        ∀ f ∈ frames.take m, f.Allowed) ∧
      Gives (.remote (opened peer ((frames.flatMap bytes).take k) stats)) (points.take n) stop
        (.remote final) ∧
      (remote final).next = (.ok none, .remote final) ∧
      (stop = none ↔ n = frames.length ∧ (readEnd fault last).error = none) ∧
      (n = frames.length →
        stop = (readEnd fault last).error.map .remote ∧
          final.stats = (readEnd fault last).stats) ∧
      ∀ f, frames[n]? = some f →
        stop = some (f.stopAt (k - ((frames.take n).flatMap bytes).length)) ∧
          final.stats = stats := by
  obtain rfl : framesOf points (readEnd fault last) = frames :=
    (DataNode.streamFrames_eq gives).symm.trans sends
  have most : arrived k (framesOf points (readEnd fault last)) ≤
      (framesOf points (readEnd fault last)).length := (le_arrived_iff.mp (Nat.le_refl _)).1
  rcases Nat.lt_or_eq_of_le most with inside | all
  · have here := List.getElem?_eq_getElem inside
    obtain ⟨rest, stopped⟩ := gives_stopped kept fits rfl here
    refine ⟨_, _, (opened peer rest stats).close, fun m => le_arrived_iff, stopped, next_closed _,
      ?_, ?_, ?_⟩
    · simp [Nat.ne_of_lt inside]
    · exact fun whole => absurd whole (Nat.ne_of_lt inside)
    · intro f found
      rw [here] at found
      cases found
      exact ⟨rfl, rfl⟩
  · obtain ⟨rest, finished⟩ := gives_finished kept all
    have every : points.take (arrived k (framesOf points (readEnd fault last))) = points := by
      rw [all, framesOf, List.length_append, List.length_map]
      exact List.take_of_length_le (Nat.le_add_right ..)
    refine ⟨_, _, (opened peer rest (readEnd fault last).stats).close, fun m => le_arrived_iff, ?_,
      next_closed _, ?_, fun _ => ⟨rfl, rfl⟩, ?_⟩
    · rw [every]
      exact finished
    · simp [all]
    · intro f found
      rw [all, List.getElem?_length] at found
      cases found

theorem exists_next_refused {s last : PointStream} {p : Point} {points : List Point}
    {fault : Option Error} (gives : s.Gives (p :: points) fault last)
    (fits : (carrying FrameType.point p).Fits) (refused : ¬ (carrying FrameType.point p).Allowed)
    (peer : String) (stats : ReadStats) :
    ∃ rest, (remote (opened peer ((DataNode.streamFrames s).flatMap bytes) stats)).next =
      (.error (.frameTooLong (Json.toBytes p).length), rest) := by
  rw [DataNode.streamFrames_eq gives, List.map_cons, List.cons_append, List.flatMap_cons]
  exact ⟨_, next_opened_error (next_refused fits refused _)⟩

def twoPoints : List Point := [{ name := "cpu", time := 1 }, { name := "cpu", time := 2 }]

theorem remote_gives_twoPoints :
    (∀ p ∈ twoPoints, Json.ofBytes Point (Json.toBytes p) = .ok p) ∧
      (∀ f ∈ DataNode.streamFrames (ofPoints twoPoints {}), f.Fits) ∧
      ∃ (n : Nat) (stop : Option Error) (final : RemoteStream),
        Gives (.remote (opened "b:8088"
            (((DataNode.streamFrames (ofPoints twoPoints {})).flatMap bytes).take 100) {}))
          (twoPoints.take n) stop (.remote final) ∧
        (remote final).next = (.ok none, .remote final) := by
  have kept : ∀ p ∈ twoPoints, Json.ofBytes Point (Json.toBytes p) = .ok p := fun p member => by
    have none : p.fields = ∅ := by
      rcases List.mem_pair.mp member with rfl | rfl
      · rfl
      · rfl
    have noFloats : ∀ e ∈ p.fields.toList, ∀ x, e.2 ≠ .float x := by
      rw [none]
      exact fun e impossible => absurd impossible List.not_mem_nil
    exact (Point.kept noFloats).ofBytes_toBytes (by decide)
  have fits : ∀ f ∈ DataNode.streamFrames (ofPoints twoPoints {}), f.Fits := by decide +kernel
  obtain ⟨n, stop, final, -, given, closed, -⟩ :=
    remote_gives (gives_ofPoints twoPoints {}) rfl kept fits "b:8088" {} 100
  exact ⟨kept, fits, n, stop, final, given, closed⟩

/-- A point that is longer than a frame may be ends the stream, also where its frame has come whole,
and where only the header of its frame has come. -/
theorem remote_refuses_oversized :
    Json.ofBytes Point (Json.toBytes Point.oversized) = .ok Point.oversized ∧
      Gives (ofPoints [Point.oversized] {}) [Point.oversized] none (ofPoints [] {}) ∧
      ∀ k, headerLength ≤ k →
        (remote (opened "" (((DataNode.streamFrames (ofPoints [Point.oversized] {})).flatMap
          bytes).take k) {})).next.1 =
          .error (.frameTooLong (Json.toBytes Point.oversized).length) := by
  have gives : Gives (ofPoints [Point.oversized] {}) [Point.oversized] none (ofPoints [] {}) :=
    gives_ofPoints _ _
  refine ⟨Point.ofBytes_oversized, gives, fun k header => ?_⟩
  have stays : ¬ ((carrying FrameType.point Point.oversized).Allowed ∧
      (carrying FrameType.point Point.oversized).bytes.length ≤ k) :=
    fun comes => Point.not_allowed_oversized _ comes.1
  rw [DataNode.streamFrames_eq gives, List.map_singleton, List.singleton_append, List.flatMap_cons,
    next_opened_error (next_stopped (Point.fits_oversized _) stays)]
  rw [stopAt, if_pos ⟨Point.not_allowed_oversized _, header⟩, payload_carrying]
  rfl

end PointStream

end SeriesCluster
