import SeriesCluster.Proofs.Consensus.Lossless
import SeriesCluster.Proofs.Replica.Fold
import SeriesCluster.Proofs.Topology.Commands

namespace SeriesCluster

open Json

instance : Lossless SnapshotHead :=
  .ofRecord 4 (fun _ => rfl) rfl (by decide)
    (fun h => .cons h.lastLogId rfl (by decide) <| .cons h.lastMembership rfl (by decide) <|
      .cons h.snapshotId rfl (by decide) .nil)
    fun _ => by simp [Members.get_later, bind, Except.bind, pure, Except.pure]

instance : Lossless Snapshot :=
  .ofRecord 5 (fun _ => rfl) rfl (by decide)
    (fun s => .cons s.head rfl (by decide) <| .cons s.data rfl (by decide) .nil)
    fun _ => by simp [Members.get_later, bind, Except.bind, pure, Except.pure]

namespace Progress

def UpToDate (p : Progress) : Prop := p.published = p.topology.index

theorem UpToDate.applied {p q : Progress} {e : Entry} {o : Outcome} (told : p.UpToDate)
    (step : Applied p e o q) : q.UpToDate := by
  cases step with
  | accepted read result => rfl
  | _ => exact told

theorem UpToDate.apply {p : Progress} (told : p.UpToDate) (entries : List Entry) :
    (p.apply entries).2.UpToDate := by
  induction entries generalizing p with
  | nil => exact told
  | cons e entries ih => exact ih (told.applied (p.applied e))

theorem upToDate_ofSnapshot (t : Topology) (head : SnapshotHead) : (ofSnapshot t head).UpToDate :=
  rfl

end Progress

namespace SnapshotBuilder

theorem decode_data (b : SnapshotBuilder) :
    Json.ofBytes Topology b.snapshot.data = .ok b.progress.topology :=
  ofBytes_toBytes (by decide) b.progress.topology

theorem ofBytes_snapshot (b : SnapshotBuilder) :
    Json.ofBytes Snapshot (Json.toBytes b.snapshot) = .ok b.snapshot :=
  ofBytes_toBytes (by decide) b.snapshot

/-- Whatever is replicated is read back as it was written: commands from the log, topologies from
the snapshots that hold them, and these from their files. -/
theorem decode_replicated :
    (∀ e : Envelope, Envelope.ofBytes e.toBytes = .ok e) ∧
      ∀ b : SnapshotBuilder, Json.ofBytes Topology b.snapshot.data = .ok b.progress.topology ∧
        Json.ofBytes Snapshot (Json.toBytes b.snapshot) = .ok b.snapshot :=
  ⟨Envelope.ofBytes_toBytes, fun b => ⟨b.decode_data, b.ofBytes_snapshot⟩⟩

theorem ofSnapshot_snapshot {b : SnapshotBuilder} (told : b.progress.UpToDate) :
    Progress.ofSnapshot b.progress.topology b.snapshot.head = b.progress := by
  obtain ⟨⟨topology, published, lastApplied, membership⟩, number⟩ := b
  change published = topology.index at told
  rw [told]
  rfl

end SnapshotBuilder

def Place.Accepts (place : Place) : Prop := place = .nowhere ∨ ∃ files, place = .directory files

namespace Replica

theorem progress_keep (r : Replica) (s : Snapshot) : (r.keep s).2.progress = r.progress := by
  unfold keep
  split <;> rfl

/-- The replicas that there are: those that have been opened somewhere and have then applied
entries, and taken, built and installed snapshots, while their place changed as it liked. -/
inductive Reachable : Replica → Prop
  | opened {place : Place} {r : Replica} (opened : openAt place = .ok r) : Reachable r
  | applied {r : Replica} (prior : Reachable r) (entries : List Entry) :
    Reachable (r.apply entries).2
  | asked {r : Replica} (prior : Reachable r) : Reachable r.takeBuilder.2
  | built {r : Replica} (prior : Reachable r) (b : SnapshotBuilder) : Reachable (r.build b).2
  | installed {r : Replica} (prior : Reachable r) (s : Snapshot) : Reachable (r.install s).2
  | moved {r : Replica} (prior : Reachable r) (place : Place) : Reachable { r with place := place }

theorem openAt_inv {place : Place} {r : Replica} (opened : openAt place = .ok r) :
    (place.file? snapshotName = none ∧ r = { place := place }) ∨
      ∃ bytes s t, place.file? snapshotName = some bytes ∧ Json.ofBytes Snapshot bytes = .ok s ∧
        Json.ofBytes Topology s.data = .ok t ∧
        r = { progress := .ofSnapshot t s.head, current := some s, place := place } := by
  unfold openAt at opened
  split at opened
  · rename_i absent
    cases opened
    exact .inl ⟨absent, rfl⟩
  · rename_i bytes found
    cases snapshot : Json.ofBytes Snapshot bytes with
    | error fault =>
      rw [snapshot] at opened
      cases opened
    | ok s =>
      rw [snapshot, openAt.decoded, Except.mapError, ok_bind] at opened
      cases topology : Json.ofBytes Topology s.data with
      | error fault =>
        rw [topology] at opened
        cases opened
      | ok t =>
        rw [topology] at opened
        cases opened
        exact .inr ⟨bytes, s, t, found, snapshot, topology, rfl⟩

theorem upToDate_openAt {place : Place} {r : Replica} (opened : openAt place = .ok r) :
    r.progress.UpToDate := by
  obtain ⟨-, rfl⟩ | ⟨bytes, s, t, -, -, -, rfl⟩ := openAt_inv opened
  · rfl
  · exact Progress.upToDate_ofSnapshot t s.head

theorem Reachable.upToDate {r : Replica} (reachable : Reachable r) : r.progress.UpToDate := by
  induction reachable with
  | opened opened => exact upToDate_openAt opened
  | applied prior entries ih => exact ih.apply entries
  | asked prior ih => exact ih
  | built prior b ih =>
    rw [build, progress_keep]
    exact ih
  | installed prior s ih =>
    unfold install
    split
    · exact ih
    · rw [progress_keep]
      exact Progress.upToDate_ofSnapshot _ s.head
  | moved prior place ih => exact ih

theorem openAt_eq {place : Place} {bytes : List UInt8} {s : Snapshot} {t : Topology}
    (found : place.file? snapshotName = some bytes) (snapshot : Json.ofBytes Snapshot bytes = .ok s)
    (topology : Json.ofBytes Topology s.data = .ok t) :
    openAt place = .ok { progress := .ofSnapshot t s.head, current := some s, place := place } := by
  unfold openAt
  rw [found]
  change (openAt.decoded (Json.ofBytes Snapshot bytes) >>= fun s =>
    openAt.decoded (Json.ofBytes Topology s.data) >>= fun t => _) = _
  rw [snapshot]
  change (openAt.decoded (Json.ofBytes Topology s.data) >>= fun t => _) = _
  rw [topology]
  rfl

theorem install_eq {s : Snapshot} {t : Topology} (topology : Json.ofBytes Topology s.data = .ok t)
    (r : Replica) : r.install s = { r with progress := .ofSnapshot t s.head }.keep s := by
  rw [install, topology]

theorem progress_install {s : Snapshot} {t : Topology} (topology : Json.ofBytes Topology s.data = .ok t)
    (r : Replica) : (r.install s).2.progress = .ofSnapshot t s.head := by
  rw [install_eq topology]
  exact progress_keep _ s

theorem keep_ok {r : Replica} (accepts : r.place.Accepts) (s : Snapshot) : (r.keep s).1 = .ok () := by
  rcases accepts with place | ⟨files, place⟩
  · rw [keep, place]
    rfl
  · rw [keep, place]
    rfl

theorem file?_writeSnapshot (files : Files) (s : Snapshot) :
    (Place.directory (FileEffect.all files (writeSnapshot s))).file? snapshotName =
      some (Json.toBytes s) := by
  change FileEffect.bytesIn (FileEffect.all files (writeSnapshot s)) snapshotName = _
  rw [writeSnapshot, FileEffect.bytesIn_replace, if_pos rfl]

theorem file?_keep {r : Replica} {files : Files} (place : r.place = .directory files) (s : Snapshot) :
    (r.keep s).2.place.file? snapshotName = some (Json.toBytes s) := by
  have kept : r.keep s = (.ok (), { r with
      current := some s, place := .directory (FileEffect.all files (writeSnapshot s)) }) := by
    rw [keep, place]
    rfl
  rw [kept]
  exact file?_writeSnapshot files s

/-- Whether a replica is where another one is after the first `k` of some entries, and goes on from
there as that one does. -/
structure Resumes (r : Replica) (entries : List Entry) (k : Nat) (m : Replica) : Prop where
  progress_eq : m.progress = (r.apply (entries.take k)).2.progress
  outcomes_eq : (m.apply (entries.drop k)).1 = (r.apply entries).1.drop k
  final_eq : (m.apply (entries.drop k)).2.progress = (r.apply entries).2.progress

theorem resumes_of_progress {r m : Replica} {entries : List Entry} {k : Nat}
    (same : m.progress = (r.apply (entries.take k)).2.progress) : Resumes r entries k m := by
  have split : r.apply entries = ((r.apply (entries.take k)).1 ++
        ((r.apply (entries.take k)).2.apply (entries.drop k)).1,
      ((r.apply (entries.take k)).2.apply (entries.drop k)).2) := by
    rw [← apply_append, List.take_append_drop]
  have tail : m.progress.apply (entries.drop k) =
      (r.apply (entries.take k)).2.progress.apply (entries.drop k) := by
    rw [same]
  refine ⟨same, ?_, ?_⟩
  · rw [split]
    have length : (r.apply (entries.take k)).1.length = min k entries.length := by
      rw [← List.length_take]
      exact r.progress.length_apply _
    change (m.progress.apply (entries.drop k)).1 = _
    rw [tail]
    by_cases within : k ≤ entries.length
    · rw [List.drop_left' (by rw [length, Nat.min_eq_left within])]
      rfl
    · have none : entries.drop k = [] := List.drop_eq_nil_of_le (by omega)
      rw [none]
      change [] = List.drop k ((r.apply (entries.take k)).1 ++ [])
      rw [List.append_nil, List.drop_eq_nil_of_le (by omega)]
  · rw [split]
    exact congrArg Prod.snd tail

def builderAfter (r : Replica) (entries : List Entry) (k : Nat) : SnapshotBuilder :=
  (r.apply (entries.take k)).2.takeBuilder.1

theorem ofSnapshot_builderAfter {r : Replica} (reachable : Reachable r) (entries : List Entry)
    (k : Nat) :
    Progress.ofSnapshot (r.builderAfter entries k).progress.topology
        (r.builderAfter entries k).snapshot.head =
      (r.apply (entries.take k)).2.progress :=
  SnapshotBuilder.ofSnapshot_snapshot (reachable.upToDate.apply _)

theorem resumes_openAt {r : Replica} (reachable : Reachable r) (entries : List Entry) (k : Nat)
    {place : Place} {bytes : List UInt8} (found : place.file? snapshotName = some bytes)
    (snapshot : Json.ofBytes Snapshot bytes = .ok (r.builderAfter entries k).snapshot) :
    ∃ opened, openAt place = .ok opened ∧ Resumes r entries k opened :=
  ⟨_, openAt_eq found snapshot (SnapshotBuilder.decode_data _),
    resumes_of_progress (ofSnapshot_builderAfter reachable entries k)⟩

theorem build_eq (r : Replica) (b : SnapshotBuilder) :
    r.build b = ((r.keep b.snapshot).1.map fun _ => b.snapshot, (r.keep b.snapshot).2) := rfl

/-- What the snapshot that is asked for after the first `k` of some entries is good for. -/
structure SnapshotResumes (r : Replica) (entries : List Entry) (k : Nat) : Prop where
  built : ∀ (later : Replica) (s : Snapshot), (later.build (r.builderAfter entries k)).1 = .ok s →
    s = (r.builderAfter entries k).snapshot
  build_ok : ∀ later : Replica, later.place.Accepts →
    (later.build (r.builderAfter entries k)).1 = .ok (r.builderAfter entries k).snapshot
  stored : ∀ (later : Replica) (files : Files), later.place = .directory files →
    ∃ opened, openAt (later.build (r.builderAfter entries k)).2.place = .ok opened ∧
      Resumes r entries k opened
  install_ok : ∀ other : Replica, other.place.Accepts →
    (other.install (r.builderAfter entries k).snapshot).1 = .ok ()
  installed : ∀ other : Replica,
    Resumes r entries k (other.install (r.builderAfter entries k).snapshot).2
  opened : ∀ (place : Place) (bytes : List UInt8), place.file? snapshotName = some bytes →
    Json.ofBytes Snapshot bytes = .ok (r.builderAfter entries k).snapshot →
      ∃ opened, openAt place = .ok opened ∧ Resumes r entries k opened

/-- Whoever installs a snapshot, or opens a place that holds it, resumes where it was asked for. -/
theorem snapshotResumes {r : Replica} (reachable : Reachable r) (entries : List Entry) (k : Nat) :
    SnapshotResumes r entries k where
  built later s built := by
    rw [build_eq] at built
    cases kept : (later.keep (r.builderAfter entries k).snapshot).1 with
    | error fault =>
      rw [kept] at built
      cases built
    | ok u =>
      rw [kept] at built
      exact (Except.ok.inj built).symm
  build_ok later accepts := by
    rw [build_eq, keep_ok accepts]
    rfl
  stored later files place :=
    resumes_openAt reachable entries k (file?_keep place _) (SnapshotBuilder.ofBytes_snapshot _)
  install_ok other accepts := by
    rw [install_eq (SnapshotBuilder.decode_data _)]
    refine keep_ok ?_ _
    exact accepts
  installed other := by
    refine resumes_of_progress ?_
    rw [progress_install (SnapshotBuilder.decode_data _), ofSnapshot_builderAfter reachable]
  opened place bytes := resumes_openAt reachable entries k

def commandEntry (n : UInt64) (c : Command) : Entry :=
  ⟨⟨⟨1, 1⟩, n⟩, .normal ⟨Envelope.toBytes ⟨n, c⟩⟩⟩

theorem command?_commandEntry (n : UInt64) (c : Command) : (commandEntry n c).command? = some c := by
  simp [commandEntry, Entry.command?, Envelope.ofBytes_toBytes, Except.toOption]

def oneNode : Replica :=
  (({} : Replica).apply [commandEntry 1 (.createDataNode "a:8086" "a:8088")]).2

def twoDatabases : List Entry :=
  [commandEntry 2 (.createDatabase "first" none), ⟨⟨⟨1, 1⟩, 3⟩, .normal ⟨[0]⟩⟩,
    commandEntry 4 (.createDatabase "second" none)]

theorem topology_apply (r : Replica) (entries : List Entry) :
    (r.apply entries).2.progress.topology = r.progress.topology.applyAll (commandsOf entries) :=
  r.progress.topology_apply entries

theorem topology_twoDatabases :
    (oneNode.apply (twoDatabases.take 1)).2.progress.topology = ({} : Topology).applyAll
      [.createDataNode "a:8086" "a:8088", .createDatabase "first" none] := by
  have node : oneNode.progress.topology =
      ({} : Topology).applyAll [.createDataNode "a:8086" "a:8088"] := by
    rw [oneNode, topology_apply, commandsOf, List.filterMap_cons_some (command?_commandEntry _ _),
      List.filterMap_nil]
  have first : commandsOf (twoDatabases.take 1) = [.createDatabase "first" none] := by
    rw [twoDatabases, List.take_succ_cons, List.take_zero, commandsOf,
      List.filterMap_cons_some (command?_commandEntry _ _), List.filterMap_nil]
  rw [topology_apply, node, first, ← Topology.applyAll_append, List.singleton_append]

theorem snapshotResumes_twoDatabases :
    SnapshotResumes oneNode twoDatabases 1 ∧
      ∃ m, m = (({} : Replica).install (oneNode.builderAfter twoDatabases 1).snapshot).2 ∧
        Resumes oneNode twoDatabases 1 m ∧
        m.progress.topology.dataNodes = [⟨1, "a:8086", "a:8088", false⟩] ∧
        m.progress.topology.databases.map (·.name) = ["first"] := by
  have reachable : Reachable oneNode := .applied (.opened (show openAt .nowhere = .ok {} from rfl)) _
  have resumes := snapshotResumes reachable twoDatabases 1
  have installed := resumes.installed {}
  refine ⟨resumes, _, rfl, installed, ?_, ?_⟩
  · rw [installed.progress_eq, topology_twoDatabases]
    decide +kernel
  · rw [installed.progress_eq, topology_twoDatabases]
    decide +kernel

end Replica

end SeriesCluster
