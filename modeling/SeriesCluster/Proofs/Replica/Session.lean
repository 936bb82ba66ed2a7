import SeriesCluster.Proofs.Replica.Snapshot
import SeriesCluster.Proofs.Storage.Interrupted

namespace SeriesCluster.Replica

open FileEffect Json

structure Session where
  replica : Replica
  waiting : List SnapshotBuilder := []

inductive Event
  | apply (entries : List Entry)
  | ask
  | build (b : SnapshotBuilder)
  | install (s : Snapshot)

def Session.afterAsk (s : Session) : Session where
  replica := s.replica.takeBuilder.2
  waiting := s.replica.takeBuilder.1 :: s.waiting

/-- What can become of a replica that writes a snapshot. A write in a directory may fail at any
point; it then leaves what it likes of the temporary file, but does not touch the other files. -/
inductive Writes (r : Replica) (writing : Replica → Replica) : Replica → Prop
  | done : Writes r writing (writing r)
  | failed {files left : Files} (kind : IoKind) (place : r.place = .directory files)
    (spared : SameBut snapshotTemporary files left) :
    Writes r writing { writing { r with place := .stuck kind files } with place := .directory left }

inductive Step (s : Session) : Event → Session → Prop
  | applied (entries : List Entry) :
    Step s (.apply entries) { s with replica := (s.replica.apply entries).2 }
  | asked : Step s .ask s.afterAsk
  | built {b : SnapshotBuilder} {r : Replica} (waits : b ∈ s.waiting)
    (written : Writes s.replica (fun r => (r.build b).2) r) :
    Step s (.build b) ⟨r, s.waiting.erase b⟩
  | installed {snapshot : Snapshot} {r : Replica}
    (written : Writes s.replica (fun r => (r.install snapshot).2) r) :
    Step s (.install snapshot) { s with replica := r }

inductive Run (allowed : Session → Event → Prop) (s : Session) : Session → Prop
  | start : Run allowed s s
  | step {t u : Session} {e : Event} (prior : Run allowed s t) (fits : allowed t e)
    (step : Step t e u) : Run allowed s u

def Session.afterBuild (s : Session) (b : SnapshotBuilder) : Session where
  replica := (s.replica.build b).2
  waiting := s.waiting.erase b

theorem Run.build {allowed : Session → Event → Prop} {s t : Session} {b : SnapshotBuilder}
    (prior : Run allowed s t) (waits : b ∈ t.waiting) (fits : allowed t (.build b)) :
    Run allowed s (t.afterBuild b) :=
  .step prior fits (.built waits .done)

theorem Run.keeps {allowed : Session → Event → Prop} {s t : Session} (run : Run allowed s t)
    (holds : Session → Prop) (start : holds s)
    (kept : ∀ {t u : Session} {e : Event}, holds t → allowed t e → Step t e u → holds u) :
    holds t := by
  induction run with
  | start => exact start
  | step prior fits step ih => exact kept ih fits step

theorem Run.weaken {allowed wider : Session → Event → Prop} {s t : Session}
    (weaker : ∀ {u e}, allowed u e → wider u e) (run : Run allowed s t) : Run wider s t := by
  induction run with
  | start => exact .start
  | step prior fits step ih => exact .step ih (weaker fits) step

theorem Run.trans {allowed : Session → Event → Prop} {s t u : Session} (first : Run allowed s t)
    (later : Run allowed t u) : Run allowed s u := by
  induction later with
  | start => exact first
  | step prior fits step ih => exact .step ih fits step

theorem place_openAt {place : Place} {r : Replica} (opened : openAt place = .ok r) :
    r.place = place := by
  obtain ⟨-, rfl⟩ | ⟨_, _, _, -, -, -, rfl⟩ := openAt_inv opened <;> rfl

theorem openAt_empty : openAt (.directory ∅) = .ok { place := .directory ∅ } := rfl

structure Spares (place left : Place) : Prop where
  nowhere_iff : left = .nowhere ↔ place = .nowhere
  file_eq : left.file? snapshotName = place.file? snapshotName

theorem Spares.refl (place : Place) : Spares place place := ⟨Iff.rfl, rfl⟩

theorem spares_directory {files left : Files} (spared : SameBut snapshotTemporary files left) :
    Spares (.directory files) (.directory left) where
  nowhere_iff := ⟨nofun, nofun⟩
  file_eq := spared snapshotName (by decide)

/-- What comes of keeping a snapshot: it is in memory and, if there is to be one, in the file, or
neither has changed. -/
inductive Keeps (r : Replica) (s : Snapshot) : Replica → Prop
  | unwanted (place : r.place = .nowhere) : Keeps r s { r with current := some s }
  | written {files : Files} (place : r.place = .directory files) :
    Keeps r s { r with
      current := some s, place := .directory (FileEffect.all files (writeSnapshot s)) }
  | failed {left : Place} (spared : Spares r.place left) : Keeps r s { r with place := left }

/-- What comes of installing a snapshot: data that is no topology changes nothing; otherwise the
progress is taken over, also where the snapshot cannot be written. -/
inductive Installs (r : Replica) (s : Snapshot) : Replica → Prop
  | unreadable {left : Place} (spared : Spares r.place left) : Installs r s { r with place := left }
  | readable {q : Replica} {t : Topology} (topology : Json.ofBytes Topology s.data = .ok t)
    (keeps : Keeps { r with progress := .ofSnapshot t s.head } s q) : Installs r s q

theorem keeps_keep (r : Replica) (s : Snapshot) : Keeps r s (r.keep s).2 := by
  obtain ⟨progress, current, buildersTaken, place⟩ := r
  cases place with
  | nowhere => exact .unwanted rfl
  | directory files => exact .written rfl
  | missing | stuck kind files => exact .failed (.refl _)

variable {r q : Replica} {s : Snapshot}

namespace Keeps

theorem progress_eq (keeps : Keeps r s q) : q.progress = r.progress := by
  cases keeps <;> rfl

theorem nowhere_iff (keeps : Keeps r s q) : q.place = .nowhere ↔ r.place = .nowhere := by
  cases keeps with
  | unwanted place => exact Iff.rfl
  | written place => exact ⟨nofun, fun nowhere => by rw [place] at nowhere; cases nowhere⟩
  | failed spared => exact spared.nowhere_iff

end Keeps

namespace Writes

theorem keeps_build {b : SnapshotBuilder} (written : Writes r (fun r => (r.build b).2) q) :
    Keeps r b.snapshot q := by
  cases written with
  | done => exact keeps_keep r b.snapshot
  | failed kind place spared => exact .failed (place ▸ spares_directory spared)

theorem install_failed {t : Topology} {files left : Files}
    (topology : Json.ofBytes Topology s.data = .ok t) (kind : IoKind)
    (place : r.place = .directory files) (spared : SameBut snapshotTemporary files left) :
    Writes r (fun r => (r.install s).2)
      { r with progress := .ofSnapshot t s.head, place := .directory left } := by
  have failed : Writes r (fun r => (r.install s).2) _ := .failed kind place spared
  rwa [install_eq topology] at failed

theorem installs (written : Writes r (fun r => (r.install s).2) q) : Installs r s q := by
  cases topology : Json.ofBytes Topology s.data with
  | ok t =>
    simp only [install_eq topology] at written
    cases written with
    | done => exact .readable topology (keeps_keep _ s)
    | failed kind place spared =>
      exact .readable topology (.failed (place ▸ spares_directory spared))
  | error fault =>
    simp only [install, topology] at written
    cases written with
    | done => exact .unreadable (.refl _)
    | failed kind place spared => exact .unreadable (place ▸ spares_directory spared)

end Writes

theorem Step.nowhere_iff {s t : Session} {e : Event} (step : Step s e t) :
    t.replica.place = .nowhere ↔ s.replica.place = .nowhere := by
  cases step with
  | applied | asked => exact Iff.rfl
  | built waits written => exact written.keeps_build.nowhere_iff
  | installed written =>
    cases written.installs with
    | unreadable spared => exact spared.nowhere_iff
    | readable topology keeps => exact keeps.nowhere_iff

/-- Whether the snapshot of a place can be read and is the one in memory. -/
inductive Agrees (place : Place) : Option Snapshot → Prop
  | absent (file : place.file? snapshotName = none) : Agrees place none
  | kept {bytes : List UInt8} {s : Snapshot} {t : Topology}
    (file : place.file? snapshotName = some bytes) (snapshot : Json.ofBytes Snapshot bytes = .ok s)
    (topology : Json.ofBytes Topology s.data = .ok t) : Agrees place (some s)

/-- Whether a place opens to what a snapshot records, or to an empty replica. -/
def OpensTo (place : Place) : Option Snapshot → Prop
  | none => openAt place = .ok { place := place }
  | some s => ∃ t, Json.ofBytes Topology s.data = .ok t ∧ openAt place = .ok {
      progress := {
        topology := t
        published := t.index
        lastApplied := s.head.lastLogId
        membership := s.head.lastMembership }
      current := some s
      place := place }

namespace Agrees

variable {place left : Place} {current : Option Snapshot}

theorem of_openAt (opened : openAt place = .ok r) : Agrees r.place r.current := by
  obtain ⟨absent, rfl⟩ | ⟨bytes, s, t, file, snapshot, topology, rfl⟩ := openAt_inv opened
  · exact .absent absent
  · exact .kept file snapshot topology

theorem opensTo (agrees : Agrees place current) : OpensTo place current := by
  cases agrees with
  | absent file =>
    rw [OpensTo, openAt, file]
  | kept file snapshot topology => exact ⟨_, topology, openAt_eq file snapshot topology⟩

theorem spared (agrees : Agrees place current) (spared : Spares place left) :
    Agrees left current := by
  cases agrees with
  | absent file => exact .absent (spared.file_eq.trans file)
  | kept file snapshot topology => exact .kept (spared.file_eq.trans file) snapshot topology

theorem written {t : Topology} (topology : Json.ofBytes Topology s.data = .ok t) (files : Files) :
    Agrees (.directory (FileEffect.all files (writeSnapshot s))) (some s) :=
  .kept (file?_writeSnapshot files s) (ofBytes_toBytes (by decide) s) topology

theorem keeps {t : Topology} (agrees : Agrees r.place r.current) (somewhere : r.place ≠ .nowhere)
    (topology : Json.ofBytes Topology s.data = .ok t) (keeps : Keeps r s q) :
    Agrees q.place q.current := by
  cases keeps with
  | unwanted place => exact absurd place somewhere
  | written place => exact written topology _
  | failed spared => exact agrees.spared spared

theorem step {s t : Session} {e : Event} (agrees : Agrees s.replica.place s.replica.current)
    (somewhere : s.replica.place ≠ .nowhere) (step : Step s e t) :
    Agrees t.replica.place t.replica.current := by
  cases step with
  | applied | asked => exact agrees
  | built waits written =>
    exact agrees.keeps somewhere (SnapshotBuilder.decode_data _) written.keeps_build
  | @installed snapshot r written =>
    cases written.installs with
    | unreadable spared => exact agrees.spared spared
    | @readable _ t topology kept =>
      -- Taking over the progress changes neither the file nor the snapshot in memory.
      have agreed : Agrees { s.replica with progress := .ofSnapshot t snapshot.head }.place
          { s.replica with progress := .ofSnapshot t snapshot.head }.current := agrees
      exact agreed.keeps somewhere topology kept

theorem of_run {place : Place} {allowed : Session → Event → Prop} {s : Session}
    (somewhere : place ≠ .nowhere) (opened : openAt place = .ok r) (run : Run allowed ⟨r, []⟩ s) :
    Agrees s.replica.place s.replica.current := by
  have start : r.place ≠ .nowhere ∧ Agrees r.place r.current :=
    ⟨place_openAt opened ▸ somewhere, of_openAt opened⟩
  have both := run.keeps
    (fun t => t.replica.place ≠ .nowhere ∧ Agrees t.replica.place t.replica.current) start
    fun ⟨somewhere, agrees⟩ _ step =>
      ⟨fun nowhere => somewhere (step.nowhere_iff.mp nowhere), agrees.step somewhere step⟩
  exact both.2

end Agrees

/-- That the snapshot in memory and that in the file are the same, and that the place opens to it,
also if a crash cuts the next write of a snapshot. -/
structure Restarts (r : Replica) : Prop where
  absent_iff : r.place.file? snapshotName = none ↔ r.current = none
  decodes : ∀ s, r.current = some s →
    ∃ bytes, r.place.file? snapshotName = some bytes ∧ Json.ofBytes Snapshot bytes = .ok s
  opens : OpensTo r.place r.current
  crashed : ∀ (files found : Files) (s : Snapshot) (t : Topology), r.place = .directory files →
    Json.ofBytes Topology s.data = .ok t → Interrupted (writeSnapshot s) files found →
      OpensTo (.directory found) r.current ∨ OpensTo (.directory found) (some s)

theorem Agrees.restarts (agrees : Agrees r.place r.current) : Restarts r where
  absent_iff := by
    generalize r.current = current at agrees
    cases agrees with
    | absent file => exact iff_of_true file rfl
    | kept file => exact iff_of_false (by rw [file]; nofun) nofun
  decodes s current := by
    rw [current] at agrees
    cases agrees with
    | kept file snapshot => exact ⟨_, file, snapshot⟩
  opens := agrees.opensTo
  crashed files found s t place topology crash := by
    rw [place] at agrees
    rcases crash.of_replace with spared | rfl
    · exact .inl (agrees.spared (spares_directory spared)).opensTo
    · exact .inr (Agrees.written topology files).opensTo

/-- Whatever a replica of a directory does and whichever of its writes fail, its file and its memory
have the same snapshot, and its place opens to that. -/
theorem restarts_anytime {place : Place} {r : Replica} {s : Session} (somewhere : place ≠ .nowhere)
    (opened : openAt place = .ok r) (run : Run (fun _ _ => True) ⟨r, []⟩ s) :
    Restarts s.replica :=
  (Agrees.of_run somewhere opened run).restarts

def firstBuilder : SnapshotBuilder := ⟨{ lastApplied := some ⟨⟨1, 1⟩, 1⟩ }, 1⟩

def firstAsked : Session where
  replica := { progress := firstBuilder.progress, buildersTaken := 1, place := .directory ∅ }
  waiting := [firstBuilder]

def otherSnapshot (last : Option LogId) : Snapshot :=
  ⟨⟨last, {}, "other"⟩, Json.toBytes ({} : Topology)⟩

theorem decode_otherSnapshot (last : Option LogId) :
    Json.ofBytes Topology (otherSnapshot last).data = .ok {} :=
  ofBytes_toBytes (by decide) ({} : Topology)

def failedInstall : Session where
  replica := { (firstAsked.afterBuild firstBuilder).replica with
    progress := { lastApplied := some ⟨⟨1, 1⟩, 2⟩ }
    place := .directory ((write snapshotTemporary [123]).on
      (FileEffect.all ∅ (writeSnapshot firstBuilder.snapshot))) }

theorem restarts_anytime_failedInstall :
    Place.directory ∅ ≠ .nowhere ∧ openAt (.directory ∅) = .ok { place := .directory ∅ } ∧
      Run (fun _ _ => True) ⟨{ place := .directory ∅ }, []⟩ failedInstall ∧
      Restarts failedInstall.replica := by
  have somewhere : Place.directory ∅ ≠ .nowhere := nofun
  have asked : Run (fun _ _ => True) ⟨{ place := .directory ∅ }, []⟩ firstAsked :=
    .step (.step .start trivial (.applied [⟨⟨⟨1, 1⟩, 1⟩, .blank⟩])) trivial .asked
  have built : Run (fun _ _ => True) ⟨{ place := .directory ∅ }, []⟩
      (firstAsked.afterBuild firstBuilder) :=
    asked.build (List.mem_singleton.mpr rfl) trivial
  have failed : Writes (firstAsked.afterBuild firstBuilder).replica
      (fun r => (r.install (otherSnapshot (some ⟨⟨1, 1⟩, 2⟩))).2) failedInstall.replica :=
    .install_failed (decode_otherSnapshot _) .timedOut rfl (sameBut_write _ _ _)
  have run : Run (fun _ _ => True) ⟨{ place := .directory ∅ }, []⟩ failedInstall :=
    .step built trivial (.installed failed)
  exact ⟨somewhere, openAt_empty, run, restarts_anytime somewhere openAt_empty run⟩

end SeriesCluster.Replica
