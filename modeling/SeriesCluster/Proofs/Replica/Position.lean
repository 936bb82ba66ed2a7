import SeriesCluster.Proofs.Replica.Session

namespace SeriesCluster

instance : Std.TransOrd Leadership := by
  have both : Std.TransCmp (compareLex (compareOn Leadership.term) (compareOn Leadership.node)) :=
    inferInstance
  exact both

instance : Std.TransOrd LogId := by
  have both : Std.TransCmp (compareLex (compareOn LogId.leader) (compareOn LogId.index)) :=
    inferInstance
  exact both

/-- Whether one position is not after another one; to have none is to be before all of them. -/
def NotAfter {α : Type} [Ord α] (a b : α) : Prop := (compare a b).isLE

section NotAfter

variable {α : Type} [Ord α] {a b c : α}

instance : Decidable (NotAfter a b) := inferInstanceAs (Decidable ((compare a b).isLE = true))

theorem NotAfter.refl [Std.ReflOrd α] (a : α) : NotAfter a a := Std.ReflCmp.isLE_rfl

theorem NotAfter.trans [Std.TransOrd α] (first : NotAfter a b) (later : NotAfter b c) :
    NotAfter a c :=
  Std.TransCmp.isLE_trans first later

end NotAfter

theorem Progress.notAfter_apply {p : Progress} {entries : List Entry}
    (onward : (p.lastApplied :: entries.map fun e => some e.id).IsChain NotAfter) :
    NotAfter p.lastApplied (p.apply entries).2.lastApplied := by
  induction entries generalizing p with
  | nil => exact .refl _
  | cons e entries ih =>
    obtain ⟨next, rest⟩ := List.isChain_cons_cons.mp onward
    have reached := (p.applied e).lastApplied_eq
    have first : NotAfter p.lastApplied (p.applyEntry e).2.lastApplied := reached ▸ next
    exact first.trans (ih (reached ▸ rest))

namespace Replica

def keptAt (r : Replica) : Option (Option LogId) := r.current.map (·.head.lastLogId)

def storedAt (r : Replica) : Option (Option LogId) :=
  (r.place.file? snapshotName).bind fun bytes =>
    (Json.ofBytes Snapshot bytes).toOption.map (·.head.lastLogId)

theorem Agrees.storedAt_eq {r : Replica} (agrees : Agrees r.place r.current) :
    r.storedAt = r.keptAt := by
  unfold storedAt keptAt
  generalize r.current = current at agrees
  cases agrees with
  | absent file => rw [file]; rfl
  | kept file snapshot => rw [file, Option.bind_some, snapshot]; rfl

/-- Whether an event brings in nothing with an id before that of the last applied entry. -/
def NothingOlder (s : Session) : Event → Prop
  | .apply entries =>
    (s.replica.progress.lastApplied :: entries.map fun e => some e.id).IsChain NotAfter
  | .install snapshot => ∀ id, snapshot.head.lastLogId = some id →
    NotAfter s.replica.progress.lastApplied (some id)
  | .ask | .build _ => True

/-- The same, where a snapshot without an id is older than any that has one. -/
structure Onward (s : Session) (e : Event) : Prop where
  nothingOlder : NothingOlder s e
  placed : ∀ snapshot, e = .install snapshot →
    NotAfter s.replica.progress.lastApplied snapshot.head.lastLogId

def OnlyBuilds (bs : List SnapshotBuilder) (_ : Session) : Event → Prop
  | .apply _ | .ask => True
  | .build b => b ∈ bs
  | .install _ => False

/-- Whether a builder was asked for, and since then no later one has been run and no snapshot has been
installed. -/
def InTurn (r : Replica) (s : Session) (b : SnapshotBuilder) : Prop :=
  ∃ t, Run Onward ⟨r, []⟩ t ∧ t.replica.takeBuilder.1 = b ∧
    Run (OnlyBuilds t.afterAsk.waiting) t.afterAsk s

/-- Whether an event brings in nothing older, and runs a builder in its turn or, at least, before the
snapshot in memory has overtaken it. -/
structure InOrder (r : Replica) (s : Session) (e : Event) : Prop extends Onward s e where
  notOvertaken : ∀ b, e = .build b →
    InTurn r s b ∨ NotAfter s.replica.keptAt (some b.progress.lastApplied)

/-- That a replica is as far as each snapshot that it has or has been asked for. -/
structure Ahead (s : Session) : Prop where
  kept : NotAfter s.replica.keptAt (some s.replica.progress.lastApplied)
  waiting : ∀ b ∈ s.waiting, NotAfter b.progress.lastApplied s.replica.progress.lastApplied

namespace Keeps

variable {r q : Replica} {s : Snapshot}

theorem keptAt_cases (keeps : Keeps r s q) :
    q.keptAt = some s.head.lastLogId ∨ q.keptAt = r.keptAt := by
  cases keeps with
  | unwanted | written => exact .inl rfl
  | failed => exact .inr rfl

theorem keptAt_le {bound : Option (Option LogId)} (keeps : Keeps r s q)
    (old : NotAfter r.keptAt bound) (new : NotAfter (some s.head.lastLogId) bound) :
    NotAfter q.keptAt bound := by
  rcases keeps.keptAt_cases with kept | kept
  · rwa [kept]
  · rwa [kept]

theorem le_keptAt (keeps : Keeps r s q) (onward : NotAfter r.keptAt (some s.head.lastLogId)) :
    NotAfter r.keptAt q.keptAt := by
  rcases keeps.keptAt_cases with kept | kept
  · rwa [kept]
  · rw [kept]
    exact .refl _

end Keeps

namespace Ahead

variable {s t : Session} {e : Event}

theorem opened {place : Place} {r : Replica} (opened : openAt place = .ok r) : Ahead ⟨r, []⟩ := by
  obtain ⟨-, rfl⟩ | ⟨_, s, _, -, -, -, rfl⟩ := openAt_inv opened
  · exact ⟨rfl, nofun⟩
  · exact ⟨.refl (some s.head.lastLogId), nofun⟩

theorem reaches {r : Replica} (ahead : Ahead s)
    (further : NotAfter s.replica.progress.lastApplied r.progress.lastApplied)
    (kept : NotAfter r.keptAt (some r.progress.lastApplied)) : Ahead { s with replica := r } where
  kept := kept
  waiting b waits := (ahead.waiting b waits).trans further

theorem step (ahead : Ahead s) (onward : Onward s e) (step : Step s e t) : Ahead t := by
  cases step with
  | applied entries =>
    have further := Progress.notAfter_apply onward.nothingOlder
    exact ahead.reaches further (ahead.kept.trans further)
  | asked =>
    refine ⟨ahead.kept, ?_⟩
    rintro b (_ | ⟨_, waits⟩)
    · exact .refl _
    · exact ahead.waiting b waits
  | @built b r waits written =>
    have keeps := written.keeps_build
    constructor
    · rw [keeps.progress_eq]
      exact keeps.keptAt_le ahead.kept (ahead.waiting b waits)
    · intro c waits
      rw [keeps.progress_eq]
      exact ahead.waiting c (List.mem_of_mem_erase waits)
  | @installed snapshot r written =>
    cases written.installs with
    | unreadable spared => exact ⟨ahead.kept, ahead.waiting⟩
    | readable topology keeps =>
      have further := onward.placed snapshot rfl
      have applied : r.progress.lastApplied = snapshot.head.lastLogId :=
        congrArg Progress.lastApplied keeps.progress_eq
      rw [← applied] at further
      refine ahead.reaches further (keeps.keptAt_le (ahead.kept.trans further) ?_)
      rw [applied]
      exact .refl _

theorem keptAt_step (ahead : Ahead s) (onward : Onward s e)
    (notOvertaken : ∀ b, e = .build b → NotAfter s.replica.keptAt (some b.progress.lastApplied))
    (step : Step s e t) : NotAfter s.replica.keptAt t.replica.keptAt := by
  cases step with
  | applied | asked => exact .refl _
  | @built b r waits written => exact written.keeps_build.le_keptAt (notOvertaken b rfl)
  | @installed snapshot r written =>
    cases written.installs with
    | unreadable spared => exact .refl _
    | readable topology keeps =>
      exact keeps.le_keptAt (ahead.kept.trans (onward.placed snapshot rfl))

end Ahead

theorem InTurn.not_behind {place : Place} {r : Replica} {s : Session} {b : SnapshotBuilder}
    (opened : openAt place = .ok r) (turn : InTurn r s b) :
    NotAfter s.replica.keptAt (some b.progress.lastApplied) := by
  obtain ⟨t, before, rfl, since⟩ := turn
  have ahead : Ahead t := before.keeps Ahead (.opened opened) .step
  have asked : ∀ c ∈ t.afterAsk.waiting,
      NotAfter c.progress.lastApplied t.replica.progress.lastApplied :=
    List.forall_mem_cons.mpr ⟨.refl _, ahead.waiting⟩
  refine since.keeps
    (fun u => NotAfter u.replica.keptAt (some t.replica.progress.lastApplied)) ahead.kept ?_
  intro u v e kept allowed step
  cases step with
  | applied | asked => exact kept
  | @built c r waits written => exact written.keeps_build.keptAt_le kept (asked c allowed)
  | installed => exact allowed.elim

theorem storedAt_eq_of_run {place : Place} {r : Replica} {s : Session}
    {allowed : Session → Event → Prop} (somewhere : place ≠ .nowhere)
    (opened : openAt place = .ok r) (run : Run allowed ⟨r, []⟩ s) :
    s.replica.storedAt = s.replica.keptAt :=
  (Agrees.of_run somewhere opened run).storedAt_eq

theorem storedAt_eq_none {r : Replica} {s : Session} {allowed : Session → Event → Prop}
    (opened : openAt .nowhere = .ok r) (run : Run allowed ⟨r, []⟩ s) :
    s.replica.storedAt = none := by
  have nowhere := run.keeps (fun t => t.replica.place = .nowhere) (place_openAt opened)
    fun nowhere _ step => step.nowhere_iff.mpr nowhere
  rw [storedAt, nowhere]
  rfl

/-- Where entries and other snapshots are not older than what is applied, the snapshot never goes
back, in memory and in the file, as long as each builder is run in turn, or before the snapshot has
overtaken it otherwise. A builder is not overtaken when it is asked for, and as long as it is its
turn. -/
theorem snapshot_not_before {place : Place} {r : Replica} {s t : Session}
    (opened : openAt place = .ok r) (before : Run Onward ⟨r, []⟩ s) (run : Run (InOrder r) s t) :
    NotAfter s.replica.keptAt t.replica.keptAt ∧ NotAfter s.replica.storedAt t.replica.storedAt ∧
      NotAfter t.replica.keptAt (some t.replica.takeBuilder.1.progress.lastApplied) ∧
      ∀ b, InTurn r t b → NotAfter t.replica.keptAt (some b.progress.lastApplied) := by
  have ahead : Ahead s := before.keeps Ahead (.opened opened) .step
  have notOvertaken {u : Session} {e : Event} (ordered : InOrder r u e) :
      ∀ b, e = .build b → NotAfter u.replica.keptAt (some b.progress.lastApplied) :=
    fun b runs => (ordered.notOvertaken b runs).elim (InTurn.not_behind opened) id
  obtain ⟨ahead, kept⟩ := run.keeps
    (fun u => Ahead u ∧ NotAfter s.replica.keptAt u.replica.keptAt) ⟨ahead, .refl _⟩
    fun ⟨ahead, kept⟩ ordered step => ⟨ahead.step ordered.toOnward step,
      kept.trans (ahead.keptAt_step ordered.toOnward (notOvertaken ordered) step)⟩
  refine ⟨kept, ?_, ahead.kept, fun _ => InTurn.not_behind opened⟩
  have whole : Run Onward ⟨r, []⟩ t := before.trans (run.weaken InOrder.toOnward)
  rcases eq_or_ne place .nowhere with rfl | somewhere
  · rw [storedAt_eq_none opened before, storedAt_eq_none opened whole]
    exact .refl _
  · rwa [storedAt_eq_of_run somewhere opened before, storedAt_eq_of_run somewhere opened whole]

def secondBuilder : SnapshotBuilder := ⟨{ lastApplied := some ⟨⟨1, 1⟩, 2⟩ }, 2⟩

def bothAsked : Session where
  replica := {
    progress := secondBuilder.progress
    buildersTaken := 2
    place := .directory ∅ }
  waiting := [secondBuilder, firstBuilder]

theorem onward_apply {s : Session} {entries : List Entry}
    (ids : (s.replica.progress.lastApplied :: entries.map fun e => some e.id).IsChain NotAfter) :
    Onward s (.apply entries) := ⟨ids, nofun⟩

theorem onward_ask (s : Session) : Onward s .ask := ⟨trivial, nofun⟩

theorem onward_build (s : Session) (b : SnapshotBuilder) : Onward s (.build b) := ⟨trivial, nofun⟩

def secondApplied : Session where
  replica := { bothAsked.replica with buildersTaken := 1 }
  waiting := [firstBuilder]

theorem run_secondApplied : Run Onward ⟨{ place := .directory ∅ }, []⟩ secondApplied := by
  have first : Run Onward ⟨{ place := .directory ∅ }, []⟩ firstAsked :=
    .step (.step .start (onward_apply (by decide)) (.applied [⟨⟨⟨1, 1⟩, 1⟩, .blank⟩]))
      (onward_ask _) .asked
  exact .step first (onward_apply (by decide)) (.applied [⟨⟨⟨1, 1⟩, 2⟩, .blank⟩])

theorem run_bothAsked : Run Onward ⟨{ place := .directory ∅ }, []⟩ bothAsked :=
  .step run_secondApplied (onward_ask _) .asked

theorem run_afterBoth {b : SnapshotBuilder} (waits : b ∈ bothAsked.waiting) :
    Run Onward ⟨{ place := .directory ∅ }, []⟩ (bothAsked.afterBuild b) :=
  run_bothAsked.build waits (onward_build _ _)

theorem inTurn_secondBuilder :
    InTurn { place := .directory ∅ } (bothAsked.afterBuild firstBuilder) secondBuilder := by
  have waits : firstBuilder ∈ bothAsked.waiting := by decide
  exact ⟨secondApplied, run_secondApplied, rfl, Run.start.build waits waits⟩

theorem snapshot_not_before_inTurn :
    openAt (.directory ∅) = .ok { place := .directory ∅ } ∧
      Run Onward ⟨{ place := .directory ∅ }, []⟩ (bothAsked.afterBuild firstBuilder) ∧
      Run (InOrder { place := .directory ∅ }) (bothAsked.afterBuild firstBuilder)
        ((bothAsked.afterBuild firstBuilder).afterBuild secondBuilder) ∧
      NotAfter (bothAsked.afterBuild firstBuilder).replica.keptAt
        ((bothAsked.afterBuild firstBuilder).afterBuild secondBuilder).replica.keptAt ∧
      NotAfter (bothAsked.afterBuild firstBuilder).replica.storedAt
        ((bothAsked.afterBuild firstBuilder).afterBuild secondBuilder).replica.storedAt ∧
      NotAfter ((bothAsked.afterBuild firstBuilder).afterBuild secondBuilder).replica.keptAt
        (some secondBuilder.progress.lastApplied) := by
  have before := run_afterBoth (b := firstBuilder) (by decide)
  have run : Run (InOrder { place := .directory ∅ }) (bothAsked.afterBuild firstBuilder)
      ((bothAsked.afterBuild firstBuilder).afterBuild secondBuilder) := by
    refine Run.start.build (by decide) ⟨onward_build _ _, ?_⟩
    rintro _ ⟨⟩
    exact .inl inTurn_secondBuilder
  obtain ⟨kept, stored, fresh, -⟩ := snapshot_not_before openAt_empty before run
  exact ⟨openAt_empty, before, run, kept, stored, fresh⟩

def GoesBack (r q : Replica) : Prop :=
  ¬ NotAfter r.keptAt q.keptAt ∧ ¬ NotAfter r.storedAt q.storedAt

theorem goesBack_of_run {place : Place} {r : Replica} {s t : Session}
    {allowed : Session → Event → Prop} (somewhere : place ≠ .nowhere)
    (opened : openAt place = .ok r) (before : Run allowed ⟨r, []⟩ s) (run : Run allowed s t)
    (back : ¬ NotAfter s.replica.keptAt t.replica.keptAt) : GoesBack s.replica t.replica := by
  refine ⟨back, ?_⟩
  rwa [storedAt_eq_of_run somewhere opened before,
    storedAt_eq_of_run somewhere opened (before.trans run)]

def Session.afterInstall (s : Session) (snapshot : Snapshot) : Session where
  replica := (s.replica.install snapshot).2
  waiting := s.waiting

/-- A builder that is run after a later one takes the snapshot back, and so does an installed
snapshot without an id. -/
theorem snapshot_goes_back :
    (Run Onward ⟨{ place := .directory ∅ }, []⟩ (bothAsked.afterBuild secondBuilder) ∧
      Run Onward (bothAsked.afterBuild secondBuilder)
        ((bothAsked.afterBuild secondBuilder).afterBuild firstBuilder) ∧
      GoesBack (bothAsked.afterBuild secondBuilder).replica
        ((bothAsked.afterBuild secondBuilder).afterBuild firstBuilder).replica) ∧
    (Run NothingOlder ⟨{ place := .directory ∅ }, []⟩ (bothAsked.afterBuild secondBuilder) ∧
      Run NothingOlder (bothAsked.afterBuild secondBuilder)
        ((bothAsked.afterBuild secondBuilder).afterInstall (otherSnapshot none)) ∧
      GoesBack (bothAsked.afterBuild secondBuilder).replica
        ((bothAsked.afterBuild secondBuilder).afterInstall (otherSnapshot none)).replica) := by
  have newer := run_afterBoth (b := secondBuilder) (by decide)
  have overtaken : Run Onward (bothAsked.afterBuild secondBuilder)
      ((bothAsked.afterBuild secondBuilder).afterBuild firstBuilder) :=
    Run.start.build (by decide) (onward_build _ _)
  have unplaced : Run NothingOlder (bothAsked.afterBuild secondBuilder)
      ((bothAsked.afterBuild secondBuilder).afterInstall (otherSnapshot none)) := by
    refine .step .start ?_ (.installed .done)
    rintro id ⟨⟩
  have keptAt : ((bothAsked.afterBuild secondBuilder).afterInstall
      (otherSnapshot none)).replica.keptAt = some none := by
    rw [Session.afterInstall, install_eq (decode_otherSnapshot none)]
    rfl
  have somewhere : Place.directory ∅ ≠ .nowhere := nofun
  constructor
  · exact ⟨newer, overtaken, goesBack_of_run somewhere openAt_empty newer overtaken (by decide)⟩
  · have newer := newer.weaken Onward.nothingOlder
    have back : ¬ NotAfter (bothAsked.afterBuild secondBuilder).replica.keptAt
        ((bothAsked.afterBuild secondBuilder).afterInstall (otherSnapshot none)).replica.keptAt := by
      rw [keptAt]
      decide
    exact ⟨newer, unplaced, goesBack_of_run somewhere openAt_empty newer unplaced back⟩

end Replica

end SeriesCluster
