import SeriesCluster.Proofs.Log.Store

namespace SeriesCluster.LogStore

open LogFile

inductive Step
  | change (c : LogChange)
  | reopen
  deriving DecidableEq, Repr

namespace Step

def isChange : Step → Bool
  | change _ => true
  | reopen => false

def on (l : MemberLog) : Step → MemberLog
  | change c => c.on l
  | reopen => l

def appended : Step → List Entry
  | change c => c.appended
  | reopen => []

end Step

def step? (s : LogStore) : Step → Option LogStore
  | .change c =>
    match s.change c with
    | (.ok (), s) => some s
    | (.error _, _) => none
  | .reopen => (openAt s.place).toOption

def run? (s : LogStore) (steps : List Step) : Option LogStore := steps.foldlM step? s

/-- What a log answers: how far it has been purged, the id of its last entry, its vote, and its
entries between any two ends. -/
structure Answers where
  purged : Option LogId
  last : Option LogId
  vote : Option Vote
  range : Bound → Bound → List Entry

def answers (s : LogStore) : Answers where
  purged := s.log.hard.purged
  last := s.log.last?
  vote := s.log.hard.vote
  range := s.log.range

theorem openAt_eq {place : Place} {files : Files} {l : MemberLog}
    (created : place.created = .directory files) (holds : Holds files l) :
    openAt place = .ok ⟨l, .directory files⟩ := by
  rw [openAt, created, holds.readFiles_eq]
  rfl

theorem step?_holds {files : Files} {l : MemberLog} (holds : Holds files l) {step : Step}
    (fit : ∀ e ∈ step.appended, Record.Fits e) :
    ∃ later, step? ⟨l, .directory files⟩ step = some ⟨step.on l, .directory later⟩ ∧
      Holds later (step.on l) := by
  cases step with
  | change c => exact ⟨_, rfl, holds.on_effects fit⟩
  | reopen =>
    refine ⟨files, ?_, holds⟩
    rw [step?, openAt_eq rfl holds]
    rfl

theorem run?_holds {files : Files} {l : MemberLog} (holds : Holds files l) {steps : List Step}
    (fit : ∀ step ∈ steps, ∀ e ∈ step.appended, Record.Fits e) :
    ∃ later, run? ⟨l, .directory files⟩ steps = some ⟨steps.foldl Step.on l, .directory later⟩ ∧
      Holds later (steps.foldl Step.on l) := by
  induction steps generalizing files l with
  | nil => exact ⟨files, rfl, holds⟩
  | cons step steps ih =>
    obtain ⟨next, stepped, kept⟩ := step?_holds holds (fit step List.mem_cons_self)
    obtain ⟨later, run, held⟩ := ih kept fun s member => fit s (List.mem_cons_of_mem _ member)
    refine ⟨later, ?_, held⟩
    rw [run?, List.foldlM_cons, stepped]
    exact run

theorem run?_memory (l : MemberLog) (steps : List Step) :
    run? ⟨l, .nowhere⟩ (steps.filter Step.isChange) = some ⟨steps.foldl Step.on l, .nowhere⟩ := by
  induction steps generalizing l with
  | nil => rfl
  | cons step steps ih =>
    cases step with
    | change c => exact ih (c.on l)
    | reopen => exact ih l

/-- From an empty directory on, every step succeeds, and the log answers as it does in memory after
the same changes. -/
theorem answers_eq_memory {place : Place} (empty : place.created = .directory ∅) (steps : List Step)
    (fit : ∀ step ∈ steps, ∀ e ∈ step.appended, Record.Fits e) :
    ∃ opened stored kept, openAt place = .ok opened ∧ opened.run? steps = some stored ∧
      run? { place := .nowhere } (steps.filter Step.isChange) = some kept ∧
      stored.answers = kept.answers := by
  obtain ⟨later, run, -⟩ := run?_holds Holds.empty fit
  exact ⟨_, _, _, openAt_eq empty Holds.empty, run, run?_memory {} steps, rfl⟩

theorem answers_eq_memory_reopened :
    ∃ opened stored kept, openAt .missing = .ok opened ∧
      opened.run? [.change (.append [⟨⟨⟨1, 1⟩, 1⟩, .blank⟩, ⟨⟨⟨1, 1⟩, 2⟩, .blank⟩]), .reopen,
        .change (.purge ⟨⟨1, 1⟩, 1⟩), .change (.saveVote ⟨⟨1, 1⟩, true⟩), .reopen] = some stored ∧
      run? { place := .nowhere } [.change (.append [⟨⟨⟨1, 1⟩, 1⟩, .blank⟩, ⟨⟨⟨1, 1⟩, 2⟩, .blank⟩]),
        .change (.purge ⟨⟨1, 1⟩, 1⟩), .change (.saveVote ⟨⟨1, 1⟩, true⟩)] = some kept ∧
      stored.answers = kept.answers :=
  answers_eq_memory rfl
    [.change (.append [⟨⟨⟨1, 1⟩, 1⟩, .blank⟩, ⟨⟨⟨1, 1⟩, 2⟩, .blank⟩]), .reopen,
      .change (.purge ⟨⟨1, 1⟩, 1⟩), .change (.saveVote ⟨⟨1, 1⟩, true⟩), .reopen] (by
    intro step member e among
    have shown : ∀ e ∈ [(⟨⟨⟨1, 1⟩, 1⟩, .blank⟩ : Entry), ⟨⟨⟨1, 1⟩, 2⟩, .blank⟩], Record.Fits e := by
      unfold Record.Fits
      decide +kernel
    simp only [List.mem_cons, List.not_mem_nil, or_false] at member
    rcases member with rfl | rfl | rfl | rfl | rfl
    · exact shown e among
    all_goals cases among)

end SeriesCluster.LogStore
