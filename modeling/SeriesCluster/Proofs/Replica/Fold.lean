import SeriesCluster.Proofs.Topology.Index
import SeriesCluster.Replica.Basic

namespace SeriesCluster

namespace Entry

def command? (e : Entry) : Option Command :=
  match e.payload with
  | .normal proposal => (Envelope.ofBytes proposal.command).toOption.map (·.command)
  | _ => none

def membership? (e : Entry) : Option StoredMembership :=
  match e.payload with
  | .membership m => some ⟨some e.id, m⟩
  | _ => none

/-- Whether an entry is blank, sets a membership or has a command that a topology accepts. -/
def Succeeds (t : Topology) (e : Entry) : Prop :=
  e.payload = .blank ∨ (∃ m, e.payload = .membership m) ∨
    ∃ c t', e.command? = some c ∧ t.apply c = .ok t'

end Entry

def commandsOf (entries : List Entry) : List Command := entries.filterMap Entry.command?

namespace Progress

/-- What an entry answers and where it leads. -/
inductive Applied (p : Progress) : Entry → Outcome → Progress → Prop
  | blank (id : LogId) :
    Applied p ⟨id, .blank⟩ ⟨p.topology.index, none⟩ { p with lastApplied := some id }
  | membership (id : LogId) (m : Membership) :
    Applied p ⟨id, .membership m⟩ ⟨p.topology.index, none⟩
      { p with lastApplied := some id, membership := ⟨some id, m⟩ }
  | unreadable {id : LogId} {proposal : Proposal} {fault : Json.Fault}
    (read : Envelope.ofBytes proposal.command = .error fault) :
    Applied p ⟨id, .normal proposal⟩
      ⟨p.topology.index, some (Error.serialization fault.reason?).message⟩
      { p with lastApplied := some id }
  | refused {id : LogId} {proposal : Proposal} {envelope : Envelope} {e : Error}
    (read : Envelope.ofBytes proposal.command = .ok envelope)
    (result : p.topology.apply envelope.command = .error e) :
    Applied p ⟨id, .normal proposal⟩ ⟨p.topology.index, some e.message⟩
      { p with lastApplied := some id }
  | accepted {id : LogId} {proposal : Proposal} {envelope : Envelope} {t : Topology}
    (read : Envelope.ofBytes proposal.command = .ok envelope)
    (result : p.topology.apply envelope.command = .ok t) :
    Applied p ⟨id, .normal proposal⟩ ⟨t.index, none⟩
      { p with lastApplied := some id, topology := t, published := t.index }

theorem applied (p : Progress) (e : Entry) : Applied p e (p.applyEntry e).1 (p.applyEntry e).2 := by
  obtain ⟨id, payload⟩ := e
  cases payload with
  | blank => exact .blank id
  | membership m => exact .membership id m
  | normal proposal =>
    cases read : Envelope.ofBytes proposal.command with
    | error fault =>
      simp only [applyEntry, propose, read]
      exact .unreadable read
    | ok envelope =>
      cases result : p.topology.apply envelope.command with
      | error e =>
        simp only [applyEntry, propose, read, result]
        exact .refused read result
      | ok t =>
        simp only [applyEntry, propose, read, result]
        exact .accepted read result

namespace Applied

variable {p q : Progress} {e : Entry} {o : Outcome}

theorem lastApplied_eq (h : Applied p e o q) : q.lastApplied = some e.id := by
  cases h <;> rfl

theorem membership_eq (h : Applied p e o q) : q.membership = e.membership?.getD p.membership := by
  cases h <;> rfl

theorem topology_eq (h : Applied p e o q) :
    q.topology = p.topology.applyAll (commandsOf [e]) := by
  cases h with
  | blank | membership => rfl
  | unreadable read => simp [commandsOf, Entry.command?, read, Except.toOption, Topology.applyAll]
  | refused read result | accepted read result =>
    simp [commandsOf, Entry.command?, read, Except.toOption, Topology.applyAll, result]

theorem index_eq (h : Applied p e o q) : o.index = q.topology.index := by
  cases h <;> rfl

theorem error_eq_none (h : Applied p e o q) : o.error = none ↔ e.Succeeds p.topology := by
  cases h with
  | blank => exact ⟨fun _ => .inl rfl, fun _ => rfl⟩
  | membership => exact ⟨fun _ => .inr (.inl ⟨_, rfl⟩), fun _ => rfl⟩
  | unreadable read =>
    refine ⟨nofun, ?_⟩
    rintro (blank | ⟨m, membership⟩ | ⟨c, t, found, -⟩)
    · cases blank
    · cases membership
    · simp [Entry.command?, read, Except.toOption] at found
  | refused read result =>
    refine ⟨nofun, ?_⟩
    rintro (blank | ⟨m, membership⟩ | ⟨c, t, found, accepted⟩)
    · cases blank
    · cases membership
    · simp only [Entry.command?, read, Except.toOption, Option.map_some, Option.some.injEq] at found
      rw [← found, result] at accepted
      cases accepted
  | accepted read result =>
    refine ⟨fun _ => .inr (.inr ⟨_, _, ?_, result⟩), fun _ => rfl⟩
    simp [Entry.command?, read, Except.toOption]

end Applied

theorem apply_cons (p : Progress) (e : Entry) (rest : List Entry) :
    p.apply (e :: rest) =
      ((p.applyEntry e).1 :: ((p.applyEntry e).2.apply rest).1, ((p.applyEntry e).2.apply rest).2) :=
  rfl

theorem apply_append (p : Progress) (first later : List Entry) :
    p.apply (first ++ later) =
      ((p.apply first).1 ++ ((p.apply first).2.apply later).1,
        ((p.apply first).2.apply later).2) := by
  induction first generalizing p with
  | nil => rfl
  | cons e first ih => rw [List.cons_append, apply_cons, apply_cons, ih, List.cons_append]

theorem length_apply (p : Progress) (entries : List Entry) :
    (p.apply entries).1.length = entries.length := by
  induction entries generalizing p with
  | nil => rfl
  | cons e entries ih => rw [apply_cons, List.length_cons, List.length_cons, ih]

theorem topology_apply (p : Progress) (entries : List Entry) :
    (p.apply entries).2.topology = p.topology.applyAll (commandsOf entries) := by
  induction entries generalizing p with
  | nil => rfl
  | cons e entries ih =>
    have split : commandsOf (e :: entries) = commandsOf [e] ++ commandsOf entries := by
      rw [commandsOf, ← List.singleton_append, List.filterMap_append]
      rfl
    rw [apply_cons, ih, (p.applied e).topology_eq, split, Topology.applyAll_append]

theorem lastApplied_apply (p : Progress) (entries : List Entry) :
    (p.apply entries).2.lastApplied = (entries.getLast?.map (·.id)).or p.lastApplied := by
  induction entries generalizing p with
  | nil => rfl
  | cons e entries ih =>
    rw [apply_cons, ih, (p.applied e).lastApplied_eq, List.getLast?_cons]
    cases entries.getLast? <;> rfl

theorem membership_apply (p : Progress) (entries : List Entry) :
    (p.apply entries).2.membership =
      (entries.filterMap Entry.membership?).getLast?.getD p.membership := by
  induction entries generalizing p with
  | nil => rfl
  | cons e entries ih =>
    rw [apply_cons, ih, (p.applied e).membership_eq]
    cases found : e.membership? with
    | none => rw [List.filterMap_cons_none found, Option.getD_none]
    | some m =>
      rw [List.filterMap_cons_some found, List.getLast?_cons]
      cases (entries.filterMap Entry.membership?).getLast? <;> rfl

theorem getElem?_apply (p : Progress) (entries : List Entry) (i : Nat) :
    (p.apply entries).1[i]? =
      entries[i]?.map fun e => ((p.apply (entries.take i)).2.applyEntry e).1 := by
  induction entries generalizing p i with
  | nil => rfl
  | cons e entries ih =>
    cases i with
    | zero => rfl
    | succ i => exact ih _ i

/-- What entries answer and where they lead: one answer for each entry in order, the topology that
their accepted commands make, and the position and membership that the last of them set. -/
structure Folds (p : Progress) (entries : List Entry) (outcomes : List Outcome) (q : Progress) :
    Prop where
  length_eq : outcomes.length = entries.length
  topology_eq : q.topology = p.topology.applyAll (commandsOf entries)
  error_eq_none : ∀ (i : Nat) (e : Entry) (o : Outcome), entries[i]? = some e →
    outcomes[i]? = some o →
    (o.error = none ↔ e.Succeeds (p.topology.applyAll (commandsOf (entries.take i))))
  index_eq : ∀ (i : Nat) (o : Outcome), outcomes[i]? = some o →
    o.index = p.topology.index +
      UInt64.ofNat (p.topology.countAccepted (commandsOf (entries.take (i + 1))))
  lastApplied_eq : q.lastApplied = (entries.getLast?.map (·.id)).or p.lastApplied
  membership_eq : q.membership =
    (entries.filterMap Entry.membership?).getLast?.getD p.membership

theorem folds (p : Progress) (entries : List Entry) :
    Folds p entries (p.apply entries).1 (p.apply entries).2 where
  length_eq := p.length_apply entries
  topology_eq := p.topology_apply entries
  error_eq_none i e o entry outcome := by
    rw [getElem?_apply, entry, Option.map_some, Option.some.injEq] at outcome
    have step := ((p.apply (entries.take i)).2.applied e).error_eq_none
    rwa [outcome, topology_apply] at step
  index_eq i o outcome := by
    rw [getElem?_apply, Option.map_eq_some_iff] at outcome
    obtain ⟨e, entry, rfl⟩ := outcome
    -- The index of an answer is that of the topology right after its entry.
    have after : (p.apply (entries.take (i + 1))).2 =
        ((p.apply (entries.take i)).2.applyEntry e).2 := by
      rw [List.take_add_one, entry, apply_append]
      rfl
    rw [((p.apply (entries.take i)).2.applied e).index_eq, ← after, topology_apply,
      Topology.index_applyAll]
  lastApplied_eq := p.lastApplied_apply entries
  membership_eq := p.membership_apply entries

end Progress

namespace Replica

def applyBatches (r : Replica) : List (List Entry) → List Outcome × Replica
  | [] => ([], r)
  | batch :: rest =>
    let (outcomes, r) := r.apply batch
    let (more, r) := r.applyBatches rest
    (outcomes ++ more, r)

theorem apply_append (r : Replica) (first later : List Entry) :
    r.apply (first ++ later) =
      ((r.apply first).1 ++ ((r.apply first).2.apply later).1,
        ((r.apply first).2.apply later).2) := by
  simp only [apply, Progress.apply_append]

theorem applyBatches_eq (r : Replica) (batches : List (List Entry)) :
    r.applyBatches batches = r.apply batches.flatten := by
  induction batches generalizing r with
  | nil => rfl
  | cons batch rest ih =>
    rw [List.flatten_cons, apply_append, ← ih]
    rfl

/-- However entries are cut into batches, a replica folds them one by one. -/
theorem applyBatches_folds (r : Replica) (batches : List (List Entry)) :
    r.applyBatches batches = r.apply batches.flatten ∧
      r.progress.Folds batches.flatten (r.applyBatches batches).1
        (r.applyBatches batches).2.progress := by
  refine ⟨r.applyBatches_eq batches, ?_⟩
  rw [applyBatches_eq]
  exact r.progress.folds batches.flatten

end Replica

end SeriesCluster
