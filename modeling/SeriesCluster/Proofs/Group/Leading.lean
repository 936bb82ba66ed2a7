import SeriesCluster.Group.Basic
import SeriesCluster.Proofs.Group.Voters
import SeriesCluster.Proofs.Replica.Snapshot
import SeriesCluster.Proofs.Topology.Commands

namespace SeriesCluster

theorem LogStore.change_ok {s : LogStore} (accepts : s.place.Accepts) (c : LogChange) :
    ∃ log : LogStore, s.change c = (.ok (), log) ∧ log.place.Accepts := by
  rcases accepts with nowhere | ⟨files, directory⟩
  · refine ⟨⟨c.on s.log, .nowhere⟩, ?_, .inl rfl⟩
    simp only [change, nowhere, Place.run]
  · refine ⟨⟨c.on s.log, .directory (FileEffect.all files (c.effects s.log))⟩, ?_, .inr ⟨_, rfl⟩⟩
    simp only [change, directory, Place.run]

namespace Group

variable {g : Group}

/-- Whether the member leads a group whose log can be written. -/
structure Healthy (g : Group) : Prop where
  leads : g.isLeader = true
  accepts : g.log.place.Accepts

/-- What a change of the topology and of the membership makes of a group. -/
structure Becomes (g : Group) (t : Topology) (m : Membership) (g' : Group) : Prop where
  id : g'.id = g.id
  leader : g'.leader = g.leader
  accepts : g'.log.place.Accepts
  topology : g'.topology = t
  membership : g'.membership = m

theorem Becomes.healthy {t : Topology} {m : Membership} {g' : Group} (became : g.Becomes t m g')
    (healthy : g.Healthy) : g'.Healthy where
  leads := by
    rw [isLeader, became.leader, became.id]
    exact healthy.leads
  accepts := became.accepts

theorem leader_of_isLeader (leads : g.isLeader = true) :
    ∃ l, g.leader = some l ∧ l.node = g.id := by
  obtain ⟨l, known, same⟩ := (Option.any_eq_true _ _).mp leads
  exact ⟨l, known, by simpa using same⟩

theorem append_ok (accepts : g.log.place.Accepts) (e : Entry) :
    ∃ g', g.append e = (.ok (g.replica.progress.applyEntry e).1, g') ∧
      g.Becomes (g.replica.progress.applyEntry e).2.topology
        (g.replica.progress.applyEntry e).2.membership.membership g' := by
  obtain ⟨log, changed, accepts⟩ := LogStore.change_ok accepts (.append [e])
  unfold append
  simp only [changed]
  exact ⟨_, rfl, rfl, rfl, accepts, rfl, rfl⟩

theorem commit_ok (healthy : g.Healthy) (p : Payload) :
    ∃ id g', g.commit p = (.ok (g.replica.progress.applyEntry ⟨id, p⟩).1, g') ∧
      g.Becomes (g.replica.progress.applyEntry ⟨id, p⟩).2.topology
        (g.replica.progress.applyEntry ⟨id, p⟩).2.membership.membership g' := by
  obtain ⟨l, known, own⟩ := leader_of_isLeader healthy.leads
  obtain ⟨g', appended, became⟩ := append_ok healthy.accepts ⟨⟨l, g.nextIndex⟩, p⟩
  refine ⟨⟨l, g.nextIndex⟩, g', ?_, became⟩
  rw [commit, known]
  simp only [own, if_true]
  exact appended

theorem setMembership_ok (healthy : g.Healthy) (m : Membership) :
    ∃ g', g.setMembership m = (.ok (), g') ∧ g.Becomes g.topology m g' := by
  obtain ⟨id, g', committed, became⟩ := commit_ok healthy (.membership m)
  refine ⟨g', ?_, became⟩
  rw [setMembership, committed]
  rfl

theorem setVoters_none {goal : SortedSet UInt64} (empty : goal.elements = []) :
    g.setVoters goal = (.error (.consensus none), g) := by
  rw [setVoters, empty]
  rfl

theorem setVoters_ok {voters goal : SortedSet UInt64} (healthy : g.Healthy)
    (single : g.membership.configs = [voters]) (filled : goal.elements ≠ [])
    (members : ∀ id ∈ goal.elements, g.membership.nodes.contains id = true) :
    ∃ g', g.setVoters goal = (.ok (), g') ∧
      g.Becomes g.topology (g.membership.withVoters goal) g' := by
  have allowed : (goal.elements.isEmpty || goal.elements.any (!g.membership.nodes.contains ·)) = false := by
    rw [Bool.or_eq_false_iff, List.isEmpty_eq_false_iff, List.any_eq_false]
    refine ⟨filled, ?_⟩
    intro id listed
    simp [members id listed]
  obtain ⟨g', first, became⟩ := setMembership_ok healthy (g.membership.toward goal)
  rw [setVoters, allowed]
  simp only [Bool.false_eq_true, if_false, first]
  by_cases same : goal = voters
  · subst same
    rw [Membership.toward_self single] at became
    have alone : g'.membership.configs.length ≤ 1 := by rw [became.membership]; exact Nat.le_refl 1
    rw [if_pos alone]
    exact ⟨g', rfl, became⟩
  · obtain ⟨two, settled⟩ := Membership.toward_other single same
    have joint : ¬ g'.membership.configs.length ≤ 1 := by rw [became.membership, two]; decide
    obtain ⟨h, second, finished⟩ :=
      setMembership_ok (became.healthy healthy) (g'.membership.toward goal)
    rw [if_neg joint]
    refine ⟨h, second, finished.id.trans became.id, finished.leader.trans became.leader,
      finished.accepts, finished.topology.trans became.topology, ?_⟩
    rw [finished.membership, became.membership, settled]

theorem propose_accepted {e : Envelope} {t : Topology} (healthy : g.Healthy)
    (applied : g.topology.apply e.command = .ok t) :
    ∃ g', g.propose e.toBytes = (.ok t.index, g') ∧ g.Becomes t g.membership g' := by
  obtain ⟨id, g', committed, became⟩ := commit_ok healthy (.normal ⟨e.toBytes⟩)
  have outcome : g.replica.progress.applyEntry ⟨id, .normal ⟨e.toBytes⟩⟩ = (⟨t.index, none⟩,
      { g.replica.progress with lastApplied := some id, topology := t, published := t.index }) := by
    simp only [Progress.applyEntry, Progress.propose, Envelope.ofBytes_toBytes]
    rw [show g.replica.progress.topology.apply e.command = .ok t from applied]
  rw [outcome] at committed became
  refine ⟨g', ?_, became⟩
  rw [propose, committed]

theorem propose_refused {e : Envelope} {fault : Error} (healthy : g.Healthy)
    (refused : g.topology.apply e.command = .error fault) :
    ∃ g', g.propose e.toBytes = (.error (.refused (.reported fault.message)), g') ∧
      g.Becomes g.topology g.membership g' := by
  obtain ⟨id, g', committed, became⟩ := commit_ok healthy (.normal ⟨e.toBytes⟩)
  have outcome : g.replica.progress.applyEntry ⟨id, .normal ⟨e.toBytes⟩⟩ =
      (⟨g.topology.index, some fault.message⟩,
        { g.replica.progress with lastApplied := some id }) := by
    simp only [Progress.applyEntry, Progress.propose, Envelope.ofBytes_toBytes]
    rw [show g.replica.progress.topology.apply e.command = .error fault from refused]
    rfl
  rw [outcome] at committed became
  refine ⟨g', ?_, became⟩
  rw [propose, committed]

theorem found_ok (accepts : g.log.place.Accepts) (empty : g.log.log.last? = none) (addr : String) :
    ∃ g', g.found addr = (.ok (), g') ∧
      g.Becomes g.topology (.ofVoters (.ofList [(g.id, addr)])) g' := by
  obtain ⟨g', appended, became⟩ := append_ok accepts
    ⟨⟨⟨0, 0⟩, 0⟩, .membership (.ofVoters (.ofList [(g.id, addr)]))⟩
  refine ⟨g', ?_, became⟩
  rw [found, empty]
  dsimp only
  rw [Membership.of_sole, appended]
  rfl

theorem leadAfter_ok (accepts : g.log.place.Accepts) (term : UInt64) :
    (g.leadAfter term).Healthy ∧ (g.leadAfter term).topology = g.topology ∧
      (g.leadAfter term).membership = g.membership := by
  obtain ⟨log, saved, accepts⟩ := LogStore.change_ok accepts (.saveVote ⟨⟨term + 1, g.id⟩, true⟩)
  have healthy : Healthy { g with leader := some ⟨term + 1, g.id⟩, log := log } :=
    ⟨by simp [isLeader], accepts⟩
  obtain ⟨id, g', committed, became⟩ := commit_ok healthy .blank
  rw [leadAfter, saved]
  dsimp only
  rw [committed]
  exact ⟨became.healthy healthy, became.topology, became.membership⟩

theorem elect_ok (accepts : g.log.place.Accepts) (sole : g.voters.elements = [g.id]) :
    g.elect.Healthy ∧ g.elect.topology = g.topology ∧ g.elect.membership = g.membership := by
  rw [elect, if_pos sole]
  split
  · exact leadAfter_ok accepts 0
  · split
    · rename_i own
      exact ⟨⟨by simp [isLeader, own.2], accepts⟩, rfl, rfl⟩
    · exact leadAfter_ok accepts _

end Group

end SeriesCluster
