import SeriesCluster.Group.Lifecycle
import SeriesCluster.Proofs.Group.Calls

namespace SeriesCluster

namespace Group

def unwritten (id : UInt64) (place : Place) : Group where
  id := id
  log := { place := place }
  replica := { place := place }

theorem openAt_empty {place : Place} (id : UInt64)
    (empty : place.created = .nowhere ∨ place.created = .directory ∅) :
    openAt id place place = .ok (unwritten id place.created) := by
  unfold openAt LogStore.openAt
  rcases empty with nowhere | directory
  · rw [nowhere]
    rfl
  · rw [directory]
    rfl

end Group

namespace Member

/-- The members of some addresses and some id that have been opened on their own, where nothing had
been kept of a group. -/
inductive Opened (httpAddress tcpAddress : String) : UInt64 → Member → Prop
  | intro {place logPlace : Place} {drawn : UInt64} {send : HttpTransport Id} {limit : Duration}
    {new m : Member}
    (made : Member.new httpAddress tcpAddress [] place logPlace drawn = .ok new)
    (empty : logPlace.created = .nowhere ∨ logPlace.created = .directory ∅)
    (opened : new.run (openWith send limit) = (.ok (), m)) :
    Opened httpAddress tcpAddress new.identity.raftId m

variable {m m' : Member} {g : Group}

theorem run_start (fresh : m.started = false) (same : m.snapshotPlace = m.logPlace)
    (empty : m.logPlace.created = .nowhere ∨ m.logPlace.created = .directory ∅) :
    m.run start = (.ok (), { m with
      started := true
      group := some (.unwritten m.identity.raftId m.logPlace.created) }) := by
  unfold start
  rw [run_bind, run_get]
  simp only [fresh]
  rw [same, Group.openAt_empty _ empty]
  rfl

theorem exists_of_run_bind {α β : Type} {a : Action α} {next : α → Action β} {y : β}
    (done : m.run (a >>= next) = (.ok y, m')) :
    ∃ x m₁, m.run a = (.ok x, m₁) ∧ m₁.run (next x) = (.ok y, m') := by
  rw [run_bind] at done
  rcases first : m.run a with ⟨fault | x, m₁⟩
  · rw [first] at done
    cases done
  · rw [first] at done
    exact ⟨x, m₁, rfl, done⟩

theorem heads_of_enter {send : HttpTransport Id} (entered : m.run (enter send) = (.ok (), m'))
    (own : m.group = some g) (alone : m.joinPeers = []) (accepts : g.log.place.Accepts)
    (empty : g.log.log.last? = none) :
    (∃ g', m' = { m with group := some g' }) ∧
      m'.Heads g.topology (.ofList [(g.id, m.tcpAddress)]) := by
  obtain ⟨g₁, founded, became⟩ := Group.found_ok accepts empty m.tcpAddress
  have sole : g₁.voters.elements = [g₁.id] := by
    rw [Group.voters, became.membership, Membership.elements_voters, became.id]
    rfl
  obtain ⟨healthy, topology, membership⟩ := Group.elect_ok became.accepts sole
  have none : m.joinPeers.isEmpty = true := by rw [alone]; rfl
  unfold enter at entered
  rw [run_bind, run_get] at entered
  dsimp only at entered
  rw [if_pos none, run_bind, run_inGroup own, founded] at entered
  dsimp only at entered
  rw [run_inGroup (g := g₁) rfl] at entered
  cases entered
  exact ⟨⟨_, rfl⟩, g₁.elect, rfl, healthy, topology.trans became.topology,
    membership.trans became.membership⟩

theorem group_setNodeId (m : Member) (id : UInt64) : (m.run (setNodeId id)).2.group = m.group := by
  unfold setNodeId
  rw [run_bind, run_modify]
  dsimp only
  rw [run_bind, run_get]
  dsimp only
  split <;> rfl

theorem group_keepRegistration (m : Member) : (m.run keepRegistration).2.group = m.group := by
  unfold keepRegistration
  rw [run_bind, run_get]
  dsimp only
  split
  · split
    · exact m.group_setNodeId _
    · rfl
  · rfl

theorem heads_assertAddresses {t : Topology} {id : UInt64} {addr : String}
    (heads : m.Heads t (.ofList [(id, addr)])) :
    (m.run assertAddresses).2.Heads (t.applyAll [.setMetaNode m.httpAddress m.tcpAddress])
      (.ofList [(id, addr)]) := by
  have alone : m.peers.length ≤ 1 := by
    rw [heads.peers_eq]
    exact Nat.le_refl 1
  unfold assertAddresses
  rw [run_bind, run_get]
  simp only [alone, if_true]
  rw [setMetaNode, run_discard]
  exact heads.propose _

theorem steps_of_openWith {send : HttpTransport Id} {limit : Duration}
    (opened : m.run (openWith send limit) = (.ok (), m')) :
    ∃ m₁ m₂ m₃ m₄, m.run start = (.ok (), m₁) ∧ m₁.run (enter send) = (.ok (), m₂) ∧
      m₂.run assertAddresses = (.ok (), m₃) ∧ m₃.run keepRegistration = (.ok (), m₄) ∧
      m' = { m₄ with ready := true } := by
  obtain ⟨_, m₁, started, opened⟩ := exists_of_run_bind opened
  obtain ⟨_, m₂, entered, opened⟩ := exists_of_run_bind opened
  rw [run_bind, run_get] at opened
  dsimp only at opened
  split at opened
  · cases opened
  · cases opened
  · obtain ⟨_, m₃, asserted, opened⟩ := exists_of_run_bind opened
    obtain ⟨_, m₄, registered, opened⟩ := exists_of_run_bind opened
    cases opened
    exact ⟨m₁, m₂, m₃, m₄, started, entered, asserted, registered, rfl⟩

def soleTopology (httpAddress tcpAddress : String) : Topology where
  index := 1
  metaNodes := [⟨1, httpAddress, tcpAddress, true⟩]
  maxNodeId := 1

theorem applyAll_setMetaNode (httpAddress tcpAddress : String) :
    ({} : Topology).applyAll [.setMetaNode httpAddress tcpAddress] =
      soleTopology httpAddress tcpAddress := by
  have sorted : Topology.sortNodes [⟨1, httpAddress, tcpAddress, true⟩] =
    [⟨1, httpAddress, tcpAddress, true⟩] := List.mergeSort_singleton _
  rw [soleTopology, ← sorted]
  rfl

theorem Opened.leads {httpAddress tcpAddress : String} {id : UInt64}
    (opened : Opened httpAddress tcpAddress id m) :
    m.Leads (soleTopology httpAddress tcpAddress) (.ofList [(id, tcpAddress)]) := by
  obtain @⟨place, logPlace, drawn, send, limit, new, m, made, empty, done⟩ := opened
  obtain ⟨⟨identity, kept⟩, loaded, made⟩ := exists_of_bind_eq_ok made
  cases made
  obtain ⟨m₁, m₂, m₃, m₄, started, entered, asserted, registered, rfl⟩ := steps_of_openWith done
  rw [run_start rfl rfl empty] at started
  cases started
  have accepts : logPlace.created.Accepts := empty.imp_right fun directory => ⟨∅, directory⟩
  obtain ⟨⟨g, rfl⟩, heads⟩ := heads_of_enter entered rfl rfl accepts rfl
  have heads := heads_assertAddresses heads
  rw [asserted] at heads
  have same : m₄.group = m₃.group := by
    have same := m₃.group_keepRegistration
    rwa [registered] at same
  obtain ⟨g, own, healthy, topology, membership⟩ := heads
  exact ⟨rfl, g, same.trans own, healthy,
    topology.trans (applyAll_setMetaNode httpAddress tcpAddress), membership⟩

end Member

end SeriesCluster
