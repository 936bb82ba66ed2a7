import SeriesCluster.Proofs.Group.Founding

namespace SeriesCluster.Member

variable {m m' : Member} {t : Topology} {voters : SortedMap UInt64 String} {n : Nat}

/-- Whether the voters have the cluster addresses of the meta nodes. -/
def VotersListed (m : Member) : Prop := ∀ addr, addr ∈ m.peers ↔ addr ∈ m.topology.metaAddresses

def votes (m : Member) (id : UInt64) : Bool := m.group.any (·.voters.mem id)

inductive Call
  | join (r : JoinRequest)
  | remove (host : String)

def after (m : Member) : Call → Member
  | .join r => (m.run (join r)).2
  | .remove host => (m.run (remove host)).2

/-- Whether a call changes the addresses of the voters and those of the meta nodes apart. A new
address comes with a voter where the id is new, and with a meta node where the host is. An address
goes with its last voter, and with its last meta node. -/
def Parts (m : Member) : Call → Prop
  | .join r =>
    r.tcpHost ∉ m.peers ∧ (m.votes r.raftId = true ↔ m.topology.metaNodeByHost? r.host = none)
  | .remove host =>
    ∃ k, m.topology.metaNodeByHost? host = some k ∧ m.leaderHttp ≠ host ∧ 1 < m.peers.length ∧
      ¬ (1 < m.peers.count k.tcpHost ↔ 1 < m.topology.metaAddresses.count k.tcpHost)

/-- Whether a member leads a group of voters, and only meta nodes are registered, no more than so
many of which have ever been there. -/
def Stands (m : Member) (n : Nat) : Prop := ∃ t voters, m.Leads t voters ∧ t.OnlyMeta n

theorem mem_rest_iff {l rest : List String} {a : String} (split : l.Perm (a :: rest))
    (addr : String) : addr ∈ rest ↔ addr ∈ l ∧ (addr = a → 1 < l.count a) := by
  rw [split.mem_iff, split.count_eq, List.count_cons_self, List.mem_cons]
  by_cases same : addr = a
  · subst same
    rw [← List.count_pos_iff]
    simp
  · simp [same]

theorem Heads.votes_eq (heads : m.Heads t voters) (id : UInt64) : m.votes id = voters.contains id := by
  obtain ⟨g, own, -, -, membership⟩ := heads
  rw [votes, own, Option.any_some, Group.voters, membership, Membership.mem_voters_ofVoters]

theorem refused_or_named (m : Member) (host : String) :
    (m.topology.metaNodeByHost? host = none ∨ m.leaderHttp = host) ∨
      ∃ k, m.topology.metaNodeByHost? host = some k ∧ m.leaderHttp ≠ host := by
  cases m.topology.metaNodeByHost? host with
  | none => exact .inl (.inl rfl)
  | some k =>
    by_cases leader : m.leaderHttp = host
    · exact .inl (.inr leader)
    · exact .inr ⟨k, rfl, leader⟩

namespace Leads

theorem votersListed (leads : m.Leads t voters) :
    m.VotersListed ↔ ∀ addr, addr ∈ voters.values ↔ addr ∈ t.metaAddresses := by
  rw [VotersListed, leads.group.peers_eq, leads.group.topology_eq]

theorem listed_join (leads : m.Leads t voters) (only : t.OnlyMeta n) (listed : m.VotersListed)
    (r : JoinRequest) :
    (m.after (.join r)).VotersListed ↔ ¬ m.Parts (.join r) := by
  rw [after, (leads.join r).votersListed, Parts, leads.group.peers_eq, leads.group.topology_eq,
    leads.group.votes_eq]
  rw [leads.votersListed] at listed
  simp only [Membership.mem_values_including, only.mem_create, listed]
  -- Either list has one address more at most, and it is the same one.
  constructor
  · rintro listed' ⟨new, same⟩
    have both : voters.contains r.raftId = false ↔ t.metaNodeByHost? r.host = none := by
      simpa [new] using listed' r.tcpHost
    have contrary := both.trans same.symm
    cases voters.contains r.raftId <;> simp at contrary
  · intro together addr
    by_cases own : addr = r.tcpHost
    · rw [own]
      by_cases old : r.tcpHost ∈ t.metaAddresses
      · simp [old]
      · have other : ¬ (voters.contains r.raftId = true ↔ t.metaNodeByHost? r.host = none) :=
          fun same => together ⟨old, same⟩
        cases known : voters.contains r.raftId <;> simp_all
    · simp [own]

theorem listed_remove (leads : m.Leads t voters) (only : t.OnlyMeta n) (listed : m.VotersListed)
    (host : String) :
    (m.after (.remove host)).VotersListed ↔ ¬ m.Parts (.remove host) := by
  rcases m.refused_or_named host with refused | ⟨k, named, other⟩
  · have apart : ¬ m.Parts (.remove host) := by
      rintro ⟨k, named, other, -⟩
      rcases refused with unknown | leader
      · rw [unknown] at named
        cases named
      · exact other leader
    rw [after, leads.remove_refused refused]
    exact iff_of_true listed apart
  · have parts : m.Parts (.remove host) ↔ 1 < m.peers.length ∧
        ¬ (1 < m.peers.count k.tcpHost ↔ 1 < m.topology.metaAddresses.count k.tcpHost) := by
      constructor
      · rintro ⟨k', named', -, several, apart⟩
        rw [named] at named'
        cases named'
        exact ⟨several, apart⟩
      · exact fun ⟨several, apart⟩ => ⟨k, named, other, several, apart⟩
    rw [parts, leads.group.peers_eq, leads.group.topology_eq]
    rw [leads.votersListed] at listed
    have member : k ∈ t.metaNodes := by
      rw [leads.group.topology_eq] at named
      exact List.mem_of_find?_eq_some named
    have known := (listed k.tcpHost).mpr (List.mem_map_of_mem member)
    obtain ⟨id, found, left⟩ := leads.remove named other known
    have addresses := SortedMap.perm_values_erase found
    have count : voters.values.length = (voters.erase id).keys.length + 1 := by
      rw [addresses.length_eq, List.length_cons, SortedMap.values, SortedMap.keys, List.length_map,
        List.length_map]
    -- The last voter stays, and his node with him.
    rcases left with ⟨last, leads'⟩ | ⟨several, leads'⟩
    · have alone : ¬ 1 < voters.values.length := by rw [count, last]; decide
      rw [after, leads'.votersListed]
      exact iff_of_true listed fun parts => alone parts.1
    · have several : 1 < voters.values.length := by
        have filled := List.length_pos_iff.mpr several
        omega
      obtain ⟨t', applied, nodes⟩ := only.delete member
      rw [Topology.applyAll_of_apply applied] at leads'
      rw [after, leads'.votersListed]
      simp only [mem_rest_iff addresses, mem_rest_iff nodes, listed, several, true_and, not_not]
      constructor
      · intro listed'
        simpa [(listed k.tcpHost).mp known] using listed' k.tcpHost
      · intro same addr
        rw [same]

end Leads

theorem Stands.call (stands : m.Stands n) (few : n + 1 < UInt64.size) (c : Call) :
    (m.after c).Stands (n + 1) := by
  obtain ⟨t, voters, leads, only⟩ := stands
  cases c with
  | join r => exact ⟨_, _, leads.join r, only.applyAll few trivial⟩
  | remove host =>
    rcases m.refused_or_named host with refused | ⟨k, named, other⟩
    · rw [after, leads.remove_refused refused]
      exact ⟨t, voters, leads, only.mono⟩
    · by_cases known : k.tcpHost ∈ voters.values
      · obtain ⟨id, -, ⟨-, leads'⟩ | ⟨-, leads'⟩⟩ := leads.remove named other known
        · exact ⟨_, _, leads', only.mono⟩
        · exact ⟨_, _, leads', only.applyAll few trivial⟩
      · exact ⟨_, _, leads.remove_nonvoter named other known, only.applyAll few trivial⟩

theorem Stands.listed_iff (stands : m.Stands n) (listed : m.VotersListed) (c : Call) :
    (m.after c).VotersListed ↔ ¬ m.Parts c := by
  obtain ⟨t, voters, leads, only⟩ := stands
  cases c with
  | join r => exact leads.listed_join only listed r
  | remove host => exact leads.listed_remove only listed host

theorem Stands.join_failed {r : JoinRequest} {fault : Error} (stands : m.Stands n)
    (failed : m.run (join r) = (.error fault, m')) :
    m'.topology = m.topology ∧ (m'.peers = m.peers ↔ m.votes r.raftId = true) := by
  obtain ⟨t, voters, leads, -⟩ := stands
  have leads' := leads.join_failed failed
  rw [leads'.group.topology_eq, leads.group.topology_eq, leads'.group.peers_eq,
    leads.group.peers_eq, leads.group.votes_eq]
  refine ⟨rfl, ?_⟩
  by_cases known : voters.contains r.raftId = true
  · rw [Membership.including, if_pos known]
    exact iff_of_true rfl known
  · have more := (Membership.perm_values_including r.tcpHost
      (Bool.eq_false_iff.mpr known)).length_eq
    refine iff_of_false ?_ known
    intro same
    rw [same, List.length_cons] at more
    omega

/-- From the member that began a group to its leader, with the calls on leaders so far, the last one
first. A voter who knows all that the leader knows may become the leader after him. -/
inductive Run (m₀ : Member) : List (Member × Call) → Member → Prop
  | opened : Run m₀ [] m₀
  | called {past : List (Member × Call)} {m : Member} (run : Run m₀ past m) (c : Call) :
    Run m₀ ((m, c) :: past) (m.after c)
  | passed {past : List (Member × Call)} {m m' : Member} {g g' : Group} (run : Run m₀ past m)
    (own : m.group = some g) (other : m'.group = some g') (ready : m'.ready = true)
    (healthy : g'.Healthy) (votes : m.votes g'.id = true) (topology : g'.topology = g.topology)
    (membership : g'.membership = g.membership) : Run m₀ past m'

variable {m₀ : Member} {past : List (Member × Call)}

theorem Stands.passed {g g' : Group} (stands : m.Stands n) (own : m.group = some g)
    (other : m'.group = some g') (ready : m'.ready = true) (healthy : g'.Healthy)
    (topology : g'.topology = g.topology) (membership : g'.membership = g.membership) :
    m'.Stands n ∧ (m'.VotersListed ↔ m.VotersListed) := by
  obtain ⟨t, voters, leads, only⟩ := stands
  have leads' : m'.Leads t voters := by
    obtain ⟨h, known, -, topology', membership'⟩ := leads.group
    cases own.symm.trans known
    exact ⟨ready, g', other, healthy, topology.trans topology', membership.trans membership'⟩
  exact ⟨⟨t, voters, leads', only⟩, leads'.votersListed.trans leads.votersListed.symm⟩

theorem Run.stands (run : Run m₀ past m) (start : m₀.Stands 1)
    (few : past.length + 1 < UInt64.size) : m.Stands (past.length + 1) := by
  induction run with
  | opened => exact start
  | called run c ih =>
    rw [List.length_cons] at few ⊢
    exact (ih (by omega)).call few c
  | passed run own other ready healthy votes topology membership ih =>
    exact ((ih few).passed own other ready healthy topology membership).1

theorem Run.listed_iff (run : Run m₀ past m) (start : m₀.Stands 1) (listed : m₀.VotersListed)
    (few : past.length + 1 < UInt64.size) :
    (∀ p ∈ past, p.1.VotersListed) ∧ m.VotersListed ↔ ∀ p ∈ past, ¬ p.1.Parts p.2 := by
  induction run with
  | opened => simp [listed]
  | @called past m run c ih =>
    rw [List.length_cons] at few
    have before := ih (by omega)
    have stands := run.stands start (by omega)
    rw [List.forall_mem_cons, List.forall_mem_cons, ← before]
    constructor
    · rintro ⟨⟨listed, all⟩, listed'⟩
      exact ⟨(stands.listed_iff listed c).mp listed', all, listed⟩
    · rintro ⟨together, all, listed⟩
      exact ⟨⟨listed, all⟩, (stands.listed_iff listed c).mpr together⟩
  | passed run own other ready healthy votes topology membership ih =>
    have stands := run.stands start few
    rw [(stands.passed own other ready healthy topology membership).2]
    exact ih few

theorem soleTopology_onlyMeta (httpAddress tcpAddress : String) :
    (soleTopology httpAddress tcpAddress).OnlyMeta 1 := by
  rw [← applyAll_setMetaNode]
  exact Topology.OnlyMeta.empty.applyAll (by decide) trivial

theorem Opened.stands {httpAddress tcpAddress : String} {id : UInt64}
    (opened : Opened httpAddress tcpAddress id m) : m.Stands 1 :=
  ⟨_, _, opened.leads, soleTopology_onlyMeta httpAddress tcpAddress⟩

theorem Opened.listed {httpAddress tcpAddress : String} {id : UInt64}
    (opened : Opened httpAddress tcpAddress id m) : m.VotersListed :=
  opened.leads.votersListed.mpr fun _ => .rfl

/-- Voters and meta nodes have the same addresses after each call exactly as long as no call parts
them. A join that fails leaves the meta nodes as they were, and the voters if its id votes already. -/
theorem votersListed_iff {httpAddress tcpAddress : String} {id : UInt64}
    (opened : Opened httpAddress tcpAddress id m₀) (run : Run m₀ past m)
    (few : past.length + 1 < UInt64.size) :
    ((∀ p ∈ past, p.1.VotersListed) ∧ m.VotersListed ↔ ∀ p ∈ past, ¬ p.1.Parts p.2) ∧
      ∀ r fault m', m.run (join r) = (.error fault, m') →
        m'.topology = m.topology ∧ (m'.peers = m.peers ↔ m.votes r.raftId = true) :=
  ⟨run.listed_iff opened.stands opened.listed few,
    fun _ _ _ failed => (run.stands opened.stands few).join_failed failed⟩

def founder : Member where
  httpAddress := "a:8091"
  tcpAddress := "a:8088"
  identity := { raftId := 1 }

theorem exists_opened : ∃ m, Opened "a:8091" "a:8088" 1 m := by
  have made : Member.new "a:8091" "a:8088" [] .nowhere .nowhere 1 = .ok founder := rfl
  have done : (founder.run (openWith (fun _ _ => .error .notOpen) .zero)).1.isOk = true := by
    decide +kernel
  cases opened : founder.run (openWith (fun _ _ => .error .notOpen) .zero) with
  | mk result m =>
    rw [opened] at done
    cases result with
    | error fault => cases done
    | ok => exact ⟨m, .intro made (.inl rfl) opened⟩

theorem votersListed_iff_secondMember :
    ∃ m, Opened "a:8091" "a:8088" 1 m ∧
      Run m [(m, .join ⟨"b:8091", "b:8088", 2⟩)] (m.after (.join ⟨"b:8091", "b:8088", 2⟩)) ∧
      (m.after (.join ⟨"b:8091", "b:8088", 2⟩)).VotersListed := by
  obtain ⟨m, opened⟩ := exists_opened
  have run : Run m [(m, .join ⟨"b:8091", "b:8088", 2⟩)]
      (m.after (.join ⟨"b:8091", "b:8088", 2⟩)) := .called .opened _
  have leads := opened.leads.group
  have together : ¬ m.Parts (.join ⟨"b:8091", "b:8088", 2⟩) := by
    rintro ⟨-, same⟩
    rw [leads.votes_eq, leads.topology_eq] at same
    revert same
    decide
  refine ⟨m, opened, run, ?_⟩
  have few : 1 + 1 < UInt64.size := by decide
  exact ((votersListed_iff opened run few).1.mpr (by simpa using together)).2

/-- A node that joins with the id of the leader is registered, but does not vote. -/
theorem voters_parted :
    ∃ m k, Opened "a:8091" "a:8088" 1 m ∧ (m.run (join ⟨"b:8091", "b:8088", 1⟩)).1 = .ok k ∧
      (m.after (.join ⟨"b:8091", "b:8088", 1⟩)).peers = ["a:8088"] ∧
      ¬ (m.after (.join ⟨"b:8091", "b:8088", 1⟩)).VotersListed := by
  obtain ⟨m, opened⟩ := exists_opened
  have unknown : (soleTopology "a:8091" "a:8088").metaNodeByHost? "b:8091" = none := by decide
  obtain ⟨t', applied, addresses⟩ := (soleTopology_onlyMeta _ _).create "b:8088" unknown
  obtain ⟨m', same, admitted⟩ := opened.leads.admits ⟨"b:8091", "b:8088", 1⟩
  obtain ⟨k, registered⟩ := admitted.register_ok (r := ⟨"b:8091", "b:8088", 1⟩) applied
  have joined := opened.leads.join ⟨"b:8091", "b:8088", 1⟩
  refine ⟨m, k, opened, same ▸ registered, joined.group.peers_eq, ?_⟩
  rw [after, joined.votersListed, Topology.applyAll_of_apply applied]
  intro listed
  have votes := (listed "b:8088").mpr (addresses.mem_iff.mpr List.mem_cons_self)
  revert votes
  decide

end SeriesCluster.Member
