import SeriesCluster.Proofs.Group.Removal
import SeriesCluster.Proofs.Topology.MetaNodes

namespace SeriesCluster.Member

def Heads (m : Member) (t : Topology) (voters : SortedMap UInt64 String) : Prop :=
  ∃ g, m.group = some g ∧ g.Healthy ∧ g.topology = t ∧ g.membership = .ofVoters voters

structure Leads (m : Member) (t : Topology) (voters : SortedMap UInt64 String) : Prop where
  ready : m.ready = true
  group : m.Heads t voters

variable {m : Member} {t : Topology} {voters : SortedMap UInt64 String}

namespace Heads

theorem topology_eq (heads : m.Heads t voters) : m.topology = t := by
  obtain ⟨g, own, -, topology, -⟩ := heads
  rw [Member.topology_eq own, topology]

theorem peers_eq (heads : m.Heads t voters) : m.peers = voters.values := by
  obtain ⟨g, own, -, -, membership⟩ := heads
  rw [peers, own]
  dsimp only
  rw [membership, Membership.voterAddresses_ofVoters]

/-- A command is applied or changes nothing, and the membership stays. -/
theorem propose (heads : m.Heads t voters) (c : Command) :
    (m.run (propose c)).2.Heads (t.applyAll [c]) voters := by
  obtain ⟨g, own, healthy, rfl, membership⟩ := heads
  rw [run_propose own]
  have applied : g.topology.applyAll [c] = (g.topology.apply c).toOption.getD g.topology := rfl
  cases result : g.topology.apply c with
  | ok t =>
    obtain ⟨g', proposed, became⟩ := Group.propose_accepted (e := ⟨m.nonce, c⟩) healthy result
    rw [applied, result, proposed]
    exact ⟨g', rfl, became.healthy healthy, became.topology, became.membership.trans membership⟩
  | error fault =>
    obtain ⟨g', proposed, became⟩ := Group.propose_refused (e := ⟨m.nonce, c⟩) healthy result
    rw [applied, result, proposed]
    exact ⟨g', rfl, became.healthy healthy, became.topology, became.membership.trans membership⟩

theorem propose_ok {c : Command} {t' : Topology} (heads : m.Heads t voters)
    (applied : t.apply c = .ok t') : (m.run (Member.propose c)).1 = .ok t'.index := by
  obtain ⟨g, own, healthy, rfl, -⟩ := heads
  obtain ⟨g', proposed, -⟩ := Group.propose_accepted (e := ⟨m.nonce, c⟩) healthy applied
  rw [run_propose own, proposed]

end Heads

def register (r : JoinRequest) : Action NodeInfo := do
  createMetaNode r.host r.tcpHost
  match (← get).topology.metaNodes.find? fun n => n.host == r.host && n.tcpHost == r.tcpHost with
  | some n => return n
  | none => throw .nodeNotFound

namespace Leads

theorem command (leads : m.Leads t voters) (c : Command) :
    (m.run (discard (execute c))).2.Leads (t.applyAll [c]) voters := by
  rw [run_discard, run_execute leads.ready]
  refine ⟨?_, leads.group.propose c⟩
  obtain ⟨g, own, -⟩ := leads.group
  rw [run_propose own]
  exact leads.ready

theorem admits (leads : m.Leads t voters) (r : JoinRequest) :
    ∃ m' : Member, m.run (join r) = m'.run (register r) ∧
      m'.Leads t (Membership.including voters r.raftId r.tcpHost) := by
  obtain ⟨g, own, healthy, rfl, membership⟩ := leads.group
  obtain ⟨g₁, added, became₁⟩ := Group.setMembership_ok healthy
    ((Membership.ofVoters voters).withMember r.raftId r.tcpHost)
  rw [Membership.withMember_ofVoters] at became₁
  have single : g₁.membership.configs = [(Membership.ofVoters voters).voters] := by
    rw [became₁.membership, Membership.voters_ofVoters]
    rfl
  have goal : g₁.voters.add r.raftId =
      (Membership.ofVoters (Membership.including voters r.raftId r.tcpHost)).voters := by
    rw [Group.voters, Membership.voters_eq single, Membership.add_voters voters _ r.tcpHost]
  have filled : (g₁.voters.add r.raftId).elements ≠ [] :=
    List.ne_nil_of_mem ((SortedMap.mem_keys_insert _ _ _ _).mpr (.inl rfl))
  have members : ∀ id ∈ (g₁.voters.add r.raftId).elements,
      g₁.membership.nodes.contains id = true := by
    rw [goal, Membership.elements_voters, became₁.membership]
    exact fun id listed => (SortedMap.contains_iff _ id).mpr listed
  obtain ⟨g₂, voted, became₂⟩ := Group.setVoters_ok (became₁.healthy healthy) single filled members
  -- All members vote again, so the membership is that of voters alone.
  refine ⟨{ m with group := some g₂ }, ?_, leads.ready, g₂, rfl,
    became₂.healthy (became₁.healthy healthy), became₂.topology.trans became₁.topology, ?_⟩
  · unfold Member.join
    rw [run_bind, run_get]
    dsimp only
    rw [run_bind, run_inGroup own]
    simp only [healthy.leads, if_true]
    rw [run_bind, run_inGroup (g := g) rfl, Group.addMember, membership, added]
    dsimp only
    rw [run_bind, run_inGroup (g := g₁) rfl, voted]
    rfl
  · rw [became₂.membership, became₁.membership, Group.voters, Membership.voters_eq single]
    exact Membership.withVoters_including voters r.raftId r.tcpHost

theorem join (leads : m.Leads t voters) (r : JoinRequest) :
    (m.run (join r)).2.Leads (t.applyAll [.createMetaNode r.host r.tcpHost])
      (Membership.including voters r.raftId r.tcpHost) := by
  obtain ⟨m', same, leads'⟩ := leads.admits r
  rw [same, register, run_bind_snd]
  · exact leads'.command (.createMetaNode r.host r.tcpHost)
  · intro _ m''
    rw [run_bind, run_get]
    dsimp only
    split <;> rfl

theorem register_ok {t' : Topology} {r : JoinRequest} (leads : m.Leads t voters)
    (applied : t.apply (.createMetaNode r.host r.tcpHost) = .ok t') :
    ∃ n, (m.run (register r)).1 = .ok n := by
  have leads' := leads.command (.createMetaNode r.host r.tcpHost)
  have created : (m.run (discard (execute (.createMetaNode r.host r.tcpHost)))).1 = .ok () := by
    rw [run_discard, run_execute leads.ready, leads.group.propose_ok applied]
    rfl
  have topology := leads'.group.topology_eq
  rw [Topology.applyAll, List.foldl_cons, List.foldl_nil, applied] at topology
  rw [register, run_bind, createMetaNode]
  generalize m.run (discard (execute (.createMetaNode r.host r.tcpHost))) = result at *
  obtain ⟨outcome, m'⟩ := result
  cases created
  dsimp only
  rw [run_bind, run_get]
  dsimp only at topology ⊢
  rw [topology]
  obtain ⟨k, listed, host, address⟩ := Topology.exists_of_createMetaNode applied
  obtain ⟨n, found⟩ : ∃ n, t'.metaNodes.find?
      (fun n => n.host == r.host && n.tcpHost == r.tcpHost) = some n := by
    rw [← Option.isSome_iff_exists, List.find?_isSome]
    exact ⟨k, listed, by simp [host, address]⟩
  simp only [Except.toOption, Option.getD_some]
  rw [found]
  exact ⟨n, rfl⟩

/-- A join that fails has registered no node, but there may be another voter. -/
theorem join_failed {r : JoinRequest} {fault : Error} {m' : Member} (leads : m.Leads t voters)
    (failed : m.run (Member.join r) = (.error fault, m')) :
    m'.Leads t (Membership.including voters r.raftId r.tcpHost) := by
  have joined := leads.join r
  rw [failed, Topology.applyAll, List.foldl_cons, List.foldl_nil] at joined
  cases result : t.apply (.createMetaNode r.host r.tcpHost) with
  | error => rwa [result] at joined
  | ok t' =>
    obtain ⟨m₁, same, admitted⟩ := leads.admits r
    obtain ⟨n, registered⟩ := admitted.register_ok result
    rw [← same, failed] at registered
    cases registered

theorem forget (leads : m.Leads t voters) (n : NodeInfo) :
    (m.run (forget n)).2.Leads (t.applyAll [.deleteMetaNode n.id]) voters := by
  rw [run_forget_snd]
  exact leads.command (.deleteMetaNode n.id)

theorem remove_refused {host : String} (leads : m.Leads t voters)
    (refused : m.topology.metaNodeByHost? host = none ∨ m.leaderHttp = host) :
    (m.run (remove host)).2 = m := by
  obtain ⟨g, own, -, -, -⟩ := leads.group
  rw [run_remove own, removal, metaNodeAt]
  rcases refused with unknown | leader
  · rw [unknown]
    rfl
  · cases m.topology.metaNodeByHost? host with
    | none => rfl
    | some n =>
      simp only [ok_bind, leader, beq_self_eq_true, if_true]
      rfl

theorem remove_nonvoter {host : String} {n : NodeInfo} (leads : m.Leads t voters)
    (named : m.topology.metaNodeByHost? host = some n) (other : m.leaderHttp ≠ host)
    (unknown : n.tcpHost ∉ voters.values) :
    (m.run (remove host)).2.Leads (t.applyAll [.deleteMetaNode n.id]) voters := by
  obtain ⟨g, own, -, -, membership⟩ := leads.group
  have absent : g.memberAt? n.tcpHost = none := by
    rw [Group.memberAt?, Option.map_eq_none_iff, List.find?_eq_none, membership]
    intro e listed same
    exact unknown (List.mem_map.mpr ⟨e, listed, by simpa using same⟩)
  rw [run_remove own, removal_ok own named other, Group.votersWithout?, absent]
  exact leads.forget n

/-- A node whose address voters have is removed with the first of them, unless that is the last. -/
theorem remove {host : String} {n : NodeInfo} (leads : m.Leads t voters)
    (named : m.topology.metaNodeByHost? host = some n) (other : m.leaderHttp ≠ host)
    (known : n.tcpHost ∈ voters.values) :
    ∃ id, voters.find? id = some n.tcpHost ∧
      ((voters.erase id).keys = [] ∧ (m.run (remove host)).2.Leads t voters ∨
        (voters.erase id).keys ≠ [] ∧ (m.run (remove host)).2.Leads
          (t.applyAll [.deleteMetaNode n.id]) (voters.erase id)) := by
  obtain ⟨g, own, healthy, rfl, membership⟩ := leads.group
  obtain ⟨id, member⟩ : ∃ id, g.memberAt? n.tcpHost = some id := by
    rw [← Option.isSome_iff_exists, Group.memberAt?, Option.isSome_map, List.find?_isSome, membership]
    obtain ⟨e, listed, address⟩ := List.mem_map.mp known
    exact ⟨e, listed, by simpa using address⟩
  have address : voters.find? id = some n.tcpHost := by
    have address := Group.address?_of_memberAt? member
    rwa [membership] at address
  have asked : m.removal host = .ok (n, some ((Membership.ofVoters voters).voters.erase id)) := by
    rw [removal_ok own named other, Group.votersWithout?, member, Group.voters, membership]
    rfl
  have left : SortedSet.elements ((Membership.ofVoters voters).voters.erase id) =
      (voters.erase id).keys := by
    rw [Membership.erase_voters, Membership.elements_voters]
  have single : g.membership.configs = [(Membership.ofVoters voters).voters] := by
    rw [membership, Membership.voters_ofVoters]
    rfl
  refine ⟨id, address, ?_⟩
  by_cases last : (voters.erase id).keys = []
  · refine .inl ⟨last, ?_⟩
    rw [run_remove own, asked, carryOut, run_bind, run_inGroup own,
      Group.setVoters_none (left.trans last)]
    exact ⟨leads.ready, g, rfl, healthy, rfl, membership⟩
  · have members : ∀ k ∈ SortedSet.elements ((Membership.ofVoters voters).voters.erase id),
        g.membership.nodes.contains k = true := by
      intro k listed
      rw [left] at listed
      rw [membership]
      exact (SortedMap.contains_iff _ k).mpr ((SortedMap.mem_keys_erase voters id k).mp listed).2
    obtain ⟨g', agreed, became⟩ := Group.setVoters_ok healthy single (left ▸ last) members
    refine .inr ⟨last, ?_⟩
    have leads' : Leads { m with group := some g' } g.topology (voters.erase id) := by
      refine ⟨leads.ready, g', rfl, became.healthy healthy, became.topology, ?_⟩
      rw [became.membership, membership, Membership.withVoters_erase]
    rw [run_remove own, asked, carryOut, run_bind, run_inGroup own, agreed]
    exact leads'.forget n

end Leads

end SeriesCluster.Member
