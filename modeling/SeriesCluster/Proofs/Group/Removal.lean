import Mathlib
import SeriesCluster.Proofs.Group.Acting
import SeriesCluster.Proofs.Group.Leading

namespace SeriesCluster

namespace Group

variable {g : Group}

def votersWithout? (g : Group) (addr : String) : Option (SortedSet UInt64) :=
  (g.memberAt? addr).map g.voters.erase

theorem removeVoter_eq (g : Group) (addr : String) :
    g.removeVoter addr = match g.votersWithout? addr with
      | none => (.ok (), g)
      | some goal => g.setVoters goal := by
  unfold removeVoter votersWithout?
  cases g.memberAt? addr <;> rfl

theorem address?_of_memberAt? {addr : String} {id : UInt64} (found : g.memberAt? addr = some id) :
    g.membership.address? id = some addr := by
  obtain ⟨⟨other, address⟩, first, rfl⟩ := Option.map_eq_some_iff.mp found
  have same : address = addr := by simpa using List.find?_some first
  exact SortedMap.find?_eq_some_iff.mpr (same ▸ List.mem_of_find?_eq_some first)

theorem membership_propose (g : Group) (command : List UInt8) :
    (g.propose command).2.membership = g.membership := by
  have appended (e : LogId) : (g.append ⟨e, .normal ⟨command⟩⟩).2.membership = g.membership := by
    unfold append
    split
    · rfl
    · have applied := g.replica.progress.applied ⟨e, .normal ⟨command⟩⟩
      exact congrArg StoredMembership.membership applied.membership_eq
  have committed : (g.commit (.normal ⟨command⟩)).2.membership = g.membership := by
    unfold commit
    split
    · split
      · exact appended _
      · rfl
    · rfl
  unfold propose
  split
  all_goals
    rename_i result
    rw [result] at committed
    exact committed

end Group

namespace Member

variable {m : Member} {g : Group} {host : String}

/-- What a removal comes to ask the group for, which are other voters if the node has the address of
a member. It may be refused before that. -/
def removal (m : Member) (host : String) : Except Error (NodeInfo × Option (SortedSet UInt64)) := do
  let node ← m.metaNodeAt host
  if m.leaderHttp == host then throw .cannotRemoveLeader
  return (node, m.group.bind (·.votersWithout? node.tcpHost))

def forget (node : NodeInfo) : Action NodeInfo := do
  deleteMetaNode node.id
  if (← get).topology.metaNodes.any fun n => n.host == node.host && n.tcpHost == node.tcpHost then
    throw .unableToDropNode
  return node

def carryOut : Except Error (NodeInfo × Option (SortedSet UInt64)) → Action NodeInfo
  | .error fault => throw fault
  | .ok (node, none) => forget node
  | .ok (node, some goal) => do
    inGroup (·.setVoters goal)
    forget node

theorem run_remove (own : m.group = some g) (host : String) :
    m.run (remove host) = m.run (carryOut (m.removal host)) := by
  unfold remove removal
  rw [run_bind, run_get]
  dsimp only
  rw [run_bind, run_ofExcept]
  cases m.metaNodeAt host with
  | error fault => rfl
  | ok node =>
    dsimp only
    rw [run_bind, run_get]
    dsimp only
    by_cases leads : (m.leaderHttp == host) = true
    · simp only [leads, if_true]
      rfl
    · simp only [leads]
      rw [own]
      change m.run (inGroup (·.removeVoter node.tcpHost) >>= fun _ => forget node) =
        m.run (carryOut (.ok (node, g.votersWithout? node.tcpHost)))
      rw [run_bind, run_inGroup own, Group.removeVoter_eq]
      cases g.votersWithout? node.tcpHost with
      | none =>
        have same : { m with group := some g } = m := by rw [← own]
        dsimp only
        rw [same]
        rfl
      | some goal =>
        rw [carryOut, run_bind, run_inGroup own]

/-- Whether a host names a node at the address of the member without being taken for the leader's:
it is behind another node of that address, or the address is empty and the host is not. -/
def HidesLeader (m : Member) (host : String) : Prop :=
  ∃ g n k, m.group = some g ∧ m.topology.metaNodeByHost? host = some n ∧
    g.memberAt? n.tcpHost = some g.id ∧ m.topology.metaNodeByTcpHost? n.tcpHost = some k ∧
      (if n.tcpHost.isEmpty then "" else k.host) ≠ host

theorem topology_eq (own : m.group = some g) : m.topology = g.topology := by
  unfold topology progress
  rw [own]
  rfl

theorem leader_eq {addr : String} (own : m.group = some g) (leads : g.isLeader = true)
    (address : g.membership.address? g.id = some addr) : m.leader = addr := by
  obtain ⟨l, known, same⟩ := Group.leader_of_isLeader leads
  rw [leader, own, Option.bind_some, Group.leaderAddress?, known, Option.bind_some, same, address]
  rfl

theorem leaderHttp_eq {addr : String} {k : NodeInfo} (own : m.group = some g)
    (leads : g.isLeader = true) (address : g.membership.address? g.id = some addr)
    (first : m.topology.metaNodeByTcpHost? addr = some k) :
    m.leaderHttp = if addr.isEmpty then "" else k.host := by
  rw [leaderHttp, leader_eq own leads address, first]
  split
  · rename_i empty
    exact String.isEmpty_iff.mp empty
  · rfl

theorem removal_ok {n : NodeInfo} (own : m.group = some g)
    (named : m.topology.metaNodeByHost? host = some n) (other : m.leaderHttp ≠ host) :
    m.removal host = .ok (n, g.votersWithout? n.tcpHost) := by
  have passed : ¬ (m.leaderHttp == host) = true := by simpa using other
  rw [removal, metaNodeAt, named]
  simp only [ok_bind, passed, own]
  rfl

theorem removal_of_hidesLeader (own : m.group = some g) (leads : g.isLeader = true)
    (hides : m.HidesLeader host) : ∃ n, m.removal host = .ok (n, some (g.voters.erase g.id)) := by
  obtain ⟨g, n, k, known, named, found, first, other⟩ := hides
  cases own.symm.trans known
  rw [← leaderHttp_eq own leads (Group.address?_of_memberAt? found) first] at other
  refine ⟨n, ?_⟩
  rw [removal_ok own named other, Group.votersWithout?, found]
  rfl

/-- What is asked for takes someone out, and the leader only where a host hides him. -/
theorem removal_inv {n : NodeInfo} {goal : SortedSet UInt64} (own : m.group = some g)
    (leads : g.isLeader = true) (asked : m.removal host = .ok (n, some goal)) :
    ∃ id, goal = g.voters.erase id ∧ (id = g.id → m.HidesLeader host) := by
  unfold removal metaNodeAt at asked
  cases named : m.topology.metaNodeByHost? host with
  | none =>
    rw [named] at asked
    cases asked
  | some node =>
    rw [named] at asked
    simp only [ok_bind] at asked
    by_cases refused : (m.leaderHttp == host) = true
    · rw [if_pos refused] at asked
      cases asked
    · rw [if_neg refused, own, Option.bind_some] at asked
      obtain ⟨rfl, goal_eq⟩ := Prod.mk.inj (Except.ok.inj asked)
      obtain ⟨id, found, rfl⟩ := Option.map_eq_some_iff.mp goal_eq
      refine ⟨id, rfl, ?_⟩
      rintro rfl
      cases first : m.topology.metaNodeByTcpHost? node.tcpHost with
      | none =>
        have other := List.find?_eq_none.mp first node (List.mem_of_find?_eq_some named)
        simp at other
      | some k =>
        refine ⟨g, node, k, own, named, found, first, ?_⟩
        rw [← leaderHttp_eq own leads (Group.address?_of_memberAt? found) first]
        simpa using refused

theorem run_forget_snd (m : Member) (node : NodeInfo) :
    (m.run (forget node)).2 = (m.run (deleteMetaNode node.id)).2 := by
  refine run_bind_snd fun _ m' => ?_
  rw [run_bind, run_get]
  dsimp only
  split <;> rfl

theorem voters_forget (own : m.group = some g) (node : NodeInfo) :
    ∃ g', (m.run (forget node)).2.group = some g' ∧ g'.voters = g.voters := by
  rw [run_forget_snd, deleteMetaNode, run_discard]
  by_cases ready : m.ready = true
  · rw [run_execute ready, run_propose own]
    exact ⟨_, rfl, congrArg Membership.voters (g.membership_propose _)⟩
  · rw [execute, run_bind, run_get]
    simp only [ready]
    exact ⟨g, own, rfl⟩

theorem voters_kept (own : m.group = some g)
    (vain : ∀ n goal, m.removal host = .ok (n, some goal) → goal.elements = []) :
    ∃ g', (m.run (remove host)).2.group = some g' ∧ g'.voters = g.voters := by
  rw [run_remove own]
  cases asked : m.removal host with
  | error fault => exact ⟨g, own, rfl⟩
  | ok asks =>
    obtain ⟨node, _ | goal⟩ := asks
    · exact voters_forget own node
    · rw [carryOut, run_bind, run_inGroup own, Group.setVoters_none (vain node goal asked)]
      exact ⟨g, rfl, rfl⟩

theorem voters_asked {n : NodeInfo} {voters goal : SortedSet UInt64} (own : m.group = some g)
    (healthy : g.Healthy) (single : g.membership.configs = [voters])
    (asked : m.removal host = .ok (n, some goal)) (filled : goal.elements ≠ [])
    (members : ∀ id ∈ goal.elements, g.membership.nodes.contains id = true) :
    ∃ g', (m.run (remove host)).2.group = some g' ∧ g'.voters = goal := by
  obtain ⟨h, agreed, became⟩ := Group.setVoters_ok healthy single filled members
  rw [run_remove own, asked, carryOut, run_bind, run_inGroup own, agreed]
  obtain ⟨g', known, kept⟩ := voters_forget (m := { m with group := some h }) rfl n
  refine ⟨g', known, kept.trans ?_⟩
  rw [Group.voters, became.membership]
  exact Membership.voters_eq rfl

/-- The leader is asked to take himself out exactly where a host hides him, and then he is out, if
there is another voter. -/
theorem leader_stays_iff {voters : SortedSet UInt64} (own : m.group = some g) (healthy : g.Healthy)
    (single : g.membership.configs = [voters])
    (members : ∀ id ∈ voters.elements, g.membership.nodes.contains id = true)
    (votes : g.id ∈ voters.elements) (host : String) :
    m.run (remove host) = m.run (carryOut (m.removal host)) ∧
      ((∀ node goal, m.removal host = .ok (node, some goal) → g.id ∈ goal.elements) ↔
        ¬ m.HidesLeader host) ∧
      ∃ g', (m.run (remove host)).2.group = some g' ∧
        (g.id ∈ g'.voters.elements ↔
          ¬ (m.HidesLeader host ∧ ∃ id ∈ voters.elements, id ≠ g.id)) := by
  obtain rfl : g.voters = voters := Membership.voters_eq single
  have mem_erase (id other : UInt64) : other ∈ SortedSet.elements (g.voters.erase id) ↔
      other ≠ id ∧ other ∈ g.voters.elements := SortedMap.mem_keys_erase g.voters id other
  refine ⟨run_remove own host, ⟨?_, ?_⟩, ?_⟩
  · intro kept hides
    obtain ⟨n, asked⟩ := removal_of_hidesLeader own healthy.leads hides
    exact ((mem_erase _ _).mp (kept n _ asked)).1 rfl
  · intro shown n goal asked
    obtain ⟨id, rfl, only⟩ := removal_inv own healthy.leads asked
    refine (mem_erase _ _).mpr ⟨?_, votes⟩
    intro taken
    exact shown (only taken.symm)
  by_cases hidden : m.HidesLeader host ∧ ∃ id ∈ g.voters.elements, id ≠ g.id
  · obtain ⟨hides, id, listed, other⟩ := hidden
    obtain ⟨n, asked⟩ := removal_of_hidesLeader own healthy.leads hides
    have left : id ∈ SortedSet.elements (g.voters.erase g.id) := (mem_erase _ _).mpr ⟨other, listed⟩
    obtain ⟨g', known, now⟩ := voters_asked own healthy single asked (List.ne_nil_of_mem left)
      fun id member => members id ((mem_erase _ _).mp member).2
    refine ⟨g', known, iff_of_false ?_ (not_not_intro ⟨hides, id, listed, other⟩)⟩
    rw [now, mem_erase]
    exact fun stays => stays.1 rfl
  · by_cases vain : ∀ n goal, m.removal host = .ok (n, some goal) → goal.elements = []
    · obtain ⟨g', known, now⟩ := voters_kept own vain
      exact ⟨g', known, iff_of_true (now ▸ votes) hidden⟩
    · push Not at vain
      obtain ⟨n, goal, asked, filled⟩ := vain
      obtain ⟨id, rfl, only⟩ := removal_inv own healthy.leads asked
      obtain ⟨g', known, now⟩ := voters_asked own healthy single asked filled
        fun id member => members id ((mem_erase _ _).mp member).2
      refine ⟨g', known, iff_of_true ?_ hidden⟩
      rw [now, mem_erase]
      refine ⟨?_, votes⟩
      intro taken
      -- Whoever is left votes besides the leader, who would have been hidden.
      obtain ⟨other, left⟩ := List.exists_mem_of_ne_nil _ filled
      have left := (mem_erase _ _).mp left
      exact hidden ⟨only taken.symm, other, left.2, taken ▸ left.1⟩

def sharedAddress : Group where
  id := 1
  leader := some ⟨1, 1⟩
  replica := {
    progress := {
      topology := ({} : Topology).applyAll [.createMetaNode "a:8091" "a:8088",
        .createMetaNode "b:8091" "b:8088", .createMetaNode "c:8091" "a:8088"]
      published := 3
      membership := ⟨none, [.ofList [1, 2]], .ofList [(1, "a:8088"), (2, "b:8088")]⟩ } }

def sharedAddressLeader : Member where
  httpAddress := "a:8091"
  tcpAddress := "a:8088"
  identity := { raftId := 1 }
  ready := true
  group := some sharedAddress

theorem healthy_sharedAddress : sharedAddress.Healthy := ⟨by decide, .inl rfl⟩

theorem removal_sharedAddress : sharedAddressLeader.removal "c:8091" =
    .ok (⟨3, "c:8091", "a:8088", true⟩, some (sharedAddress.voters.erase 1)) := by
  cbv

theorem leader_stays_iff_sharedAddress :
    sharedAddress.Healthy ∧ sharedAddress.membership.configs = [.ofList [1, 2]] ∧
      sharedAddress.id ∈ (SortedSet.ofList [1, 2]).elements ∧
      ∃ g', (sharedAddressLeader.run (remove "c:8091")).2.group = some g' ∧
        (sharedAddress.id ∈ g'.voters.elements ↔
          ¬ (sharedAddressLeader.HidesLeader "c:8091" ∧
            ∃ id ∈ (SortedSet.ofList [1, 2]).elements, id ≠ sharedAddress.id)) := by
  have members : (SortedSet.ofList [1, 2]).elements.all sharedAddress.membership.nodes.contains := by
    decide
  obtain ⟨-, -, effect⟩ := leader_stays_iff (m := sharedAddressLeader) rfl healthy_sharedAddress rfl
    (List.all_eq_true.mp members) (by decide) "c:8091"
  exact ⟨healthy_sharedAddress, rfl, by decide, effect⟩

/-- The leader of two voters is asked to take out the second node, and is out itself. -/
theorem leader_removed :
    Topology.Reachable sharedAddress.topology ∧ sharedAddressLeader.group = some sharedAddress ∧
      sharedAddress.isLeader = true ∧ sharedAddress.voters.elements = [1, 2] ∧
      sharedAddressLeader.removal "c:8091" =
        .ok (⟨3, "c:8091", "a:8088", true⟩, some (sharedAddress.voters.erase 1)) ∧
      ∃ g', (sharedAddressLeader.run (remove "c:8091")).2.group = some g' ∧
        g'.voters.elements = [2] := by
  have members : (SortedSet.elements (sharedAddress.voters.erase 1)).all
      sharedAddress.membership.nodes.contains := by
    decide
  obtain ⟨g', known, now⟩ := voters_asked (m := sharedAddressLeader) rfl healthy_sharedAddress rfl
    removal_sharedAddress (by decide) (List.all_eq_true.mp members)
  refine ⟨Topology.Reachable.empty.applyAll _, rfl, by decide, by decide, removal_sharedAddress, g',
    known, ?_⟩
  rw [now]
  decide

end Member

end SeriesCluster
