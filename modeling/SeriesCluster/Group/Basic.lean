import SeriesCluster.Log.Store
import SeriesCluster.Replica.Basic

/-!
The group of members that agree on a log, as one of its members takes part in it. The group is
healthy: what its leader puts into the log is agreed on and applied at once.
-/

namespace SeriesCluster

structure Group where
  id : UInt64
  leader : Option Leadership := none
  log : LogStore := {}
  replica : Replica := {}
  deriving Repr

namespace Group

def topology (g : Group) : Topology := g.replica.progress.topology

def membership (g : Group) : Membership := g.replica.progress.membership.membership

def voters (g : Group) : SortedSet UInt64 := g.membership.voters

def isLeader (g : Group) : Bool := g.leader.any (·.node == g.id)

def leaderAddress? (g : Group) : Option String :=
  g.leader.bind fun l => g.membership.address? l.node

def leaderHttp? (g : Group) : Option String := do
  let addr ← g.leaderAddress?
  let node ← g.topology.metaNodeByTcpHost? addr
  return node.host

def nextIndex (g : Group) : UInt64 :=
  match g.log.log.last? with
  | some last => last.index + 1
  | none => 0

/-- Puts an entry into the log and applies it. An entry that cannot be stored is lost. -/
def append (g : Group) (e : Entry) : Except Error Outcome × Group :=
  match g.log.change (.append [e]) with
  | (.error _, log) => (.error (.consensus none), { g with log := log })
  | (.ok _, log) =>
    let (outcome, progress) := g.replica.progress.applyEntry e
    (.ok outcome, { g with log := log, replica := { g.replica with progress := progress } })

def commit (g : Group) (p : Payload) : Except Error Outcome × Group :=
  match g.leader with
  | some l =>
    if l.node = g.id then g.append ⟨⟨l, g.nextIndex⟩, p⟩ else (.error (.notLeader g.leaderHttp?), g)
  | none => (.error (.notLeader none), g)

def propose (g : Group) (command : List UInt8) : Except Error UInt64 × Group :=
  match g.commit (.normal ⟨command⟩) with
  | (.ok ⟨index, none⟩, g) => (.ok index, g)
  | (.ok ⟨_, some reason⟩, g) => (.error (.refused (.reported reason)), g)
  | (.error e, g) => (.error e, g)

def setMembership (g : Group) (m : Membership) : Except Error Unit × Group :=
  let (result, g) := g.commit (.membership m)
  (result.map fun _ => (), g)

def addMember (g : Group) (id : UInt64) (addr : String) : Except Error Unit × Group :=
  g.setMembership (g.membership.withMember id addr)

/-- Changes the voters. There must be one, and all of them must be members. While two sets of voters
are needed, a second step leaves the new ones alone. -/
def setVoters (g : Group) (goal : SortedSet UInt64) : Except Error Unit × Group :=
  if goal.elements.isEmpty || goal.elements.any (!g.membership.nodes.contains ·) then
    (.error (.consensus none), g)
  else
    match g.setMembership (g.membership.toward goal) with
    | (.error e, g) => (.error e, g)
    | (.ok _, g) =>
      if g.membership.configs.length ≤ 1 then (.ok (), g)
      else g.setMembership (g.membership.toward goal)

/-- The member with an address, by the order of ids. -/
def memberAt? (g : Group) (addr : String) : Option UInt64 :=
  (g.membership.nodes.toList.find? (·.2 == addr)).map (·.1)

def removeVoter (g : Group) (addr : String) : Except Error Unit × Group :=
  match g.memberAt? addr with
  | none => (.ok (), g)
  | some id => g.setVoters (g.voters.erase id)

def openAt (id : UInt64) (logPlace snapshotPlace : Place) : Except Error Group := do
  let log ← LogStore.openAt logPlace
  let replica ← Replica.openAt snapshotPlace.created
  let low : Bound :=
    match replica.progress.lastApplied with
    | some last => .excluded last.index
    | none => .unbounded
  let (_, replica) := replica.apply (log.log.range low .unbounded)
  return { id := id, log := log, replica := replica }

def found (g : Group) (addr : String) : Except Error Unit × Group :=
  match g.log.log.last? with
  | some _ => (.ok (), g)
  | none =>
    let m : Membership := .of [.ofList [g.id]] (.ofList [(g.id, addr)])
    let (result, g) := g.append ⟨⟨⟨0, 0⟩, 0⟩, .membership m⟩
    (result.map fun _ => (), g)

def leadAfter (g : Group) (term : UInt64) : Group :=
  let l : Leadership := ⟨term + 1, g.id⟩
  let (_, log) := g.log.change (.saveVote ⟨l, true⟩)
  let (_, g) := { g with leader := some l, log := log }.commit .blank
  g

/-- Elects the member of a group that has no other voter. A member that has been leader goes on in
its term. -/
def elect (g : Group) : Group :=
  if g.voters.elements = [g.id] then
    match g.log.log.hard.vote with
    | none => g.leadAfter 0
    | some ⟨l, committed⟩ =>
      if committed ∧ l.node = g.id then { g with leader := some l } else g.leadAfter l.term
  else g

end Group

end SeriesCluster
