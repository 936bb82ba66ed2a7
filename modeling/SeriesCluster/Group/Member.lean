import SeriesCluster.Group.Basic
import SeriesCluster.Group.Identity
import SeriesCluster.Group.Message

namespace SeriesCluster

/-- A member. It takes part in the group from when it is started until it is closed; commands are
taken only while it is ready. What it has read from the group stays readable after that. -/
structure Member where
  httpAddress : String
  tcpAddress : String
  joinPeers : List String := []
  identity : Identity
  place : Place := .nowhere
  logPlace : Place := .nowhere
  snapshotPlace : Place := .nowhere
  started : Bool := false
  ready : Bool := false
  closed : Bool := false
  group : Option Group := none
  left : Progress := {}
  nonce : UInt64 := 0
  deriving Repr

namespace Member

/-- What a member does. It may fail, and what it has changed by then stays changed. -/
abbrev Action := ExceptT Error (StateM Member)

def run {α : Type} (m : Member) (a : Action α) : Except Error α × Member := (ExceptT.run a).run m

def progress (m : Member) : Progress :=
  match m.group with
  | some g => g.replica.progress
  | none => m.left

def topology (m : Member) : Topology := m.progress.topology

def isLeader (m : Member) : Bool := m.group.any (·.isLeader)

def leader (m : Member) : String := (m.group.bind (·.leaderAddress?)).getD ""

def leaderHttp (m : Member) : String :=
  if m.leader.isEmpty then m.leader
  else ((m.topology.metaNodeByTcpHost? m.leader).map (·.host)).getD ""

def peers (m : Member) : List String :=
  match m.group with
  | some g => g.membership.voterAddresses
  | none => []

def metaServers (m : Member) : List String := m.topology.metaNodes.map (·.host)

def otherMetaServers (m : Member) : List String :=
  (m.topology.metaNodes.filter (·.tcpHost != m.tcpAddress)).map (·.host)

def dataServers (m : Member) : List String := m.topology.dataNodes.map (·.tcpHost)

def metaNodeAt (m : Member) (host : String) : Except Error NodeInfo :=
  match m.topology.metaNodeByHost? host with
  | some n => .ok n
  | none => .error .nodeNotFound

def status (m : Member) : MemberStatus where
  nodeId := m.identity.id
  raftId := m.identity.raftId
  httpAddress := m.httpAddress
  tcpAddress := m.tcpAddress
  leader := m.leaderHttp
  isLeader := m.isLeader
  peers := m.peers
  index := m.topology.index

def isPast (m : Member) (index : UInt64) : Bool := index < m.progress.published

/-- What comes of waiting for the topology to go past an index; none while it has to be waited. -/
def awaited? (m : Member) (index : UInt64) : Option (Except Error UInt64) :=
  if m.closed then some (.error .closing)
  else if m.isPast index then some (.ok m.progress.published)
  else none

def awaitLeader? (m : Member) (limit : Duration) : Option (Except Error Unit) :=
  if m.closed then some (.error .closing)
  else if !m.leader.isEmpty then some (.ok ())
  else if limit.isZero then none
  else some (.error .timeout)

def inGroup {α : Type} (f : Group → Except Error α × Group) : Action α := do
  match (← get).group with
  | none => throw .notOpen
  | some g =>
    let (result, g) := f g
    modify fun m => { m with group := some g }
    MonadExcept.ofExcept result

def propose (c : Command) : Action UInt64 := do
  let nonce := (← get).nonce
  modify fun m => { m with nonce := nonce + 1 }
  inGroup (·.propose (Envelope.toBytes ⟨nonce, c⟩))

def apply (command : List UInt8) : Action UInt64 := do
  if !(← get).ready then throw .notOpen
  inGroup (·.propose command)

def execute (c : Command) : Action UInt64 := do
  if !(← get).ready then throw .notOpen
  propose c

def ensureLeader : Action Unit :=
  inGroup fun g => (if g.isLeader then .ok () else .error (.notLeader g.leaderHttp?), g)

def createMetaNode (host tcpHost : String) : Action Unit :=
  discard (execute (.createMetaNode host tcpHost))

def setMetaNode (host tcpHost : String) : Action Unit :=
  discard (propose (.setMetaNode host tcpHost))

def deleteMetaNode (id : UInt64) : Action Unit := discard (execute (.deleteMetaNode id))

def createDataNode (host tcpHost : String) : Action NodeInfo := do
  match (← get).topology.dataNodeByTcpHost? tcpHost with
  | some n => return n
  | none =>
    discard (execute (.createDataNode host tcpHost))
    match (← get).topology.dataNodeByTcpHost? tcpHost with
    | some n => return n
    | none => throw .nodeNotFound

def createDatabase (name : String) (policy : Option PolicySpec) : Action Unit :=
  discard (execute (.createDatabase name policy))

def createPolicy (database : String) (policy : PolicySpec) (makeDefault : Bool) : Action Unit :=
  discard (execute (.createPolicy database policy makeDefault))

def groupAt? (database policy : String) (timestamp : Int64) : Action (Option ShardGroup) := do
  let p ← MonadExcept.ofExcept ((← get).topology.policy database policy)
  return p.groupAt? timestamp

def createShardGroup (database policy : String) (timestamp : Int64) : Action ShardGroup := do
  match ← groupAt? database policy timestamp with
  | some g => return g
  | none =>
    discard (execute (.createShardGroup database policy timestamp))
    match ← groupAt? database policy timestamp with
    | some g => return g
    | none => throw (.internal "shard group missing after create")

def deleteShardGroup (database policy : String) (id : UInt64) (now : Int64) : Action Unit :=
  discard (execute (.deleteShardGroup database policy id now))

def join (r : JoinRequest) : Action NodeInfo := do
  let leader := (← get).leaderHttp
  inGroup fun g =>
    (if g.isLeader then .ok ()
      else .error (.notLeader (if leader.isEmpty then none else some leader)), g)
  inGroup (·.addMember r.raftId r.tcpHost)
  inGroup fun g => g.setVoters (g.voters.add r.raftId)
  createMetaNode r.host r.tcpHost
  match (← get).topology.metaNodes.find? fun n => n.host == r.host && n.tcpHost == r.tcpHost with
  | some n => return n
  | none => throw .nodeNotFound

def remove (host : String) : Action NodeInfo := do
  let node ← MonadExcept.ofExcept ((← get).metaNodeAt host)
  if (← get).leaderHttp == host then throw .cannotRemoveLeader
  inGroup (·.removeVoter node.tcpHost)
  deleteMetaNode node.id
  if (← get).topology.metaNodes.any fun n => n.host == node.host && n.tcpHost == node.tcpHost then
    throw .unableToDropNode
  return node

def leave (tcpHost : String) : Action Unit := inGroup (·.removeVoter tcpHost)

def setNodeId (id : UInt64) : Action Unit := do
  modify fun m => { m with identity := { m.identity with id := some id } }
  let m ← get
  match m.identity.save m.place with
  | .ok place => modify fun m => { m with place := place }
  | .error kind => throw (.ofIo kind)

def logFiles (m : Member) : Place := (m.group.map (·.log.place)).getD m.logPlace

def file? (m : Member) (name : String) : Option (List UInt8) :=
  if name.startsWith "raft/" then m.logFiles.file? (name.drop 5).toString else m.place.file? name

def close (m : Member) : Member :=
  if m.closed then m
  else
    { m with
      closed := true
      ready := false
      left := m.progress
      logPlace := m.logFiles
      snapshotPlace := (m.group.map (·.replica.place)).getD m.snapshotPlace
      group := none }

end Member

end SeriesCluster
