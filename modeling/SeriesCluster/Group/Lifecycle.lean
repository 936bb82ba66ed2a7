import SeriesCluster.Group.Client
import SeriesCluster.Group.Member

namespace SeriesCluster.Member

def new (httpAddress tcpAddress : String) (joinPeers : List String) (place logPlace : Place)
    (drawn : UInt64) : Except Error Member := do
  let (identity, place) ← Identity.load place drawn
  return {
    httpAddress := httpAddress
    tcpAddress := tcpAddress
    joinPeers := joinPeers
    identity := identity
    place := place
    logPlace := logPlace
    snapshotPlace := logPlace }

def joinCluster (send : HttpTransport Id) (peers : List String) : Action NodeInfo := do
  let client ← MonadExcept.ofExcept (Client.ofPeers peers)
  let m ← get
  let request : JoinRequest := ⟨m.httpAddress, m.tcpAddress, m.identity.raftId⟩
  let node ← MonadExcept.ofExcept (Id.run (client.join send request))
  setNodeId node.id
  return node

/-- Takes part in the group. A member can be started once, also when it fails afterwards. -/
def start : Action Unit := do
  let m ← get
  if m.started then throw .storeAlreadyOpen
  let g ← MonadExcept.ofExcept (Group.openAt m.identity.raftId m.logPlace m.snapshotPlace)
  set { m with started := true, group := some g }

def enter (send : HttpTransport Id) : Action Unit := do
  let m ← get
  if m.joinPeers.isEmpty then inGroup (·.found m.tcpAddress)
  else if m.identity.id.isNone then discard (joinCluster send m.joinPeers)
  inGroup fun g => (.ok (), g.elect)

/-- Sets the addresses of a sole member anew: those that it was known by may be old ones. -/
def assertAddresses : Action Unit := do
  let m ← get
  if m.peers.length ≤ 1 then setMetaNode m.httpAddress m.tcpAddress

def keepRegistration : Action Unit := do
  let m ← get
  match m.topology.metaNodeByHost? m.httpAddress with
  | some n => if m.identity.id ≠ some n.id then setNodeId n.id
  | none => pure ()

def openWith (send : HttpTransport Id) (limit : Duration) : Action Unit := do
  start
  enter send
  match (← get).awaitLeader? limit with
  | some (.error e) => throw e
  | none => throw .timeout
  | some (.ok _) => pure ()
  assertAddresses
  keepRegistration
  modify fun m => { m with ready := true }

end SeriesCluster.Member
