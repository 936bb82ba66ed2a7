import SeriesCluster.Topology.Apply

/-!
Commands as steps that change a topology in place. A step that fails leaves what the steps before it
have changed, so it is up to the order of the steps whether a refused command leaves nothing.
-/

namespace SeriesCluster.Topology

abbrev Edit := ExceptT Error (StateM Topology)

namespace Edit

def on {α : Type} (e : Edit α) (t : Topology) : Except Error α × Topology := (ExceptT.run e).run t

def nextNodeId : Edit UInt64 := do
  modify fun t => { t with maxNodeId := t.maxNodeId + 1 }
  return (← get).maxNodeId

def idOf : Option NodeInfo → Edit UInt64
  | some n => return n.id
  | none => nextNodeId

def createMetaNode (host tcpHost : String) : Edit Unit := do
  if (← get).metaNodes.any (·.host == host) then throw .nodeExists
  let id ← idOf ((← get).dataNodeByTcpHost? tcpHost)
  modify fun t =>
    { t with metaNodes := sortNodes (t.metaNodes ++ [⟨id, host, tcpHost, true⟩]) }

def setMetaNode (host tcpHost : String) : Edit Unit := do
  match (← get).metaNodes with
  | [] => createMetaNode host tcpHost
  | [n] => modify fun t => { t with metaNodes := [{ n with host := host, tcpHost := tcpHost }] }
  | nodes => throw (.refused (.severalMetaNodes nodes.length))

def retain {α : Type} (list : Topology → List α) (put : List α → Topology → Topology)
    (p : α → Bool) (fault : Error) : Edit Unit := do
  let before := (list (← get)).length
  modify fun t => put ((list t).filter p) t
  if (list (← get)).length = before then throw fault

def deleteMetaNode (id : UInt64) : Edit Unit :=
  retain (·.metaNodes) (fun nodes t => { t with metaNodes := nodes }) (·.id != id) .nodeNotFound

def createDataNode (host tcpHost : String) : Edit Unit := do
  if (← get).dataNodes.any (·.tcpHost == tcpHost) then throw .nodeExists
  let id ← idOf ((← get).metaNodeByTcpHost? tcpHost)
  modify fun t =>
    { t with dataNodes := sortNodes (t.dataNodes ++ [⟨id, host, tcpHost, false⟩]) }

def deleteDataNode (id : UInt64) : Edit Unit := do
  retain (·.dataNodes) (fun nodes t => { t with dataNodes := nodes }) (·.id != id) .nodeNotFound
  modify fun t => { t with databases := mapGroups (disown id) t.databases }

def createDatabase (name : String) (policy : Option PolicySpec) : Edit Unit := do
  if name.isEmpty then throw (.refused .databaseNameRequired)
  if ((← get).database? name).isSome then return
  let p ← MonadExcept.ofExcept (RetentionPolicy.ofSpec (policy.getD { name := defaultPolicyName }))
  modify fun t => { t with databases := t.databases ++ [⟨name, p.name, [p]⟩] }

def dropDatabase (name : String) : Edit Unit :=
  retain (·.databases) (fun databases t => { t with databases := databases }) (·.name != name)
    (.databaseNotFound name)

def inDatabase (name : String) (f : Database → Except Error Unit × Database) : Edit Unit := do
  let d ← MonadExcept.ofExcept ((← get).getDatabase name)
  modify (·.updateDatabase name fun _ => (f d).2)
  MonadExcept.ofExcept (f d).1

def createPolicy (database : String) (spec : PolicySpec) (makeDefault : Bool) : Edit Unit := do
  if spec.name.isEmpty then throw (.refused .policyNameRequired)
  let p ← MonadExcept.ofExcept (RetentionPolicy.ofSpec spec)
  inDatabase database fun d =>
    match d.policies.find? (·.name == spec.name) with
    | some q => (if q.fits spec then .ok () else .error (.policyConflict spec.name), d)
    | none => (.ok (), { d with policies := d.policies ++ [p] })
  if makeDefault then inDatabase database fun d => (.ok (), { d with defaultPolicy := spec.name })

def dropPolicy (database name : String) : Edit Unit := do
  inDatabase database fun d =>
    let kept := d.policies.filter (·.name != name)
    (if kept.length = d.policies.length then .error (.policyNotFound name) else .ok (),
      { d with policies := kept })
  inDatabase database fun d =>
    (.ok (), if d.defaultPolicy = name then { d with defaultPolicy := "" } else d)

def setDefaultPolicy (database name : String) : Edit Unit :=
  inDatabase database fun d =>
    if d.policies.any (·.name == name) then (.ok (), { d with defaultPolicy := name })
    else (.error (.policyNotFound name), d)

def inPolicy (database name : String) (f : List ShardGroup → Except Error (List ShardGroup)) :
    Edit Unit := do
  let d ← MonadExcept.ofExcept ((← get).getDatabase database)
  match d.policy? name with
  | none => throw (.policyNotFound name)
  | some p =>
    let groups ← MonadExcept.ofExcept (f p.shardGroups)
    modify (·.updatePolicy database name fun _ => groups)

/-- Counts a group id and a shard id for each shard before the policy is looked up again. -/
def createShardGroup (database policy : String) (timestamp : Int64) : Edit Unit := do
  let t ← get
  let nodes := t.dataNodes.map (·.id)
  if nodes.isEmpty then throw (.refused .noDataNodes)
  let p ← MonadExcept.ofExcept (t.policy database policy)
  if (p.groupAt? timestamp).isSome then return
  let replicas := max 1 (min p.replicaCount.toNat nodes.length)
  match RetentionPolicy.interval? p.span timestamp with
  | none => throw (.refused (.noInterval timestamp p.span))
  | some (start, stop) =>
    let shards := newShards nodes t.index.toNat replicas (t.maxShardId + 1)
    modify fun t => { t with maxShardGroupId := t.maxShardGroupId + 1 }
    modify fun t => { t with maxShardId := t.maxShardId + UInt64.ofNat shards.length }
    let group : ShardGroup := ⟨t.maxShardGroupId + 1, start, stop, none, shards⟩
    inPolicy database p.name fun groups =>
      .ok ((groups ++ [group]).mergeSort fun a b => a.startTime ≤ b.startTime)

def deleteShardGroup (database policy : String) (id : UInt64) (deletedAt : Int64) : Edit Unit :=
  inPolicy database policy fun groups =>
    if groups.any (·.id == id) then
      .ok (updateFirst (·.id == id) (fun g => { g with deletedAt := some deletedAt }) groups)
    else .error (.refused (.shardGroupNotFound id))

def untilFirst {α : Type} (change : α → Bool × α) : List α → Bool × List α
  | [] => (false, [])
  | a :: rest =>
    match change a with
    | (true, a) => (true, a :: rest)
    | (false, a) =>
      let (counts, rest) := untilFirst change rest
      (counts, a :: rest)

def withoutShard (id : UInt64) (g : ShardGroup) : Bool × ShardGroup :=
  let kept := g.shards.filter (·.id != id)
  (kept.length != g.shards.length, { g with shards := kept })

def dropShard (id : UInt64) : Edit Unit := do
  let (counts, databases) := untilFirst (fun d =>
    let (counts, policies) := untilFirst (fun p =>
      let (counts, groups) := untilFirst (withoutShard id) p.shardGroups
      (counts, { p with shardGroups := groups })) d.policies
    (counts, { d with policies := policies })) (← get).databases
  modify fun t => { t with databases := databases }
  if !counts then throw (.shardNotFound id)

def perform : Command → Edit Unit
  | .createMetaNode host tcpHost => createMetaNode host tcpHost
  | .setMetaNode host tcpHost => setMetaNode host tcpHost
  | .deleteMetaNode id => deleteMetaNode id
  | .createDataNode host tcpHost => createDataNode host tcpHost
  | .deleteDataNode id => deleteDataNode id
  | .createDatabase name policy => createDatabase name policy
  | .dropDatabase name => dropDatabase name
  | .createPolicy database policy makeDefault => createPolicy database policy makeDefault
  | .dropPolicy database name => dropPolicy database name
  | .setDefaultPolicy database name => setDefaultPolicy database name
  | .createShardGroup database policy timestamp => createShardGroup database policy timestamp
  | .deleteShardGroup database policy id deletedAt => deleteShardGroup database policy id deletedAt
  | .dropShard id => dropShard id

def command (c : Command) : Edit Unit := do
  perform c
  modify fun t => { t with index := t.index + 1 }

end Edit

end SeriesCluster.Topology
