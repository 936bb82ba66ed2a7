import SeriesCluster.Error
import SeriesCluster.Topology.Basic

namespace SeriesCluster.Topology

def metaNode? (t : Topology) (id : UInt64) : Option NodeInfo := t.metaNodes.find? (·.id == id)

def metaNodeByHost? (t : Topology) (host : String) : Option NodeInfo :=
  t.metaNodes.find? (·.host == host)

def metaNodeByTcpHost? (t : Topology) (tcpHost : String) : Option NodeInfo :=
  t.metaNodes.find? (·.tcpHost == tcpHost)

def dataNode? (t : Topology) (id : UInt64) : Option NodeInfo := t.dataNodes.find? (·.id == id)

def getDataNode (t : Topology) (id : UInt64) : Except Error NodeInfo :=
  match t.dataNode? id with
  | some n => .ok n
  | none => .error .nodeNotFound

def dataNodeByTcpHost? (t : Topology) (tcpHost : String) : Option NodeInfo :=
  t.dataNodes.find? (·.tcpHost == tcpHost)

def database? (t : Topology) (name : String) : Option Database := t.databases.find? (·.name == name)

def getDatabase (t : Topology) (name : String) : Except Error Database :=
  match t.database? name with
  | some d => .ok d
  | none => .error (.databaseNotFound name)

def policy (t : Topology) (database name : String) : Except Error RetentionPolicy := do
  match (← t.getDatabase database).policy? name with
  | some p => .ok p
  | none => .error (.policyNotFound name)

def groupsIn (t : Topology) (database policy : String) (range : TimeRange) :
    Except Error (List ShardGroup) := do
  let p ← t.policy database policy
  let found := p.shardGroups.filter fun g => !g.isDeleted && g.overlaps range
  return found.mergeSort fun a b => a.startTime ≤ b.startTime

def locations (t : Topology) : List ShardLocation :=
  t.databases.flatMap fun d => d.policies.flatMap fun p => p.shardGroups.flatMap fun g =>
    g.shards.map fun s => ⟨d.name, p.name, g.id, s⟩

def shardLocation? (t : Topology) (id : UInt64) : Option ShardLocation :=
  t.locations.find? (·.shard.id == id)

end SeriesCluster.Topology
