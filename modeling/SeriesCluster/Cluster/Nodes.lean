import SeriesCluster.Cluster.Query
import SeriesCluster.Cluster.Service
import SeriesCluster.Net.Mux
import SeriesCluster.Topology.Apply

namespace SeriesCluster

structure Cluster where
  topology : Topology
  engines : SortedMap UInt64 ShardEngine := ∅
  addresses : SortedMap UInt64 String := ∅
  uninformed : List UInt64 := []
  reachable : List (String × UInt64) := []
  deriving DecidableEq, Repr

namespace Cluster

def engine (c : Cluster) (id : UInt64) : ShardEngine := (c.engines.find? id).getD {}

def setEngine (c : Cluster) (id : UInt64) (e : ShardEngine) : Cluster :=
  { c with engines := c.engines.insert id e }

def store (c : Cluster) (id : UInt64) : ShardStore := (c.engine id).store

def addressOf (c : Cluster) (id : UInt64) : Except Error String := do
  return (c.addresses.find? id).getD (← c.topology.getDataNode id).tcpHost

def dataNode (c : Cluster) (id : UInt64) : DataNode where
  engine := c.engine id
  locate shard :=
    .ok (if c.uninformed.contains id then none else c.topology.shardLocation? shard)

def reply (c : Cluster) (id : UInt64) : Reply := fun received =>
  match Mux.accept? ⟨[.cluster]⟩ received with
  | some (_, received) => ((c.dataNode id).serve received).1
  | none => []

def network (c : Cluster) : Network := ⟨fun addr => (c.reachable.lookup addr).map c.reply⟩

def dialer (c : Cluster) (timeout : Duration) : Dialer :=
  { network := c.network, addressOf := c.addressOf, timeout := timeout }

def map (c : Cluster) (m : Mapper) (picks : Picks) (sources : List QuerySource)
    (range : TimeRange) : (Except Error ShardMapping × Nat) × Cluster :=
  let lookup (s : Source) := c.topology.groupsIn s.database s.retentionPolicy range
  let (result, s) := m.mapShards lookup picks sources (c.engine m.nodeId)
  ((result, s.lookups.length), c.setEngine m.nodeId s.engine)

/-- Maps a query for every choice of owners: the nodes that each of its sources may be read from. -/
def mapAll (c : Cluster) (m : Mapper) (sources : List QuerySource) (range : TimeRange) :
    Except Error (SortedMap Source (SortedSet UInt64)) × Cluster :=
  let choices := List.range ((c.topology.locations.map (·.shard.owners.length)).foldl max 1)
  let map (pick : Nat) := c.map m (fun _ => pick) sources range
  let found := (choices.mapM fun pick => (map pick).1.1).map fun mappings =>
    mappings.foldl (fun all mapping => mapping.sources.toList.foldl addNodes all) ∅
  (found, (map 0).2)
where
  addNodes (all : SortedMap Source (SortedSet UInt64)) (s : Source × SourceMapping) :=
    all.alter s.1 fun old => (old.getD ∅).union (.ofList s.2.remoteNodes)

def writeShard (c : Cluster) (node shard : UInt64) (points : List Point) :
    Except Error Unit × Cluster :=
  let (result, e) := (c.dataNode node).writeShard shard points
  (result, c.setEngine node e)

def apply (c : Cluster) (command : Command) : Except Error UInt64 × Cluster :=
  match c.topology.apply command with
  | .ok t => (.ok t.index, { c with topology := t })
  | .error e => (.error e, c)

end Cluster

end SeriesCluster
