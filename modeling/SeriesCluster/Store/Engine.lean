import SeriesCluster.Store.Read

namespace SeriesCluster

/-- The shards of a data node. With a creation fault no shard can be created, not even one that is
there. -/
structure ShardEngine where
  store : ShardStore := {}
  creationFault : Option Error := none
  deriving DecidableEq, Repr, Inhabited

namespace ShardEngine

def createShard (e : ShardEngine) (owner : Source) (id : UInt64) : Except Error ShardEngine :=
  match e.creationFault with
  | some fault => .error fault
  | none => .ok { e with store := e.store.createShard owner id true }

def write (e : ShardEngine) (id : UInt64) (points : List Point) : Except Error ShardEngine :=
  (e.store.write id points).map fun store => { e with store := store }

def select (e : ShardEngine) (ids : List UInt64) : ShardSelection := ⟨e.store, ids⟩

end ShardEngine

end SeriesCluster
