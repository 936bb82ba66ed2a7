import SeriesCluster.Topology.Basic

namespace SeriesCluster

abbrev Picks := Nat → Nat

/-- Where a shard is read. A shard without owners is read nowhere. -/
inductive Route
  | nowhere
  | here
  | node (id : UInt64)
  deriving DecidableEq, Repr

def ShardInfo.route (s : ShardInfo) (self : UInt64) (pick : Nat) : Route :=
  if s.owners.isEmpty then .nowhere
  else if s.ownedBy self then .here
  else
    match s.ownerIds[pick % s.ownerIds.length]? with
    | some id => .node id
    | none => .nowhere

structure Routing where
  here : List UInt64 := []
  elsewhere : SortedMap UInt64 (List UInt64) := ∅
  deriving DecidableEq, Repr, Inhabited

namespace Routing

def add (r : Routing) (shard : UInt64) : Route → Routing
  | .nowhere => r
  | .here => { r with here := r.here ++ [shard] }
  | .node id => { r with elsewhere := r.elsewhere.alter id fun old => old.getD [] ++ [shard] }

/-- Routes shards in order. `used` counts the picks that have been taken. -/
def extend (self : UInt64) (picks : Picks) : List ShardInfo → Routing → Nat → Routing × Nat
  | [], r, used => (r, used)
  | s :: rest, r, used =>
    let route := s.route self (picks used)
    let used := match route with
      | .node _ => used + 1
      | _ => used
    extend self picks rest (r.add s.id route) used

def nodes (r : Routing) : List UInt64 := r.elsewhere.keys

def pinned (self node : UInt64) (shards : List ShardInfo) : Routing :=
  let ids := (shards.filter (·.ownedBy node)).map (·.id)
  if ids.isEmpty then {}
  else if node = self then { here := ids }
  else { elsewhere := SortedMap.ofList [(node, ids)] }

end Routing

end SeriesCluster
