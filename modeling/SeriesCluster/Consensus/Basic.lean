import SeriesCluster.Json.Codec
import SeriesCluster.Text.Integer

namespace SeriesCluster

open Json

structure Leadership where
  term : UInt64
  node : UInt64
  deriving DecidableEq, Repr, Inhabited

namespace Leadership

instance : Ord Leadership where
  compare a b := (compare a.term b.term).then (compare a.node b.node)

instance : Codec Leadership where
  encode l := .object [("term", encode l.term), ("node_id", encode l.node)]
  decode := decodeRecord "LeaderId" [field UInt64 "term", field UInt64 "node_id"] fun ms => do
    return { term := ← ms.get "term", node := ← ms.get "node_id" }

end Leadership

structure LogId where
  leader : Leadership
  index : UInt64
  deriving DecidableEq, Repr, Inhabited

namespace LogId

instance : Ord LogId where
  compare a b := (compare a.leader b.leader).then (compare a.index b.index)

instance : Codec LogId where
  encode i := .object [("leader_id", encode i.leader), ("index", encode i.index)]
  decode := decodeRecord "LogId" [field Leadership "leader_id", field UInt64 "index"] fun ms => do
    return { leader := ← ms.get "leader_id", index := ← ms.get "index" }

end LogId

structure Vote where
  leader : Leadership
  committed : Bool
  deriving DecidableEq, Repr

instance : Codec Vote where
  encode v := .object [("leader_id", encode v.leader), ("committed", encode v.committed)]
  decode := decodeRecord "Vote" [field Leadership "leader_id", field Bool "committed"] fun ms => do
    return { leader := ← ms.get "leader_id", committed := ← ms.get "committed" }

/-- Who belongs to the group. Each configuration is a set of voters, of which a majority must agree;
there are several while the voters change. `nodes` are the addresses of all members by id, also of
those that do not vote. -/
structure Membership where
  configs : List (SortedSet UInt64) := []
  nodes : SortedMap UInt64 String := ∅
  deriving DecidableEq, Repr, Inhabited

namespace Membership

def voters (m : Membership) : SortedSet UInt64 := m.configs.foldl SortedSet.union ∅

/-- The membership of some voters and addresses. A voter without an address gets an empty one. -/
def of (configs : List (SortedSet UInt64)) (nodes : SortedMap UInt64 String) : Membership :=
  let voters := configs.foldl SortedSet.union ∅
  { configs := configs
    nodes := voters.elements.foldl (fun ns id => if ns.contains id then ns else ns.insert id "")
      nodes }

def address? (m : Membership) (id : UInt64) : Option String := m.nodes.find? id

def voterAddresses (m : Membership) : List String := m.voters.elements.filterMap m.address?

/-- The membership with one more member, which does not vote; a member that is known keeps its
address. -/
def withMember (m : Membership) (id : UInt64) (addr : String) : Membership :=
  if m.nodes.contains id then m else { m with nodes := m.nodes.insert id addr }

/-- The next step from the membership to other voters: they are agreed on together with the last
voters first, and then alone. Voters that drop out are members no longer. -/
def toward (m : Membership) (goal : SortedSet UInt64) : Membership :=
  let configs := if m.configs.contains goal then [goal] else m.configs.getLast?.toList ++ [goal]
  let kept := configs.foldl SortedSet.union ∅
  { configs := configs
    nodes := m.nodes.filter fun id _ => kept.mem id || !m.voters.mem id }

def memberOf? : Name → Option UInt64
  | .plain name =>
    if name = "0" then some 0
    else if name.startsWith "0" || name.startsWith "+" then none
    else (Text.readUInt64 name).toOption
  | .escaped _ | .unreadable => none

def decodeNode : Value → Except Fault String :=
  decodeRecord "BasicNode" [field String "addr"] fun ms => ms.get "addr"

def decodeNodes : Value → Except Fault (SortedMap UInt64 String)
  | .object members => do
    let entries ← members.mapM fun (name, v) => do
      match memberOf? name with
      | some id => return (id, ← decodeNode v)
      | none => .error (.misfit none)
    return .ofList entries
  | v => wrongType v "a map"

instance : Codec Membership where
  encode m := .object [("configs", encode m.configs),
    ("nodes", .object (m.nodes.toList.map fun (id, addr) =>
      (.plain (toString id), .object [("addr", .text addr)])))]
  decode := decodeRecord "Membership"
    [field (List (SortedSet UInt64)) "configs", fieldBy decodeNodes "nodes"] fun ms => do
    return { configs := ← ms.get "configs", nodes := ← ms.getBy "nodes" decodeNodes none }

end Membership

structure StoredMembership where
  logId : Option LogId := none
  membership : Membership := {}
  deriving DecidableEq, Repr, Inhabited

instance : Codec StoredMembership where
  encode m := .object [("log_id", encode m.logId), ("membership", encode m.membership)]
  decode := decodeRecord "StoredMembership"
    [field (Option LogId) "log_id", field Membership "membership"] fun ms => do
    return { logId := ← ms.get "log_id", membership := ← ms.get "membership" }

end SeriesCluster
