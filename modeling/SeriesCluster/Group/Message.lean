import SeriesCluster.Json.Codec

namespace SeriesCluster

open Json

structure JoinRequest where
  host : String
  tcpHost : String
  raftId : UInt64
  deriving DecidableEq, Repr

instance : Codec JoinRequest where
  encode r := .object [("host", encode r.host), ("tcp_host", encode r.tcpHost),
    ("raft_id", encode r.raftId)]
  decode := decodeRecord "JoinRequest"
    [field String "host", field String "tcp_host", field UInt64 "raft_id"] fun ms => do
    return {
      host := ← ms.get "host"
      tcpHost := ← ms.get "tcp_host"
      raftId := ← ms.get "raft_id" }

structure RemoveRequest where
  host : String
  deriving DecidableEq, Repr

instance : Codec RemoveRequest where
  encode r := .object [("host", encode r.host)]
  decode := decodeRecord "RemoveRequest" [field String "host"] fun ms => do
    return { host := ← ms.get "host" }

structure MemberStatus where
  nodeId : Option UInt64
  raftId : UInt64
  httpAddress : String
  tcpAddress : String
  leader : String
  isLeader : Bool
  peers : List String
  index : UInt64
  deriving DecidableEq, Repr

instance : Codec MemberStatus where
  encode s := .object [("node_id", encode s.nodeId), ("raft_id", encode s.raftId),
    ("http_addr", encode s.httpAddress), ("tcp_addr", encode s.tcpAddress),
    ("leader", encode s.leader), ("is_leader", encode s.isLeader), ("peers", encode s.peers),
    ("index", encode s.index)]
  decode := decodeRecord "StatusResponse"
    [field (Option UInt64) "node_id", field UInt64 "raft_id", field String "http_addr",
      field String "tcp_addr", field String "leader", field Bool "is_leader",
      field (List String) "peers", field UInt64 "index"] fun ms => do
    return {
      nodeId := ← ms.get "node_id"
      raftId := ← ms.get "raft_id"
      httpAddress := ← ms.get "http_addr"
      tcpAddress := ← ms.get "tcp_addr"
      leader := ← ms.get "leader"
      isLeader := ← ms.get "is_leader"
      peers := ← ms.get "peers"
      index := ← ms.get "index" }

structure ExecuteResponse where
  index : UInt64
  deriving DecidableEq, Repr

instance : Codec ExecuteResponse where
  encode r := .object [("index", encode r.index)]
  decode := decodeRecord "ExecuteResponse" [field UInt64 "index"] fun ms => do
    return { index := ← ms.get "index" }

end SeriesCluster
