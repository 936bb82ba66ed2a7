import SeriesCluster.Text.Integer

namespace SeriesCluster

inductive IoKind
  | notFound
  | timedOut
  | unexpectedEof
  | networkUnreachable
  | connectionReset
  | isADirectory
  | other (name : String)
  deriving DecidableEq, Repr

namespace IoKind

def name : IoKind → String
  | notFound => "NotFound"
  | timedOut => "TimedOut"
  | unexpectedEof => "UnexpectedEof"
  | networkUnreachable => "NetworkUnreachable"
  | connectionReset => "ConnectionReset"
  | isADirectory => "IsADirectory"
  | other name => name

def ofName : String → IoKind
  | "NotFound" => notFound
  | "TimedOut" => timedOut
  | "UnexpectedEof" => unexpectedEof
  | "NetworkUnreachable" => networkUnreachable
  | "ConnectionReset" => connectionReset
  | "IsADirectory" => isADirectory
  | name => other name

end IoKind

inductive ConfigFault
  | invalidDuration (setting text : String)
  | invalidInteger (setting : String) (fault : IntegerFault)
  | notBoolean (setting text : String)
  | unknownReconcilePolicy (text : String)
  | noRemoteWriteConnections
  | mapperTimesReversed (min max : Int64)
  | heartbeatTooLong
  | unsupportedLogFormat (text : String)
  | invalidLogLevel (text : String)
  | invalidPattern
  | muxHeaderTaken (header : UInt8)
  | reported (text : String)
  deriving DecidableEq, Repr

namespace ConfigFault

def message : ConfigFault → String
  | invalidDuration setting text => setting ++ ": invalid duration '" ++ text ++ "'"
  | invalidInteger setting fault => setting ++ ": " ++ fault.message
  | notBoolean setting text => setting ++ " must be a boolean, got '" ++ text ++ "'"
  | unknownReconcilePolicy text =>
    "unknown reconcile policy '" ++ text ++ "'; expected one of ignore, warn, fail"
  | noRemoteWriteConnections => "max_remote_write_connections must be at least 1"
  | mapperTimesReversed min max =>
    "shard mapper min time " ++ toString min ++ " is after max time " ++ toString max
  | heartbeatTooLong => "heartbeat interval must be shorter than election timeout"
  | unsupportedLogFormat text =>
    "unsupported log format '" ++ text ++ "'; expected json or text"
  | invalidLogLevel text =>
    "invalid log level '" ++ text ++ "'; expected trace, debug, info, warn or error"
  | invalidPattern => "invalid regex"
  | muxHeaderTaken header => "mux header " ++ toString header ++ " already registered"
  | reported text => text

end ConfigFault

inductive Refusal
  | databaseNameRequired
  | policyNameRequired
  | replicationTooSmall
  | noDataNodes
  | noInterval (timestamp : Int64) (span : Nat)
  | shardGroupNotFound (id : UInt64)
  | severalMetaNodes (count : Nat)
  | reported (text : String)
  deriving DecidableEq, Repr

namespace Refusal

def message : Refusal → String
  | databaseNameRequired => "database name required"
  | policyNameRequired => "retention policy name required"
  | replicationTooSmall => "replication factor must be at least 1"
  | noDataNodes => "no data nodes available for shard group"
  | noInterval timestamp span =>
    "timestamp " ++ toString timestamp ++ " has no shard group interval of "
      ++ toString span ++ "ns"
  | shardGroupNotFound id => "shard group not found: " ++ toString id
  | severalMetaNodes count =>
    "cannot set meta node with " ++ toString count ++ " meta nodes in the cluster"
  | reported text => text

end Refusal

def maxFrameLength : Nat := 64 * 1024 * 1024

inductive Error
  | io (kind : IoKind) (detail : String)
  | serialization (reason : Option String)
  | frameTooLong (length : Nat)
  | unexpectedMessage (received : UInt8) (peer : Option String) (expected : UInt8)
  | unexpectedIteratorFrame (received : UInt8) (peer : String)
  | config (fault : ConfigFault)
  | http (detail : String)
  | internal (text : String)
  | shardDisabled (id : UInt64)
  | creatingShard (id : UInt64) (cause : Error)
  | writingShard (id : UInt64) (cause : Error)
  | storeAlreadyOpen
  | notOpen
  | notLeader (leader : Option String)
  | nodeNotFound
  | nodeExists
  | unableToDropNode
  | cannotRemoveLeader
  | timeout
  | closing
  | emptyPeers
  | databaseNotFound (name : String)
  | policyNotFound (name : String)
  | policyConflict (name : String)
  | refused (cause : Refusal)
  | consensus (detail : Option String)
  | shardNotFound (id : UInt64)
  | dial (addr : String) (reason : Option String)
  | ioTimeout (operation : String)
  | remote (text : String)
  | remoteWrite (code : UInt8) (text : String)
  | cancelled
  | poolExhausted
  deriving DecidableEq, Repr

namespace Error

def kind : Error → String
  | io .. => "Io"
  | serialization .. | frameTooLong .. | unexpectedMessage .. | unexpectedIteratorFrame .. =>
    "Serialization"
  | config .. => "Config"
  | http .. => "Http"
  | internal .. | shardDisabled .. | creatingShard .. | writingShard .. => "Internal"
  | storeAlreadyOpen => "StoreAlreadyOpen"
  | notOpen => "NotOpen"
  | notLeader .. => "NotLeader"
  | nodeNotFound => "NodeNotFound"
  | nodeExists => "NodeExists"
  | unableToDropNode => "UnableToDropNode"
  | cannotRemoveLeader => "CannotRemoveLeader"
  | timeout => "Timeout"
  | closing => "Closing"
  | emptyPeers => "EmptyPeers"
  | databaseNotFound .. => "DatabaseNotFound"
  | policyNotFound .. => "RetentionPolicyNotFound"
  | policyConflict .. => "RetentionPolicyConflict"
  | refused .. => "Command"
  | consensus .. => "Consensus"
  | shardNotFound .. => "ShardNotFound"
  | dial .. => "Dial"
  | ioTimeout .. => "IoTimeout"
  | remote .. => "Remote"
  | remoteWrite .. => "RemoteWrite"
  | cancelled => "Cancelled"
  | poolExhausted => "PoolExhausted"

def withDetail (heading : String) : Option String → String
  | none => heading
  | some detail => heading ++ ": " ++ detail

def message : Error → String
  | io _ detail => "IO error: " ++ detail
  | serialization reason => withDetail "Serialization error" reason
  | frameTooLong length =>
    "Serialization error: frame of " ++ toString length ++ " bytes exceeds limit of "
      ++ toString maxFrameLength
  | unexpectedMessage received peer expected =>
    "Serialization error: unexpected message type " ++ toString received
      ++ (match peer with | some peer => " from " ++ peer | none => "")
      ++ " (want " ++ toString expected ++ ")"
  | unexpectedIteratorFrame received peer =>
    "Serialization error: unexpected iterator frame type " ++ toString received ++ " from " ++ peer
  | config fault => "Configuration error: " ++ fault.message
  | http detail => "HTTP error: " ++ detail
  | internal text => "Internal error: " ++ text
  | shardDisabled id => "Internal error: shard " ++ toString id ++ " is disabled"
  | creatingShard id cause =>
    "Internal error: create shard " ++ toString id ++ ": " ++ cause.message
  | writingShard id cause => "Internal error: write shard " ++ toString id ++ ": " ++ cause.message
  | storeAlreadyOpen => "meta store already open"
  | notOpen => "meta store not open"
  | notLeader (some leader) => "node is not the leader; leader is " ++ leader
  | notLeader none => "node is not the leader"
  | nodeNotFound => "node not found"
  | nodeExists => "node already exists"
  | unableToDropNode => "unable to drop node"
  | cannotRemoveLeader => "can't remove leader node"
  | timeout => "timeout waiting for leader"
  | closing => "meta store closing"
  | emptyPeers => "empty peers"
  | databaseNotFound name => "database not found: " ++ name
  | policyNotFound name => "retention policy not found: " ++ name
  | policyConflict name => "retention policy conflicts with an existing policy: " ++ name
  | refused cause => "command rejected: " ++ cause.message
  | consensus detail => withDetail "consensus error" detail
  | shardNotFound id => "shard not found: " ++ toString id
  | dial addr reason => withDetail ("dial " ++ addr) reason
  | ioTimeout operation => "i/o timeout: " ++ operation
  | remote text => "remote error: " ++ text
  | remoteWrite code text => "error code " ++ toString code ++ ": " ++ text
  | cancelled => "operation cancelled"
  | poolExhausted => "timed out waiting for free connection"

def isTimeout : Error → Bool
  | ioTimeout _ => true
  | io .timedOut _ => true
  | _ => false

def hasSource : Error → Bool
  | io .. => true
  | _ => false

def ofIo (kind : IoKind) : Error := io kind kind.name

def ofKind? (name : String) (text : Option String) (id : UInt64) (addr : String) (code : UInt8)
    (io : IoKind) : Option Error :=
  let detail := text.getD ""
  let candidates := [.io io detail, .serialization (some detail), .config (.reported detail),
    .http detail, .internal detail, .storeAlreadyOpen, .notOpen, .notLeader text, .nodeNotFound,
    .nodeExists, .unableToDropNode, .cannotRemoveLeader, .timeout, .closing, .emptyPeers,
    .databaseNotFound detail, .policyNotFound detail, .policyConflict detail,
    .refused (.reported detail), .consensus (some detail), .shardNotFound id,
    .dial addr (some detail), .ioTimeout detail, .remote detail, .remoteWrite code detail,
    .cancelled, .poolExhausted]
  candidates.find? (·.kind == name)

end Error

end SeriesCluster
