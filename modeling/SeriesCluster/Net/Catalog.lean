import SeriesCluster.Consensus.Entry
import SeriesCluster.Group.Identity
import SeriesCluster.Group.Message
import SeriesCluster.Net.Message
import SeriesCluster.Topology.Command

namespace SeriesCluster

open Json

structure WireType where
  name : String
  reframe : UInt8 → List UInt8 → Except Fault Frame

namespace WireType

def located (name : String) (α : Type) [Codec α] : WireType :=
  ⟨name, fun type bytes => (ofBytes α bytes).map (Frame.carrying type)⟩

def reasoned (name : String) (α : Type) [Codec α] : WireType :=
  ⟨name, fun type bytes => (decodeBytes decode bytes : Except Fault α).map (Frame.carrying type)⟩

def all : List WireType := [
  reasoned "Command" Command, reasoned "FieldValue" FieldValue, reasoned "QuerySource" QuerySource,
  located "Point" Point, located "TimeRange" TimeRange, located "DataType" DataType,
  located "Duration" Duration, located "Measurement" Measurement,
  located "IteratorOptions" ReadOptions, located "IteratorStats" ReadStats,
  located "IteratorCost" ReadCost, located "FieldDimensions" FieldDimensions,
  located "WriteShardRequest" WriteRequest, located "WriteShardResponse" WriteResponse,
  located "CreateIteratorRequest" ReadRequest, located "CreateIteratorResponse" ReadResponse,
  located "IteratorEnd" ReadEnd, located "FieldDimensionsRequest" DimensionsRequest,
  located "FieldDimensionsResponse" DimensionsResponse,
  located "RetentionPolicySpec" PolicySpec, located "NodeInfo" NodeInfo,
  located "ShardOwner" ShardOwner, located "ShardInfo" ShardInfo,
  located "ShardGroupInfo" ShardGroup, located "RetentionPolicyInfo" RetentionPolicy,
  located "DatabaseInfo" Database, located "ShardLocation" ShardLocation, located "Data" Topology,
  located "NodeIdentity" Identity, located "JoinRequest" JoinRequest,
  located "RemoveRequest" RemoveRequest, located "StatusResponse" MemberStatus,
  located "ExecuteResponse" ExecuteResponse, located "MetaRequest" Proposal,
  located "MetaResponse" Outcome]

def find? (name : String) : Option WireType := all.find? (·.name == name)

end WireType

end SeriesCluster
