import SeriesCluster.Net.Frame
import SeriesCluster.Series.Query

namespace SeriesCluster

open Json

/-- The services that share an address, by the first byte of a connection. -/
structure MuxHeader where
  byte : UInt8
  deriving DecidableEq, Repr

namespace MuxHeader

def cluster : MuxHeader := ⟨2⟩
def consensus : MuxHeader := ⟨8⟩

end MuxHeader

namespace FrameType

def writeRequest : UInt8 := 1
def writeResponse : UInt8 := 2
def readRequest : UInt8 := 5
def readResponse : UInt8 := 6
def dimensionsRequest : UInt8 := 7
def dimensionsResponse : UInt8 := 8
def point : UInt8 := 9
def readEnd : UInt8 := 10

end FrameType

structure WriteRequest where
  shardId : UInt64
  points : List Point
  deriving DecidableEq, Repr

instance : Codec WriteRequest where
  encode r := .object [("shard_id", encode r.shardId), ("points", encode r.points)]
  decode := decodeRecord "WriteShardRequest" [field UInt64 "shard_id", field (List Point) "points"]
    fun ms => do return { shardId := ← ms.get "shard_id", points := ← ms.get "points" }

structure WriteResponse where
  code : UInt8
  message : String
  deriving DecidableEq, Repr

namespace WriteResponse

def stored : WriteResponse := ⟨0, ""⟩
def failed (reason : String) : WriteResponse := ⟨1, reason⟩

instance : Codec WriteResponse where
  encode r := .object [("code", encode r.code), ("message", encode r.message)]
  decode := decodeRecord "WriteShardResponse" [field UInt8 "code", field String "message"]
    fun ms => do
      return { code := ← ms.get "code", message := ← ms.getBy "message" decode (some "") }

end WriteResponse

structure ReadRequest where
  shardIds : List UInt64
  measurement : Measurement
  options : ReadOptions
  deriving DecidableEq, Repr

instance : Codec ReadRequest where
  encode r := .object [("shard_ids", encode r.shardIds), ("measurement", encode r.measurement),
    ("options", encode r.options)]
  decode := decodeRecord "CreateIteratorRequest"
    [field (List UInt64) "shard_ids", field Measurement "measurement",
      field ReadOptions "options"] fun ms => do
    return {
      shardIds := ← ms.get "shard_ids"
      measurement := ← ms.get "measurement"
      options := ← ms.get "options" }

structure ReadResponse where
  dataType : DataType
  stats : ReadStats
  error : Option String
  deriving DecidableEq, Repr

instance : Codec ReadResponse where
  encode r := .object [("data_type", encode r.dataType), ("stats", encode r.stats),
    ("error", encode r.error)]
  decode := decodeRecord "CreateIteratorResponse"
    [field DataType "data_type", field ReadStats "stats", field (Option String) "error"]
    fun ms => do
      return {
        dataType := ← ms.get "data_type"
        stats := ← ms.get "stats"
        error := ← ms.get "error" }

structure ReadEnd where
  stats : ReadStats
  error : Option String
  deriving DecidableEq, Repr

instance : Codec ReadEnd where
  encode r := .object [("stats", encode r.stats), ("error", encode r.error)]
  decode := decodeRecord "IteratorEnd" [field ReadStats "stats", field (Option String) "error"]
    fun ms => do return { stats := ← ms.get "stats", error := ← ms.get "error" }

structure DimensionsRequest where
  shardIds : List UInt64
  measurement : Measurement
  deriving DecidableEq, Repr

instance : Codec DimensionsRequest where
  encode r := .object [("shard_ids", encode r.shardIds), ("measurement", encode r.measurement)]
  decode := decodeRecord "FieldDimensionsRequest"
    [field (List UInt64) "shard_ids", field Measurement "measurement"] fun ms => do
    return { shardIds := ← ms.get "shard_ids", measurement := ← ms.get "measurement" }

structure DimensionsResponse where
  dimensions : FieldDimensions
  error : Option String
  deriving DecidableEq, Repr

instance : Codec DimensionsResponse where
  encode r := .object [("field_dimensions", encode r.dimensions), ("error", encode r.error)]
  decode := decodeRecord "FieldDimensionsResponse"
    [field FieldDimensions "field_dimensions", field (Option String) "error"] fun ms => do
    return { dimensions := ← ms.get "field_dimensions", error := ← ms.get "error" }

end SeriesCluster
