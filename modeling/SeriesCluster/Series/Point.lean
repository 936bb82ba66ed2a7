import SeriesCluster.Series.DataType

namespace SeriesCluster

inductive FieldValue
  | float (x : Binary64)
  | integer (i : Int64)
  | unsigned (n : UInt64)
  | string (s : String)
  | boolean (b : Bool)
  deriving DecidableEq, Repr

namespace FieldValue

def dataType : FieldValue → DataType
  | float _ => .float
  | integer _ => .integer
  | unsigned _ => .unsigned
  | string _ => .string
  | boolean _ => .boolean

open Json

/-- A value is an object with one member, named by its type. A type's name alone is a fault that
does not depend on a place in the text. -/
def decodeValue : Value → Except Fault FieldValue :=
  decodeVariant
    (fun name =>
      if ["Float", "Integer", "Unsigned", "String", "Boolean"].contains name then
        misfit "invalid type: unit variant, expected newtype variant"
      else .error (.misfit none))
    fun name v => Except.mapError Fault.located <|
      match name with
      | "Float" => (decode v).map float
      | "Integer" => (decode v).map integer
      | "Unsigned" => (decode v).map unsigned
      | "String" => (decode v).map string
      | "Boolean" => (decode v).map boolean
      | _ => .error (.misfit none)

instance : Codec FieldValue where
  encode
    | float x => .object [("Float", encode x)]
    | integer i => .object [("Integer", encode i)]
    | unsigned n => .object [("Unsigned", encode n)]
    | string s => .object [("String", encode s)]
    | boolean b => .object [("Boolean", encode b)]
  decode := decodeValue

end FieldValue

structure Point where
  name : String
  tags : SortedMap String String := ∅
  fields : SortedMap String FieldValue := ∅
  time : Int64
  deriving DecidableEq, Repr

namespace Point

/-- The name of a measurement and tags as one text; points with one key form one series. -/
def keyOf (name : String) (tags : SortedMap String String) : String :=
  tags.toList.foldl (fun key e => key ++ "," ++ e.1 ++ "=" ++ e.2) name

def seriesKey (p : Point) : String := keyOf p.name p.tags

open Json in
instance : Codec Point where
  encode p := .object [("name", encode p.name), ("tags", encode p.tags),
    ("fields", encode p.fields), ("time", encode p.time)]
  decode := decodeRecord "Point"
    [field String "name", field (SortedMap String String) "tags",
      field (SortedMap String FieldValue) "fields", field Int64 "time"] fun ms => do
    return {
      name := ← ms.get "name"
      tags := ← ms.get "tags"
      fields := ← ms.get "fields"
      time := ← ms.get "time" }

end Point

end SeriesCluster
