import SeriesCluster.Json.Reader
import SeriesCluster.Json.Writer
import SeriesCluster.SortedMap
import SeriesCluster.Text.Quoted

namespace SeriesCluster.Json

/-- How a type is written as JSON and read back. `absent` is the value of a record's field that is
not there, if it may be missing. -/
class Codec (α : Type) where
  encode : α → Value
  decode : Value → Except Fault α
  absent : Option α := none

export Codec (encode decode)

def Value.described : Value → String
  | .null => "null"
  | .bool b => if b then "boolean `true`" else "boolean `false`"
  | .int i => "integer `" ++ toString i ++ "`"
  | .float x => "floating point `" ++ String.ofList x.write ++ "`"
  | .text s => "string " ++ Text.quoted s
  | .array _ => "sequence"
  | .object _ => "map"
  | .unreadable | .cut => "unreadable text"

def misfit {α : Type} (reason : String) : Except Fault α := .error (.misfit (some reason))

def wrongType {α : Type} (v : Value) (expected : String) : Except Fault α :=
  match v with
  | .unreadable | .cut => .error .malformed
  | v => misfit ("invalid type: " ++ v.described ++ ", expected " ++ expected)

def outOfRange {α : Type} (i : Int) (expected : String) : Except Fault α :=
  misfit ("invalid value: integer `" ++ toString i ++ "`, expected " ++ expected)

def invalidLength {α : Type} (n : Nat) (expected : String) : Except Fault α :=
  misfit ("invalid length " ++ toString n ++ ", expected " ++ expected)

def Name.read (name : Name) : Except Fault String :=
  match name.text? with
  | some text => .ok text
  | none => .error .malformed

def Value.ignore (v : Value) : Except Fault Unit :=
  if v.isWhole then .ok () else .error .malformed

def missingField {α : Type} (name : String) : Except Fault α :=
  misfit ("missing field `" ++ name ++ "`")

def duplicateField {α : Type} (name : String) : Except Fault α :=
  misfit ("duplicate field `" ++ name ++ "`")

def decodeNat (limit : Nat) (expected : String) : Value → Except Fault Nat
  | .int i => if 0 ≤ i ∧ i ≤ limit then .ok i.toNat else outOfRange i expected
  | v => wrongType v expected

instance : Codec Bool where
  encode := .bool
  decode
    | .bool b => .ok b
    | v => wrongType v "a boolean"

instance : Codec String where
  encode := .text
  decode
    | .text s => .ok s
    | v => wrongType v "a string"

instance : Codec UInt8 where
  encode n := .int n.toNat
  decode v := (decodeNat 255 "u8" v).map UInt8.ofNat

instance : Codec UInt64 where
  encode n := .int n.toNat
  decode v := (decodeNat (UInt64.size - 1) "u64" v).map UInt64.ofNat

instance : Codec Int64 where
  encode i := .int i.toInt
  decode
    | .int i =>
      if Int64.minValue.toInt ≤ i ∧ i ≤ Int64.maxValue.toInt then .ok (Int64.ofInt i)
      else outOfRange i "i64"
    | v => wrongType v "i64"

instance : Codec Binary64 where
  encode := .float
  decode
    | .float x => .ok x
    | .int i => .ok (.ofInt i)
    | v => wrongType v "f64"

instance {α : Type} [Codec α] : Codec (Option α) where
  encode
    | none => .null
    | some a => encode a
  decode
    | .null => .ok none
    | v => (decode v).map some
  absent := some none

instance {α : Type} [Codec α] : Codec (List α) where
  encode as := .array (as.map encode)
  decode
    | .array vs => vs.mapM decode
    | v => wrongType v "a sequence"

instance {α : Type} [Codec α] : Codec (SortedMap String α) where
  encode m := .object (m.toList.map fun (name, a) => (.plain name, encode a))
  decode
    | .object members => do
      let entries ← members.mapM fun (name, v) => do return (← name.read, ← decode v)
      return .ofList entries
    | v => wrongType v "a map"

instance {κ : Type} [Ord κ] [Std.TransOrd κ] [Codec κ] : Codec (SortedSet κ) where
  encode s := .array (s.elements.map encode)
  decode
    | .array vs => do return .ofList (← vs.mapM decode)
    | v => wrongType v "a sequence"

structure Field where
  name : String
  check : Value → Except Fault Unit

def fieldBy {α : Type} (read : Value → Except Fault α) (name : String) : Field :=
  ⟨name, fun v => (read v).map fun _ => ()⟩

def field (α : Type) [Codec α] (name : String) : Field :=
  fieldBy (decode : Value → Except Fault α) name

inductive Unknown
  | ignored
  | refused
  deriving DecidableEq, Repr

def fieldNames (fields : List Field) : String :=
  match fields with
  | [a] => "`" ++ a.name ++ "`"
  | [a, b] => "`" ++ a.name ++ "` or `" ++ b.name ++ "`"
  | fields => "one of " ++ ", ".intercalate (fields.map fun f => "`" ++ f.name ++ "`")

def checkMembers (fields : List Field) (unknown : Unknown) :
    List String → List (Name × Value) → Except Fault Unit
  | _, [] => .ok ()
  | seen, (name, v) :: rest => do
    let name ← name.read
    match fields.find? (·.name == name) with
    | none =>
      match unknown with
      | .ignored =>
        v.ignore
        checkMembers fields unknown seen rest
      | .refused =>
        misfit ("unknown field `" ++ name ++ "`, expected " ++ fieldNames fields)
    | some f =>
      if seen.contains name then duplicateField name
      f.check v
      checkMembers fields unknown (name :: seen) rest

def checkElements (expected : String) :
    Nat → List Field → List Value → Except Fault Unit
  | _, [], [] => .ok ()
  | n, [], rest =>
    .error <| .surplus <| "invalid length " ++ toString (n + rest.length) ++ ", expected " ++
      toString n ++ if n = 1 then " element in sequence" else " elements in sequence"
  | n, _ :: _, [] => invalidLength n expected
  | n, f :: fields, v :: rest => do
    f.check v
    checkElements expected (n + 1) fields rest

structure Members where
  toList : List (Name × Value)

def Members.getBy {α : Type} (ms : Members) (name : String) (read : Value → Except Fault α)
    (absent : Option α) : Except Fault α :=
  match ms.toList.find? (·.1.text? == some name) with
  | some (_, v) => read v
  | none =>
    match absent with
    | some a => .ok a
    | none => missingField name

def Members.get {α : Type} [Codec α] (ms : Members) (name : String) : Except Fault α :=
  ms.getBy name decode Codec.absent

def countedFields (expected : String) (n : Nat) : String :=
  expected ++ " with " ++ toString n ++ if n = 1 then " element" else " elements"

def checkRecord (expected : String) (ofLength : String) (fields : List Field) (unknown : Unknown)
    (v : Value) : Except Fault Members :=
  match v with
  | .object members => do
    checkMembers fields unknown [] members
    return ⟨members⟩
  | .array elements => do
    checkElements ofLength 0 fields elements
    return ⟨(fields.map fun f => .plain f.name).zip elements⟩
  | v => wrongType v expected

def decodeRecord {α : Type} (name : String) (fields : List Field)
    (build : Members → Except Fault α) (v : Value) : Except Fault α := do
  build (← checkRecord ("struct " ++ name) (countedFields ("struct " ++ name) fields.length)
    fields .ignored v)

def decodeVariant {α : Type} (alone : String → Except Fault α)
    (content : String → Value → Except Fault α) : Value → Except Fault α
  | .text name => alone name
  | .object ((name, v) :: rest) => do
    let a ← content (← name.read) v
    if rest.isEmpty then pure a else throw .malformed
  | _ => .error .malformed

def decodeName {α : Type} (names : List (String × α)) : Value → Except Fault α :=
  decodeVariant pick fun name v => do
    let a ← pick name
    match v with
    | .null => pure a
    | v => wrongType v "unit"
where
  pick (name : String) : Except Fault α :=
    match names.find? (·.1 == name) with
    | some (_, a) => .ok a
    | none => misfit ("unknown variant `" ++ name ++ "`")

/-- Reads a type as a reader that reports places does: without reasons. -/
def decodeLocated {α : Type} (decode : Value → Except Fault α) (v : Value) : Except Fault α :=
  (decode v).mapError Fault.located

def ofBytes (α : Type) [Codec α] (bytes : List UInt8) : Except Fault α :=
  decodeBytes (decodeLocated decode) bytes

def toBytes {α : Type} [Codec α] (a : α) : List UInt8 :=
  Text.utf8 (encode a).compact

end SeriesCluster.Json
