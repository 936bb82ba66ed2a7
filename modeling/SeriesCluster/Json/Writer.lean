import SeriesCluster.Json.Value
import SeriesCluster.Binary64.Shortest
import SeriesCluster.Text.Bytes

namespace SeriesCluster.Json

def escapeChar (c : Char) : List Char :=
  match c with
  | '"' => ['\\', '"']
  | '\\' => ['\\', '\\']
  | '\x08' => ['\\', 'b']
  | '\x0c' => ['\\', 'f']
  | '\n' => ['\\', 'n']
  | '\r' => ['\\', 'r']
  | '\t' => ['\\', 't']
  | c =>
    if c.toNat < 0x20 then
      '\\' :: 'u' :: '0' :: '0' :: Text.hexDigits c.toUInt8
    else [c]

def writeString (s : String) : List Char := '"' :: s.toList.flatMap escapeChar ++ ['"']

def writeName (name : Name) : List Char := writeString (name.text?.getD "")

def writeInt (i : Int) : List Char :=
  if i < 0 then '-' :: Nat.toDigits 10 i.natAbs else Nat.toDigits 10 i.natAbs

mutual

/-- The compact text of a value. A number that is not finite has no text but `null`. -/
def writeValue : Value → List Char
  | .null | .unreadable | .cut => ['n', 'u', 'l', 'l']
  | .bool true => ['t', 'r', 'u', 'e']
  | .bool false => ['f', 'a', 'l', 's', 'e']
  | .int i => writeInt i
  | .float x => if x.isFinite then x.write else ['n', 'u', 'l', 'l']
  | .text s => writeString s
  | .array [] => ['[', ']']
  | .array (v :: vs) => '[' :: writeValue v ++ writeElements vs ++ [']']
  | .object [] => ['\x7b', '\x7d']
  | .object ((name, v) :: ms) =>
    '\x7b' :: writeName name ++ ':' :: writeValue v ++ writeMembers ms ++ ['\x7d']

def writeElements : List Value → List Char
  | [] => []
  | v :: vs => ',' :: writeValue v ++ writeElements vs

def writeMembers : List (Name × Value) → List Char
  | [] => []
  | (name, v) :: ms => ',' :: writeName name ++ ':' :: writeValue v ++ writeMembers ms

end

def Value.compact (v : Value) : String := String.ofList (writeValue v)

def Value.indented (v : Value) : String :=
  match v with
  | .object (m :: ms) =>
    let line (m : Name × Value) : String :=
      "  " ++ String.ofList (writeName m.1) ++ ": " ++ m.2.compact
    "\x7b\n" ++ ",\n".intercalate ((m :: ms).map line) ++ "\n\x7d"
  | v => v.compact

end SeriesCluster.Json
