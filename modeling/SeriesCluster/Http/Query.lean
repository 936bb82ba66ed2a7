import SeriesCluster.Text.Bytes
import SeriesCluster.Text.Integer

namespace SeriesCluster.Http

/-- The bytes that a part of a query stands for. A percent sign without two digits is itself. -/
def formBytes : List Char → List UInt8
  | [] => []
  | '%' :: a :: b :: rest =>
    match Text.hexByte? a b with
    | some byte => byte :: formBytes rest
    | none => '%'.toUInt8 :: formBytes (a :: b :: rest)
  | '+' :: rest => ' '.toUInt8 :: formBytes rest
  | c :: rest => Text.utf8 (String.singleton c) ++ formBytes rest

def formText (cs : List Char) : String :=
  (Text.ofUtf8? (formBytes cs)).getD "\ufffd"

def valuesOf (name query : String) : List String :=
  ((query.splitOn "&").filter (!·.isEmpty)).filterMap fun part =>
    let cs := part.toList
    if formText (cs.takeWhile (· != '=')) = name then
      some (formText ((cs.dropWhile (· != '=')).drop 1))
    else none

def readNumber (name query : String) : Except Unit (Option UInt64) :=
  match valuesOf name query with
  | [] => .ok none
  | [text] =>
    match Text.readUInt64 text with
    | .ok n => .ok (some n)
    | .error _ => .error ()
  | _ => .error ()

end SeriesCluster.Http
