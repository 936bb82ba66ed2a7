namespace SeriesCluster

structure MediaType where
  type : String
  subtype : String
  format : Option String := none
  deriving DecidableEq, Repr

namespace MediaType

def isTokenChar (c : Char) : Bool := c.isAlphanum || "!#$%&'*+-.^_`|~".toList.contains c

def isQuotedChar (c : Char) : Bool := 0x20 ≤ c.toNat && c.toNat < 0x7f

inductive ParameterPlace
  | beforeName
  | inName
  | beforeValue
  | inValue
  | beforeQuoted
  | inQuoted
  | afterQuoted
  deriving DecidableEq, Repr

namespace ParameterPlace

/-- The place after a character, if it may stand there. A quoted value has at least one character,
and the first one is part of it even if it is a quote. -/
def next? (place : ParameterPlace) (c : Char) : Option ParameterPlace :=
  let token (place : ParameterPlace) := if isTokenChar c then some place else none
  match place with
  | beforeName => if c == ' ' then some beforeName else token inName
  | inName => if c == '=' then some beforeValue else token inName
  | beforeValue => if c == '"' then some beforeQuoted else token inValue
  | inValue => if c == ';' then some beforeName else token inValue
  | beforeQuoted => if isQuotedChar c then some inQuoted else none
  | inQuoted =>
    if c == '"' then some afterQuoted else if isQuotedChar c then some inQuoted else none
  | afterQuoted =>
    if c == ';' then some beforeName else if c == ' ' then some afterQuoted else none

def mayEnd : ParameterPlace → Bool
  | beforeName | beforeValue | inValue | afterQuoted => true
  | inName | beforeQuoted | inQuoted => false

end ParameterPlace

def areParameters (cs : List Char) : Bool :=
  (cs.foldlM ParameterPlace.next? .beforeName).any ParameterPlace.mayEnd

/-- A subtype and the format it is built on. A plus sign at its start is part of it. -/
def splitFormat (subtype : List Char) : List Char × Option (List Char) :=
  let format := subtype.reverse.takeWhile (· ≠ '+')
  let before := (subtype.reverse.drop (format.length + 1)).reverse
  if before.isEmpty then (subtype, none) else (before, some format.reverse)

def ofText? (s : String) : Option MediaType :=
  let lower (cs : List Char) := String.ofList (cs.map Char.toLower)
  let type := s.toList.takeWhile (· ≠ '/')
  match s.toList.dropWhile (· ≠ '/') with
  | [] => none
  | _ :: rest =>
    let name := rest.takeWhile (· ≠ ';')
    let parameters := rest.dropWhile (· ≠ ';')
    let wellFormed :=
      !type.isEmpty && type.all isTokenChar && name.all isTokenChar &&
        (parameters.isEmpty || (!name.isEmpty && areParameters (parameters.drop 1)))
    if wellFormed then
      let (subtype, format) := splitFormat name
      some { type := lower type, subtype := lower subtype, format := format.map lower }
    else none

def isJson (m : MediaType) : Bool :=
  m.type == "application" && (m.subtype == "json" || m.format == some "json")

end MediaType

end SeriesCluster
