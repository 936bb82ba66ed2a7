import SeriesCluster.Json.Value
import SeriesCluster.Text.Bytes

namespace SeriesCluster.Json

def isSpace (c : Char) : Bool := c == ' ' || c == '\n' || c == '\t' || c == '\r'

def skipSpace (cs : List Char) : List Char := cs.dropWhile isSpace

inductive TextUnit
  | char (c : Char)
  | code (n : Nat)
  deriving DecidableEq, Repr

def hexCode? (a b c d : Char) : Option Nat := do
  let high ← Text.hexByte? a b
  let low ← Text.hexByte? c d
  some (high.toNat * 256 + low.toNat)

def escaped? : Char → Option Char
  | '"' => some '"'
  | '\\' => some '\\'
  | '/' => some '/'
  | 'b' => some '\x08'
  | 'f' => some '\x0c'
  | 'n' => some '\n'
  | 'r' => some '\r'
  | 't' => some '\t'
  | _ => none

def stringUnits : List Char → Option (List TextUnit × List Char)
  | [] => none
  | '"' :: rest => some ([], rest)
  | '\\' :: 'u' :: a :: b :: c :: d :: rest => do
    let code ← hexCode? a b c d
    let (units, rest) ← stringUnits rest
    some (.code code :: units, rest)
  | '\\' :: c :: rest => do
    let c ← escaped? c
    let (units, rest) ← stringUnits rest
    some (.char c :: units, rest)
  | c :: rest =>
    if c.toNat < 0x20 then none
    else do
      let (units, rest) ← stringUnits rest
      some (.char c :: units, rest)

def isHighSurrogate (n : Nat) : Bool := 0xd800 ≤ n && n < 0xdc00
def isLowSurrogate (n : Nat) : Bool := 0xdc00 ≤ n && n < 0xe000

/-- The bytes of a string's units: two escapes that form a surrogate pair are one character, and a
half of a pair alone is none. -/
def unitBytes? : List TextUnit → Option (List UInt8)
  | [] => some []
  | .char c :: rest => (unitBytes? rest).map (c.toUInt8 :: ·)
  | .code n :: .code m :: rest =>
    if isHighSurrogate n then
      if isLowSurrogate m then
        let c := Char.ofNat (0x10000 + (n - 0xd800) * 0x400 + (m - 0xdc00))
        (unitBytes? rest).map (Text.utf8 c.toString ++ ·)
      else none
    else if isLowSurrogate n then none
    else (unitBytes? (.code m :: rest)).map (Text.utf8 (Char.ofNat n).toString ++ ·)
  | .code n :: rest =>
    if isHighSurrogate n || isLowSurrogate n then none
    else (unitBytes? rest).map (Text.utf8 (Char.ofNat n).toString ++ ·)

def TextUnit.isAscii : TextUnit → Bool
  | .char c => c.toNat < 0x80
  | .code _ => false

def joinUnits (units : List TextUnit) : Option String :=
  if units.all TextUnit.isAscii then
    some <| String.ofList <| units.filterMap fun
      | .char c => some c
      | .code _ => none
  else (unitBytes? units).bind Text.ofUtf8?

def digitValue (c : Char) : Nat := c.toNat - '0'.toNat

/-- Appends digits to an integer as long as it stays within 64 bits, and counts the digits that
are left once one does not fit. -/
def appendDigits : Nat → List Char → Nat × Nat
  | n, [] => (n, 0)
  | n, c :: rest =>
    if 10 * n + digitValue c < UInt64.size then appendDigits (10 * n + digitValue c) rest
    else (n, rest.length + 1)

/-- `n · 10 ^ exponent` in double arithmetic: `n` is rounded first, then scaled by powers of ten of
at most 308, each scaling rounded; `none` when it is not finite. -/
def scaleByTen (fuel : Nat) (x : Binary64) (exponent : Int) : Option Binary64 :=
  if exponent.natAbs ≤ 308 then
    if 0 ≤ exponent then
      let y := x.mul (.powerOfTen exponent.natAbs)
      if y.isFinite then some y else none
    else some (x.div (.powerOfTen exponent.natAbs))
  else if x.isZero then some x
  else if 0 ≤ exponent then none
  else match fuel with
    | 0 => some ⟨0⟩
    | fuel + 1 => scaleByTen fuel (x.div (.powerOfTen 308)) (exponent + 308)

def decimalValue (negative : Bool) (whole fraction : List Char) (exponent : Int) : Value :=
  let (kept, dropped) := appendDigits 0 whole
  let (kept, ignored) := appendDigits kept fraction
  let shift : Int := dropped - (fraction.length - ignored : Nat)
  match scaleByTen 4 (.ofNat kept) (exponent + shift) with
  | some x => .float (if negative then x.neg else x)
  | none => .unreadable

def integerValue (negative : Bool) (whole : List Char) : Value :=
  let n := whole.foldl (fun n c => 10 * n + digitValue c) 0
  if negative then
    if 0 < n ∧ n ≤ Int64.minValue.toInt.natAbs then .int (-n) else decimalValue true whole [] 0
  else if n < UInt64.size then .int n else decimalValue false whole [] 0

def exponentPart : List Char → Option (Int × List Char)
  | '-' :: rest => digits (fun n => -n) rest
  | '+' :: rest => digits id rest
  | rest => digits id rest
where
  digits (sign : Int → Int) (cs : List Char) : Option (Int × List Char) :=
    let ds := cs.takeWhile Char.isDigit
    if ds.isEmpty then none
    else
      some (sign (ds.foldl (fun n c => 10 * n + digitValue c) 0 : Nat), cs.dropWhile Char.isDigit)

def unsignedNumber (negative : Bool) (cs : List Char) : Option (Value × List Char) :=
  let whole := cs.takeWhile Char.isDigit
  let rest := cs.dropWhile Char.isDigit
  if whole.isEmpty || (whole.length > 1 && whole.head? == some '0') then none
  else
    match rest with
    | '.' :: rest =>
      let fraction := rest.takeWhile Char.isDigit
      if fraction.isEmpty then none
      else afterFraction whole fraction (rest.dropWhile Char.isDigit)
    | 'e' :: rest | 'E' :: rest =>
      (exponentPart rest).map fun (e, rest) => (decimalValue negative whole [] e, rest)
    | rest => some (integerValue negative whole, rest)
where
  afterFraction (whole fraction : List Char) : List Char → Option (Value × List Char)
    | 'e' :: rest | 'E' :: rest =>
      (exponentPart rest).map fun (e, rest) => (decimalValue negative whole fraction e, rest)
    | rest => some (decimalValue negative whole fraction 0, rest)

def nestingLimit : Nat := 127

/-- What has been read of a text, and the text after it unless it stopped being JSON. -/
abbrev Read (α : Type) := α × Option (List Char)

def orCut : Option (Value × List Char) → Read Value
  | some (v, rest) => (v, some rest)
  | none => (.cut, none)

def readName? (cs : List Char) : Option (Name × List Char) := do
  let (units, rest) ← stringUnits cs
  let name := match joinUnits units with
    | some text =>
      -- The first escape has no more units before it than characters.
      if (cs.take units.length).contains '\\' then .escaped text else .plain text
    | none => .unreadable
  some (name, rest)

def container (room : Nat) (v : Value) (rest : Option (List Char)) : Read Value :=
  (if room = 0 then (if rest.isSome then .unreadable else .cut) else v, rest)

mutual

/-- Reads the value at the front of a text, blanks before it included. `room` counts the containers
that may still be opened; a container beyond them is read, but is unreadable as a value. -/
def readValue (fuel room : Nat) (cs : List Char) : Read Value :=
  match fuel with
  | 0 => (.cut, none)
  | fuel + 1 =>
    match skipSpace cs with
    | 'n' :: 'u' :: 'l' :: 'l' :: rest => (.null, some rest)
    | 't' :: 'r' :: 'u' :: 'e' :: rest => (.bool true, some rest)
    | 'f' :: 'a' :: 'l' :: 's' :: 'e' :: rest => (.bool false, some rest)
    | '"' :: rest => orCut <| (stringUnits rest).map fun (units, rest) =>
      (((joinUnits units).map Value.text).getD .unreadable, rest)
    | '-' :: rest => orCut (unsignedNumber true rest)
    | '[' :: rest =>
      match skipSpace rest with
      | ']' :: rest => container room (.array []) (some rest)
      | rest =>
        let (vs, rest) := readElements fuel (room - 1) rest
        container room (.array vs) rest
    | '\x7b' :: rest =>
      match skipSpace rest with
      | '\x7d' :: rest => container room (.object []) (some rest)
      | rest =>
        let (ms, rest) := readMembers fuel (room - 1) rest
        container room (.object ms) rest
    | rest => orCut (unsignedNumber false rest)

def readElements (fuel room : Nat) (cs : List Char) : Read (List Value) :=
  match fuel with
  | 0 => ([.cut], none)
  | fuel + 1 =>
    match readValue fuel room cs with
    | (v, none) => ([v], none)
    | (v, some rest) =>
      match skipSpace rest with
      | ',' :: rest =>
        let (vs, rest) := readElements fuel room rest
        (v :: vs, rest)
      | ']' :: rest => ([v], some rest)
      | _ => ([v, .cut], none)

def readMembers (fuel room : Nat) (cs : List Char) : Read (List (Name × Value)) :=
  match fuel with
  | 0 => ([(.unreadable, .cut)], none)
  | fuel + 1 =>
    match skipSpace cs with
    | '"' :: rest =>
      match readName? rest with
      | none => ([(.unreadable, .cut)], none)
      | some (name, rest) =>
        match skipSpace rest with
        | ':' :: rest =>
          match readValue fuel room rest with
          | (v, none) => ([(name, v)], none)
          | (v, some rest) =>
            match skipSpace rest with
            | ',' :: rest =>
              let (ms, rest) := readMembers fuel room rest
              ((name, v) :: ms, rest)
            | '\x7d' :: rest => ([(name, v)], some rest)
            | _ => ([(name, v), (.unreadable, .cut)], none)
        | _ => ([(name, .cut)], none)
    | _ => ([(.unreadable, .cut)], none)

end

def readFront (cs : List Char) : Read Value := readValue (cs.length + 1) nestingLimit cs

def byteChars (bytes : List UInt8) : List Char := bytes.map fun b => Char.ofNat b.toNat

/-- Decodes the value at the front of bytes, whatever follows it. A misfit is found before the text
after it is looked at. -/
def decodeFront {α : Type} (decode : Value → Except Fault α) (bytes : List UInt8) :
    Except Fault α :=
  decode (readFront (byteChars bytes)).1

def decodeBytes {α : Type} (decode : Value → Except Fault α) (bytes : List UInt8) :
    Except Fault α := do
  let (v, rest) := readFront (byteChars bytes)
  let a ← decode v
  if rest.any fun rest => (skipSpace rest).isEmpty then pure a else throw .malformed

def decodeText {α : Type} (decode : Value → Except Fault α) (s : String) : Except Fault α :=
  decodeBytes decode (Text.utf8 s)

def Value.ofText? (s : String) : Option Value := (decodeText .ok s).toOption

end SeriesCluster.Json
