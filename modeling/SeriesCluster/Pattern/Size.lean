import SeriesCluster.Pattern.Basic

/-!
The size of the automata over bytes that match a pattern, one that reads forward and one that reads
backward. A pattern is not accepted when one of them takes too much memory.

An automaton has a state for each byte of a literal, for each condition on a place and for the two
ends of each captured part, and states that lead on in several ways for alternatives, repetitions
and classes.
-/

namespace SeriesCluster.Pattern

/-- The most memory that an automaton may take, in bytes. -/
def sizeLimit : Nat := 10 * 1024 * 1024

inductive Direction
  | forward
  | backward
  deriving DecidableEq, Repr

def stateSize : Nat := 32

def splitSize (ways : Nat) : Nat := stateSize + 4 * ways

def rangesSize (ranges : Nat) : Nat := stateSize + 8 * ranges

abbrev ByteRanges := List (Nat × Nat)

/-- The ranges of bytes for the numbers between two, written in six bits for each byte after the
first, to which `lead` is added. Ranges are cut so that each byte varies alone, or all after it
take all values. -/
def cutRanges (lead : Nat) : Nat → Nat → Nat → List ByteRanges
  | 0, low, high => [[(lead + low, lead + high)]]
  | more + 1, low, high =>
    let block (low high lowest highest : Nat) : List ByteRanges :=
      (cutRanges lead more low high).map (· ++ [(0x80 + lowest, 0x80 + highest)])
    if low / 64 = high / 64 then block (low / 64) (high / 64) (low % 64) (high % 64)
    else
      let startsFull := low % 64 = 0
      let endsFull := high % 64 = 63
      let first := if startsFull then [] else block (low / 64) (low / 64) (low % 64) 63
      let last := if endsFull then [] else block (high / 64) (high / 64) 0 (high % 64)
      let low := if startsFull then low / 64 else low / 64 + 1
      let stop := if endsFull then high / 64 + 1 else high / 64
      first ++ (if low < stop then block low (stop - 1) 0 63 else []) ++ last

def byteForms : List (Nat × Nat × Nat × Nat) :=
  [(0, 0x7f, 0, 0), (0x80, 0x7ff, 1, 0xc0), (0x800, 0xd7ff, 2, 0xe0), (0xe000, 0xffff, 2, 0xe0),
    (0x10000, 0x10ffff, 3, 0xf0)]

def byteRanges (s : CodeSet) : List ByteRanges :=
  s.ranges.flatMap fun r => byteForms.flatMap fun (low, high, more, lead) =>
    let low := max low r.1
    let high := min high r.2
    if low ≤ high then cutRanges lead more low high else []

def tails : List ByteRanges → List (List ByteRanges)
  | [] => []
  | [] :: rest => tails rest
  | (r :: more) :: rest =>
    match tails rest, rest with
    | group :: groups, (s :: _) :: _ =>
      if r = s then (more :: group) :: groups else [more] :: group :: groups
    | groups, _ => [more] :: groups

def follows : Nat → List ByteRanges → List (List ByteRanges)
  | 0, _ => []
  | fuel + 1, ranges =>
    if ranges.all List.isEmpty then []
    else ranges :: (tails ranges).flatMap (follows fuel)

def commonLength : ByteRanges → ByteRanges → Nat
  | a :: as, b :: bs => if a = b then commonLength as bs + 1 else 0
  | _, _ => 0

def backwardStates (previous : ByteRanges) : List ByteRanges → Nat
  | [] => 0
  | ranges :: rest =>
    ranges.length - commonLength previous ranges + backwardStates ranges rest

def charBytes (n : Nat) : List Nat :=
  (byteRanges (.range n n)).flatMap fun ranges => ranges.map Prod.fst

def classSize (d : Direction) (s : CodeSet) : Nat :=
  match s.ranges with
  | [] => stateSize
  | [(low, high)] =>
    if low = high then stateSize * (charBytes low).length else manySize
  | _ => manySize
where
  manySize : Nat :=
    if s.isAscii then rangesSize s.ranges.length + stateSize
    else
      let ranges := byteRanges s
      match d with
      | .forward =>
        let states := (follows 4 ranges).eraseDups
        stateSize + (states.map fun state => rangesSize (tails state).length).foldl (· + ·) 0
      | .backward =>
        splitSize ranges.length + stateSize + stateSize * backwardStates [] ranges

def literal? : Pattern → Option (List Nat)
  | .char ⟨[(low, high)]⟩ => if low = high then some (charBytes low) else none
  | .seq p q => do some ((← p.literal?) ++ (← q.literal?))
  | .empty => some []
  | _ => none

def wordsAfter (byte : Nat) (words : List (List Nat)) : List (List Nat) :=
  words.filterMap fun
    | b :: rest => if b = byte then some rest else none
    | [] => none

/-- The memory for words that share their beginnings. A word that ends where another goes on parts
those before it from those after it. -/
def wordsSize : Nat → List (List Nat) → Nat
  | 0, _ => 0
  | fuel + 1, words =>
    if words.all List.isEmpty then 0
    else
      let parts := words.splitOnP List.isEmpty
      let firsts (part : List (List Nat)) := (part.filterMap List.head?).eraseDups
      let used := parts.filter (!·.isEmpty)
      let partSize (part : List (List Nat)) : Nat :=
        let bytes := firsts part
        (if bytes.length = 1 then stateSize else rangesSize bytes.length) +
          (bytes.map fun b => wordsSize fuel (wordsAfter b part)).foldl (· + ·) 0
      splitSize (used.length + (parts.length - 1)) + (used.map partSize).foldl (· + ·) 0

def saysNothing : Pattern → Bool
  | .empty => true
  | .seq p q => p.saysNothing && q.saysNothing
  | .rep _ _ (some 0) => true
  | _ => false

def isZeroWidth : Pattern → Bool
  | .empty | .anchor _ => true
  | .char _ => false
  | .capture p => p.isZeroWidth
  | .seq p q | .alt p q => p.isZeroWidth && q.isZeroWidth
  | .rep p _ greatest => greatest == some 0 || p.isZeroWidth

def consumes : Pattern → Bool
  | .empty | .anchor _ => false
  | .char s => !s.isEmpty
  | .capture p => p.consumes
  | .seq p q => p.consumes || q.consumes
  | .alt p q => p.consumes && q.consumes
  | .rep p least _ => least != 0 && p.consumes

def charSet? : Pattern → Option CodeSet
  | .char s => some s
  | .alt p q => do some ((← p.charSet?).union (← q.charSet?))
  | _ => none

def branches : Pattern → List Pattern
  | .alt p q => p.branches ++ q.branches
  | p => [p]

def repeatSize (size : Nat) (consumes : Bool) (least : Nat) (greatest : Option Nat) : Nat :=
  match least, greatest with
  | 0, some 1 => splitSize 2 + size + stateSize
  | 0, none =>
    if consumes then splitSize 2 + size else size + 2 * splitSize 2 + stateSize
  | n, none => n * size + splitSize 2
  | n, some m =>
    if n = m then n * size
    else (if n = 0 then stateSize else n * size) + stateSize + (m - n) * (splitSize 2 + size)

/-- The memory for alternatives that take as much apart from what leads to them. Single characters
make a class, and words share their beginnings. -/
def alternativesSize (d : Direction) (p : Pattern) (parts : Nat) : Nat :=
  match p.charSet? with
  | some s => classSize d s
  | none =>
    let all := p.branches
    let generic := splitSize all.length + stateSize + parts
    match all.mapM literal? with
    | none => generic
    | some words =>
      if words.any List.isEmpty then generic
      else
        let words := match d with
          | .forward => words
          | .backward => words.map List.reverse
        stateSize + wordsSize (words.flatten.length + 1) words

def sizeAs (d : Direction) (alternative : Bool) : Pattern → Nat
  | .empty => if alternative then stateSize else 0
  | .char s => classSize d s
  | .anchor _ => stateSize
  | .capture p =>
    (if p.saysNothing then stateSize else p.sizeAs d false) +
      (match d with
        | .forward => 2 * stateSize
        | .backward => 0)
  | .seq p q =>
    if alternative && p.saysNothing && q.saysNothing then stateSize
    else p.sizeAs d false + q.sizeAs d false
  | .alt p q =>
    let parts := p.sizeAs d true + q.sizeAs d true
    if alternative then parts else alternativesSize d (.alt p q) parts
  | .rep p least greatest =>
    let part := if p.saysNothing then stateSize else p.sizeAs d false
    if greatest == some 0 then (if alternative then stateSize else 0)
    else if p.isZeroWidth then (if least = 0 then repeatSize part false 0 (some 1) else part)
    else repeatSize part p.consumes least greatest

/-- The memory of the automaton for a pattern, with what leads to each beginning of a match and the
state where a match ends. -/
def size (d : Direction) (p : Pattern) : Nat :=
  let search := splitSize 2 + rangesSize 1 + stateSize
  search + (Pattern.capture p).sizeAs d false + stateSize

def fits (p : Pattern) : Bool := p.size .forward ≤ sizeLimit && p.size .backward ≤ sizeLimit

end SeriesCluster.Pattern
