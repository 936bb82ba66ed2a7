import SeriesCluster.Unicode.Property

/-!
Patterns of text and what they match. A pattern is read as a step from places to places: `reach`
sends the places where a match may begin to those where it may end, so a search asks whether any
place can be reached from any.
-/

namespace SeriesCluster

inductive WordPlace
  | boundary
  | noBoundary
  | start
  | stop
  | noWordBefore
  | noWordAfter
  deriving DecidableEq, Repr

/-- A condition on a place between two characters. With `returns`, lines also end at a carriage
return, or at one with a line feed; with `ascii`, words have ASCII characters only. -/
inductive Anchor
  | textStart
  | textEnd
  | lineStart (returns : Bool)
  | lineEnd (returns : Bool)
  | word (place : WordPlace) (ascii : Bool)
  deriving DecidableEq, Repr

def isAsciiWordChar (c : Char) : Bool := c.isAlphanum || c == '_'

namespace Anchor

def holds (a : Anchor) (before after : Option Char) : Bool :=
  match a with
  | textStart => before.isNone
  | textEnd => after.isNone
  | lineStart false => before.all (· == '\n')
  | lineEnd false => after.all (· == '\n')
  | lineStart true =>
    before.all fun c => c == '\n' || (c == '\r' && after != some '\n')
  | lineEnd true =>
    after.all fun c => c == '\r' || (c == '\n' && before != some '\r')
  | word place ascii =>
    let isPart := if ascii then isAsciiWordChar else isWordChar
    let wordBefore := before.any isPart
    let wordAfter := after.any isPart
    match place with
    | .boundary => wordBefore != wordAfter
    | .noBoundary => wordBefore == wordAfter
    | .start => !wordBefore && wordAfter
    | .stop => wordBefore && !wordAfter
    | .noWordBefore => !wordBefore
    | .noWordAfter => !wordAfter

end Anchor

/-- A pattern. A repetition without a greatest count may go on without end; a captured part is
remembered and matches as it would alone. -/
inductive Pattern
  | empty
  | char (s : CodeSet)
  | anchor (a : Anchor)
  | capture (p : Pattern)
  | seq (p q : Pattern)
  | alt (p q : Pattern)
  | rep (p : Pattern) (least : Nat) (greatest : Option Nat)
  deriving Repr

namespace Pattern

def mergePlaces : List Nat → List Nat → List Nat
  | [], places => places
  | places, [] => places
  | a :: as, b :: bs =>
    if a < b then a :: mergePlaces as (b :: bs)
    else if b < a then b :: mergePlaces (a :: as) bs
    else a :: mergePlaces as bs
termination_by as bs => as.length + bs.length

def newPlaces : List Nat → List Nat → List Nat
  | [], _ => []
  | places, [] => places
  | a :: as, b :: bs =>
    if a < b then a :: newPlaces as (b :: bs)
    else if b < a then newPlaces (a :: as) bs
    else newPlaces as bs
termination_by as bs => as.length + bs.length

def iterate (step : List Nat → List Nat) : Nat → List Nat → List Nat
  | 0, places => places
  | n + 1, places =>
    let next := step places
    if next = places then places else iterate step n next

/-- The places that up to a number of steps reach, where only the newest ones still lead on. -/
def spread (step : List Nat → List Nat) : Nat → List Nat → List Nat → List Nat
  | 0, seen, _ => seen
  | n + 1, seen, newest =>
    match newPlaces (step newest) seen with
    | [] => seen
    | next => spread step n (mergePlaces seen next) next

def reach (text : Array Char) : Pattern → List Nat → List Nat
  | empty, places => places
  | char s, places =>
    (places.filter fun i => (text[i]?).any fun c => s.contains c.toNat).map (· + 1)
  | anchor a, places =>
    places.filter fun i => a.holds (if i = 0 then none else text[i - 1]?) text[i]?
  | capture p, places => p.reach text places
  | seq p q, places => q.reach text (p.reach text places)
  | alt p q, places => mergePlaces (p.reach text places) (q.reach text places)
  | rep p least greatest, places =>
    let first := iterate (p.reach text) least places
    let more := (greatest.map (· - least)).getD (text.size + 1)
    spread (p.reach text) more first first

def isMatch (p : Pattern) (text : String) : Bool :=
  let chars := text.toList.toArray
  !(p.reach chars (List.range (chars.size + 1))).isEmpty

end Pattern

end SeriesCluster
