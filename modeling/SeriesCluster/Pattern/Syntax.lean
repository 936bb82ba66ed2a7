import SeriesCluster.Pattern.Basic

namespace SeriesCluster.Pattern

inductive Flag
  | foldCase
  | multiLine
  | dotAll
  | lazy
  | unicode
  | returns
  | spaced
  deriving DecidableEq, Repr

/-- A character as it is written. With two hexadecimal digits it stands for a byte where a pattern
is not about Unicode. -/
structure Literal where
  char : Char
  isByte : Bool := false
  deriving DecidableEq, Repr

structure NamedClass where
  set : CodeSet
  ascii : Option CodeSet
  deriving DecidableEq, Repr

inductive ClassOperator
  | inter
  | diff
  | symmDiff
  deriving DecidableEq, Repr

inductive ClassItem
  | literal (l : Literal)
  | range (low high : Literal)
  | named (negated : Bool) (c : NamedClass)
  | bracket (negated : Bool) (body : ClassItem)
  | union (items : List ClassItem)
  | operator (o : ClassOperator) (left right : ClassItem)
  deriving Repr

inductive AnchorSign
  | lineStart
  | lineEnd
  | textStart
  | textEnd
  | word (place : WordPlace)
  deriving DecidableEq, Repr

/-- A pattern as it is written. Flags that stand alone hold to the end of the group around them. -/
inductive Syntax
  | empty
  | flags (settings : List (Flag × Bool))
  | literal (l : Literal)
  | dot
  | anchor (a : AnchorSign)
  | named (negated : Bool) (c : NamedClass)
  | bracket (negated : Bool) (body : ClassItem)
  | capture (body : Syntax)
  | group (settings : List (Flag × Bool)) (body : Syntax)
  | rep (body : Syntax) (least : Nat) (greatest : Option Nat)
  | seq (items : List Syntax)
  | alt (branches : List Syntax)
  deriving Repr

def ClassItem.ofList : List ClassItem → ClassItem
  | [item] => item
  | items => union items

def Syntax.ofItems : List Syntax → Syntax
  | [] => empty
  | [item] => item
  | items => seq items

def Syntax.ofBranches : List Syntax → Syntax
  | [branch] => branch
  | branches => alt branches

mutual

def ClassItem.depth : ClassItem → Nat
  | .literal _ | .range _ _ | .named _ _ => 0
  | .bracket _ body => body.depth + 1
  | .union [] => 0
  | .union (item :: items) => max item.depth (ClassItem.depthList items) + 1
  | .operator _ left right => max left.depth right.depth + 1

def ClassItem.depthList : List ClassItem → Nat
  | [] => 0
  | item :: items => max item.depth (ClassItem.depthList items)

end

mutual

def Syntax.depth : Syntax → Nat
  | .empty | .flags _ | .literal _ | .dot | .anchor _ | .named _ _ => 0
  | .bracket _ body => body.depth + 1
  | .capture body | .group _ body | .rep body _ _ => body.depth + 1
  | .seq items | .alt items => Syntax.depthList items + 1

def Syntax.depthList : List Syntax → Nat
  | [] => 0
  | item :: items => max item.depth (Syntax.depthList items)

end

def depthLimit : Nat := 250

end SeriesCluster.Pattern
