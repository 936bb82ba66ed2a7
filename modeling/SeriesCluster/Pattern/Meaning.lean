import SeriesCluster.Pattern.Reader
import SeriesCluster.Pattern.Size

namespace SeriesCluster.Pattern

structure Flags where
  foldCase : Bool := false
  multiLine : Bool := false
  dotAll : Bool := false
  returns : Bool := false
  unicode : Bool := true
  deriving DecidableEq, Repr

namespace Flags

def set (f : Flags) : Flag × Bool → Flags
  | (.foldCase, on) => { f with foldCase := on }
  | (.multiLine, on) => { f with multiLine := on }
  | (.dotAll, on) => { f with dotAll := on }
  | (.returns, on) => { f with returns := on }
  | (.unicode, on) => { f with unicode := on }
  | (.lazy, _) | (.spaced, _) => f

def apply (f : Flags) (settings : List (Flag × Bool)) : Flags := settings.foldl set f

def fold (f : Flags) (s : CodeSet) : CodeSet :=
  if !f.foldCase then s else if f.unicode then s.foldCase else s.foldAsciiCase

/-- All but a set, if it is negated. What is not ASCII is no whole character where the pattern is
not about Unicode, so nothing is negated there. -/
def negate? (f : Flags) (negated : Bool) (s : CodeSet) : Option CodeSet :=
  if !negated then some s else if f.unicode then some s.complement else none

def named? (f : Flags) (negated : Bool) (c : NamedClass) : Option CodeSet := do
  let s ← if f.unicode then some c.set else c.ascii
  f.negate? negated (f.fold s)

def char? (f : Flags) (l : Literal) : Option Char :=
  if !f.unicode && l.isByte && l.char.toNat ≥ 0x80 then none else some l.char

def classChar? (f : Flags) (l : Literal) : Option Char :=
  if !f.unicode && l.char.toNat ≥ 0x80 then none else some l.char

def literal? (f : Flags) (l : Literal) : Option CodeSet := do
  let c ← f.char? l
  if !f.foldCase then some (.single c)
  else if f.unicode then
    some (.ofRanges ((Unicode.caseVariants c.toNat).map fun n => (n, n)))
  else some (CodeSet.single c).foldAsciiCase

def dot? (f : Flags) : Option CodeSet :=
  if !f.unicode then none
  else if f.dotAll then some .full
  else if f.returns then some (CodeSet.ofText "a d").complement
  else some (CodeSet.ofText "a").complement

def anchor (f : Flags) : AnchorSign → Anchor
  | .lineStart => if f.multiLine then .lineStart f.returns else .textStart
  | .lineEnd => if f.multiLine then .lineEnd f.returns else .textEnd
  | .textStart => .textStart
  | .textEnd => .textEnd
  | .word place => .word place !f.unicode

end Flags

def ClassOperator.apply : ClassOperator → CodeSet → CodeSet → CodeSet
  | .inter => CodeSet.inter
  | .diff => CodeSet.diff
  | .symmDiff => CodeSet.symmDiff

mutual

/-- The characters of a class. Case is left out of account on both sides of an operator, and in a
class before it is negated. -/
def ClassItem.set? (f : Flags) : ClassItem → Option CodeSet
  | .literal l => (f.classChar? l).map CodeSet.single
  | .range low high => do
    some (.range (← f.classChar? low).toNat (← f.classChar? high).toNat)
  | .named negated c => f.named? negated c
  | .bracket negated body => do f.negate? negated (f.fold (← body.set? f))
  | .union items => do some (.unionAll (← ClassItem.sets? f items))
  | .operator o left right => do
    some (o.apply (f.fold (← left.set? f)) (f.fold (← right.set? f)))

def ClassItem.sets? (f : Flags) : List ClassItem → Option (List CodeSet)
  | [] => some []
  | item :: items => do some ((← item.set? f) :: (← ClassItem.sets? f items))

end

mutual

def Syntax.meaning? (f : Flags) : Syntax → Option (Pattern × Flags)
  | .empty => some (.empty, f)
  | .flags settings => some (.empty, f.apply settings)
  | .literal l => do some (.char (← f.literal? l), f)
  | .dot => do some (.char (← f.dot?), f)
  | .anchor a => some (.anchor (f.anchor a), f)
  | .named negated c => do some (.char (← f.named? negated c), f)
  | .bracket negated body => do
    some (.char (← f.negate? negated (f.fold (← body.set? f))), f)
  | .capture body => do some (.capture (← body.meaning? f).1, f)
  | .group settings body => do some ((← body.meaning? (f.apply settings)).1, f)
  | .rep body least greatest => do
    let (p, f) ← body.meaning? f
    some (.rep p least greatest, f)
  | .seq items => Syntax.meaningSeq? f items
  | .alt branches => Syntax.meaningAlt? f branches

def Syntax.meaningSeq? (f : Flags) : List Syntax → Option (Pattern × Flags)
  | [] => some (.empty, f)
  | item :: items => do
    let (p, f) ← item.meaning? f
    let (q, f) ← Syntax.meaningSeq? f items
    some (.seq p q, f)

def Syntax.meaningAlt? (f : Flags) : List Syntax → Option (Pattern × Flags)
  | [] => some (.char .empty, f)
  | branch :: branches => do
    let (p, f) ← branch.meaning? f
    if branches.isEmpty then some (p, f)
    else
      let (q, f) ← Syntax.meaningAlt? f branches
      some (.alt p q, f)

end

def ofText? (s : String) : Option Pattern := do
  let (p, _) ← (← Syntax.ofText? s).meaning? {}
  if p.fits then some p else none

end SeriesCluster.Pattern
