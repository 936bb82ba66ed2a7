namespace SeriesCluster

structure CodeSet where
  ranges : List (Nat × Nat)
  deriving DecidableEq, Repr

namespace CodeSet

def lastCode : Nat := 0x10ffff

def inRange (n : Nat) (r : Nat × Nat) : Bool := r.1 ≤ n && n ≤ r.2

def contains (s : CodeSet) (n : Nat) : Bool := s.ranges.any (inRange n)

def empty : CodeSet := ⟨[]⟩

def full : CodeSet := ⟨[(0, lastCode)]⟩

def range (low high : Nat) : CodeSet := ⟨[(low, high)]⟩

def single (c : Char) : CodeSet := range c.toNat c.toNat

def isEmpty (s : CodeSet) : Bool := s.ranges.isEmpty

def join : List (Nat × Nat) → List (Nat × Nat)
  | [] => []
  | [r] => [r]
  | r :: s :: rest =>
    if r.1 ≤ s.1 ∧ s.1 ≤ r.2 + 1 then join ((r.1, max r.2 s.2) :: rest)
    else r :: join (s :: rest)
termination_by l => l.length

def ofRanges (l : List (Nat × Nat)) : CodeSet :=
  ⟨join (l.mergeSort fun r s => r.1 ≤ s.1)⟩

def union (s t : CodeSet) : CodeSet :=
  ⟨join (List.merge s.ranges t.ranges fun r s => r.1 ≤ s.1)⟩

def unionAll (sets : List CodeSet) : CodeSet := sets.foldl union empty

def gaps (low : Nat) : List (Nat × Nat) → List (Nat × Nat)
  | [] => if low ≤ lastCode then [(low, lastCode)] else []
  | r :: rest =>
    if low < r.1 then (low, r.1 - 1) :: gaps (r.2 + 1) rest else gaps (r.2 + 1) rest

def complement (s : CodeSet) : CodeSet := ⟨gaps 0 s.ranges⟩

def inter (s t : CodeSet) : CodeSet := complement (union (complement s) (complement t))

def diff (s t : CodeSet) : CodeSet := complement (union (complement s) t)

def symmDiff (s t : CodeSet) : CodeSet := union (diff s t) (diff t s)

def isAscii (s : CodeSet) : Bool := s.ranges.all fun r => r.2 < 0x80

def hexDigit (c : Char) : Nat := if c.isDigit then c.toNat - 48 else c.toNat - 87

def hexNumber (text : String) : Nat := text.foldl (fun n c => 16 * n + hexDigit c) 0

def ofText (text : String) : CodeSet :=
  ofRanges <| (text.splitOn " ").map fun token =>
    match token.splitOn "-" with
    | [low, high] => (hexNumber low, hexNumber high)
    | _ => (hexNumber token, hexNumber token)

end CodeSet

/-- The code points from 0 on as runs that share a label. -/
structure CodeRuns where
  runs : List (String × Nat)

namespace CodeRuns

structure Scan where
  done : List (String × Nat) := []
  label : List Char := []
  length : Nat := 0

def Scan.close (s : Scan) : List (String × Nat) :=
  if s.length = 0 then s.done else (String.ofList s.label.reverse, s.length) :: s.done

def Scan.step (s : Scan) (c : Char) : Scan :=
  if c.isDigit then { s with length := 10 * s.length + (c.toNat - 48) }
  else if s.length = 0 then { s with label := c :: s.label }
  else { done := s.close, label := [c] }

def ofText (text : String) : CodeRuns := ⟨(text.foldl Scan.step {}).close.reverse⟩

def rangesWhere (p : String → Bool) : Nat → List (String × Nat) → List (Nat × Nat)
  | _, [] => []
  | n, (label, length) :: rest =>
    let next := rangesWhere p (n + length) rest
    if p label then (n, n + length - 1) :: next else next

def setWhere (r : CodeRuns) (p : String → Bool) : CodeSet :=
  ⟨CodeSet.join (rangesWhere p 0 r.runs)⟩

end CodeRuns

end SeriesCluster
