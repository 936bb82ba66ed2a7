import SeriesCluster.Binary64.Basic

namespace SeriesCluster

structure Decimal where
  digits : Nat
  exponent : Int
  deriving DecidableEq, Repr, Inhabited

namespace Decimal

def trimZeros (fuel : Nat) (d : Decimal) : Decimal :=
  match fuel with
  | 0 => d
  | fuel + 1 =>
    if d.digits % 10 = 0 ∧ d.digits ≠ 0 then trimZeros fuel ⟨d.digits / 10, d.exponent + 1⟩ else d

def inUnits (num den : Nat) (exponent : Int) : Nat × Nat :=
  let tens := Nat.pow 10 exponent.natAbs
  if exponent < 0 then (num * tens, den) else (num, den * tens)

def belowPowerOfTen (num den : Nat) (exponent : Int) : Bool :=
  let (n, d) := inUnits num den exponent
  n < d

def leadingExponent (num den : Nat) : Int :=
  -- log10 2 lies between 30102 / 100000 and 30103 / 100000, so the estimate is at most two off.
  let estimate : Int := ((num.log2 : Int) - den.log2) * 30103 / 100000 + 1
  if belowPowerOfTen num den (estimate - 1) then estimate - 2
  else if belowPowerOfTen num den estimate then estimate - 1
  else if belowPowerOfTen num den (estimate + 1) then estimate
  else estimate + 1

end Decimal

namespace Binary64

/-- Four times the ends of the interval of reals that round to a number, in units of the last
place: a power of two has a nearer neighbour below it. -/
def quarterEnds (x : Binary64) : Nat × Nat :=
  let m := x.significand
  let below := if x.fractionField = 0 ∧ x.exponentField > 1 then 1 else 2
  (4 * m - below, 4 * m + 2)

def readsBack (x : Binary64) (d : Decimal) : Bool :=
  let (low, high) := x.quarterEnds
  -- Both sides as natural numbers: 4 · digits · 10 ^ exponent against an end times 2 ^ scale.
  let tens := Nat.pow 10 d.exponent.natAbs
  let twos := 1 <<< x.scale.natAbs
  let left :=
    4 * d.digits * (if d.exponent < 0 then 1 else tens) * (if x.scale < 0 then twos else 1)
  let unit := (if d.exponent < 0 then tens else 1) * (if x.scale < 0 then 1 else twos)
  if x.significand % 2 = 0 then low * unit ≤ left && left ≤ high * unit
  else low * unit < left && left < high * unit

def nearestOnGrid (x : Binary64) (count : Nat) : Option Decimal :=
  let (num, den) := x.toRatio
  let exponent := Decimal.leadingExponent num den - count + 1
  let (n, d) := Decimal.inUnits num den exponent
  let below : Decimal := ⟨n / d, exponent⟩
  let above : Decimal := ⟨n / d + 1, exponent⟩
  match x.readsBack below, x.readsBack above with
  | true, true =>
    let r := 2 * (n % d)
    some (if r < d then below else if d < r then above
      else if below.digits % 2 = 0 then below else above)
  | true, false => some below
  | false, true => some above
  | false, false => none

def shortest (x : Binary64) : Decimal :=
  let found := (List.range 17).findSome? (fun n => x.nearestOnGrid (n + 1))
  Decimal.trimZeros 20 (found.getD ⟨0, 0⟩)

/-- How numbers are written: positionally while the first digit's exponent lies in a range, else
with an exponent that carries its sign. -/
structure NumberFormat where
  leastPositional : Int
  greatestPositional : Int
  deriving DecidableEq, Repr

def plainFormat : NumberFormat := ⟨-5, 15⟩

def NumberFormat.write (f : NumberFormat) (d : Decimal) : List Char :=
  let digits := Nat.toDigits 10 d.digits
  let leading : Int := d.exponent + digits.length - 1
  if f.leastPositional ≤ leading ∧ leading ≤ f.greatestPositional then
    if 0 ≤ d.exponent then digits ++ List.replicate d.exponent.toNat '0' ++ ['.', '0']
    else if 0 ≤ leading then
      digits.take (leading.toNat + 1) ++ '.' :: digits.drop (leading.toNat + 1)
    else '0' :: '.' :: List.replicate (-leading - 1).toNat '0' ++ digits
  else
    let tail := digits.drop 1
    let mantissa := digits.take 1 ++ (if tail.isEmpty then [] else '.' :: tail)
    let sign := if leading < 0 then '-' else '+'
    mantissa ++ 'e' :: sign :: Nat.toDigits 10 leading.natAbs

def write (x : Binary64) : List Char :=
  let magnitude := if x.isZero then ['0', '.', '0'] else plainFormat.write x.shortest
  if x.isNegative then '-' :: magnitude else magnitude

end Binary64

end SeriesCluster
