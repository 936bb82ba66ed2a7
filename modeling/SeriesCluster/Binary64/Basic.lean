namespace SeriesCluster

structure Binary64 where
  bits : UInt64
  deriving DecidableEq, Repr, Inhabited

namespace Binary64

def positiveInfinity : Binary64 := ⟨0x7ff0000000000000⟩
def negativeInfinity : Binary64 := ⟨0xfff0000000000000⟩
def notANumber : Binary64 := ⟨0x7ff8000000000000⟩

def isNegative (x : Binary64) : Bool := x.bits >= 0x8000000000000000

def leadingBit : Nat := 1 <<< 52

def exponentField (x : Binary64) : Nat := x.bits.toNat / leadingBit % 2048

def fractionField (x : Binary64) : Nat := x.bits.toNat % leadingBit

def isFinite (x : Binary64) : Bool := x.exponentField != 2047

def isZero (x : Binary64) : Bool := x.exponentField == 0 && x.fractionField == 0

/-- The integer `m` of the magnitude `m · 2 ^ q` of a finite number. -/
def significand (x : Binary64) : Nat :=
  if x.exponentField = 0 then x.fractionField else x.fractionField + leadingBit

def scale (x : Binary64) : Int :=
  if x.exponentField = 0 then -1074 else x.exponentField - 1075

def neg (x : Binary64) : Binary64 := ⟨x.bits ^^^ 0x8000000000000000⟩

def roundDiv (num den : Nat) : Nat :=
  let q := num / den
  let r := 2 * (num % den)
  if r < den then q else if den < r then q + 1 else if q % 2 = 0 then q else q + 1

def scaled (num den : Nat) (q : Int) : Nat × Nat :=
  if q < 0 then (num <<< q.natAbs, den) else (num, den <<< q.natAbs)

def lastPlace (num den : Nat) : Int :=
  let guess : Int := num.log2 - den.log2 - 52
  let (n, d) := scaled num den guess
  let exact := if n < d * leadingBit then guess - 1 else guess
  max exact (-1074)

/-- The number nearest to `num / den`, a tie to the one with an even last bit; a magnitude that
rounds beyond the greatest finite number gives infinity. -/
def ofRatio (num den : Nat) : Binary64 :=
  if num = 0 then ⟨0⟩
  else
    let q := lastPlace num den
    let (n, d) := scaled num den q
    let m := roundDiv n d
    -- A significand that rounds up to `2 ^ 53` carries into the exponent field by itself.
    let word := m + (q + 1074).toNat * leadingBit
    if word < 0x7ff0000000000000 then ⟨UInt64.ofNat word⟩ else positiveInfinity

def ofNat (n : Nat) : Binary64 := ofRatio n 1

def ofInt (i : Int) : Binary64 := if i < 0 then (ofNat i.natAbs).neg else ofNat i.natAbs

def toRatio (x : Binary64) : Nat × Nat :=
  if x.scale < 0 then (x.significand, 1 <<< x.scale.natAbs)
  else (x.significand <<< x.scale.natAbs, 1)

def mul (x y : Binary64) : Binary64 :=
  let (a, b) := x.toRatio
  let (c, d) := y.toRatio
  ofRatio (a * c) (b * d)

def div (x y : Binary64) : Binary64 :=
  let (a, b) := x.toRatio
  let (c, d) := y.toRatio
  ofRatio (a * d) (b * c)

def powerOfTen (k : Nat) : Binary64 := ofRatio (Nat.pow 10 k) 1

def hexDigits (x : Binary64) : String :=
  let digits := Nat.toDigits 16 x.bits.toNat
  String.ofList (List.replicate (16 - digits.length) '0' ++ digits)

end Binary64

end SeriesCluster
