namespace SeriesCluster

inductive IntegerFault
  | empty
  | invalidDigit
  | tooLarge
  | tooSmall
  deriving DecidableEq, Repr

namespace IntegerFault

def message : IntegerFault → String
  | empty => "cannot parse integer from empty string"
  | invalidDigit => "invalid digit found in string"
  | tooLarge => "number too large to fit in target type"
  | tooSmall => "number too small to fit in target type"

end IntegerFault

namespace Text

/-- Reads digits into a magnitude of at most `limit`. The first character that cannot go on
decides the fault, so a digit that overflows hides what stands after it. -/
def readMagnitude (limit : Nat) (overflow : IntegerFault) :
    Nat → List Char → Except IntegerFault Nat
  | n, [] => .ok n
  | n, c :: rest =>
    if c.isDigit then
      let n' := 10 * n + (c.toNat - '0'.toNat)
      if n' ≤ limit then readMagnitude limit overflow n' rest else .error overflow
    else .error .invalidDigit

def readNatural (limit : Nat) (s : String) : Except IntegerFault Nat :=
  match s.toList with
  | [] => .error .empty
  | ['+'] => .error .invalidDigit
  | '+' :: digits => readMagnitude limit .tooLarge 0 digits
  | digits => readMagnitude limit .tooLarge 0 digits

def readSigned (least greatest : Nat) (s : String) : Except IntegerFault Int :=
  match s.toList with
  | [] => .error .empty
  | ['+'] | ['-'] => .error .invalidDigit
  | '-' :: digits => (readMagnitude least .tooSmall 0 digits).map fun n => -(n : Int)
  | '+' :: digits => (readMagnitude greatest .tooLarge 0 digits).map Int.ofNat
  | digits => (readMagnitude greatest .tooLarge 0 digits).map Int.ofNat

def readUInt64 (s : String) : Except IntegerFault UInt64 :=
  (readNatural (UInt64.size - 1) s).map UInt64.ofNat

def readInt64 (s : String) : Except IntegerFault Int64 :=
  (readSigned Int64.minValue.toInt.natAbs Int64.maxValue.toInt.natAbs s).map Int64.ofInt

end Text

end SeriesCluster
