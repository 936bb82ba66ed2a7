import SeriesCluster.Json.Codec

namespace SeriesCluster

structure Duration where
  nanos : Nat
  nanos_lt : nanos < UInt64.size * 1000000000 := by decide
  deriving DecidableEq, Repr

namespace Duration

def zero : Duration := ⟨0, by decide⟩

instance : Inhabited Duration := ⟨zero⟩

def isZero (d : Duration) : Bool := d.nanos == 0

def ofNanos? (n : Nat) : Option Duration :=
  if h : n < UInt64.size * 1000000000 then some ⟨n, h⟩ else none

def ofSeconds (n : UInt64) : Duration :=
  ⟨n.toNat * 1000000000, by have := n.toNat_lt_size; omega⟩

def ofMillis (n : UInt64) : Duration :=
  ⟨n.toNat * 1000000, by have := n.toNat_lt_size; omega⟩

instance : LT Duration := ⟨fun a b => a.nanos < b.nanos⟩
instance : LE Duration := ⟨fun a b => a.nanos ≤ b.nanos⟩
instance (a b : Duration) : Decidable (a < b) := inferInstanceAs (Decidable (a.nanos < b.nanos))
instance (a b : Duration) : Decidable (a ≤ b) := inferInstanceAs (Decidable (a.nanos ≤ b.nanos))

def hour : Duration := ofSeconds 3600
def day : Duration := ofSeconds 86400
def week : Duration := ofSeconds 604800

open Json in
/-- A length is written as its seconds and nanoseconds. On reading, nanoseconds of a second or more
carry into the seconds. -/
instance : Codec Duration where
  encode d :=
    .object [("secs", .int (d.nanos / 1000000000)), ("nanos", .int (d.nanos % 1000000000))]
  decode v := do
    let nanos := decodeNat (UInt32.size - 1) "u32"
    let secs := decodeNat (UInt64.size - 1) "u64"
    let ms ← checkRecord "struct Duration" "struct Duration"
      [fieldBy secs "secs", fieldBy nanos "nanos"] .refused v
    let s ← ms.getBy "secs" secs none
    let n ← ms.getBy "nanos" nanos none
    match ofNanos? (s * 1000000000 + n) with
    | some d => .ok d
    | none => misfit "overflow deserializing Duration"

end Duration

end SeriesCluster
