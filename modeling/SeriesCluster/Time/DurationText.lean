import SeriesCluster.Time.Duration
import SeriesCluster.Text.Blank

namespace SeriesCluster.Duration

/-- A unit and its length in nanoseconds. A month is 30.44 days and a year 365.25 days. -/
def unitNanos? : String → Option Nat
  | "nanos" | "nsec" | "ns" => some 1
  | "usec" | "us" | "µs" => some 1000
  | "millis" | "msec" | "ms" => some 1000000
  | "seconds" | "second" | "secs" | "sec" | "s" => some 1000000000
  | "minutes" | "minute" | "min" | "mins" | "m" => some (60 * 1000000000)
  | "hours" | "hour" | "hrs" | "hr" | "h" => some (3600 * 1000000000)
  | "days" | "day" | "d" => some (86400 * 1000000000)
  | "weeks" | "week" | "wks" | "wk" | "w" => some (604800 * 1000000000)
  | "months" | "month" | "M" => some (2630016 * 1000000000)
  | "years" | "year" | "yrs" | "yr" | "y" => some (31557600 * 1000000000)
  | _ => none

def isUnitChar (c : Char) : Bool := c.isAlpha || c == 'µ'

def readCount? : Nat → List Char → Option (Nat × List Char)
  | n, [] => some (n, [])
  | n, c :: rest =>
    if c.isDigit then
      let n' := 10 * n + (c.toNat - '0'.toNat)
      if n' < UInt64.size then readCount? n' rest else none
    else if isBlank c then readCount? n rest
    else some (n, c :: rest)

def readFraction? : Nat → Nat → List Char → Option (Nat × Nat × List Char)
  | num, den, [] => if den = 1 then none else some (num, den, [])
  | num, den, c :: rest =>
    if c.isDigit then
      let num' := 10 * num + (c.toNat - '0'.toNat)
      if num' < UInt64.size ∧ 10 * den < UInt64.size then readFraction? num' (10 * den) rest
      else none
    else if isBlank c then readFraction? num den rest
    else if den = 1 then none
    else some (num, den, c :: rest)

/-- The seconds and the nanoseconds of a number of units. Seconds and longer units are counted in
seconds, and the product must fit 64 bits. -/
def wholeUnits? (count unit : Nat) : Option (Nat × Nat) :=
  if unit < 1000000000 then
    if count * unit < UInt64.size then some (0, count * unit) else none
  else
    let seconds := count * (unit / 1000000000)
    if seconds < UInt64.size then some (seconds, 0) else none

/-- The seconds and the nanoseconds of `num / den` units. They must come out even: in nanoseconds
for units up to a minute, in whole seconds for longer ones. There is no fraction of a nanosecond,
and the product must fit 64 bits. -/
def fractionOf? (num den unit : Nat) : Option (Nat × Nat) :=
  let short := unit ≤ 60 * 1000000000
  let product := num * (if short then unit else unit / 1000000000)
  if unit ≠ 1 ∧ product < UInt64.size ∧ product % den = 0 then
    some (if short then (0, product / den) else (product / den, 0))
  else none

def add? (sum : Nat) (part : Nat × Nat) : Option Nat :=
  let total := sum + part.1 * 1000000000 + part.2
  if sum % 1000000000 + part.2 < UInt64.size ∧ total < UInt64.size * 1000000000 then some total
  else none

def readTerms? (fuel : Nat) (sum : Nat) (cs : List Char) : Option Nat :=
  match fuel with
  | 0 => none
  | fuel + 1 =>
    match cs.dropWhile isBlank with
    | [] => some sum
    | c :: rest => do
      if !c.isDigit then none
      let (count, rest) ← readCount? 0 (c :: rest)
      let (fraction, rest) ←
        match rest with
        | '.' :: rest => do
          let (num, den, rest) ← readFraction? 0 1 rest
          some (some (num, den), rest)
        | rest => some (none, rest)
      let unit ← unitNanos? (String.ofList (rest.takeWhile isUnitChar))
      let rest := rest.dropWhile isUnitChar
      -- A unit ends at a blank, at the next number or at the end.
      if !(rest.head?.all fun c => isBlank c || c.isDigit) then none
      let sum ← add? sum (← wholeUnits? count unit)
      let sum ← match fraction with
        | some (num, den) => do add? sum (← fractionOf? num den unit)
        | none => some sum
      readTerms? fuel sum rest

def ofText? (s : String) : Option Duration :=
  if s = "0" then some zero
  else if s.toList.all isBlank then none
  else (readTerms? (s.length + 1) 0 s.toList).bind ofNanos?

end SeriesCluster.Duration
