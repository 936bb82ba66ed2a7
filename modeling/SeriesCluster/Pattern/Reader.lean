import SeriesCluster.Pattern.Syntax
import SeriesCluster.Unicode.Lookup

namespace SeriesCluster.Pattern

def skipComments (inComment : Bool) : List Char → List Char
  | [] => []
  | c :: rest =>
    if inComment then skipComments (c != '\n') rest
    else if isBlank c then skipComments false rest
    else if c == '#' then skipComments true rest
    else c :: rest

def skip (spaced : Bool) (cs : List Char) : List Char :=
  if spaced then skipComments false cs else cs

theorem length_skipComments_le (inComment : Bool) (cs : List Char) :
    (skipComments inComment cs).length ≤ cs.length := by
  fun_induction skipComments inComment cs <;> simp_all <;> omega

theorem length_skip_le (spaced : Bool) (cs : List Char) :
    (skip spaced cs).length ≤ cs.length := by
  unfold skip
  split
  · exact length_skipComments_le false cs
  · exact Nat.le_refl _

def takeSpaced (spaced : Bool) (p : Char → Bool) (cs : List Char) : List Char × List Char :=
  match cs with
  | [] => ([], [])
  | c :: rest =>
    if p c then
      let (taken, rest) := takeSpaced spaced p (skip spaced rest)
      (c :: taken, rest)
    else ([], c :: rest)
termination_by cs.length
decreasing_by
  have := length_skip_le spaced rest
  simp only [List.length_cons]
  omega

def hexValue? (c : Char) : Option Nat :=
  if c.isDigit then some (c.toNat - 48)
  else if 'a' ≤ c ∧ c ≤ 'f' then some (c.toNat - 87)
  else if 'A' ≤ c ∧ c ≤ 'F' then some (c.toNat - 55)
  else none

def isHex (c : Char) : Bool := (hexValue? c).isSome

def ofCode? (n : Nat) : Option Char := if n.isValidChar then some (Char.ofNat n) else none

def hexChar? (digits : List Char) : Option Char := do
  if digits.isEmpty then none
  let values ← digits.mapM hexValue?
  ofCode? (values.foldl (fun n d => 16 * n + d) 0)

def takeHex? (spaced : Bool) : Nat → List Char → Option (List Char × List Char)
  | 0, cs => some ([], cs)
  | n + 1, c :: rest => do
    if !isHex c then none
    let (digits, rest) ← takeHex? spaced n (skip spaced rest)
    some (c :: digits, rest)
  | _ + 1, [] => none

def hexEscape? (spaced : Bool) (count : Nat) (cs : List Char) : Option (Literal × List Char) := do
  match skip spaced cs with
  | '\x7b' :: rest =>
    let (digits, rest) := takeSpaced spaced isHex (skip spaced rest)
    match rest with
    | '\x7d' :: rest =>
      let c ← hexChar? digits
      some (⟨c, false⟩, skip spaced rest)
    | _ => none
  | rest =>
    let (digits, rest) ← takeHex? spaced count rest
    let c ← hexChar? digits
    some (⟨c, count == 2⟩, rest)

def readCount? (spaced : Bool) (cs : List Char) : Option (Nat × List Char) :=
  let (digits, rest) := takeSpaced spaced Char.isDigit (cs.dropWhile isBlank)
  let n := digits.foldl (fun n c => 10 * n + (c.toNat - 48)) 0
  let (_, rest) := takeSpaced spaced isBlank rest
  if digits.isEmpty ∨ n ≥ UInt32.size then none else some (n, rest)

def readCounts? (spaced : Bool) (cs : List Char) : Option (Nat × Option Nat × List Char) := do
  let (least, rest) ← readCount? spaced (skip spaced cs)
  match rest with
  | '\x7d' :: rest => some (least, some least, rest)
  | ',' :: rest =>
    match skip spaced rest with
    | '\x7d' :: rest => some (least, none, rest)
    | rest =>
      let (greatest, rest) ← readCount? spaced rest
      match rest with
      | '\x7d' :: rest => if least ≤ greatest then some (least, some greatest, rest) else none
      | _ => none
  | _ => none

def isNameStart (c : Char) : Bool := c == '_' || isAlphabetic c

def isNameChar (c : Char) : Bool :=
  isNameStart c || c == '.' || c == '[' || c == ']' ||
    (GeneralCategory.setOf GeneralCategory.numbers).contains c.toNat

def readName? (names : List String) (cs : List Char) : Option (String × List Char) :=
  let name := cs.takeWhile (· ≠ '>')
  match cs.dropWhile (· ≠ '>') with
  | _ :: rest =>
    if name.head?.any isNameStart && name.all isNameChar && !names.contains (String.ofList name)
    then some (String.ofList name, rest) else none
  | [] => none

def flagOf? : Char → Option Flag
  | 'i' => some .foldCase
  | 'm' => some .multiLine
  | 's' => some .dotAll
  | 'U' => some .lazy
  | 'u' => some .unicode
  | 'R' => some .returns
  | 'x' => some .spaced
  | _ => none

def readFlags? (settings : List (Flag × Bool)) (on : Bool) :
    List Char → Option (List (Flag × Bool) × List Char)
  | [] => none
  | c :: rest =>
    if c == ':' || c == ')' then some (settings.reverse, c :: rest)
    else if c == '-' then
      if !on || rest.head? == some ':' || rest.head? == some ')' then none
      else readFlags? settings false rest
    else do
      let flag ← flagOf? c
      if settings.any (·.1 == flag) then none
      readFlags? ((flag, on) :: settings) on rest

def setting (settings : List (Flag × Bool)) (flag : Flag) (before : Bool) : Bool :=
  ((settings.find? (·.1 == flag)).map Prod.snd).getD before

def asciiAlpha : CodeSet := .ofText "41-5a 61-7a"

def asciiWord : CodeSet := .ofText "30-39 41-5a 5f 61-7a"

def bracketClass? : String → Option CodeSet
  | "alnum" => some (.ofText "30-39 41-5a 61-7a")
  | "alpha" => some asciiAlpha
  | "ascii" => some (.ofText "0-7f")
  | "blank" => some (.ofText "9 20")
  | "cntrl" => some (.ofText "0-1f 7f")
  | "digit" => some (.ofText "30-39")
  | "graph" => some (.ofText "21-7e")
  | "lower" => some (.ofText "61-7a")
  | "print" => some (.ofText "20-7e")
  | "punct" => some (.ofText "21-2f 3a-40 5b-60 7b-7e")
  | "space" => some (.ofText "9-d 20")
  | "upper" => some (.ofText "41-5a")
  | "word" => some asciiWord
  | "xdigit" => some (.ofText "30-39 41-46 61-66")
  | _ => none

def letterClass? : Char → Option NamedClass
  | 'd' => some ⟨digitSet, some (.ofText "30-39")⟩
  | 's' => some ⟨Unicode.whiteSpace, some (.ofText "9-d 20")⟩
  | 'w' => some ⟨Unicode.word, some asciiWord⟩
  | _ => none

def splitAtText (text : List Char) : List Char → Option (List Char × List Char)
  | [] => none
  | c :: rest =>
    if text.isPrefixOf (c :: rest) then some ([], (c :: rest).drop text.length)
    else (splitAtText text rest).map fun (before, after) => (c :: before, after)

/-- The set that the name between the braces of a property stands for. A sign between a property and
a value may deny it, which changes nothing. -/
def propertySet? (name : List Char) : Option CodeSet :=
  let parts :=
    (splitAtText ['!', '='] name).orElse fun _ => (splitAtText [':'] name).orElse fun _ =>
      splitAtText ['='] name
  match parts with
  | some (property, value) =>
    Unicode.setWithValue? (String.ofList property) (String.ofList value)
  | none => Unicode.setNamed? (String.ofList name)

def readProperty? (spaced : Bool) (cs : List Char) : Option (NamedClass × List Char) := do
  match skip spaced cs with
  | '\x7b' :: rest =>
    let (name, rest) := takeSpaced spaced (· ≠ '\x7d') (skip spaced rest)
    match rest with
    | _ :: rest =>
      let s ← propertySet? name
      some (⟨s, none⟩, rest)
    | [] => none
  | '\\' :: _ | [] => none
  | c :: rest =>
    let s ← Unicode.setNamed? (String.ofList [c])
    some (⟨s, none⟩, skip spaced rest)

inductive Escape
  | literal (l : Literal)
  | named (negated : Bool) (c : NamedClass)
  | anchor (a : AnchorSign)

def isWordPlaceChar (c : Char) : Bool := c.isAlpha || c == '-'

def readWordPlace? (spaced : Bool) : List Char → Option (WordPlace × List Char)
  | '\x7b' :: rest =>
    match skip spaced rest with
    | [] => none
    | c :: more =>
      if !isWordPlaceChar c then some (.boundary, '\x7b' :: rest)
      else
        let (name, rest) := takeSpaced spaced isWordPlaceChar (c :: more)
        match String.ofList name, rest with
        | "start", '\x7d' :: rest => some (.start, rest)
        | "end", '\x7d' :: rest => some (.stop, rest)
        | "start-half", '\x7d' :: rest => some (.noWordBefore, rest)
        | "end-half", '\x7d' :: rest => some (.noWordAfter, rest)
        | _, _ => none
  | rest => some (.boundary, rest)

def isEscapable (c : Char) : Bool :=
  c.toNat < 0x80 && !c.isAlphanum && c != '<' && c != '>'

def escape? (spaced : Bool) : List Char → Option (Escape × List Char)
  | [] => none
  | c :: rest =>
    let literal (c : Char) : Option (Escape × List Char) := some (.literal ⟨c, false⟩, rest)
    let word (place : WordPlace) : Option (Escape × List Char) :=
      some (.anchor (.word place), rest)
    match c with
    | 'd' | 's' | 'w' => (letterClass? c).map fun s => (.named false s, rest)
    | 'D' | 'S' | 'W' => (letterClass? c.toLower).map fun s => (.named true s, rest)
    | 'p' => (readProperty? spaced rest).map fun (s, rest) => (.named false s, rest)
    | 'P' => (readProperty? spaced rest).map fun (s, rest) => (.named true s, rest)
    | 'x' => (hexEscape? spaced 2 rest).map fun (l, rest) => (.literal l, rest)
    | 'u' => (hexEscape? spaced 4 rest).map fun (l, rest) => (.literal l, rest)
    | 'U' => (hexEscape? spaced 8 rest).map fun (l, rest) => (.literal l, rest)
    | 'b' => (readWordPlace? spaced rest).map fun (p, rest) => (.anchor (.word p), rest)
    | 'B' => word .noBoundary
    | '<' => word .start
    | '>' => word .stop
    | 'A' => some (.anchor .textStart, rest)
    | 'z' => some (.anchor .textEnd, rest)
    | 'a' => literal '\x07'
    | 'f' => literal '\x0c'
    | 'n' => literal '\n'
    | 'r' => literal '\r'
    | 't' => literal '\t'
    | 'v' => literal '\x0b'
    | c => if isEscapable c then literal c else none

def bracketClassItem? (cs : List Char) : Option (ClassItem × List Char) := do
  let (negated, cs) := match cs with
    | '^' :: rest => (true, rest)
    | rest => (false, rest)
  match cs.dropWhile Char.isAlpha with
  | ':' :: ']' :: rest =>
    let s ← bracketClass? (String.ofList (cs.takeWhile Char.isAlpha))
    some (.named negated ⟨s, some s⟩, rest)
  | _ => none

def readClassItem? (spaced : Bool) : List Char → Option (ClassItem × List Char)
  | [] => none
  | '\\' :: rest =>
    match escape? spaced rest with
    | some (.literal l, rest) => some (.literal l, rest)
    | some (.named negated c, rest) => some (.named negated c, rest)
    | _ => none
  | c :: rest => some (.literal ⟨c, false⟩, rest)

def rangeBetween? : ClassItem → ClassItem → Option ClassItem
  | .literal low, .literal high => if low.char ≤ high.char then some (.range low high) else none
  | _, _ => none

def applyWaiting (waiting : Option (ClassOperator × ClassItem)) (right : ClassItem) : ClassItem :=
  match waiting with
  | some (o, left) => .operator o left right
  | none => right

mutual

def readClass? (fuel : Nat) (spaced : Bool) (cs : List Char) :
    Option (Bool × ClassItem × List Char) :=
  match fuel with
  | 0 => none
  | fuel + 1 => do
    let (negated, cs) := match skip spaced cs with
      | '^' :: rest => (true, skip spaced rest)
      | rest => (false, rest)
    -- Dashes, or else a closing bracket, stand for themselves at the start of a class.
    let (dashes, cs) := takeSpaced spaced (· == '-') cs
    let (items, cs) := match dashes, cs with
      | [], ']' :: rest => ([ClassItem.literal ⟨']', false⟩], rest)
      | dashes, rest => (dashes.map fun c => ClassItem.literal ⟨c, false⟩, rest)
    let (body, rest) ← readClassItems? fuel spaced items none cs
    some (negated, body, rest)

/-- Reads the items of a class up to its closing bracket. `items` are those read since the last
operator, the last one first, and `waiting` is the operator with its left side. -/
def readClassItems? (fuel : Nat) (spaced : Bool) (items : List ClassItem)
    (waiting : Option (ClassOperator × ClassItem)) (cs : List Char) :
    Option (ClassItem × List Char) :=
  match fuel with
  | 0 => none
  | fuel + 1 =>
    let joined := applyWaiting waiting (.ofList items.reverse)
    match skip spaced cs with
    | [] => none
    | ']' :: rest => some (joined, rest)
    | '&' :: '&' :: rest => readClassItems? fuel spaced [] (some (.inter, joined)) rest
    | '-' :: '-' :: rest => readClassItems? fuel spaced [] (some (.diff, joined)) rest
    | '~' :: '~' :: rest => readClassItems? fuel spaced [] (some (.symmDiff, joined)) rest
    | '[' :: rest =>
      let named := match rest with
        | ':' :: name => bracketClassItem? name
        | _ => none
      match named with
      | some (item, rest) => readClassItems? fuel spaced (item :: items) waiting rest
      | none => do
        let (negated, body, rest) ← readClass? fuel spaced rest
        readClassItems? fuel spaced (.bracket negated body :: items) waiting rest
    | cs => do
      let (item, rest) ← readClassItem? spaced cs
      match skip spaced rest with
      | '-' :: after =>
        match skip spaced after with
        | ']' :: _ | '-' :: _ =>
          readClassItems? fuel spaced (item :: items) waiting ('-' :: after)
        | after => do
          let (last, rest) ← readClassItem? spaced after
          let item ← rangeBetween? item last
          readClassItems? fuel spaced (item :: items) waiting rest
      | rest => readClassItems? fuel spaced (item :: items) waiting rest

end

inductive Opening
  | capture
  | group (settings : List (Flag × Bool))
  | flags (settings : List (Flag × Bool))

def readOpening? (spaced : Bool) (names : List String) (cs : List Char) :
    Option (Opening × List String × List Char) := do
  match skip spaced cs with
  | '?' :: 'P' :: '<' :: rest | '?' :: '<' :: rest =>
    let (name, rest) ← readName? names rest
    some (.capture, name :: names, rest)
  | '?' :: rest =>
    let (settings, rest) ← readFlags? [] true rest
    match rest with
    | ':' :: rest => some (.group settings, names, rest)
    | _ :: rest => if settings.isEmpty then none else some (.flags settings, names, rest)
    | [] => none
  | rest => some (.capture, names, rest)

/-- A question mark after a repetition changes which match is found, not whether there is one. -/
def skipLazy : List Char → List Char
  | '?' :: rest => rest
  | rest => rest

def repeatLast? (least : Nat) (greatest : Option Nat) : List Syntax → Option (List Syntax)
  | [] | .flags _ :: _ => none
  | item :: items => some (.rep item least greatest :: items)

structure Cursor where
  rest : List Char
  spaced : Bool
  names : List String

mutual

def readBranches? (fuel : Nat) (branches : List Syntax) (c : Cursor) : Option (Syntax × Cursor) :=
  match fuel with
  | 0 => none
  | fuel + 1 => do
    let (branch, c) ← readItems? fuel [] c
    match c.rest with
    | '|' :: rest => readBranches? fuel (branch :: branches) { c with rest := rest }
    | _ => some (.ofBranches (branch :: branches).reverse, c)

def readItems? (fuel : Nat) (items : List Syntax) (c : Cursor) : Option (Syntax × Cursor) :=
  match fuel with
  | 0 => none
  | fuel + 1 =>
    let add (item : Syntax) (rest : List Char) := readItems? fuel (item :: items) { c with rest }
    let repeated (least : Nat) (greatest : Option Nat) (rest : List Char) := do
      let items ← repeatLast? least greatest items
      readItems? fuel items { c with rest }
    match skip c.spaced c.rest with
    | [] => some (.ofItems items.reverse, { c with rest := [] })
    | '|' :: rest => some (.ofItems items.reverse, { c with rest := '|' :: rest })
    | ')' :: rest => some (.ofItems items.reverse, { c with rest := ')' :: rest })
    | '*' :: rest => repeated 0 none (skipLazy rest)
    | '+' :: rest => repeated 1 none (skipLazy rest)
    | '?' :: rest => repeated 0 (some 1) (skipLazy rest)
    | '\x7b' :: rest => do
      let (least, greatest, rest) ← readCounts? c.spaced rest
      repeated least greatest (skipLazy (skip c.spaced rest))
    | '(' :: rest => do
      let (opening, names, rest) ← readOpening? c.spaced c.names rest
      match opening with
      | .flags settings =>
        let spaced := setting settings .spaced c.spaced
        readItems? fuel (.flags settings :: items) ⟨rest, spaced, names⟩
      | .capture => readGroup? fuel items .capture c.spaced ⟨rest, c.spaced, names⟩
      | .group settings =>
        let spaced := setting settings .spaced c.spaced
        readGroup? fuel items (.group settings) c.spaced ⟨rest, spaced, names⟩
    | '[' :: rest => do
      let (negated, body, rest) ← readClass? fuel c.spaced rest
      add (.bracket negated body) rest
    | '.' :: rest => add .dot rest
    | '^' :: rest => add (.anchor .lineStart) rest
    | '$' :: rest => add (.anchor .lineEnd) rest
    | '\\' :: rest => do
      let (e, rest) ← escape? c.spaced rest
      match e with
      | .literal l => add (.literal l) rest
      | .named negated s => add (.named negated s) rest
      | .anchor a => add (.anchor a) rest
    | x :: rest => add (.literal ⟨x, false⟩) rest

def readGroup? (fuel : Nat) (items : List Syntax) (wrap : Syntax → Syntax) (spaced : Bool)
    (c : Cursor) : Option (Syntax × Cursor) :=
  match fuel with
  | 0 => none
  | fuel + 1 => do
    let (body, c) ← readBranches? fuel [] c
    match c.rest with
    | ')' :: rest => readItems? fuel (wrap body :: items) ⟨rest, spaced, c.names⟩
    | _ => none

end

def Syntax.ofText? (s : String) : Option Syntax := do
  let cs := s.toList
  let (p, c) ← readBranches? (3 * cs.length + 4) [] ⟨cs, false, []⟩
  if c.rest.isEmpty ∧ p.depth ≤ depthLimit then some p else none

end SeriesCluster.Pattern
