import SeriesCluster.Binary64.Basic

namespace SeriesCluster.Json

/-- The name of a member as it is written. One that is no text, for it has half a surrogate pair or
bytes that are not UTF-8, matters only when it is read. -/
inductive Name
  | plain (text : String)
  | escaped (text : String)
  | unreadable
  deriving DecidableEq, Repr

namespace Name

instance : Coe String Name := ⟨plain⟩

def text? : Name → Option String
  | plain text | escaped text => some text
  | unreadable => none

end Name

/-- A JSON value. An object keeps its members in the order of the text, repeated names included.

Two more values stand for what was found where a value was to be read. `unreadable` is a well-formed
text whose meaning has no value: a string that is no text, a number beyond the greatest double, or
nesting beyond the limit. It matters only when it is read, so an ignored member may hold it. `cut`
is where a text stops being JSON; what was read before it stands before it. -/
inductive Value
  | null
  | bool (b : Bool)
  | int (i : Int)
  | float (x : Binary64)
  | text (s : String)
  | array (elements : List Value)
  | object (members : List (Name × Value))
  | unreadable
  | cut
  deriving Repr, Inhabited

/-- Why a text does not read as typed data: it is no JSON, its data does not fit, or an array has
more elements than a record. The last is found by looking for the end of the array, if the record is
read as the text is, and by counting, if it is read from a value. The reason of a misfit is given
where it does not depend on a place in the text. -/
inductive Fault
  | malformed
  | misfit (reason : Option String)
  | surplus (reason : String)
  deriving DecidableEq, Repr

namespace Fault

def located : Fault → Fault
  | malformed | surplus _ => malformed
  | misfit _ => misfit none

def counted : Fault → Fault
  | surplus reason => misfit (some reason)
  | fault => fault

def reason? : Fault → Option String
  | malformed | surplus _ => none
  | misfit reason => reason

end Fault

namespace Value

mutual

def isWhole : Value → Bool
  | cut => false
  | array elements => allWhole elements
  | object members => allMembersWhole members
  | _ => true

def allWhole : List Value → Bool
  | [] => true
  | v :: rest => v.isWhole && allWhole rest

def allMembersWhole : List (Name × Value) → Bool
  | [] => true
  | (_, v) :: rest => v.isWhole && allMembersWhole rest

end

mutual

def isReadable : Value → Bool
  | unreadable | cut => false
  | array elements => allReadable elements
  | object members => allMembersReadable members
  | _ => true

def allReadable : List Value → Bool
  | [] => true
  | v :: rest => v.isReadable && allReadable rest

def allMembersReadable : List (Name × Value) → Bool
  | [] => true
  | (name, v) :: rest => name.text?.isSome && v.isReadable && allMembersReadable rest

end

def member? (name : String) : Value → Option Value
  | object members => (members.find? (·.1.text? == some name)).map (·.2)
  | _ => none

end Value

end SeriesCluster.Json
