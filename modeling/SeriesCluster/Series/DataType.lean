import SeriesCluster.Json.Codec

namespace SeriesCluster

inductive DataType
  | unknown
  | float
  | integer
  | unsigned
  | string
  | boolean
  | time
  | duration
  | tag
  | anyField
  deriving DecidableEq, Repr, Inhabited

namespace DataType

def precedence : DataType → Nat
  | unknown => 0
  | anyField => 1
  | tag => 2
  | duration => 3
  | time => 4
  | boolean => 5
  | string => 6
  | unsigned => 7
  | integer => 8
  | float => 9

def lessThan (a b : DataType) : Bool := a.precedence < b.precedence

def wider (a b : DataType) : DataType := if a.lessThan b then b else a

theorem precedence_injective {a b : DataType} (h : a.precedence = b.precedence) : a = b := by
  cases a <;> cases b <;> first | rfl | (simp [precedence] at h)

theorem precedence_wider (a b : DataType) :
    (a.wider b).precedence = max a.precedence b.precedence := by
  unfold wider lessThan
  by_cases h : a.precedence < b.precedence
  · simp only [h, decide_true, if_true]; omega
  · simp only [h, decide_false, Bool.false_eq_true, if_false]; omega

def name : DataType → String
  | unknown => "Unknown"
  | float => "Float"
  | integer => "Integer"
  | unsigned => "Unsigned"
  | string => "String"
  | boolean => "Boolean"
  | time => "Time"
  | duration => "Duration"
  | tag => "Tag"
  | anyField => "AnyField"

def all : List DataType :=
  [unknown, float, integer, unsigned, string, boolean, time, duration, tag, anyField]

open Json in
instance : Codec DataType where
  encode t := .text t.name
  decode := decodeName (all.map fun t => (t.name, t))

end DataType

end SeriesCluster
