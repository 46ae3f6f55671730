import Scouting.Decimal.Layout
import Scouting.Number
import Scouting.Text.Case
import Scouting.Value

/-!
Aggregates: what a sequence of observations comes to. Missing observations never take part, and
when nothing is left there is no data, never a zero.
-/

namespace Scouting

inductive Aggregate where
  | noData
  | bool (value : Bool)
  | number (value : Float)
  | choice (index : Nat)
  | counts (values : List Nat)
  | text (value : String)
  deriving DecidableEq

namespace Aggregate

instance : Inhabited Aggregate := ⟨noData⟩

def isNoData : Aggregate → Bool
  | noData => true
  | _ => false

def reading : Aggregate → Option Float
  | number value => some value
  | bool value => some (if value then 1.0 else 0.0)
  | choice index => some (Float.ofNat index)
  | _ => none

def toValue : Aggregate → Value
  | bool value => .bool value
  | number value => .number value
  | choice index => .choice index
  | text value => .text value
  | _ => .missing

def noDataText : String := "---"

def optionLabel (labels : List String) (index : Nat) : String :=
  labels[index]?.getD (toString index)

/-- The aggregate for people to read. Whole numbers are written in full, others with a fixed number
of places. -/
def display (labels : List String) (places : Nat) : Aggregate → String
  | noData => noDataText
  | bool value => if value then "Yes" else "No"
  | number value =>
    if Number.isWhole value then Decimal.plain value else Decimal.fixed places value
  | choice index => optionLabel labels index
  | counts values =>
    ", ".intercalate
      (values.mapIdx fun index count => optionLabel labels index ++ ": " ++ toString count)
  | text value => value

end Aggregate

inductive AggregateFunction where
  | mean
  | median
  | mode
  | min
  | max
  | total
  | stddev
  deriving DecidableEq

namespace AggregateFunction

def all : List AggregateFunction := [mean, median, mode, min, max, total, stddev]

def name : AggregateFunction → String
  | mean => "mean"
  | median => "median"
  | mode => "mode"
  | min => "min"
  | max => "max"
  | total => "total"
  | stddev => "stddev"

/-- The function with a name, whatever the case of its letters. -/
def ofName? (name : String) : Option AggregateFunction :=
  all.find? fun function => Text.sameLetters function.name name

def byName : List (String × AggregateFunction) := all.map fun function => (function.name, function)

end AggregateFunction

end Scouting
