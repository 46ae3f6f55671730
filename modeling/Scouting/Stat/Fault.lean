import Scouting.Expression.Token
import Scouting.Json.Writer
import Scouting.Key

/-!
Faults: why a stat is excluded from use when a configuration is loaded.
-/

namespace Scouting

inductive Fault where
  /-- The stat's document does not have the declared members and shapes. -/
  | malformed
  | badId
  | duplicateId
  | reference (error : StatError)
  | math (error : ExpressionError)
  | filterOnText (key : Key)
  | mapOfText (key : Key)
  | tableSize (key : Key) (needed given : Nat)
  | noKeys
  | notCycle (key : Key)
  | outsideCycle (key : Key) (cycle : String)
  | notNumber (key : Key)
  | notNumeric (key : Key)
  | needsOption (key : Key)
  | notOption (label : String) (key : Key)
  | unsupported (value : Json) (key : Key)
  /-- The stat needs its own value; the ids lead from one stat to the next. -/
  | circular (path : List String)
  | dependsOnExcluded (id : String)

def Fault.message : Fault → String
  | malformed => "malformed definition"
  | badId => "id must be letters, digits and underscores"
  | duplicateId => "duplicate id"
  | reference error => error.message
  | math error => "invalid math: " ++ error.message
  | filterOnText key => "cannot filter on text key '" ++ key.text ++ "'"
  | mapOfText key => "cannot map text key '" ++ key.text ++ "'"
  | tableSize key needed given =>
    "map of '" ++ key.text ++ "' needs " ++ toString needed ++ " values, got " ++ toString given
  | noKeys => "no keys given"
  | notCycle key => "'" ++ key.text ++ "' is not a cyclic column"
  | outsideCycle key cycle => "'" ++ key.text ++ "' is not recorded in cycle '" ++ cycle ++ "'"
  | notNumber key => "'" ++ key.text ++ "' is not a number"
  | notNumeric key => "'" ++ key.text ++ "' is not numeric"
  | needsOption key => "'" ++ key.text ++ "' needs an option index, e.g. " ++ key.text ++ ".0"
  | notOption label key => "'" ++ label ++ "' is not an option of '" ++ key.text ++ "'"
  | unsupported value key => "unsupported value " ++ value.compact ++ " for '" ++ key.text ++ "'"
  | circular path => "circular dependency: " ++ " -> ".intercalate path
  | dependsOnExcluded id => "depends on invalid stat '" ++ id ++ "'"

structure Exclusion where
  id : String
  fault : Fault

def Exclusion.message (exclusion : Exclusion) : String :=
  "Invalid smart stat '" ++ exclusion.id ++ "': " ++ exclusion.fault.message

end Scouting
