import Scouting.Aggregate
import Scouting.Json.Basic
import Scouting.Toml.Reader

/-!
Settings: what is assumed wherever a request says nothing.
-/

namespace Scouting

structure Settings where
  function : AggregateFunction
  places : Nat
  deriving DecidableEq

namespace Settings

def standard : Settings := ⟨.mean, 2⟩

def ofJson? (json : Json) : Option Settings := do
  let members ← json.structure? ["default_function", "display_decimals"]
  return {
    function := ← Json.withDefault members "default_function" standard.function
      (Json.choice? AggregateFunction.byName)
    places := ← Json.withDefault members "display_decimals" standard.places
      (Json.natural? Text.bound64) }

def isEmptyToml : Toml → Bool
  | .array items => items.isEmpty
  | .table _ entries => entries.isEmpty
  | .inlineTable entries => entries.isEmpty
  | .tables items => items.isEmpty
  | _ => false

/-- A function in TOML: its name, or a table that binds only its name, to something empty. -/
def functionOfToml? : Toml → Option AggregateFunction
  | .text name => AggregateFunction.byName.lookup name
  | .table _ [(name, value)] =>
    if isEmptyToml value then AggregateFunction.byName.lookup name else none
  | .inlineTable [(name, value)] =>
    if isEmptyToml value then AggregateFunction.byName.lookup name else none
  | _ => none

def countOfToml? : Toml → Option Nat
  | .integer (.ofNat value) => some value
  | _ => none

def ofToml? (source : String) : Option Settings := do
  let entries ← Toml.read source
  let function ← match entries.lookup "default_function" with
    | none => some standard.function
    | some value => functionOfToml? value
  let places ← match entries.lookup "display_decimals" with
    | none => some standard.places
    | some value => countOfToml? value
  return { function, places }

end Settings

end Scouting
