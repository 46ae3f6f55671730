import Scouting.Decimal.Reading
import Scouting.Key
import Scouting.Text.Case
import Scouting.Value

/-!
Fields: what scouts are asked to record. A field's kind decides how a recorded value is observed; a
recorded value whose shape does not suit the kind counts as missing.
-/

namespace Scouting

/-- What a record or a field is about: one team in one match, or a team in the pit. -/
inductive Mode where
  | played
  | pit
  deriving DecidableEq

def Mode.name : Mode → String
  | .played => "match"
  | .pit => "pit"

def Mode.byName : List (String × Mode) := [("match", .played), ("pit", .pit)]

inductive FieldKind where
  | boolean
  | counter
  | select
  | dropdown
  | multiselect
  | multicounter
  | number
  | string
  | text
  | slider
  /-- A column that holds repetitions, each with values of its own. -/
  | cycle
  deriving DecidableEq

namespace FieldKind

def all : List FieldKind :=
  [boolean, counter, select, dropdown, multiselect, multicounter, number, string, text, slider,
    cycle]

def name : FieldKind → String
  | boolean => "boolean"
  | counter => "counter"
  | select => "select"
  | dropdown => "dropdown"
  | multiselect => "multiselect"
  | multicounter => "multicounter"
  | number => "number"
  | string => "string"
  | text => "text"
  | slider => "slider"
  | cycle => "cycle"

/-- Kinds by their names; a checkbox is a boolean. -/
def byName : List (String × FieldKind) :=
  all.map (fun kind => (kind.name, kind)) ++ [("checkbox", boolean)]

def isEnumerated : FieldKind → Bool
  | select | dropdown | multiselect => true
  | _ => false

def isNumeric : FieldKind → Bool
  | counter | number | slider | multicounter => true
  | _ => false

def infer : Recorded → FieldKind
  | .bool _ => boolean
  | .integer _ | .float _ => number
  | .text _ => string
  | .flags _ | .cycles _ => text

end FieldKind

/-- Whether lower values are better: for the whole field, or for each option. -/
inductive Polarity where
  | uniform (negative : Bool)
  | perOption (negative : List Bool)
  deriving DecidableEq

namespace Polarity

def isNegative : Polarity → Option Nat → Bool
  | uniform negative, _ => negative
  | perOption negative, some option => negative[option]?.getD false
  | perOption _, none => false

def ofJson? : Json → Option Polarity
  | .bool negative => some (uniform negative)
  | .array items => (items.mapM Json.bool?).map perOption
  | _ => none

end Polarity

structure FieldDefinition where
  id : String
  name : String
  kind : FieldKind
  mode : Mode
  options : List String
  default : Option Json
  polarity : Polarity
  /-- The column of repetitions that the field is recorded in. -/
  cycle : Option String

def FieldDefinition.members : List String :=
  ["id", "name", "type", "mode", "options", "default", "negative", "cycle"]

def FieldDefinition.ofJson? (json : Json) : Option FieldDefinition := do
  let members ← json.structure? FieldDefinition.members
  return {
    id := ← Json.required members "id" Json.text?
    name := ← Json.required members "name" Json.text?
    kind := ← Json.required members "type" (Json.choice? FieldKind.byName)
    mode := ← Json.withDefault members "mode" .played (Json.choice? Mode.byName)
    options := ← Json.withDefault members "options" [] (Json.list? Json.text?)
    default := ← Json.optional members "default" some
    polarity := ← Json.withDefault members "negative" (.uniform false) Polarity.ofJson?
    cycle := ← Json.optional members "cycle" Json.text? }

structure KeyInfo where
  key : Key
  name : String
  kind : FieldKind
  options : List String
  polarity : Polarity
  mode : Mode
  cycle : Option String

namespace KeyInfo

def simple (key : Key) (name : String) (kind : FieldKind) : KeyInfo :=
  { key, name, kind, options := [], polarity := .uniform false, mode := .played, cycle := none }

def valueKind (info : KeyInfo) : ValueKind :=
  match info.kind with
  | .boolean => .boolean
  | .select | .dropdown | .multiselect => .enumerated info.options.length
  | .string | .text => .text
  | .cycle => .cycle
  | .counter | .multicounter | .number | .slider => .numeric

def isNegative (info : KeyInfo) (option : Option Nat) : Bool := info.polarity.isNegative option

/-- The index of the option with a label, whatever the case of its letters. -/
def optionIndex? (info : KeyInfo) (label : String) : Option Nat :=
  info.options.findIdx? fun option => Text.sameLetters option label

def chosen (info : KeyInfo) : Recorded → Value
  | .integer (.ofNat index) => if index < info.options.length then .choice index else .missing
  | .text label => match info.optionIndex? label with
    | some index => .choice index
    | none => .missing
  | _ => .missing

def counted : Recorded → Value
  | .integer value => .number (Float.ofInt value)
  | .float value => .number value
  | .bool value => .number (if value then 1.0 else 0.0)
  | .text value => match Decimal.read (Text.trim value.toList) with
    | some value => .number value
    | none => .missing
  | _ => .missing

def observe (info : KeyInfo) (recorded : Recorded) : Value :=
  match info.kind with
  | .cycle => match recorded with
    | .cycles entries => .cycles entries
    | .flags [] => .cycles []
    | _ => .missing
  | .boolean => match recorded with
    | .bool value => .bool value
    | .integer value => .bool (value != 0)
    | _ => .missing
  | .multiselect => match recorded with
    | .flags values => .flags values
    | recorded => info.chosen recorded
  | .select | .dropdown => info.chosen recorded
  | .string | .text => match recorded with
    | .text value => .text value
    | _ => .missing
  | .counter | .multicounter | .number | .slider => counted recorded

end KeyInfo

end Scouting
