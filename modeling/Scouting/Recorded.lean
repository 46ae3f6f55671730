import Scouting.Json.Basic
import Scouting.Text.Natural

/-!
Recorded values, as scouts submit them and official results import them. A recorded value has the
shape of what was written; what it means is decided by the field it is recorded for.
-/

namespace Scouting

inductive Recorded where
  | bool (value : Bool)
  | integer (value : Int)
  | float (value : Float)
  | text (value : String)
  /-- One flag for each option of a field with several choices. -/
  | flags (values : List Bool)
  /-- The repetitions of a cycle in order, each with values by input id. -/
  | cycles (entries : List (List (String × Recorded)))

/-- One repetition of a cycle: values by input id. -/
abbrev CycleEntry := List (String × Recorded)

namespace Recorded

/-- The repetitions of a cycle; nothing else has any. -/
def entries : Recorded → List CycleEntry
  | cycles entries => entries
  | _ => []

/-- An integer as it is recorded: as a double where sixty-four bits with a sign do not hold it. -/
def ofInteger (value : Int) : Recorded :=
  if Text.isInt64 value then integer value else float (Float.ofInt value)

mutual

/-- The recorded value of a document. An array is all flags or all repetitions of a cycle; the empty
array counts as flags. -/
def ofJson? : Json → Option Recorded
  | .bool value => some (bool value)
  | .integer value => some (ofInteger value)
  | .float value => some (float value)
  | .text value => some (text value)
  | .array items =>
    match items.mapM Json.bool? with
    | some values => some (flags values)
    | none => (entriesOfJson? items).map cycles
  | _ => none

def entriesOfJson? : List Json → Option (List CycleEntry)
  | [] => some []
  | .object members :: rest => do
    let entry ← entryOfJson? members
    return entry :: (← entriesOfJson? rest)
  | _ :: _ => none

def entryOfJson? : List (String × Json) → Option CycleEntry
  | [] => some []
  | (id, json) :: rest => do
    let value ← ofJson? json
    return (id, value) :: (← entryOfJson? rest)

end

end Recorded

abbrev RecordedValues := Dictionary String Recorded

def RecordedValues.ofJson? : Json → Option RecordedValues :=
  Json.map? some Recorded.ofJson?

end Scouting
