import Scouting.Record

/-!
Official results: values by team and by match and team that are imported as they are. Their keys are
every id that is described or that occurs.
-/

namespace Scouting

structure OfficialField where
  name : Option String
  negative : Bool

def OfficialField.ofJson? (json : Json) : Option OfficialField := do
  let members ← json.structure? ["name", "negative"]
  return {
    name := ← Json.optional members "name" Json.text?
    negative := ← Json.withDefault members "negative" false Json.bool? }

structure OfficialResults where
  fields : Dictionary String OfficialField
  perTeam : Dictionary Nat RecordedValues
  perMatch : Dictionary String (Dictionary Nat RecordedValues)

namespace OfficialResults

def empty : OfficialResults := ⟨Dictionary.empty, Dictionary.empty, Dictionary.empty⟩

/-- A team number as the name of a member: decimal digits without a needless zero in front. -/
def teamName? (name : String) : Option Nat :=
  match name.toList with
  | ['0'] => some 0
  | '0' :: _ => none
  | digits => Text.readDigits Text.bound32 digits

def ofJson? (json : Json) : Option OfficialResults := do
  let members ← json.structure? ["fields", "teams", "matches"]
  let byTeam := Json.map? teamName? RecordedValues.ofJson?
  return {
    fields := ← Json.withDefault members "fields" Dictionary.empty
      (Json.map? some OfficialField.ofJson?)
    perTeam := ← Json.withDefault members "teams" Dictionary.empty byTeam
    perMatch := ← Json.withDefault members "matches" Dictionary.empty (Json.map? some byTeam) }

def decode (json : Json) : Except InputError OfficialResults :=
  match ofJson? json with
  | some results => .ok results
  | none => .error .shape

def leaves (results : OfficialResults) : List RecordedValues :=
  results.perTeam.values ++ results.perMatch.values.flatMap Dictionary.values

def ids (results : OfficialResults) : List String :=
  let described := results.fields.keys ++ results.leaves.flatMap Dictionary.keys
  (described.mergeSort fun left right => left ≤ right).eraseReps

def sample? (results : OfficialResults) (id : String) : Option Recorded :=
  results.leaves.findSome? fun values => values.find? id

end OfficialResults

end Scouting
