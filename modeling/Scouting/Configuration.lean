import Scouting.Field
import Scouting.Record
import Scouting.Stat.Definition

/-!
The configuration of an event: its fields, the stats derived from them, and its teams. Stats are
decoded one at a time, so that one malformed stat is set aside without refusing the rest.
-/

namespace Scouting

structure TeamInfo where
  number : Nat
  name : String
  city : String
  stateProv : String
  country : String
  deriving DecidableEq

def TeamInfo.ofJson? (json : Json) : Option TeamInfo := do
  let members ← json.structure? ["number", "name", "city", "state_prov", "country"]
  return {
    number := ← Json.required members "number" Subject.team?
    name := ← Json.withDefault members "name" "" Json.text?
    city := ← Json.withDefault members "city" "" Json.text?
    stateProv := ← Json.withDefault members "state_prov" "" Json.text?
    country := ← Json.withDefault members "country" "" Json.text? }

structure Configuration where
  version : String
  fields : List FieldDefinition
  definitions : List StatDefinition
  rejected : List String
  teams : List TeamInfo

namespace Configuration

def empty : Configuration := ⟨"", [], [], [], []⟩

def statsMember : String := "smart_stats"

def noId : String := "<no id>"

def ofJson? (json : Json) : Option Configuration := do
  let members ← json.structure? ["version", "fields", statsMember, "teams"]
  return {
    version := ← Json.withDefault members "version" "" Json.text?
    fields := ← Json.withDefault members "fields" [] (Json.list? FieldDefinition.ofJson?)
    definitions := ← Json.withDefault members statsMember [] (Json.list? StatDefinition.ofJson?)
    rejected := []
    teams := ← Json.withDefault members "teams" [] (Json.list? TeamInfo.ofJson?) }

def partStats : Json → Json × Json
  | .object members =>
    ((members.lookup statsMember).getD .null, .object (members.filter (·.1 != statsMember)))
  | json => (.null, json)

/-- The entries of the array of stats; nothing at all counts as no entries. -/
def statEntries : Json → Except InputError (List Json)
  | .array entries => .ok entries
  | .null => .ok []
  | _ => .error .statsNotArray

def entryId (entry : Json) : String := ((entry.member? "id").bind Json.text?).getD noId

def withEntries (config : Configuration) (entries : List Json) : Configuration :=
  { config with
    definitions := config.definitions ++ entries.filterMap StatDefinition.ofJson?
    rejected := (entries.filter fun entry => (StatDefinition.ofJson? entry).isNone).map entryId }

def decode (json : Json) : Except InputError Configuration := do
  let (stats, rest) := partStats json
  match ofJson? rest with
  | none => throw .shape
  | some config => return config.withEntries (← statEntries stats)

end Configuration

end Scouting
