import Scouting.Field
import Scouting.InputError
import Scouting.Instant

/-!
Records: what one scout submitted about one team. A record of a match names the match and a record
of the pit does not; older records give an event and a number instead of a match key.
-/

namespace Scouting

structure Subject where
  team : Nat
  matchKey : Option String
  position : Option Nat
  deriving DecidableEq

namespace Subject

def ofTeam (team : Nat) : Subject := ⟨team, none, none⟩

def inMatch (team : Nat) (matchKey : String) : Subject := ⟨team, some matchKey, none⟩

def isMatch (subject : Subject) : Bool := subject.matchKey.isSome

def toTeam (subject : Subject) : Subject := ofTeam subject.team

def text (subject : Subject) : String :=
  match subject.matchKey with
  | some matchKey => toString subject.team ++ " in " ++ matchKey
  | none => toString subject.team

def team? : Json → Option Nat := Json.natural? Text.bound32

def ofJson? (json : Json) : Option Subject := do
  let members ← json.structure? ["team", "match_key", "position"]
  return {
    team := ← Json.required members "team" team?
    matchKey := ← Json.optional members "match_key" Json.text?
    position := ← Json.optional members "position" (Json.natural? Text.bound8) }

end Subject

structure Record where
  team : Nat
  matchKey : Option String
  position : Option Nat
  mode : Mode
  unsure : Bool
  unsureReason : String
  /-- Ignored records are kept but never read. -/
  ignored : Bool
  scouter : Option String
  created : Option Instant
  modified : Option Instant
  fields : RecordedValues
  eventId : Option String
  matchNumber : Option Nat

namespace Record

def subject (record : Record) : Subject := ⟨record.team, record.matchKey, record.position⟩

def lastTouched (record : Record) : Option Instant := record.modified.or record.created

/-- Was one record last touched no later than another? A record without a time comes before all. -/
def touchedNotAfter (left right : Record) : Bool :=
  match left.lastTouched, right.lastTouched with
  | none, _ => true
  | some _, none => false
  | some left, some right => left.notAfter right

def instant? (json : Json) : Option Instant := json.text?.bind fun text => Instant.read text.toList

def members : List String :=
  ["team", "match_key", "position", "mode", "unsure", "unsure_reason", "ignore", "scouter",
    "created", "modified", "fields", "event_id", "match_number"]

def ofJson? (json : Json) : Option Record := do
  let members ← json.structure? members
  return {
    team := ← Json.required members "team" Subject.team?
    matchKey := ← Json.optional members "match_key" Json.text?
    position := ← Json.optional members "position" (Json.natural? Text.bound8)
    mode := ← Json.withDefault members "mode" .played (Json.choice? Mode.byName)
    unsure := ← Json.withDefault members "unsure" false Json.bool?
    unsureReason := ← Json.withDefault members "unsure_reason" "" Json.text?
    ignored := ← Json.withDefault members "ignore" false Json.bool?
    scouter := ← Json.optional members "scouter" Json.text?
    created := ← Json.optional members "created" instant?
    modified := ← Json.optional members "modified" instant?
    fields := ← Json.withDefault members "fields" Dictionary.empty RecordedValues.ofJson?
    eventId := ← Json.optional members "event_id" Json.text?
    matchNumber := ← Json.optional members "match_number" (Json.natural? Text.bound32) }

def withMatchKey (record : Record) : Record :=
  match record.mode, record.matchKey, record.eventId, record.matchNumber with
  | .played, none, some event, some number =>
    { record with matchKey := some (event ++ "_qm" ++ toString number) }
  | _, _, _, _ => record

/-- Accepts a record that is about exactly one subject. -/
def checked (record : Record) : Except InputError Record :=
  match record.mode, record.matchKey with
  | .played, none => .error (.matchWithoutKey record.team)
  | .pit, some matchKey => .error (.pitWithKey record.team matchKey)
  | _, _ => .ok record

def decode (json : Json) : Except InputError Record :=
  match ofJson? json with
  | some record => record.withMatchKey.checked
  | none => .error .shape

def entries : Json → Except InputError (List Json)
  | .array items => .ok items
  | .object members =>
    match ["records", "results"].findSome? fun name => (members.lookup name).bind Json.items? with
    | some items => .ok items
    | none => .error .noRecordArray
  | _ => .error .notRecords

/-- The records of an input document. Records that do not decode are left out; only if there are
records and none decodes is the document refused. -/
def decodeAll (json : Json) : Except InputError (List Record) := do
  let items ← entries json
  let records := items.filterMap fun item => (decode item).toOption
  if records.isEmpty && !items.isEmpty then throw .noRecordDecodes
  return records

end Record

end Scouting
