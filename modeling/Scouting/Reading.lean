import Scouting.Aggregation
import Scouting.Catalog
import Scouting.Snapshot

/-!
Reading keys. A key of a match is read for a team in a match as one value, and for a team as a whole
as the list of its values in play order. Derived stats are read from a source that is passed in, so
that reading does not depend on how they are computed.
-/

namespace Scouting

abbrev Source (σ : Type) := Key → Subject → Run σ Value

def ofExcept {σ α : Type} : Except StatError α → Run σ α
  | .ok value => pure value
  | .error error => throw error

namespace KeyInfo

def observeEntry (info : KeyInfo) (entry : CycleEntry) : Value :=
  match entry.lookup info.key.id with
  | some recorded => info.observe recorded
  | none => .missing

/-- What the repetitions of a cycle say about the key: one of them, or all in order. -/
def observeEntries (info : KeyInfo) (entries : List CycleEntry) : Option Nat → Value
  | none => .list (entries.map info.observeEntry)
  | some index => match entries[index]? with
    | some entry => info.observeEntry entry
    | none => .missing

/-- Narrows the repetitions of a cycle to one of them; any other value stays as it is. -/
def atIndex : Value → Option Nat → Value
  | .cycles entries, some index => match entries[index]? with
    | some entry => .cycles [entry]
    | none => .missing
  | value, _ => value

def observeRecord (info : KeyInfo) (record : Record) (index : Option Nat) : Value :=
  match info.cycle with
  | some column => match record.fields.find? column with
    | some recorded => info.observeEntries recorded.entries index
    | none => .missing
  | none => match record.fields.find? info.key.id with
    | some recorded => atIndex (info.observe recorded) index
    | none => .missing

def observeRecord? (info : KeyInfo) (record : Option Record) (index : Option Nat) : Value :=
  match record with
  | some record => info.observeRecord record index
  | none => .missing

end KeyInfo

namespace Snapshot

def readResult (snapshot : Snapshot) (info : KeyInfo) (subject : Subject) (index : Option Nat) :
    Value :=
  match info.mode with
  | .pit => info.observeRecord? (snapshot.pitRecord? subject.team) index
  | .played =>
    match subject.matchKey with
    | some matchKey => info.observeRecord? (snapshot.playedRecord? subject.team matchKey) index
    | none =>
      .list (((snapshot.matchKeys subject.team).filterMap (snapshot.playedRecord? subject.team)).map
        fun record => info.observeRecord record index)

/-- A text that is there unless it is empty. -/
def named (text : String) : Value := if text.isEmpty then .missing else .text text

def named? (text : Option String) : Value := (text.map named).getD .missing

def subjectRecord? (snapshot : Snapshot) (subject : Subject) : Option Record :=
  subject.matchKey.bind (snapshot.playedRecord? subject.team)

def readIdentity (snapshot : Snapshot) (id : String) (subject : Subject) : Value :=
  let team := snapshot.info? subject.team
  let record := snapshot.subjectRecord? subject
  match id with
  | "team" => .number (Float.ofNat subject.team)
  | "name" => named? (team.map TeamInfo.name)
  | "city" => named? (team.map TeamInfo.city)
  | "state_prov" => named? (team.map TeamInfo.stateProv)
  | "country" => named? (team.map TeamInfo.country)
  | "match_key" => named? subject.matchKey
  | "position" =>
    match subject.position.or (record.bind Record.position) with
    | some position => .number (Float.ofNat position)
    | none => .missing
  | "scouter" => named? (record.bind Record.scouter)
  | _ => .missing

end Snapshot

namespace OfficialResults

def teamValue? (results : OfficialResults) (team : Nat) (id : String) : Option Recorded :=
  (results.perTeam.find? team).bind (·.find? id)

def matchValue? (results : OfficialResults) (matchKey : String) (team : Nat) (id : String) :
    Option Recorded :=
  ((results.perMatch.find? matchKey).bind (·.find? team)).bind (·.find? id)

def matchValues (results : OfficialResults) (team : Nat) (id : String) : List (String × Recorded) :=
  inPlayOrder (·.1) (results.perMatch.keys.filterMap fun matchKey =>
    (results.matchValue? matchKey team id).map fun recorded => (matchKey, recorded))

/-- The imported value of a key. In a match, the value of the team as a whole stands in for one that
is absent; for the team as a whole, the values of its matches do. -/
def read (results : OfficialResults) (info : KeyInfo) (subject : Subject) : Value :=
  let ofTeam := results.teamValue? subject.team info.key.id
  match subject.matchKey with
  | some matchKey =>
    match (results.matchValue? matchKey subject.team info.key.id).or ofTeam with
    | some recorded => info.observe recorded
    | none => .missing
  | none =>
    match ofTeam, results.matchValues subject.team info.key.id with
    | some recorded, _ => info.observe recorded
    | none, [] => .missing
    | none, values => .list (values.map fun entry => info.observe entry.2)

end OfficialResults

/-- The value of a key for a subject; of a key inside a cycle, at one repetition if an index is
given. -/
def Catalog.read {σ : Type} (catalog : Catalog) (snapshot : Snapshot) (source : Source σ)
    (key : Key) (subject : Subject) (index : Option Nat) : Run σ Value := do
  let info ← ofExcept (catalog.resolve key)
  match key.space with
  | .result => return snapshot.readResult info subject index
  | .official => return catalog.official.read info subject
  | .identity => return snapshot.readIdentity key.id subject
  | .smart => source key.base subject

/-- Aggregates values read for a key: those of one of its options, or of the key as a whole. -/
def Catalog.aggregate {σ : Type} (catalog : Catalog) (key : Key) (values : List Value)
    (function : AggregateFunction) : Run σ Aggregate := do
  let info ← ofExcept (catalog.resolve key)
  match key.option with
  | some option => return aggregateOption values function option
  | none => return Scouting.aggregate values function info.valueKind

end Scouting
