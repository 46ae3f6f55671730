import Scouting.Settings
import Scouting.Stat.Evaluation
import Scouting.Stat.Validation

/-!
Events: everything that is loaded about one event, and the answers to be had from it. Answers come
from a snapshot; records that arrive or change count only once a new snapshot is taken.
-/

namespace Scouting

structure Event where
  store : Store
  config : Configuration
  settings : Settings
  catalog : Catalog
  stats : StatSet
  /-- The stats that cannot be used: those that did not decode, then those found faulty. -/
  exclusions : List Exclusion
  snapshot : Snapshot

namespace Event

def undecoded (config : Configuration) : List Exclusion :=
  config.rejected.map fun id => ⟨id, .malformed⟩

def ofInputs (records : List Record) (config : Configuration) (official : OfficialResults)
    (settings : Settings) : Event :=
  let validation :=
    Validation.ofDefinitions config.definitions (Catalog.ofFields config.fields official)
  { store := ⟨records⟩
    config, settings
    catalog := validation.catalog
    stats := StatSet.ofList validation.stats
    exclusions := undecoded config ++ validation.exclusions
    snapshot := Snapshot.ofStore ⟨records⟩ config.teams }

def rebuild (event : Event) : Event :=
  { event with snapshot := Snapshot.ofStore event.store event.config.teams }

def insert (event : Event) (record : Record) : Nat × Event :=
  let (id, store) := event.store.insert record
  (id, { event with store })

def setIgnored (event : Event) (id : Nat) (ignored : Bool) : Except StoreError Event := do
  return { event with store := ← event.store.setIgnored id ignored }

def setUnsure (event : Event) (id : Nat) (unsure : Bool) (reason : String) :
    Except StoreError Event := do
  return { event with store := ← event.store.setUnsure id unsure reason }

def teams (event : Event) : List Nat := event.snapshot.teams

def parseKey (event : Event) (text : String) : Except StatError Key := event.catalog.parse text

def environment (event : Event) : Environment :=
  ⟨event.stats, event.snapshot, event.catalog, event.settings.function⟩

def defaultFunction (event : Event) (key : Key) : AggregateFunction :=
  event.environment.defaultFunction key

def isNegative (event : Event) (key : Key) : Except StatError Bool := do
  return (← event.catalog.resolve key).isNegative key.option

def readIn (event : Event) (key : Key) (subject : Subject) (index : Option Nat) : Run Memo Value :=
  event.catalog.read event.snapshot event.environment.source key subject index

/-- The value of a key for a subject; of a key inside a cycle, at one repetition if an index is
given. -/
def read (event : Event) (key : Key) (subject : Subject) (index : Option Nat) :
    Except StatError Value :=
  Environment.evaluate (event.readIn key subject index)

/-- The value of a key for a subject, where any failure but an unknown key counts as missing. -/
def readOrMissing (event : Event) (key : Key) (subject : Subject) : Run Memo Value :=
  tryCatch (event.readIn key subject none) fun error => match error with
    | .unknownKey text => throw (.unknownKey text)
    | _ => return .missing

def statIn (event : Event) (key : Key) (subject : Option Subject) (function : AggregateFunction) :
    Run Memo Aggregate := do
  let subjects := match subject with
    | some subject => [subject]
    | none => event.teams.map Subject.ofTeam
  event.catalog.aggregate key (← subjects.mapM (event.readOrMissing key)) function

def stat (event : Event) (key : Key) (subject : Option Subject)
    (function : Option AggregateFunction) : Except StatError Aggregate := do
  let _ ← event.catalog.resolve key
  Environment.evaluate (event.statIn key subject (function.getD (event.defaultFunction key)))

def teamStats (event : Event) (key : Key) (teams : List Nat)
    (function : Option AggregateFunction) : Except StatError (List Aggregate) := do
  let _ ← event.catalog.resolve key
  let function := function.getD (event.defaultFunction key)
  Environment.evaluate
    (teams.mapM fun team => event.statIn key (some (Subject.ofTeam team)) function)

def displayName (event : Event) (key : Key) (function : Option AggregateFunction) : String :=
  event.catalog.displayName key function

/-- The labels by which an aggregate of a key is shown: its options, unless it is one of them. -/
def labels (event : Event) (key : Key) : List String :=
  match key.option, event.catalog.resolve key with
  | none, .ok info => info.options
  | _, _ => []

def display (event : Event) (key : Key) (aggregate : Aggregate) : String :=
  aggregate.display (event.labels key) event.settings.places

end Event

end Scouting
