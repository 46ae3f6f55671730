import Scouting.Session

/-!
Commands: computing a stat, ranking teams, listing keys, validating a configuration and telling the
version, each from files to printed lines and written files.
-/

namespace Scouting

structure Sources where
  records : String
  config : String
  official : Option String
  settings : Option String

structure StatRequest where
  sources : Sources
  key : String
  team : Option Nat
  matchKey : Option String
  function : Option AggregateFunction
  /-- Are the values to be printed and not their aggregate? -/
  raw : Bool

structure RankRequest where
  sources : Sources
  key : String
  /-- The teams to rank; none means all. -/
  teams : List Nat
  fromList : Option String
  picklists : String
  save : Option String
  function : Option AggregateFunction
  top : Option Nat
  output : Option String

structure KeysRequest where
  sources : Sources
  space : Option String
  kinds : List String

structure ValidateRequest where
  config : String
  official : Option String

inductive Command where
  | stat (request : StatRequest)
  | rank (request : RankRequest)
  | keys (request : KeysRequest)
  | validate (request : ValidateRequest)
  | version

namespace Command

open Session

def programVersion : String := "0.1.0"

def schemaVersion : String := "1.0.0"

def loadRecords (path : String) : Session (List Record) :=
  within ("Failed to load records from " ++ path) do ofInput (Record.decodeAll (← readJson path))

def loadConfig (path : String) : Session Configuration :=
  within ("Failed to load config from " ++ path) do ofInput (Configuration.decode (← readJson path))

def loadOfficial : Option String → Session OfficialResults
  | none => return OfficialResults.empty
  | some path =>
    within ("Failed to load official results from " ++ path) do
      ofInput (OfficialResults.decode (← readJson path))

def loadSettings : Option String → Session Settings
  | none => return Settings.standard
  | some path => within ("Failed to load settings from " ++ path) (readSettings path)

def loadEvent (sources : Sources) : Session Event := do
  let records ← loadRecords sources.records
  let config ← loadConfig sources.config
  let official ← loadOfficial sources.official
  let settings ← loadSettings sources.settings
  return Event.ofInputs records config official settings

mutual

def valueLines : Value → List String
  | .missing => ["  (missing)"]
  | .bool value => [if value then "  true" else "  false"]
  | .number value => ["  " ++ Decimal.plain value]
  | .choice index => ["  option " ++ toString index]
  | .flags values =>
    ["  [" ++ ", ".intercalate (values.map fun value => if value then "true" else "false") ++ "]"]
  | .text value => ["  " ++ value]
  | .cycles entries => ["  " ++ toString entries.length ++ " cycles"]
  | .list items => itemLines items

def itemLines : List Value → List String
  | [] => []
  | value :: rest => valueLines value ++ itemLines rest

end

def checkStat (request : StatRequest) : Session Unit := do
  if Text.isBlankText request.key then refuse "Key cannot be empty"
  if request.matchKey.isSome && request.team.isNone then refuse "--match requires --team"
  if request.raw && request.team.isNone then refuse "--raw requires --team"

/-- The subject of a stat request; none is the whole event. -/
def StatRequest.subject (request : StatRequest) : Option Subject :=
  request.team.map fun team => ⟨team, request.matchKey, none⟩

def printValues (event : Event) (key : Key) (subject : Subject) : Session Unit := do
  let value ← ofLookup (event.read key subject none)
  print (event.displayName key none ++ " for " ++ subject.text ++ ":")
  (valueLines value).forM print

def runStat (request : StatRequest) : Session Unit := do
  checkStat request
  let event ← loadEvent request.sources
  let key ← within ("Cannot compute '" ++ request.key ++ "'")
    (ofLookup (event.parseKey request.key))
  let subject := StatRequest.subject request
  match request.raw, subject with
  | true, some subject => printValues event key subject
  | true, none => refuse "--raw needs a --team"
  | false, subject =>
    let function := request.function.getD (event.defaultFunction key)
    let aggregate ← ofLookup (event.stat key subject (some function))
    let scope := (subject.map Subject.text).getD "event"
    print (event.displayName key (some function) ++ " [" ++ scope ++ "]: " ++
      event.display key aggregate)

def checkRank (request : RankRequest) : Session Unit := do
  if Text.isBlankText request.key then refuse "Key cannot be empty"
  if request.fromList.isSome && !request.teams.isEmpty then
    refuse "Use either --teams or --from-list, not both"
  if request.top = some 0 then refuse "--top must be greater than 0"
  if request.save.any Text.isBlankText then refuse "Picklist name cannot be empty"

def listedTeam? (entry : String) : Option Nat :=
  Text.readNatural Text.bound32 (Text.trim entry.toList)

def chooseTeams (request : RankRequest) (event : Event) (picklists : Picklists) :
    Session (List Nat) :=
  match request.fromList with
  | some name => match picklists.get? name with
    | some teams => return teams.filterMap listedTeam?
    | none => refuse ("No picklist named '" ++ name ++ "'")
  | none => return if request.teams.isEmpty then event.teams else request.teams

def aggregateDocument : Aggregate → Json
  | .noData => .object [("kind", .text "no_data")]
  | .bool value => .object [("kind", .text "bool"), ("value", .bool value)]
  | .number value => .object [("kind", .text "number"), ("value", .float value)]
  | .choice index => .object [("kind", .text "choice"), ("value", .integer index)]
  | .counts values =>
    .object [("kind", .text "counts"),
      ("value", .array (values.map fun (count : Nat) => .integer count))]
  | .text value => .object [("kind", .text "text"), ("value", .text value)]

def rankingDocument (ranking : Ranking) : Json :=
  .object [("key", .text ranking.key.text), ("function", .text ranking.function.name),
    ("negative", .bool ranking.negative),
    ("entries", .array (ranking.entries.map fun entry =>
      .object [("team", .integer entry.team), ("value", aggregateDocument entry.value)]))]

def savePicklist (request : RankRequest) (picklists : Picklists) (ranking : Ranking) :
    Session Unit :=
  match request.save with
  | none => return
  | some name =>
    within "Failed to save picklist"
      (writeJson request.picklists (picklists.replace name ranking.toPicklist).toJson)

def writeRanking (request : RankRequest) (ranking : Ranking) : Session Unit :=
  match request.output with
  | none => return
  | some path => within "Failed to write ranking JSON" (writeJson path (rankingDocument ranking))

def runRank (request : RankRequest) : Session Unit := do
  checkRank request
  let event ← loadEvent request.sources
  let key ← within ("Cannot rank by '" ++ request.key ++ "'")
    (ofLookup (event.parseKey request.key))
  let picklists ← within ("Failed to read picklists from " ++ request.picklists)
    (readPicklists request.picklists)
  let teams ← chooseTeams request event picklists
  let ranking ← ofLookup (event.ranking key teams request.function)
  print (Report.ranking event ranking request.top)
  savePicklist request picklists ranking
  writeRanking request ranking

/-- The kind of field that a text names, whatever its case. -/
def chooseKind (name : String) : Session FieldKind :=
  match FieldKind.byName.lookup (Text.lowercase name) with
  | some kind => return kind
  | none => within ("Unknown field kind '" ++ name ++ "'") (fail .fieldKind)

def chooseNamespace : Option String → Session (Option Namespace)
  | none => return none
  | some name =>
    within "Unknown namespace (expected result, fms, smart or meta)" do
      return some (← ofLookup (Namespace.parse name))

def runKeys (request : KeysRequest) : Session Unit := do
  let space ← chooseNamespace request.space
  let kinds ← request.kinds.mapM chooseKind
  let event ← loadEvent request.sources
  let infos := event.catalog.list space kinds
  print (Report.keys infos)
  print ""
  print (toString infos.length ++ " keys")

def exclusionLine (exclusion : Exclusion) : String :=
  "  ✗ " ++ exclusion.id ++ ": " ++ exclusion.fault.message

def runValidate (request : ValidateRequest) : Session Unit := do
  print ("Validating config: " ++ request.config)
  let config ← loadConfig request.config
  let official ← loadOfficial request.official
  let event := Event.ofInputs [] config official Settings.standard
  let declared := config.definitions.length + config.rejected.length
  print ("  Fields: " ++ toString config.fields.length)
  print ("  Smart Stats: " ++ toString event.stats.size ++ " valid of " ++ toString declared)
  if event.exclusions.isEmpty then print "✓ Valid config"
  else
    event.exclusions.forM fun exclusion => print (exclusionLine exclusion)
    refuse (toString event.exclusions.length ++ " invalid smart stat(s)")

def runVersion : Session Unit := do
  print ("Scout Stats v" ++ programVersion)
  print ("Config Schema: v" ++ schemaVersion)
  print ""
  print "Derived stats, aggregation and rankings for competition scouting data."

def run : Command → Session Unit
  | stat request => runStat request
  | rank request => runRank request
  | keys request => runKeys request
  | validate request => runValidate request
  | version => runVersion

/-- What a command comes to in a folder: a failure, if any, and what it printed and wrote. -/
def runIn (command : Command) (folder : Folder) : Except Failure Unit × Console :=
  (run command).run.run ⟨folder, [], []⟩

end Command

end Scouting
