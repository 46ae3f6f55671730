import Scouting.Command

/-!
Command lines: a command's name, its key, and options that are written with two dashes and a name or
with one dash and a letter.
-/

namespace Scouting

structure LineOption where
  name : String
  letter : Option Char

structure LineArguments where
  words : List String
  values : List (String × String)
  switches : List String

namespace LineArguments

def empty : LineArguments := ⟨[], [], []⟩

def value? (arguments : LineArguments) (name : String) : Option String :=
  arguments.values.reverse.lookup name

def listed (arguments : LineArguments) (name : String) : List String :=
  (arguments.values.filter (·.1 == name)).flatMap fun entry =>
    (Text.splitAt ',' entry.2.toList).map String.ofList

def spelled? (options : List LineOption) (word : String) : Option (String × Option String) :=
  match word.toList with
  | '-' :: '-' :: rest =>
    let (name, value) := splitFirst '=' rest
    (options.find? (·.name == String.ofList name)).map fun option =>
      (option.name, value.map String.ofList)
  | '-' :: letter :: rest =>
    (options.find? (·.letter == some letter)).map fun option =>
      (option.name, if rest.isEmpty then none else some (String.ofList rest))
  | _ => none

def read (options : List LineOption) (switches : List String) :
    List String → LineArguments → Except String LineArguments
  | [], arguments => .ok arguments
  | word :: rest, arguments =>
    if switches.contains word then
      read options switches rest { arguments with switches := arguments.switches ++ [word] }
    else if word.toList.head? ≠ some '-' then
      read options switches rest { arguments with words := arguments.words ++ [word] }
    else match spelled? options word, rest with
      | some (name, some value), rest =>
        read options switches rest { arguments with values := arguments.values ++ [(name, value)] }
      | some (name, none), value :: rest =>
        read options switches rest { arguments with values := arguments.values ++ [(name, value)] }
      | some (name, none), [] => .error ("a value is required for '--" ++ name ++ "'")
      | none, _ => .error ("unexpected argument '" ++ word ++ "'")

end LineArguments

namespace CommandLine

def sourceOptions : List LineOption :=
  [⟨"records", some 'r'⟩, ⟨"config", some 'c'⟩, ⟨"fms", none⟩, ⟨"settings", none⟩]

/-- The value of an option, or else of a variable of the environment. -/
def valueOr (environment : String → Option String) (arguments : LineArguments)
    (name fallback : String) : Option String :=
  (arguments.value? name).or (environment fallback)

/-- An option that has to be given. -/
def demanded (name : String) : Option String → Except String String
  | some value => .ok value
  | none => .error ("the option '--" ++ name ++ "' is required")

def sources (environment : String → Option String) (arguments : LineArguments) :
    Except String Sources := do
  return {
    records := ← demanded "records" (valueOr environment arguments "records" "SCOUT_RECORDS")
    config := ← demanded "config" (valueOr environment arguments "config" "SCOUT_CONFIG")
    official := arguments.value? "fms"
    settings := valueOr environment arguments "settings" "SCOUT_SETTINGS" }

def number (bound : Nat) (name text : String) : Except String Nat :=
  match Text.readNatural bound text.toList with
  | some value => .ok value
  | none => .error ("invalid value '" ++ text ++ "' for '--" ++ name ++ "'")

def number? (bound : Nat) (arguments : LineArguments) (name : String) :
    Except String (Option Nat) :=
  (arguments.value? name).mapM (number bound name)

def function? (arguments : LineArguments) : Except String (Option AggregateFunction) :=
  (arguments.value? "function").mapM fun name =>
    match AggregateFunction.byName.lookup name with
    | some function => .ok function
    | none => .error ("invalid value '" ++ name ++ "' for '--function'")

/-- The key that is asked for, the only word of a command. -/
def key (arguments : LineArguments) : Except String String :=
  match arguments.words with
  | [key] => .ok key
  | _ => .error "exactly one key is required"

/-- The switches that every command takes; they change nothing that is printed. -/
def commonSwitches : List String := ["-v", "--verbose"]

def stat (environment : String → Option String) (words : List String) : Except String Command := do
  let options := sourceOptions ++
    [⟨"team", some 't'⟩, ⟨"match", some 'm'⟩, ⟨"function", some 'f'⟩]
  let arguments ← LineArguments.read options ("--raw" :: commonSwitches) words .empty
  return .stat {
    sources := ← sources environment arguments
    key := ← key arguments
    team := ← number? Text.bound32 arguments "team"
    matchKey := arguments.value? "match"
    function := ← function? arguments
    raw := arguments.switches.contains "--raw" }

def rank (environment : String → Option String) (words : List String) : Except String Command := do
  let options := sourceOptions ++
    [⟨"teams", some 't'⟩, ⟨"from-list", none⟩, ⟨"picklists", some 'p'⟩, ⟨"save", some 's'⟩,
      ⟨"function", some 'f'⟩, ⟨"top", none⟩, ⟨"output", some 'o'⟩]
  let arguments ← LineArguments.read options commonSwitches words .empty
  return .rank {
    sources := ← sources environment arguments
    key := ← key arguments
    teams := ← (arguments.listed "teams").mapM (number Text.bound32 "teams")
    fromList := arguments.value? "from-list"
    picklists := (arguments.value? "picklists").getD "picklists.json"
    save := arguments.value? "save"
    function := ← function? arguments
    top := ← number? Text.bound64 arguments "top"
    output := arguments.value? "output" }

def keys (environment : String → Option String) (words : List String) : Except String Command := do
  let options := sourceOptions ++ [⟨"namespace", some 'n'⟩, ⟨"kind", some 'k'⟩]
  let arguments ← LineArguments.read options commonSwitches words .empty
  return .keys {
    sources := ← sources environment arguments
    space := arguments.value? "namespace"
    kinds := arguments.listed "kind" }

def validate (words : List String) : Except String Command := do
  let options : List LineOption := [⟨"config", some 'c'⟩, ⟨"fms", none⟩]
  let arguments ← LineArguments.read options commonSwitches words .empty
  return .validate {
    config := ← demanded "config" (arguments.value? "config")
    official := arguments.value? "fms" }

def read (environment : String → Option String) (words : List String) : Except String Command :=
  match words.filter fun word => !commonSwitches.contains word with
  | "stat" :: words => stat environment words
  | "rank" :: words => rank environment words
  | "keys" :: words => keys environment words
  | "validate" :: words => validate words
  | ["version"] => .ok .version
  | _ => .error "expected one of the commands stat, rank, validate, keys, version"

end CommandLine

namespace Sources

def paths (sources : Sources) : List String :=
  [sources.records, sources.config] ++ sources.official.toList ++ sources.settings.toList

end Sources

def Command.paths : Command → List String
  | .stat request => request.sources.paths
  | .rank request => request.sources.paths ++ [request.picklists] ++ request.output.toList
  | .keys request => request.sources.paths
  | .validate request => request.config :: request.official.toList
  | .version => []

def Failure.report (failure : Failure) : String :=
  match failure.messages with
  | [] => "Error"
  | [message] => "Error: " ++ message
  | [message, cause] => "Error: " ++ message ++ "\n\nCaused by:\n    " ++ cause
  | message :: causes =>
    "Error: " ++ message ++ "\n\nCaused by:" ++
      String.join (causes.mapIdx fun index cause => "\n    " ++ toString index ++ ": " ++ cause)

end Scouting
