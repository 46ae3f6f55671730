import Scouting.Text.Blank
import Scouting.Text.Natural

/-!
Keys name what can be read: a namespace, an id and possibly one option of a field with options,
written `result.climb.2`. Every text either spells exactly one key or is an unknown key.
-/

namespace Scouting

open Text

inductive Namespace where
  | result
  | official
  | smart
  | identity
  deriving DecidableEq

def Namespace.all : List Namespace := [.result, .official, .smart, .identity]

def Namespace.text : Namespace → String
  | .result => "result"
  | .official => "fms"
  | .smart => "smart"
  | .identity => "meta"

def Namespace.ofText? (text : String) : Option Namespace :=
  Namespace.all.find? fun space => space.text == text

structure Key where
  space : Namespace
  id : String
  option : Option Nat
  deriving DecidableEq

/-- What can go wrong when a key is looked up or a stat is evaluated. -/
inductive StatError where
  | unknownKey (text : String)
  /-- A stat was needed for its own value; the path leads from one stat to the next. -/
  | circular (path : List Key)
  /-- Something that a stat needs has no value for the subject. -/
  | missingOperand (reason : String)
  deriving DecidableEq

def isIdentifier (id : String) : Bool :=
  !id.toList.isEmpty && id.toList.all fun char => isAlphanumeric char || char = '_'

def splitFirst (separator : Char) : List Char → List Char × Option (List Char)
  | [] => ([], none)
  | char :: rest =>
    if char = separator then ([], some rest)
    else
      let (before, after) := splitFirst separator rest
      (char :: before, after)

namespace Key

def plain (space : Namespace) (id : String) : Key := ⟨space, id, none⟩

def result (id : String) : Key := plain .result id

def smart (id : String) : Key := plain .smart id

def base (key : Key) : Key := { key with option := none }

theorem base_of_whole {key : Key} (whole : key.option = none) : key.base = key := by
  rw [base, ← whole]

def text (key : Key) : String :=
  let name := key.space.text ++ "." ++ key.id
  match key.option with
  | none => name
  | some option => name ++ "." ++ toString option

def readOption? : Option (List Char) → Option (Option Nat)
  | none => some none
  | some digits => (readNatural bound64 digits).map some

def ofText? (text : String) : Option Key := do
  let (space, rest) := splitFirst '.' (trim text.toList)
  let space ← Namespace.ofText? (String.ofList space)
  let (id, rest) := splitFirst '.' (← rest)
  let id := String.ofList id
  if isIdentifier id then return ⟨space, id, ← readOption? rest⟩ else none

/-- The key that a text spells; any other text is an unknown key. -/
def parse (text : String) : Except StatError Key :=
  match ofText? text with
  | some key => .ok key
  | none => .error (.unknownKey text)

end Key

/-- The namespace with a written form; any other text is an unknown key. -/
def Namespace.parse (text : String) : Except StatError Namespace :=
  match Namespace.ofText? text with
  | some space => .ok space
  | none => .error (.unknownKey text)

def StatError.message : StatError → String
  | .unknownKey text => "Unknown key: " ++ text
  | .circular path => "Circular smart stat dependency: " ++ " -> ".intercalate (path.map Key.text)
  | .missingOperand reason => "Missing operand: " ++ reason

abbrev Run (σ α : Type) := ExceptT StatError (StateM σ) α

end Scouting
