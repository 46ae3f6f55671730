import Scouting.Dictionary

/-!
JSON documents. A number that is written without a point and an exponent and fits in sixty-four
bits is an integer, any other number a double; the two are told apart wherever a document is
decoded.
-/

namespace Scouting

/-- A JSON document. The members of an object are listed in the order they are written in. -/
inductive Json where
  | null
  | bool (value : Bool)
  | integer (value : Int)
  | float (value : Float)
  | text (value : String)
  | array (items : List Json)
  | object (members : List (String × Json))

namespace Json

instance : Inhabited Json := ⟨null⟩

def member? (name : String) : Json → Option Json
  | object members => members.lookup name
  | _ => none

def items? : Json → Option (List Json)
  | array items => some items
  | _ => none

def bool? : Json → Option Bool
  | bool value => some value
  | _ => none

def text? : Json → Option String
  | text value => some value
  | _ => none

/-- An integer from zero up to a bound that it does not reach. -/
def natural? (bound : Nat) : Json → Option Nat
  | integer (.ofNat value) => if value < bound then some value else none
  | _ => none

def number? : Json → Option Float
  | integer value => some (Float.ofInt value)
  | float value => some value
  | _ => none

def list? {α : Type} (decode : Json → Option α) : Json → Option (List α)
  | array items => items.mapM decode
  | _ => none

def map? {κ α : Type} [LT κ] [DecidableLT κ] [DecidableEq κ] [LE κ] [Std.IsLinearOrder κ]
    [Std.LawfulOrderLT κ] (decodeName : String → Option κ) (decode : Json → Option α) :
    Json → Option (Dictionary κ α)
  | object members =>
    let entries : Option (List (κ × α)) := members.mapM fun (name, json) => do
      return (← decodeName name, ← decode json)
    entries.map Dictionary.ofList
  | _ => none

/-- A structure as a list of named members. An object gives them by name; an array gives them in
declared order and may stop early, but has no more items than there are names. -/
def structure? (names : List String) : Json → Option (List (String × Json))
  | object members => some members
  | array items => if items.length ≤ names.length then some (names.zip items) else none
  | _ => none

/-- A member that has to be there. -/
def required {α : Type} (members : List (String × Json)) (name : String)
    (decode : Json → Option α) : Option α :=
  (members.lookup name).bind decode

/-- A member that has a default; written out, it has to decode. -/
def withDefault {α : Type} (members : List (String × Json)) (name : String) (default : α)
    (decode : Json → Option α) : Option α :=
  match members.lookup name with
  | none => some default
  | some json => decode json

def optional {α : Type} (members : List (String × Json)) (name : String)
    (decode : Json → Option α) : Option (Option α) :=
  match members.lookup name with
  | none => some none
  | some null => some none
  | some json => (decode json).map some

/-- One of several named alternatives: its name, or an object that binds only its name to null. -/
def choice? {α : Type} (alternatives : List (String × α)) : Json → Option α
  | text name => alternatives.lookup name
  | object [(name, null)] => alternatives.lookup name
  | _ => none

def parameterChoice? {α : Type} (alternatives : List (String × α)) : Json → Option α
  | object [(name, object [])] => alternatives.lookup name
  | json => choice? alternatives json

def members? : Json → Option (List (String × Json))
  | object members => some members
  | _ => none

end Json

end Scouting
