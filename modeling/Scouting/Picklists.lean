import Scouting.Json.Basic

/-!
Picklists: named, ordered lists of teams. One name is kept for the teams that are already picked.
-/

namespace Scouting

structure Picklists where
  lists : Dictionary String (List String)

inductive PicklistError where
  | alreadyExists (name : String)
  | notFound (name : String)
  | notListed (name team : String)
  deriving DecidableEq

def PicklistError.message : PicklistError → String
  | .alreadyExists name => "List \"" ++ name ++ "\" already exists"
  | .notFound name => "List \"" ++ name ++ "\" does not exist"
  | .notListed name team => "Team " ++ team ++ " is not in list \"" ++ name ++ "\""

namespace Picklists

def empty : Picklists := ⟨Dictionary.empty⟩

def pickedName : String := "picked"

def ofJson? (json : Json) : Option Picklists :=
  (Json.map? some (Json.list? Json.text?) json).map Picklists.mk

def toJson (picklists : Picklists) : Json :=
  .object (picklists.lists.entries.map fun (name, teams) => (name, .array (teams.map .text)))

def get? (picklists : Picklists) (name : String) : Option (List String) :=
  picklists.lists.find? name

def names (picklists : Picklists) : List String := picklists.lists.keys

def size (picklists : Picklists) : Nat := picklists.lists.size

def isEmpty (picklists : Picklists) : Bool := picklists.lists.isEmpty

def replace (picklists : Picklists) (name : String) (teams : List String) : Picklists :=
  ⟨picklists.lists.insert name teams⟩

def erase (picklists : Picklists) (name : String) : Picklists := ⟨picklists.lists.erase name⟩

@[simp] theorem get?_empty (name : String) : empty.get? name = none := rfl

@[simp] theorem get?_replace (picklists : Picklists) (name other : String) (teams : List String) :
    (picklists.replace name teams).get? other =
      if other = name then some teams else picklists.get? other :=
  Dictionary.find?_insert picklists.lists name other teams

@[simp] theorem get?_erase (picklists : Picklists) (name other : String) :
    (picklists.erase name).get? other = if other = name then none else picklists.get? other :=
  Dictionary.find?_erase picklists.lists name other

/-- An edit of picklists in place. It comes with an outcome and with the lists as they are then,
also where it fails. -/
abbrev Edit (α : Type) := ExceptT PicklistError (StateM Picklists) α

def perform {α : Type} (picklists : Picklists) (edit : Edit α) :
    Except PicklistError α × Picklists :=
  edit.run.run picklists

/-- The teams of a list, which has to exist. -/
def teamsOf (name : String) : Edit (List String) := do
  match (← get).get? name with
  | some teams => return teams
  | none => throw (.notFound name)

def create (name : String) : Edit Unit := do
  if ((← get).get? name).isSome then throw (.alreadyExists name)
  else modify (·.replace name [])

def delete (name : String) : Edit (List String) := do
  let teams ← teamsOf name
  modify (·.erase name)
  return teams

/-- Gives a list another name, which has to be free. -/
def rename (old new : String) : Edit Unit := do
  if ((← get).get? new).isSome then throw (.alreadyExists new)
  else
    let teams ← delete old
    modify (·.replace new teams)

def placeAfter (team anchor : String) : List String → List String
  | [] => []
  | first :: rest =>
    if first = anchor then first :: team :: rest else first :: placeAfter team anchor rest

/-- Moves or adds a team to a list, right after another team or to the front. The team is taken out
before it is known whether the other team is listed. -/
def insertAfter (name team : String) (after : Option String) : Edit Unit :=
  if after = some team then return ()
  else do
    let others := (← teamsOf name).filter (· ≠ team)
    modify (·.replace name others)
    match after with
    | none => modify (·.replace name (team :: others))
    | some anchor =>
      if anchor ∈ others then modify (·.replace name (placeAfter team anchor others))
      else throw (.notListed name anchor)

def removeTeam (name team : String) : Edit Unit := do
  let teams ← teamsOf name
  if team ∈ teams then modify (·.replace name (teams.erase team))
  else throw (.notListed name team)

def picked (picklists : Picklists) : List String := (picklists.get? pickedName).getD []

def isPicked (picklists : Picklists) (team : String) : Bool := picklists.picked.contains team

/-- Picks a team, or takes back that it is picked; tells whether it is picked now. -/
def crossOut (picklists : Picklists) (team : String) : Bool × Picklists :=
  if team ∈ picklists.picked then
    (false, picklists.replace pickedName (picklists.picked.erase team))
  else (true, picklists.replace pickedName (picklists.picked ++ [team]))

def pruneEmpty (picklists : Picklists) : Nat × Picklists :=
  let kept := picklists.lists.filter fun entry => !entry.2.isEmpty
  (picklists.size - kept.size, ⟨kept⟩)

end Picklists

end Scouting
