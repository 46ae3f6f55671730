import Scouting.Event
import Scouting.Sorting

/-!
Rankings of teams by a key, the best first. Equal teams keep the order in which they were given, or
the reverse of it where lower is better; teams without a number come last, by number of the team.
Many teams can be ranked only if their numbers can be compared.
-/

namespace Scouting

structure RankedTeam where
  team : Nat
  value : Aggregate
  deriving DecidableEq

structure Ranking where
  key : Key
  function : AggregateFunction
  negative : Bool
  entries : List RankedTeam

namespace Ranking

def order (ranking : Ranking) : List Nat := ranking.entries.map RankedTeam.team

def toPicklist (ranking : Ranking) : List String := ranking.order.map toString

def rankedCount (ranking : Ranking) : Nat :=
  (ranking.entries.filter fun entry => entry.value.reading.isSome).length

def withReading? (entry : RankedTeam) : Option (RankedTeam × Float) :=
  entry.value.reading.map fun number => (entry, number)

/-- Teams with a number, by descending number; equal ones keep their order. -/
def descending (entries : List RankedTeam) : List RankedTeam :=
  (sortedBy (fun left right => !(left.2 < right.2)) (entries.filterMap withReading?)).map (·.1)

def valued (negative : Bool) (entries : List RankedTeam) : List RankedTeam :=
  if negative then (descending entries).reverse else descending entries

def unvalued (entries : List RankedTeam) : List RankedTeam :=
  sortedBy (fun left right => left.team ≤ right.team)
    (entries.filter fun entry => entry.value.reading.isNone)

def arrange (negative : Bool) (entries : List RankedTeam) : List RankedTeam :=
  valued negative entries ++ unvalued entries

def numbers (entries : List RankedTeam) : List Float :=
  entries.filterMap fun entry => entry.value.reading

/-- Is the sort of the teams with a number sure to end? -/
def Sorts (entries : List RankedTeam) : Prop :=
  Sortable (fun left right => !(left < right)) (numbers entries)

instance (entries : List RankedTeam) : Decidable (Sorts entries) :=
  inferInstanceAs (Decidable (Sortable _ _))

end Ranking

namespace Event

def ranking (event : Event) (key : Key) (teams : List Nat) (function : Option AggregateFunction) :
    Except StatError Ranking := do
  let function := function.getD (event.defaultFunction key)
  let negative ← event.isNegative key
  let values ← event.teamStats key teams (some function)
  let entries := teams.zipWith RankedTeam.mk values
  return { key, function, negative, entries := Ranking.arrange negative entries }

def rank (event : Event) (key : Key) (teams : List Nat) : Except StatError (List Nat) :=
  Ranking.order <$> event.ranking key teams none

/-- What ranking teams comes to; nothing if their sort may give up, which ends the program. -/
def ranking? (event : Event) (key : Key) (teams : List Nat) (function : Option AggregateFunction) :
    Option (Except StatError Ranking) :=
  match event.ranking key teams function with
  | .ok ranking => if Ranking.Sorts ranking.entries then some (.ok ranking) else none
  | .error failure => some (.error failure)

end Event

end Scouting
