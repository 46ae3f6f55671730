import Scouting.Catalog
import Scouting.Expression.Basic

/-!
Plans: what a stat computes once every reference in its definition is resolved to a key.
-/

namespace Scouting

structure WeightedTerm where
  key : Key
  weight : Float
  negative : Bool

inductive Plan where
  | filter (key : Option Key) (condition : Key) (comparison : Comparison) (threshold : Float)
  | map (key : Key) (table : List Float) (scale offset : Float)
  /-- An expression, with the keys that its names mean. -/
  | math (expression : Expression) (bindings : List (String × Key))
  | extreme (extreme : Extreme) (keys : List Key)
  | weightedRank (terms : List WeightedTerm)
  /-- The repetitions of a cycle in which every input reads as its target. -/
  | repetitions (cycle : Key) (conditions : List (KeyInfo × Float))
    (sum denominator : Option KeyInfo)
  | sum (keys : List Key)
  | ratio (numerator denominator : Key)
  | percent (numerator denominator : Key)

def Plan.keys : Plan → List Key
  | filter key condition _ _ => key.toList ++ [condition]
  | map key _ _ _ => [key]
  | math _ bindings => bindings.map (·.2)
  | extreme _ keys => keys
  | weightedRank terms => terms.map WeightedTerm.key
  | repetitions cycle _ _ _ => [cycle]
  | sum keys => keys
  | ratio numerator denominator => [numerator, denominator]
  | percent numerator denominator => [numerator, denominator]

structure Stat where
  definition : StatDefinition
  plan : Plan

namespace Stat

def key (stat : Stat) : Key := Key.smart stat.definition.id

def isTeamScoped (stat : Stat) : Bool := stat.definition.isTeamScoped

def dependencies (stat : Stat) : List Key :=
  (stat.plan.keys.filter fun key => key.space = .smart).map Key.base

theorem base_mem_dependencies {stat : Stat} {key : Key} (inPlan : key ∈ stat.plan.keys)
    (smart : key.space = .smart) : key.base ∈ stat.dependencies :=
  List.mem_map_of_mem (List.mem_filter.mpr ⟨inPlan, by simpa using smart⟩)

end Stat

structure StatSet where
  stats : List Stat

namespace StatSet

/-- Adds a stat: in place of the one with its key, or after all others. -/
def insertInto (stat : Stat) : List Stat → List Stat
  | [] => [stat]
  | first :: rest => if first.key = stat.key then stat :: rest else first :: insertInto stat rest

/-- The set of some stats; of several with one key the last one counts. -/
def ofList (stats : List Stat) : StatSet :=
  ⟨stats.foldl (fun sorted stat => insertInto stat sorted) []⟩

/-- The stat of a key, whatever its option. -/
def find? (set : StatSet) (key : Key) : Option Stat :=
  set.stats.find? fun stat => stat.key = key.base

theorem find?_insertInto (stat : Stat) (key : Key) (stats : List Stat) :
    (insertInto stat stats).find? (fun other => other.key = key) =
      if stat.key = key then some stat else stats.find? fun other => other.key = key := by
  induction stats with
  | nil => by_cases same : stat.key = key <;> simp [insertInto, same]
  | cons first rest ih => grind [insertInto]

def size (set : StatSet) : Nat := set.stats.length

def isEmpty (set : StatSet) : Bool := set.stats.isEmpty

end StatSet

end Scouting
