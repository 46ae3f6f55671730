import Scouting.Aggregate
import Scouting.Json.Basic

/-!
Stat definitions as a configuration writes them: an id, an operator with its parameters, and how the
values are to be shown and aggregated. Keys are still plain references here.
-/

namespace Scouting

inductive Comparison where
  | greater
  | greaterEqual
  | equal
  | notEqual
  | lessEqual
  | less
  deriving DecidableEq

namespace Comparison

def holds : Comparison → Float → Float → Bool
  | greater, left, right => right < left
  | greaterEqual, left, right => right ≤ left
  | equal, left, right => left == right
  | notEqual, left, right => left != right
  | lessEqual, left, right => left ≤ right
  | less, left, right => left < right

def bySign : List (String × Comparison) :=
  [(">", greater), (">=", greaterEqual), ("=", equal), ("==", equal), ("!=", notEqual),
    ("<=", lessEqual), ("<", less)]

end Comparison

inductive Extreme where
  | min
  | max
  deriving DecidableEq

def Extreme.byName : List (String × Extreme) := [("min", min), ("max", max)]

/-- A reference and how much it counts in a weighted rank. -/
structure WeightedReference where
  reference : String
  weight : Float

def WeightedReference.ofJson? (json : Json) : Option WeightedReference := do
  let members ← json.structure? ["key", "weight"]
  return {
    reference := ← Json.required members "key" Json.text?
    weight := ← Json.withDefault members "weight" 1.0 Json.number? }

inductive Operator where
  /-- Counts the matches in which a condition holds, or aggregates a key over them. -/
  | filter (key : Option String) (condition : String) (comparison : Comparison) (value : Json)
  /-- Looks observations up in a table, or scales and shifts them. -/
  | map (key : String) (table : List Float) (scale offset : Float)
  | math (source : String)
  /-- The least or greatest observation of several keys. -/
  | extreme (extreme : Extreme) (keys : List String)
  /-- The weighted mean of where a team stands among all teams. -/
  | weightedRank (terms : List WeightedReference)
  /-- Counts or adds up the repetitions of a cycle that meet conditions. -/
  | repetitions (cycle : String) (conditions : Dictionary String Json)
    (sum denominator : Option String)
  | sum (keys : List String)
  | ratio (numerator denominator : String)
  | percent (numerator denominator : String)

inductive OperatorKind where
  | filter
  | map
  | math
  | extreme
  | weightedRank
  | repetitions
  | sum
  | ratio
  | percent
  deriving DecidableEq

namespace OperatorKind

def all : List OperatorKind :=
  [filter, map, math, extreme, weightedRank, repetitions, sum, ratio, percent]

def name : OperatorKind → String
  | filter => "filter"
  | map => "map"
  | math => "math"
  | extreme => "minmax"
  | weightedRank => "wrank"
  | repetitions => "where"
  | sum => "sum"
  | ratio => "ratio"
  | percent => "percent"

def byName : List (String × OperatorKind) :=
  all.map (fun kind => (kind.name, kind)) ++ [("weighted_rank", weightedRank)]

def ofJson? : Json → Option OperatorKind
  | .text name => byName.lookup name
  | .integer (.ofNat index) => all[index]?
  | _ => none

end OperatorKind

namespace Operator

def kind : Operator → OperatorKind
  | filter .. => .filter
  | map .. => .map
  | math _ => .math
  | extreme .. => .extreme
  | weightedRank _ => .weightedRank
  | repetitions .. => .repetitions
  | sum _ => .sum
  | ratio .. => .ratio
  | percent .. => .percent

def ofMembers? (members : List (String × Json)) : OperatorKind → Option Operator
  | .filter => do
    return filter (← Json.optional members "key" Json.text?)
      (← Json.required members "filter" Json.text?)
      (← Json.required members "compare" (Json.parameterChoice? Comparison.bySign))
      (← Json.required members "value" some)
  | .map => do
    return map (← Json.required members "key" Json.text?)
      (← Json.withDefault members "values" [] (Json.list? Json.number?))
      (← Json.withDefault members "scale" 1.0 Json.number?)
      (← Json.withDefault members "offset" 0.0 Json.number?)
  | .math => do return math (← Json.required members "math" Json.text?)
  | .extreme => do
    return extreme (← Json.required members "extreme" (Json.parameterChoice? Extreme.byName))
      (← Json.required members "keys" (Json.list? Json.text?))
  | .weightedRank => do
    return weightedRank (← Json.required members "terms" (Json.list? WeightedReference.ofJson?))
  | .repetitions => do
    return repetitions (← Json.required members "cycle" Json.text?)
      (← Json.withDefault members "conditions" Dictionary.empty (Json.map? some some))
      (← Json.optional members "sum" Json.text?)
      (← Json.optional members "denominator" Json.text?)
  | .sum => do return sum (← Json.required members "keys" (Json.list? Json.text?))
  | .ratio => do
    return ratio (← Json.required members "numerator" Json.text?)
      (← Json.required members "denominator" Json.text?)
  | .percent => do
    return percent (← Json.required members "numerator" Json.text?)
      (← Json.required members "denominator" Json.text?)

end Operator

structure StatDefinition where
  id : String
  /-- The name to show; empty if the id is to be shown. -/
  name : String
  operator : Operator
  negative : Bool
  /-- Is the stat to be computed once for a team and not in each match? -/
  oncePerTeam : Bool
  /-- How the stat is aggregated if no function is asked for. -/
  function : Option AggregateFunction

namespace StatDefinition

def isTeamScoped (definition : StatDefinition) : Bool :=
  definition.oncePerTeam || definition.operator.kind == .weightedRank

def displayName (definition : StatDefinition) : String :=
  if definition.name.isEmpty then definition.id else definition.name

def ofJson? (json : Json) : Option StatDefinition := do
  let members ← json.members?
  let kind ← Json.required members "type" OperatorKind.ofJson?
  return {
    id := ← Json.required members "id" Json.text?
    name := ← Json.withDefault members "name" "" Json.text?
    operator := ← Operator.ofMembers? members kind
    negative := ← Json.withDefault members "negative" false Json.bool?
    oncePerTeam := ← Json.withDefault members "is_team_smart_result" false Json.bool?
    function := ← Json.optional members "function" (Json.choice? AggregateFunction.byName) }

end StatDefinition

end Scouting
