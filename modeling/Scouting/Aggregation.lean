import Scouting.Aggregate
import Scouting.Sorting

/-!
Aggregation of observations by kind. Among values that occur equally often the one seen first is the
mode. Flags of a field with several choices count as one pick for each option that is set, and picks
outside the declared options are left out.
-/

namespace Scouting

namespace Aggregation

def countIn {α : Type} [BEq α] (item : α) : List (α × Nat) → List (α × Nat)
  | [] => [(item, 1)]
  | (seen, count) :: rest =>
    if seen == item then (seen, count + 1) :: rest else (seen, count) :: countIn item rest

def tally {α : Type} [BEq α] (items : List α) : List (α × Nat) :=
  items.foldl (fun counted item => countIn item counted) []

def mostFrequent {α : Type} : List (α × Nat) → Option (α × Nat)
  | [] => none
  | first :: rest =>
    some (rest.foldl (fun best entry => if best.2 < entry.2 then entry else best) first)

/-- The most frequent item; of equally frequent ones, the one that is seen first. -/
def firstMode {α : Type} [BEq α] (items : List α) : Option α :=
  (mostFrequent (tally items)).map (·.1)

def reduce {α : Type} (combine : α → α → α) : List α → Option α
  | [] => none
  | first :: rest => some (rest.foldl combine first)

def mean (values : List Float) : Option Float :=
  if values.isEmpty then none else some (Number.sum values / Float.ofNat values.length)

/-- Numbers in ascending order, as long as they are `Sortable` by it. -/
def ascending (values : List Float) : List Float :=
  sortedBy (fun left right => !(right < left)) values

def median (values : List Float) : Option Float :=
  let sorted := ascending values
  let middle := sorted.length / 2
  if sorted.length % 2 = 0 then
    match sorted[middle - 1]?, sorted[middle]? with
    | some left, some right => some ((left + right) / 2.0)
    | _, _ => none
  else sorted[middle]?

def standardDeviation (values : List Float) : Option Float :=
  (mean values).map fun center =>
    let squares := values.map fun value => (value - center) * (value - center)
    (Number.sum squares / Float.ofNat values.length).sqrt

def numeric (function : AggregateFunction) (values : List Float) : Aggregate :=
  let result := match function with
    | .mean => mean values
    | .median => median values
    | .mode => firstMode values
    | .min => reduce Number.smaller values
    | .max => reduce Number.larger values
    | .total => if values.isEmpty then none else some (Number.sum values)
    | .stddev => standardDeviation values
  match result with
  | some value => .number value
  | none => .noData

/-- The truth value of an observation; numbers other than zero are true. -/
def truth : Value → Option Bool
  | .bool value => some value
  | value => value.reading.map (· != 0.0)

def indicator (value : Bool) : Float := if value then 1.0 else 0.0

/-- Aggregates truth values: the minimum is their conjunction, the maximum their disjunction. -/
def boolean (function : AggregateFunction) (observations : List Value) : Aggregate :=
  let truths := observations.filterMap truth
  if truths.isEmpty then .noData
  else match function with
    | .mode => match firstMode truths with
      | some value => .bool value
      | none => .noData
    | .min => .bool (truths.all id)
    | .max => .bool (truths.any id)
    | function => numeric function (truths.map indicator)

def picks (options : Nat) : Value → List Nat
  | .choice index => [index]
  | .flags values => (values.zipIdx.filter (·.1)).map (·.2)
  | .bool value => [if value then 1 else 0]
  | .number value =>
    if 0.0 ≤ value && value < Float.ofNat options && Number.isWhole value then
      [value.toUInt64.toNat]
    else []
  | _ => []

def declaredPicks (options : Nat) (observations : List Value) : List Nat :=
  (observations.flatMap (picks options)).filter (· < options)

def optionCounts (options : Nat) (picked : List Nat) : List Nat :=
  (List.range options).map fun option => picked.count option

def leastFrequent (counts : List Nat) : Option Nat :=
  (reduce (fun least entry => if entry.1 < least.1 then entry else least) counts.zipIdx).map (·.2)

/-- Aggregates picks of options. The mean and the maximum are the option picked most often, the
minimum is the declared option picked least often, the total counts every option. -/
def enumerated (function : AggregateFunction) (options : Nat) (observations : List Value) :
    Aggregate :=
  let picked := declaredPicks options observations
  let chosen : Option Nat → Aggregate
    | some index => .choice index
    | none => .noData
  if picked.isEmpty then .noData
  else match function with
    | .mean => chosen (firstMode picked)
    | .mode => chosen (firstMode picked)
    | .max => chosen (firstMode picked)
    | .median => chosen (picked.mergeSort)[(picked.length - 1) / 2]?
    | .min => chosen (leastFrequent (optionCounts options picked))
    | .total => .counts (optionCounts options picked)
    | .stddev => .noData

def textOf : Value → Option String
  | .text value => some value
  | _ => none

def text (function : AggregateFunction) (observations : List Value) : Aggregate :=
  match function with
  | .mode => match firstMode (observations.filterMap textOf) with
    | some value => .text value
    | none => .noData
  | _ => .noData

/-- Whether an observation chooses an option; nothing for observations that choose none. -/
def chooses (option : Nat) : Value → Option Bool
  | .choice index => some (index == option)
  | .flags values => some (values[option]?.getD false)
  | .bool value => some ((if value then 1 else 0) == option)
  | _ => none

end Aggregation

def aggregate (values : List Value) (function : AggregateFunction) (kind : ValueKind) : Aggregate :=
  let observations := Value.flatten values
  if observations.isEmpty then .noData
  else match kind with
    | .numeric => Aggregation.numeric function (observations.filterMap Value.reading)
    | .cycle => Aggregation.numeric function (observations.filterMap Value.reading)
    | .boolean => Aggregation.boolean function observations
    | .enumerated options => Aggregation.enumerated function options observations
    | .text => Aggregation.text function observations

/-- Aggregates how often one option is chosen: each observation counts as one if it chooses the
option and as zero if it does not. -/
def aggregateOption (values : List Value) (function : AggregateFunction) (option : Nat) :
    Aggregate :=
  Aggregation.numeric function
    (((Value.flatten values).filterMap (Aggregation.chooses option)).map Aggregation.indicator)

end Scouting
