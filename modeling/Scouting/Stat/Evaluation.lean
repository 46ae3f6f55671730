import Scouting.Reading
import Scouting.Stat.Plan
import Scouting.Stat.WeightedRank

/-!
Evaluation of stats. A stat reads other keys, and through them other stats; the keys on the way are
carried along, so that a stat that comes to need its own value is found out. Values are remembered
for as long as one evaluation lasts. A stat that misses an operand is missing, not an error.
-/

namespace Scouting

structure Environment where
  stats : StatSet
  snapshot : Snapshot
  catalog : Catalog
  /-- How keys are aggregated that say nothing about it. -/
  fallback : AggregateFunction

namespace Plan

/-- What a map makes of one observation: its place in the table, or the number scaled and shifted.
Under an option, the number is one where the option is chosen and zero where it is not. -/
def mapped (option : Option Nat) (table : List Float) (scale offset : Float) (value : Value) :
    Option Float :=
  let linear (number : Float) : Float := number * scale + offset
  let indicator (chosen : Bool) : Float := linear (if chosen then 1.0 else 0.0)
  match value, option with
  | .choice index, some option => some (indicator (index == option))
  | .flags values, some option => some (indicator (values[option]?.getD false))
  | .choice index, none => table[index]?
  | .bool value, none =>
    if table.isEmpty then (Value.bool value).reading.map linear else table[value.toNat]?
  | value, _ => value.reading.map linear

/-- The number that a repetition gives for an input; nothing counts as zero. -/
def entryNumber (info : KeyInfo) (entry : CycleEntry) : Float :=
  (info.observeEntry entry).reading.getD 0.0

def meets (conditions : List (KeyInfo × Float)) (entry : CycleEntry) : Bool :=
  conditions.all fun condition =>
    match (condition.1.observeEntry entry).reading with
    | some number => number == condition.2
    | none => false

def repetitionsOf (observations : List Value) : List CycleEntry :=
  observations.flatMap fun value => match value with
    | .cycles entries => entries
    | _ => []

/-- Adds numbers from left to right, starting from zero. -/
def total (numbers : List Float) : Float := numbers.foldl (· + ·) 0.0

def amount (input : Option KeyInfo) (entries : List CycleEntry) : Float :=
  total (entries.map fun entry => match input with
    | none => 1.0
    | some info => entryNumber info entry)

end Plan

namespace Environment

variable {σ : Type}

def defaultFunction (environment : Environment) (key : Key) : AggregateFunction :=
  ((environment.stats.find? key).bind fun stat => stat.definition.function).getD
    environment.fallback

section
variable (environment : Environment) (source : Source σ)

def observe (key : Key) (subject : Subject) : Run σ Value :=
  environment.catalog.read environment.snapshot source key subject none

def scalarWith (key : Key) (subject : Subject) (function : AggregateFunction) : Run σ Float := do
  let observed ← observe environment source key subject
  match (← environment.catalog.aggregate key [observed] function).reading with
  | some number => return number
  | none => throw (.missingOperand key.text)

def scalar (key : Key) (subject : Subject) : Run σ Float :=
  scalarWith environment source key subject (environment.defaultFunction key)

/-- Takes a missing operand for no value. -/
def orNone {α : Type} (action : Run σ α) : Run σ (Option α) :=
  tryCatch (some <$> action) fun error => match error with
    | .missingOperand _ => return none
    | error => throw error

def runMath (expression : Expression) (bindings : List (String × Key)) (subject : Subject) :
    Run σ Float :=
  expression.eval fun name => match bindings.lookup name with
    | some key => scalar environment source key subject
    | none => throw (.unknownKey name)

def runSum (keys : List Key) (subject : Subject) : Run σ Float := do
  return Plan.total (← keys.mapM fun key => scalar environment source key subject)

def runRatio (numerator denominator : Key) (percent : Bool) (subject : Subject) : Run σ Float := do
  let top ← scalarWith environment source numerator subject .total
  let bottom ← scalarWith environment source denominator subject .total
  let divisor := if percent then top + bottom else bottom
  if divisor == 0.0 then throw (.missingOperand (denominator.text ++ " is zero"))
  else return top / divisor

def extremeFunction : Extreme → AggregateFunction
  | .min => .min
  | .max => .max

def moreExtreme : Extreme → Float → Float → Float
  | .min => Number.smaller
  | .max => Number.larger

def runExtreme (extreme : Extreme) (keys : List Key) (subject : Subject) : Run σ Float := do
  let readings ← keys.mapM fun key => do
    let observed ← observe environment source key subject
    return (← environment.catalog.aggregate key [observed] (extremeFunction extreme)).reading
  match Aggregation.reduce (moreExtreme extreme) (readings.filterMap id) with
  | some number => return number
  | none => throw (.missingOperand "no observations")

def runMap (key : Key) (table : List Float) (scale offset : Float) (subject : Subject) :
    Run σ Float := do
  let observed ← observe environment source key subject
  let numbers := (Value.flatten [observed]).filterMap (Plan.mapped key.option table scale offset)
  match Aggregation.mean numbers with
  | some number => return number
  | none => throw (.missingOperand key.text)

def passes (condition : Key) (comparison : Comparison) (threshold : Float) (subject : Subject) :
    Run σ Bool := do
  return comparison.holds (← scalarWith environment source condition subject .mean) threshold

/-- What a filter keeps of one match: nothing where the condition is missing or does not hold. -/
def kept (key : Option Key) (condition : Key) (comparison : Comparison) (threshold : Float)
    (subject : Subject) : Run σ (Option Value) := do
  match ← orNone (passes environment source condition comparison threshold subject), key with
  | some true, none => return some .missing
  | some true, some key => return some (← observe environment source key subject)
  | _, _ => return none

def runFilterInMatch (key : Option Key) (condition : Key) (comparison : Comparison)
    (threshold : Float) (subject : Subject) : Run σ Float := do
  match ← passes environment source condition comparison threshold subject, key with
  | holds, none => return if holds then 1.0 else 0.0
  | true, some key => scalar environment source key subject
  | false, some _ => throw (.missingOperand (condition.text ++ " filtered out"))

/-- A filter over all matches of a team: how many it keeps, or what a key comes to over them. -/
def runFilterForTeam (function : Option AggregateFunction) (key : Option Key) (condition : Key)
    (comparison : Comparison) (threshold : Float) (team : Nat) : Run σ Float := do
  let subjects := environment.snapshot.matchSubjects team
  if subjects.isEmpty then throw (.missingOperand "no matches")
  let kept ← subjects.mapM (kept environment source key condition comparison threshold)
  let kept := kept.filterMap id
  match key with
  | none => return Plan.total (kept.map fun _ => 1.0)
  | some key =>
    let function := function.getD environment.fallback
    match (← environment.catalog.aggregate key kept function).reading with
    | some number => return number
    | none => throw (.missingOperand key.text)

def standing (team : Nat) (term : WeightedTerm) : Run σ (Standing Float) := do
  let readings ← environment.snapshot.teams.mapM fun other => do
    return (other, ← orNone (scalar environment source term.key (Subject.ofTeam other)))
  match (readings.lookup team).join with
  | some own =>
    return {
      own, all := readings.filterMap (·.2), weight := term.weight, negative := term.negative }
  | none => throw (.missingOperand term.key.text)

def runWeightedRank (terms : List WeightedTerm) (team : Nat) : Run σ Float := do
  match Standing.mean (← terms.mapM (standing environment source team)) with
  | some number => return number
  | none => throw (.missingOperand "weights sum to zero")

def runRepetitions (cycle : Key) (conditions : List (KeyInfo × Float))
    (sum denominator : Option KeyInfo) (subject : Subject) : Run σ Float := do
  let observed ← observe environment source cycle subject
  let columns := Value.flatten [observed]
  if columns.isEmpty then throw (.missingOperand cycle.text)
  let entries := (Plan.repetitionsOf columns).filter (Plan.meets conditions)
  let value := Plan.amount sum entries
  match denominator with
  | none => return value
  | some info =>
    let whole := value + Plan.amount (some info) entries
    if whole == 0.0 then throw (.missingOperand (info.key.text ++ " is zero"))
    else return value / whole

def run (stat : Stat) (subject : Subject) : Run σ Float :=
  match stat.plan with
  | .math expression bindings => runMath environment source expression bindings subject
  | .sum keys => runSum environment source keys subject
  | .ratio numerator denominator =>
    runRatio environment source numerator denominator false subject
  | .percent numerator denominator =>
    runRatio environment source numerator denominator true subject
  | .extreme extreme keys => runExtreme environment source extreme keys subject
  | .map key table scale offset => runMap environment source key table scale offset subject
  | .filter key condition comparison threshold =>
    if subject.isMatch then
      runFilterInMatch environment source key condition comparison threshold subject
    else
      runFilterForTeam environment source stat.definition.function key condition comparison
        threshold subject.team
  | .weightedRank terms => runWeightedRank environment source terms subject.team
  | .repetitions cycle conditions sum denominator =>
    runRepetitions environment source cycle conditions sum denominator subject

/-- The value of a stat: a number, or missing if an operand is. -/
def settle (stat : Stat) (subject : Subject) : Run σ Value := do
  match ← orNone (run environment source stat subject) with
  | some number => return .number number
  | none => return .missing

/-- The value of a stat in its scope: one for a team-scoped stat or in a match, and for a team as a
whole otherwise the list of one for each match. -/
def compute (stat : Stat) (subject : Subject) : Run σ Value :=
  if stat.isTeamScoped then settle environment source stat subject.toTeam
  else if subject.isMatch then settle environment source stat subject
  else
    Value.list <$>
      (environment.snapshot.matchSubjects subject.team).mapM (settle environment source stat)

end

end Environment

abbrev Memo := List ((Key × Subject) × Value)

namespace StatSet

def off (set : StatSet) (way : List Key) : List Stat := set.stats.filter fun stat => stat.key ∉ way

theorem length_off_lt {set : StatSet} {way : List Key} {key : Key} {stat : Stat}
    (found : set.find? key = some stat) (fresh : stat.key ∉ way) :
    (set.off (way ++ [stat.key])).length < (set.off way).length := by
  have member : stat ∈ set.stats := List.mem_of_find?_eq_some found
  have same : set.off (way ++ [stat.key]) =
      (set.off way).filter fun other => other.key ≠ stat.key := by
    simp [off, List.filter_filter, List.mem_append, not_or, and_comm]
  rw [same]
  refine List.length_filter_lt_length_iff_exists.mpr ⟨stat, ?_, by simp⟩
  simpa [off, member] using fresh

end StatSet

namespace Environment

/-- The value of a stat that is needed by those on the way. Another stat's value is read through the
same rule, one stat further on the way. -/
def smartValue (environment : Environment) (way : List Key) (key : Key) (subject : Subject) :
    Run Memo Value :=
  match _ : environment.stats.find? key with
  | none => throw (.unknownKey key.text)
  | some stat => do
    let scope := if stat.isTeamScoped then subject.toTeam else subject
    match (← get).lookup (stat.key, scope) with
    | some value => return value
    | none =>
      if _ : stat.key ∈ way then throw (.circular (way ++ [stat.key]))
      else do
        let value ← environment.compute
          (fun key subject => smartValue environment (way ++ [stat.key]) key subject) stat scope
        modify (((stat.key, scope), value) :: ·)
        return value
termination_by (environment.stats.off way).length
decreasing_by exact StatSet.length_off_lt (by assumption) (by assumption)

def source (environment : Environment) : Source Memo := environment.smartValue []

def evaluate {α : Type} (action : Run Memo α) : Except StatError α := (action.run.run []).1

end Environment

end Scouting
