import Scouting.Expression.Parser
import Scouting.Stat.Fault
import Scouting.Stat.Plan

/-!
Compilation of a definition: every reference is resolved in the catalog, and every parameter is
checked against what is known about the keys. The first fault found is the answer.
-/

namespace Scouting

abbrev Checked := Except Fault

def asReference {α : Type} : Except StatError α → Checked α
  | .ok value => .ok value
  | .error error => .error (.reference error)

namespace KeyInfo

def truthLabel? (info : KeyInfo) (label : String) : Option Float :=
  if info.kind = .boolean then
    let word := Text.asciiLower label
    if word = "yes" || word = "true" then some 1.0
    else if word = "no" || word = "false" then some 0.0
    else none
  else none

/-- The number that a label stands for: a truth value, an option's index, or a number it spells. -/
def labelReading? (info : KeyInfo) (label : String) : Option Float :=
  ((info.truthLabel? label).or ((info.optionIndex? label).map Float.ofNat)).or
    (Decimal.read (Text.trim label.toList))

def target (info : KeyInfo) : Json → Checked Float
  | .bool value => .ok (if value then 1.0 else 0.0)
  | .integer value => .ok (Float.ofInt value)
  | .float value => .ok value
  | .text label => match info.labelReading? label with
    | some value => .ok value
    | none => .error (.notOption label info.key)
  | value => .error (.unsupported value info.key)

end KeyInfo

namespace Catalog

def reference (catalog : Catalog) (text : String) : Checked (Key × KeyInfo) := do
  let key ← asReference (catalog.resolveReference text)
  let info ← asReference (catalog.resolve key)
  return (key, info)

def numericKey (catalog : Catalog) (text : String) : Checked Key := do
  let (key, info) ← catalog.reference text
  match info.valueKind with
  | .text => throw (.notNumeric key)
  | .enumerated _ => if key.option.isNone then throw (.needsOption key) else return key
  | _ => return key

def numericKeys (catalog : Catalog) (texts : List String) : Checked (List Key) :=
  if texts.isEmpty then throw .noKeys else texts.mapM catalog.numericKey

def numericKey? (catalog : Catalog) : Option String → Checked (Option Key)
  | none => return none
  | some text => do return some (← catalog.numericKey text)

def filterPlan (catalog : Catalog) (key : Option String) (condition : String)
    (comparison : Comparison) (value : Json) : Checked Plan := do
  let (condition, info) ← catalog.reference condition
  if info.valueKind = .text then throw (.filterOnText condition)
  return .filter (← catalog.numericKey? key) condition comparison (← info.target value)

def tableSize? (key : Key) (info : KeyInfo) : Checked (Option Nat) :=
  match info.valueKind with
  | .text => throw (.mapOfText key)
  | .enumerated options => return if key.option.isNone then some options else none
  | .boolean => return if key.option.isNone then some 2 else none
  | _ => return none

def mapPlan (catalog : Catalog) (reference : String) (table : List Float) (scale offset : Float) :
    Checked Plan := do
  let (key, info) ← catalog.reference reference
  match ← tableSize? key info with
  | some needed =>
    if table.length ≠ needed then throw (.tableSize key needed table.length)
  | none => pure ()
  return .map key table scale offset

/-- The plan of arithmetic: every name in the expression is bound to a key. -/
def mathPlan (catalog : Catalog) (source : String) : Checked Plan := do
  match Expression.parse source with
  | .error error => throw (.math error)
  | .ok expression =>
    let bindings ← expression.references.mapM fun name => do
      return (name, ← catalog.numericKey name)
    return .math expression bindings

def weightedTerm (catalog : Catalog) (term : WeightedReference) : Checked WeightedTerm := do
  let key ← catalog.numericKey term.reference
  let info ← asReference (catalog.resolve key)
  return ⟨key, term.weight, info.isNegative key.option⟩

def weightedRankPlan (catalog : Catalog) (terms : List WeightedReference) : Checked Plan :=
  if terms.isEmpty then throw .noKeys
  else do return .weightedRank (← terms.mapM catalog.weightedTerm)

def inCycle (catalog : Catalog) (cycle : Key) (text : String) : Checked KeyInfo := do
  let (key, info) ← catalog.reference text
  if info.cycle = some cycle.id then return info else throw (.outsideCycle key cycle.id)

/-- What is known about an input that is recorded in a cycle and counts something. -/
def counterInCycle (catalog : Catalog) (cycle : Key) : Option String → Checked (Option KeyInfo)
  | none => return none
  | some text => do
    let info ← catalog.inCycle cycle text
    if info.valueKind = .numeric then return some info else throw (.notNumber info.key)

def repetitionsPlan (catalog : Catalog) (cycle : String) (conditions : Dictionary String Json)
    (sum denominator : Option String) : Checked Plan := do
  let (cycle, info) ← catalog.reference cycle
  if info.valueKind ≠ .cycle then throw (.notCycle cycle)
  let conditions ← conditions.entries.mapM fun (text, value) => do
    let input ← catalog.inCycle cycle text
    return (input, ← input.target value)
  return .repetitions cycle conditions (← catalog.counterInCycle cycle sum)
    (← catalog.counterInCycle cycle denominator)

def plan (catalog : Catalog) : Operator → Checked Plan
  | .filter key condition comparison value => catalog.filterPlan key condition comparison value
  | .map key table scale offset => catalog.mapPlan key table scale offset
  | .math source => catalog.mathPlan source
  | .extreme extreme keys => do return .extreme extreme (← catalog.numericKeys keys)
  | .weightedRank terms => catalog.weightedRankPlan terms
  | .repetitions cycle conditions sum denominator =>
    catalog.repetitionsPlan cycle conditions sum denominator
  | .sum keys => do return .sum (← catalog.numericKeys keys)
  | .ratio numerator denominator => do
    return .ratio (← catalog.numericKey numerator) (← catalog.numericKey denominator)
  | .percent numerator denominator => do
    return .percent (← catalog.numericKey numerator) (← catalog.numericKey denominator)

def compile (catalog : Catalog) (definition : StatDefinition) : Checked Stat := do
  return ⟨definition, ← catalog.plan definition.operator⟩

end Catalog

end Scouting
