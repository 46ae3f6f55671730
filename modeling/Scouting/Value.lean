import Scouting.Recorded

/-!
Values read for a subject, before they are aggregated. A value may hold several observations, one
for each match or repetition; `flatten` lists the observations that are there, in order.
-/

namespace Scouting

inductive Value where
  /-- There is no record, or the record says nothing about the key. -/
  | missing
  | bool (value : Bool)
  | number (value : Float)
  | choice (index : Nat)
  | flags (values : List Bool)
  | text (value : String)
  | cycles (entries : List CycleEntry)
  | list (items : List Value)

namespace Value

instance : Inhabited Value := ⟨missing⟩

def isMissing : Value → Bool
  | missing => true
  | _ => false

def reading : Value → Option Float
  | number value => some value
  | bool value => some (if value then 1.0 else 0.0)
  | choice index => some (Float.ofNat index)
  | cycles entries => some (Float.ofNat entries.length)
  | _ => none

mutual

def leaves : Value → List Value
  | missing => []
  | list items => flatten items
  | leaf => [leaf]

def flatten : List Value → List Value
  | [] => []
  | value :: rest => leaves value ++ flatten rest

end

@[simp] theorem flatten_nil : flatten [] = [] := by simp [flatten]

@[simp] theorem flatten_cons (value : Value) (rest : List Value) :
    flatten (value :: rest) = leaves value ++ flatten rest := by simp [flatten]

@[simp] theorem leaves_missing : leaves missing = [] := by simp [leaves]

@[simp] theorem leaves_list (items : List Value) : leaves (list items) = flatten items := by
  simp [leaves]

theorem flatten_append (front back : List Value) :
    flatten (front ++ back) = flatten front ++ flatten back := by
  induction front with
  | nil => simp
  | cons value rest ih => simp [ih]

end Value

inductive ValueKind where
  | boolean
  | numeric
  | enumerated (options : Nat)
  | text
  | cycle
  deriving DecidableEq

end Scouting
