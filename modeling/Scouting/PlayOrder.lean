import Scouting.Key

/-!
The order in which matches are played. A match key such as `2024cc_sf2m1` ends in a competition
level, possibly a set number and a match number; keys are ordered by level, then set, then number,
and keys that name no known level come last.
-/

namespace Scouting

open Text

def competitionLevels : List String := ["qm", "ef", "qf", "sf", "f"]

structure PlayOrder where
  level : Nat
  set : Nat
  number : Nat
  key : String
  deriving DecidableEq

namespace PlayOrder

def le (left right : PlayOrder) : Bool :=
  if left.level ≠ right.level then left.level < right.level
  else if left.set ≠ right.set then left.set < right.set
  else if left.number ≠ right.number then left.number < right.number
  else left.key ≤ right.key

def tail (key : List Char) : List Char := (key.reverse.takeWhile (· != '_')).reverse

/-- A number of thirty-two bits, or zero where there is none. -/
def numberOrZero (chars : List Char) : Nat := (readNatural bound32 chars).getD 0

def ofKey (key : String) : PlayOrder :=
  let chars := tail key.toList
  let level := String.ofList (chars.takeWhile (!isDigit ·))
  match competitionLevels.findIdx? (· == level) with
  | none => ⟨competitionLevels.length, 0, 0, key⟩
  | some rank =>
    match splitFirst 'm' (chars.dropWhile (!isDigit ·)) with
    | (set, some number) => ⟨rank, numberOrZero set, numberOrZero number, key⟩
    | (number, none) => ⟨rank, 0, numberOrZero number, key⟩

end PlayOrder

/-- Items sorted by when the match of their key is played; those with equal keys keep their
order. -/
def inPlayOrder {α : Type} (matchKey : α → String) (items : List α) : List α :=
  items.mergeSort fun left right =>
    (PlayOrder.ofKey (matchKey left)).le (PlayOrder.ofKey (matchKey right))

end Scouting
