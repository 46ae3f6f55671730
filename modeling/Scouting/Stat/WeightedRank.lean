/-!
Weighted ranks: the weighted mean of where a value stands between the least and the greatest of all
values. The arithmetic is that of any type of numbers, so that what holds of exact numbers can be
told apart from rounding.
-/

namespace Scouting

/-- A value among all values of its kind, and how much it counts. -/
structure Standing (α : Type) where
  own : α
  all : List α
  weight : α
  negative : Bool

namespace Standing

variable {α : Type} [LT α] [DecidableLT α] [BEq α]

/-- The least value; one that does not equal itself is passed over. -/
def least (values : List α) : Option α :=
  (values.filter fun value => value == value).foldl
    (fun best value => some (match best with
      | none => value
      | some best => if value < best then value else best)) none

/-- The greatest value; one that does not equal itself is passed over. -/
def greatest (values : List α) : Option α :=
  (values.filter fun value => value == value).foldl
    (fun best value => some (match best with
      | none => value
      | some best => if best < value then value else best)) none

variable [OfNat α 0] [OfNat α 1] [Add α] [Sub α] [Mul α] [Div α] [Neg α]

/-- Where the value stands, from zero at the worst to one at the best; one if all are equal. -/
def share (standing : Standing α) : α :=
  match least standing.all, greatest standing.all with
  | some low, some high =>
    if low < high then
      let share := (standing.own - low) / (high - low)
      if standing.negative then 1 - share else share
    else 1
  | _, _ => 1

def magnitude (value : α) : α := if value < 0 then -value else value

/-- The mean of the shares by weight; nothing if no weight counts. -/
def mean (standings : List (Standing α)) : Option α :=
  let total := standings.foldl (fun total standing => total + standing.weight * standing.share) 0
  let weights := standings.foldl (fun total standing => total + magnitude standing.weight) 0
  if weights == 0 then none else some (total / weights)

end Standing

end Scouting
