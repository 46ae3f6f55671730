import Scouting.Proofs.NumberOrder
import Scouting.Proofs.UsableObservations

/-!
Modes. Items are tallied in the order in which they are first seen, each with its number of
occurrences, and the first of the highest counts is taken; so the mode is the item that occurs most
often and, among those that occur as often, the one that is seen first.
-/

namespace Scouting.Aggregation

variable {α : Type}

def occurrences (same : α → α → Bool) (items : List α) (item : α) : Nat :=
  items.countP (same · item)

/-- Is an item the mode of some? None occurs more often, and none seen before it as often. -/
structure IsMode (same : α → α → Bool) (items : List α) (mode : α) : Prop where
  most : ∀ item ∈ items, occurrences same items item ≤ occurrences same items mode
  first : ∃ front back, items = front ++ mode :: back ∧
    ∀ item ∈ front, occurrences same items item < occurrences same items mode

theorem IsMode.unique {same : α → α → Bool} {items : List α} {mode other : α}
    (isMode : IsMode same items mode) (also : IsMode same items other) : mode = other := by
  obtain ⟨front, back, split, before⟩ := isMode.first
  obtain ⟨otherFront, otherBack, otherSplit, otherBefore⟩ := also.first
  have otherMost := also.most mode (by simp [split])
  have most := isMode.most other (by simp [otherSplit])
  rcases List.append_eq_append_iff.mp (split.symm.trans otherSplit) with
    ⟨between, longer, rest⟩ | ⟨between, longer, rest⟩
  · cases between with
    | nil => exact (List.cons.inj rest).1
    | cons next between =>
        obtain rfl := (List.cons.inj rest).1
        have less := otherBefore mode (by simp [longer])
        omega
  · cases between with
    | nil => exact (List.cons.inj rest).1.symm
    | cons next between =>
        obtain rfl := (List.cons.inj rest).1
        have less := before other (by simp [longer])
        omega

theorem IsMode.map {β : Type} {same : α → α → Bool} {others : β → β → Bool} {change : α → β}
    (respects : ∀ left right, others (change left) (change right) = same left right)
    {items : List α} {mode : α} (isMode : IsMode same items mode) :
    IsMode others (items.map change) (change mode) := by
  have counted (item : α) : occurrences others (items.map change) (change item) =
      occurrences same items item := by
    simp only [occurrences, List.countP_map, Function.comp_def, respects]
  constructor
  · intro item member
    obtain ⟨source, listed, rfl⟩ := List.mem_map.mp member
    rw [counted, counted]
    exact isMode.most source listed
  · obtain ⟨front, back, split, before⟩ := isMode.first
    refine ⟨front.map change, back.map change, by rw [split, List.map_append, List.map_cons], ?_⟩
    intro item member
    obtain ⟨source, listed, rfl⟩ := List.mem_map.mp member
    rw [counted, counted]
    exact before source listed

theorem mostFrequent_eq_some {counted : List (α × Nat)} {best : α × Nat}
    (found : mostFrequent counted = some best) :
    ∃ before after, counted = before ++ best :: after ∧ (∀ entry ∈ before, entry.2 < best.2) ∧
      ∀ entry ∈ after, entry.2 ≤ best.2 := by
  cases counted with
  | nil => cases found
  | cons first rest =>
      obtain rfl := Option.some.inj found
      clear found
      induction rest using List.reverseRecOn with
      | nil => exact ⟨[], [], rfl, nofun, nofun⟩
      | append_singleton front last ih =>
          obtain ⟨before, after, split, below, atMost⟩ := ih
          rw [List.foldl_append, List.foldl_cons, List.foldl_nil]
          generalize front.foldl _ first = best at split below atMost ⊢
          have longer : first :: (front ++ [last]) = before ++ best :: (after ++ [last]) := by
            rw [← List.cons_append, split, List.append_assoc, List.cons_append]
          split
          · rename_i more
            refine ⟨before ++ best :: after, [], by simp [longer], fun entry member => ?_, nofun⟩
            rcases List.mem_append.mp member with front | back
            · exact (below entry front).trans more
            · rcases List.mem_cons.mp back with rfl | later
              · exact more
              · exact (atMost entry later).trans_lt more
          · rename_i least
            refine ⟨before, after ++ [last], longer, below, fun entry member => ?_⟩
            rcases List.mem_append.mp member with earlier | isLast
            · exact atMost entry earlier
            · rw [List.mem_singleton.mp isLast]
              exact Nat.le_of_not_lt least

section
variable [BEq α]

theorem eraseDups_concat (items : List α) (item : α) :
    (items ++ [item]).eraseDups =
      if items.eraseDups.any (item == ·) then items.eraseDups
      else items.eraseDups ++ [item] := by
  generalize size : items.length = length
  induction length using Nat.strongRecOn generalizing items with
  | ind length ih =>
      cases items with
      | nil => rfl
      | cons first rest =>
          have shorter := List.length_filter_le (fun other => !other == first) rest
          rw [List.length_cons] at size
          rw [List.cons_append, List.eraseDups_cons, List.eraseDups_cons, List.filter_append]
          by_cases same : item == first
          · simp [same]
          · have others := ih _ (by omega) (rest.filter fun other => !other == first) rfl
            simp only [List.filter_singleton, same, Bool.not_false, cond_true, others,
              List.any_cons, Bool.false_or]
            split
            · rfl
            · rfl

theorem eraseDups_split {items before after : List α} {item : α}
    (seen : items.eraseDups = before ++ item :: after) :
    ∃ front back, items = front ++ item :: back ∧ front.eraseDups = before := by
  induction items using List.reverseRecOn generalizing after with
  | nil => simp at seen
  | append_singleton front last ih =>
      rw [eraseDups_concat] at seen
      split at seen
      · obtain ⟨earlier, back, rfl, same⟩ := ih seen
        exact ⟨earlier, back ++ [last], by simp, same⟩
      · rcases List.eq_nil_or_concat' after with rfl | ⟨others, final, rfl⟩
        · obtain ⟨same, isLast⟩ := List.append_inj' seen rfl
          exact ⟨front, [], by rw [List.head_eq_of_cons_eq isLast], same⟩
        · rw [← List.cons_append, ← List.append_assoc] at seen
          obtain ⟨earlier, back, rfl, same⟩ := ih (List.append_inj' seen rfl).1
          exact ⟨earlier, back ++ [last], by simp, same⟩

variable [PartialEquivBEq α]

theorem occurrences_congr {items : List α} {left right : α} (same : left == right) :
    occurrences (· == ·) items left = occurrences (· == ·) items right :=
  List.countP_congr fun _ _ =>
    ⟨fun isLeft => PartialEquivBEq.trans isLeft same,
      fun isRight => PartialEquivBEq.trans isRight (PartialEquivBEq.symm same)⟩

theorem eraseDups_apart (items : List α) :
    items.eraseDups.Pairwise fun left right => (left == right) = false := by
  induction items using List.reverseRecOn with
  | nil => exact List.Pairwise.nil
  | append_singleton front last ih =>
      rw [eraseDups_concat]
      split
      · exact ih
      · rename_i unseen
        refine List.pairwise_append.mpr ⟨ih, List.pairwise_singleton _ _, ?_⟩
        intro earlier member other isLast
        rw [List.mem_singleton.mp isLast, Bool.eq_false_iff]
        exact fun same => unseen (List.any_eq_true.mpr ⟨earlier, member, PartialEquivBEq.symm same⟩)

theorem exists_first {items : List α} {item : α} (member : item ∈ items) (self : item == item) :
    ∃ first ∈ items.eraseDups, first == item := by
  induction items using List.reverseRecOn with
  | nil => cases member
  | append_singleton front last ih =>
      rw [eraseDups_concat]
      rcases List.mem_append.mp member with earlier | isLast
      · obtain ⟨first, listed, same⟩ := ih earlier
        split
        · exact ⟨first, listed, same⟩
        · exact ⟨first, List.mem_append_left _ listed, same⟩
      · obtain rfl := List.mem_singleton.mp isLast
        split
        · rename_i seen
          obtain ⟨first, listed, same⟩ := List.any_eq_true.mp seen
          exact ⟨first, listed, PartialEquivBEq.symm same⟩
        · exact ⟨item, by simp, self⟩

theorem countIn_map {firsts : List α} (count : α → Nat) (item : α)
    (apart : firsts.Pairwise fun left right => (left == right) = false) :
    countIn item (firsts.map fun first => (first, count first)) =
      if firsts.any (item == ·) then
        firsts.map fun first => (first, count first + if item == first then 1 else 0)
      else (firsts.map fun first => (first, count first)) ++ [(item, 1)] := by
  induction firsts with
  | nil => rfl
  | cons first rest ih =>
      obtain ⟨others, later⟩ := List.pairwise_cons.mp apart
      rw [List.map_cons, countIn, List.any_cons]
      by_cases same : item == first
      · have unchanged : rest.map (fun other => (other, count other)) =
            rest.map fun other => (other, count other + if item == other then 1 else 0) := by
          refine List.map_congr_left fun other member => ?_
          rw [if_neg, Nat.add_zero]
          intro again
          have apart := others other member
          rw [PartialEquivBEq.trans (PartialEquivBEq.symm same) again] at apart
          cases apart
        rw [if_pos (PartialEquivBEq.symm same), same, Bool.true_or, if_pos rfl, List.map_cons,
          if_pos same, unchanged]
      · have behind : ¬first == item := fun symm => same (PartialEquivBEq.symm symm)
        rw [if_neg behind, ih later, Bool.eq_false_iff.mpr same, Bool.false_or]
        split
        · rw [List.map_cons, if_neg same, Nat.add_zero]
        · rfl

theorem tally_eq {items : List α} (self : ∀ item ∈ items, item == item) :
    tally items = items.eraseDups.map fun item => (item, occurrences (· == ·) items item) := by
  induction items using List.reverseRecOn with
  | nil => rfl
  | append_singleton front last ih =>
      have counted (item : α) : occurrences (· == ·) (front ++ [last]) item =
          occurrences (· == ·) front item + if last == item then 1 else 0 := by
        rw [occurrences, List.countP_append, List.countP_singleton, occurrences]
      have step : tally (front ++ [last]) = countIn last (tally front) := by
        rw [tally, List.foldl_append]
        rfl
      rw [step, ih fun item member => self item (List.mem_append_left _ member),
        countIn_map _ _ (eraseDups_apart front), eraseDups_concat]
      split
      · simp only [counted]
      · rename_i unseen
        have none : occurrences (· == ·) front last = 0 := by
          refine List.countP_eq_zero.mpr fun item member same => unseen ?_
          obtain ⟨first, listed, also⟩ :=
            exists_first member (self item (List.mem_append_left _ member))
          exact List.any_eq_true.mpr
            ⟨first, listed, PartialEquivBEq.symm (PartialEquivBEq.trans also same)⟩
        have others : ∀ item ∈ front.eraseDups, (last == item) = false := by
          intro item member
          rw [Bool.eq_false_iff]
          exact fun same => unseen (List.any_eq_true.mpr ⟨item, member, same⟩)
        have isLast : last == last := self last (by simp)
        rw [List.map_append, List.map_singleton, counted, none, if_pos isLast]
        refine congrArg (· ++ _) (List.map_congr_left fun item member => ?_)
        rw [counted, others item member]
        rfl

theorem isMode_of_firstMode {items : List α} (self : ∀ item ∈ items, item == item) {mode : α}
    (found : firstMode items = some mode) : IsMode (· == ·) items mode := by
  obtain ⟨best, frequent, rfl⟩ := Option.map_eq_some_iff.mp found
  obtain ⟨before, after, split, below, atMost⟩ := mostFrequent_eq_some frequent
  rw [tally_eq self] at split
  obtain ⟨earlier, others, firsts, rfl, rest⟩ := List.map_eq_append_iff.mp split
  obtain ⟨mode, later, rfl, rfl, rfl⟩ := List.map_eq_cons_iff.mp rest
  obtain ⟨front, back, rfl, same⟩ := eraseDups_split firsts
  refine ⟨fun item listed => ?_, front, back, rfl, fun item inFront => ?_⟩
  · obtain ⟨first, isFirst, alike⟩ := exists_first listed (self item listed)
    rw [← occurrences_congr alike]
    rw [firsts] at isFirst
    rcases List.mem_append.mp isFirst with inEarlier | inRest
    · exact (below _ (List.mem_map_of_mem inEarlier)).le
    · rcases List.mem_cons.mp inRest with rfl | inLater
      · exact le_rfl
      · exact atMost _ (List.mem_map_of_mem inLater)
  · have listed : item ∈ front ++ mode :: back := List.mem_append_left _ inFront
    obtain ⟨first, isFirst, alike⟩ := exists_first inFront (self item listed)
    rw [← occurrences_congr alike]
    rw [same] at isFirst
    exact below _ (List.mem_map_of_mem isFirst)

end

end Scouting.Aggregation

namespace Scouting

/-- Are two aggregates equal values? Numbers may be, without being the same: zeros of both signs. -/
def Aggregate.same : Aggregate → Aggregate → Bool
  | number left, number right => left == right
  | left, right => decide (left = right)

def OnlyNumbers (observations : List Value) : Prop :=
  ∀ number, .number number ∈ observations → number.isNaN = false

namespace Aggregation

variable {observations : List Value} {function : AggregateFunction} {kind : ValueKind}

/-- What an aggregate of a kind is made of. -/
def material (observations : List Value) : ValueKind → List Aggregate
  | .numeric => (observations.filterMap Value.reading).map .number
  | .cycle => (observations.filterMap Value.reading).map .number
  | .boolean => (observations.filterMap truth).map .bool
  | .enumerated options => (declaredPicks options observations).map .choice
  | .text => (observations.filterMap textOf).map .text

/-- Does a function take the mode of a kind of values? Of options, the mean and the maximum do, too.
-/
def TakesMode (function : AggregateFunction) : ValueKind → Prop
  | .enumerated _ => function = .mean ∨ function = .mode ∨ function = .max
  | _ => function = .mode

theorem isNaN_reading (numbers : OnlyNumbers observations) :
    ∀ value ∈ observations.filterMap Value.reading, value.isNaN = false := by
  intro value member
  obtain ⟨observation, listed, read⟩ := List.mem_filterMap.mp member
  cases observation with
  | number number =>
      obtain rfl := Option.some.inj read
      exact numbers number listed
  | bool truth =>
      obtain rfl := Option.some.inj read
      cases truth <;> decide
  | choice index =>
      obtain rfl := Option.some.inj read
      exact Number.isNaN_ofNat index
  | cycles entries =>
      obtain rfl := Option.some.inj read
      exact Number.isNaN_ofNat entries.length
  | missing => cases read
  | flags flags => cases read
  | text text => cases read
  | list items => cases read

section
variable {α : Type} [BEq α] [PartialEquivBEq α] {items : List α} {change : α → Aggregate}

def IsModeOf (items : List Aggregate) (mode : Aggregate) : Prop :=
  if items = [] then mode = .noData else IsMode Aggregate.same items mode

theorem isModeOf_firstMode (self : ∀ item ∈ items, item == item)
    (respects : ∀ left right, (change left).same (change right) = (left == right)) :
    IsModeOf (items.map change) (((firstMode items).map change).getD .noData) := by
  cases mode : firstMode items with
  | none =>
      obtain rfl := firstMode_eq_none_iff.mp mode
      rfl
  | some mode =>
      have isMode := (isMode_of_firstMode self mode).map respects
      obtain ⟨front, back, split, _⟩ := isMode.first
      have nonempty : items.map change ≠ [] := by simp [split]
      rw [IsModeOf, if_neg nonempty]
      exact isMode

end

theorem numeric_mode (values : List Float) :
    numeric .mode values = ((firstMode values).map .number).getD .noData := by
  rw [numeric]
  cases firstMode values <;> rfl

theorem boolean_mode (observations : List Value) : boolean .mode observations =
    ((firstMode (observations.filterMap truth)).map .bool).getD .noData := by
  simp only [boolean]
  cases observations.filterMap truth with
  | nil => rfl
  | cons first rest => cases firstMode (first :: rest) <;> simp

theorem enumerated_mode {options : Nat} (takes : TakesMode function (.enumerated options))
    (observations : List Value) : enumerated function options observations =
      ((firstMode (declaredPicks options observations)).map .choice).getD .noData := by
  simp only [enumerated]
  cases declaredPicks options observations with
  | nil => rfl
  | cons first rest =>
      rcases takes with rfl | rfl | rfl <;> cases firstMode (first :: rest) <;> simp

theorem text_mode (observations : List Value) : text .mode observations =
    ((firstMode (observations.filterMap textOf)).map .text).getD .noData := by
  rw [text]
  cases firstMode (observations.filterMap textOf) <;> rfl

end Aggregation

open Aggregation

theorem aggregate_isModeOf {values : List Value} {function : AggregateFunction} {kind : ValueKind}
    (numbers : OnlyNumbers (Value.flatten values)) (takes : TakesMode function kind) :
    IsModeOf (material (Value.flatten values) kind) (aggregate values function kind) := by
  simp only [aggregate]
  by_cases empty : (Value.flatten values).isEmpty
  · rw [if_pos empty, List.isEmpty_iff.mp empty]
    cases kind <;> rfl
  · rw [if_neg empty]
    have self := fun value member =>
      Number.beq_self_of_isNaN (isNaN_reading numbers value member)
    cases kind with
    | numeric =>
        obtain rfl := takes
        rw [numeric_mode]
        exact isModeOf_firstMode self fun left right => rfl
    | cycle =>
        obtain rfl := takes
        rw [numeric_mode]
        exact isModeOf_firstMode self fun left right => rfl
    | boolean =>
        obtain rfl := takes
        rw [boolean_mode]
        exact isModeOf_firstMode (by simp) (by simp [Aggregate.same, beq_eq_decide])
    | enumerated options =>
        change IsModeOf _ (enumerated function options _)
        rw [enumerated_mode takes]
        exact isModeOf_firstMode (by simp) (by simp [Aggregate.same, beq_eq_decide])
    | text =>
        obtain rfl := takes
        rw [text_mode]
        exact isModeOf_firstMode (by simp) (by simp [Aggregate.same, beq_eq_decide])

end Scouting
