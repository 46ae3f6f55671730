import Scouting.Aggregation
import Scouting.Proofs.Arithmetic

/-!
Aggregates of finite observations. What is made of finite numbers, if they are not too many to be
counted exactly, is a number by every function: sums may grow beyond all bounds, but nothing is
subtracted from or divided by what has no bound.
-/

namespace Scouting

namespace Aggregation

section
variable {α : Type}

theorem mem_countIn [BEq α] {item : α} {counted : List (α × Nat)} {entry : α × Nat}
    (member : entry ∈ countIn item counted) :
    entry.1 = item ∨ ∃ earlier ∈ counted, entry.1 = earlier.1 := by
  induction counted with
  | nil =>
      simp only [countIn, List.mem_singleton] at member
      exact Or.inl (congrArg Prod.fst member)
  | cons first rest ih =>
      simp only [countIn] at member
      split at member
      · rcases List.mem_cons.mp member with rfl | later
        · exact Or.inr ⟨first, List.mem_cons_self, rfl⟩
        · exact Or.inr ⟨entry, List.mem_cons_of_mem _ later, rfl⟩
      · rcases List.mem_cons.mp member with rfl | later
        · exact Or.inr ⟨_, List.mem_cons_self, rfl⟩
        · rcases ih later with same | ⟨earlier, listed, same⟩
          · exact Or.inl same
          · exact Or.inr ⟨earlier, List.mem_cons_of_mem _ listed, same⟩

theorem mem_tally [BEq α] {items : List α} {entry : α × Nat} (member : entry ∈ tally items) :
    entry.1 ∈ items := by
  suffices kept : ∀ counted : List (α × Nat),
      entry ∈ items.foldl (fun counted item => countIn item counted) counted →
        entry.1 ∈ items ∨ ∃ earlier ∈ counted, entry.1 = earlier.1 by
    rcases kept [] member with listed | ⟨_, none, _⟩
    · exact listed
    · cases none
  clear member
  induction items with
  | nil => exact fun counted member => Or.inr ⟨entry, member, rfl⟩
  | cons item rest ih =>
      intro counted member
      rcases ih _ member with listed | ⟨earlier, listed, same⟩
      · exact Or.inl (List.mem_cons_of_mem _ listed)
      · rcases mem_countIn listed with isItem | ⟨before, listed, asBefore⟩
        · exact Or.inl (List.mem_cons.mpr (Or.inl (same.trans isItem)))
        · exact Or.inr ⟨before, listed, same.trans asBefore⟩

theorem foldl_mem {choose : α → α → α}
    (either : ∀ left right, choose left right = left ∨ choose left right = right) (first : α)
    (rest : List α) : rest.foldl choose first ∈ first :: rest := by
  induction rest generalizing first with
  | nil => exact List.mem_singleton_self first
  | cons next rest ih =>
      rw [List.foldl_cons]
      rcases List.mem_cons.mp (ih (choose first next)) with same | later
      · rw [same]
        rcases either first next with isFirst | isNext
        · rw [isFirst]
          exact List.mem_cons_self
        · rw [isNext]
          exact List.mem_cons_of_mem _ List.mem_cons_self
      · exact List.mem_cons_of_mem _ (List.mem_cons_of_mem _ later)

theorem mem_of_reduce {combine : α → α → α}
    (either : ∀ left right, combine left right = left ∨ combine left right = right)
    {items : List α} {item : α} (reduced : reduce combine items = some item) : item ∈ items := by
  cases items with
  | nil => cases reduced
  | cons first rest =>
      obtain rfl := Option.some.inj reduced
      exact foldl_mem either first rest

theorem mem_of_firstMode [BEq α] {items : List α} {item : α} (mode : firstMode items = some item) :
    item ∈ items := by
  obtain ⟨best, most, rfl⟩ := Option.map_eq_some_iff.mp mode
  refine mem_tally ?_
  cases counted : tally items with
  | nil =>
      rw [counted] at most
      cases most
  | cons first rest =>
      rw [counted] at most
      obtain rfl := Option.some.inj most
      refine foldl_mem (fun best entry => ?_) first rest
      split
      · exact Or.inr rfl
      · exact Or.inl rfl

end

section
variable {values : List Float} (finite : ∀ value ∈ values, value.isFinite)
  (few : values.length < 2 ^ 53) {number : Float}
include finite few

theorem isNaN_mean (mean : Aggregation.mean values = some number) : number.isNaN = false := by
  cases values with
  | nil => cases mean
  | cons first rest =>
      obtain rfl := Option.some.inj mean
      exact Number.isNaN_div_ofNat (Nat.succ_pos _) few (Number.isNaN_sum finite)

omit few in
theorem isNaN_median (median : Aggregation.median values = some number) : number.isNaN = false := by
  have member {value : Float} (listed : value ∈ ascending values) : value ∈ values :=
    (sortedBy_perm _ values).mem_iff.mp listed
  simp only [Aggregation.median] at median
  split at median
  · split at median
    · rename_i left right before behind
      obtain rfl := Option.some.inj median
      have isLeft := finite left (member (List.mem_of_getElem? before))
      have isRight := finite right (member (List.mem_of_getElem? behind))
      exact Number.isNaN_half (Number.isNaN_add (Number.isNaN_of_isFinite isLeft) isRight)
    · cases median
  · exact Number.isNaN_of_isFinite (finite number (member (List.mem_of_getElem? median)))

theorem isNaN_standardDeviation (deviation : standardDeviation values = some number) :
    number.isNaN = false := by
  obtain ⟨center, mean, rfl⟩ := Option.map_eq_some_iff.mp deviation
  have nonempty : values ≠ [] := by
    rintro rfl
    cases mean
  have centered := isNaN_mean finite few mean
  refine Number.isNaN_sqrt (Number.signed_div_ofNat (List.length_pos_iff.mpr nonempty) few ?_)
  refine Number.signed_sum (by simpa using nonempty) fun square member => ?_
  obtain ⟨value, listed, rfl⟩ := List.mem_map.mp member
  exact Number.signed_square (Number.isNaN_sub (finite value listed) centered)

theorem isNaN_numeric (function : AggregateFunction)
    (aggregated : numeric function values = .number number) : number.isNaN = false := by
  have listed (member : number ∈ values) : number.isNaN = false :=
    Number.isNaN_of_isFinite (finite number member)
  simp only [numeric] at aggregated
  split at aggregated
  · rename_i value result
    cases aggregated
    cases function with
    | mean => exact isNaN_mean finite few result
    | median => exact isNaN_median finite result
    | mode => exact listed (mem_of_firstMode result)
    | min => exact listed (mem_of_reduce Number.smaller_either result)
    | max => exact listed (mem_of_reduce Number.larger_either result)
    | total =>
        have sum : (if values.isEmpty then none else some (Number.sum values)) = some number :=
          result
        split at sum
        · cases sum
        · obtain rfl := Option.some.inj sum
          exact Number.isNaN_sum finite
    | stddev => exact isNaN_standardDeviation finite few result
  · cases aggregated

end

theorem isFinite_indicator (value : Bool) : (indicator value).isFinite := by
  cases value with
  | true => decide
  | false => decide

theorem isFinite_map_indicator (values : List Bool) :
    ∀ number ∈ values.map indicator, number.isFinite := by
  intro number member
  obtain ⟨value, _, rfl⟩ := List.mem_map.mp member
  exact isFinite_indicator value

theorem isNaN_boolean {observations : List Value} (few : observations.length < 2 ^ 53)
    {function : AggregateFunction} {number : Float}
    (aggregated : boolean function observations = .number number) : number.isNaN = false := by
  have fewTruths : ((observations.filterMap truth).map indicator).length < 2 ^ 53 := by
    rw [List.length_map]
    exact Nat.lt_of_le_of_lt (List.length_filterMap_le _ _) few
  simp only [boolean] at aggregated
  split at aggregated
  · cases aggregated
  · split at aggregated
    · split at aggregated
      · cases aggregated
      · cases aggregated
    · cases aggregated
    · cases aggregated
    · exact isNaN_numeric (isFinite_map_indicator _) fewTruths _ aggregated

theorem enumerated_ne_number (function : AggregateFunction) (options : Nat)
    (observations : List Value) (number : Float) :
    enumerated function options observations ≠ .number number := by
  simp only [enumerated]
  grind

theorem text_ne_number (function : AggregateFunction) (observations : List Value)
    (number : Float) : text function observations ≠ .number number := by
  simp only [text]
  grind

end Aggregation

/-- Are all numbers among some observations finite, and not too many to be counted exactly? -/
structure FiniteObservations (observations : List Value) : Prop where
  finite : ∀ observation ∈ observations, ∀ number, observation.reading = some number →
    number.isFinite
  few : observations.length < 2 ^ 53

section
variable {values : List Value} {function : AggregateFunction} {number : Float}

theorem FiniteObservations.isNaN_numeric {observations : List Value}
    (observed : FiniteObservations observations)
    (aggregated : Aggregation.numeric function (observations.filterMap Value.reading) =
      .number number) : number.isNaN = false := by
  refine Aggregation.isNaN_numeric (fun value member => ?_) ?_ function aggregated
  · obtain ⟨observation, listed, read⟩ := List.mem_filterMap.mp member
    exact observed.finite observation listed value read
  · exact Nat.lt_of_le_of_lt (List.length_filterMap_le _ _) observed.few

theorem isNaN_aggregate (observed : FiniteObservations (Value.flatten values)) {kind : ValueKind}
    (aggregated : aggregate values function kind = .number number) : number.isNaN = false := by
  simp only [aggregate] at aggregated
  split at aggregated
  · cases aggregated
  · cases kind with
    | numeric => exact observed.isNaN_numeric aggregated
    | cycle => exact observed.isNaN_numeric aggregated
    | boolean => exact Aggregation.isNaN_boolean observed.few aggregated
    | enumerated options =>
        exact absurd aggregated (Aggregation.enumerated_ne_number _ _ _ _)
    | text => exact absurd aggregated (Aggregation.text_ne_number _ _ _)

theorem isNaN_aggregateOption (few : (Value.flatten values).length < 2 ^ 53) {option : Nat}
    (aggregated : aggregateOption values function option = .number number) :
    number.isNaN = false := by
  refine Aggregation.isNaN_numeric (Aggregation.isFinite_map_indicator _) ?_ function aggregated
  rw [List.length_map]
  exact Nat.lt_of_le_of_lt (List.length_filterMap_le _ _) few

end

end Scouting
