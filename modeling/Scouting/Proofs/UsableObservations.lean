import Scouting.Proofs.FiniteObservations
import Scouting.Proofs.OptionCounts

/-!
What an aggregate needs. Each kind of value can use some observations and passes over the others; an
aggregate has no data exactly when there is none that it can use, or when its function means nothing
for the kind. What is made of options otherwise is one of those declared, or a count for each.
-/

namespace Scouting

namespace Aggregation

section
variable {α : Type}

theorem reduce_eq_none_iff {combine : α → α → α} {items : List α} :
    reduce combine items = none ↔ items = [] := by
  cases items <;> simp [reduce]

theorem countIn_ne_nil [BEq α] (item : α) (counted : List (α × Nat)) :
    countIn item counted ≠ [] := by
  cases counted with
  | nil => simp [countIn]
  | cons first rest =>
      rw [countIn]
      split <;> simp

theorem tally_eq_nil_iff [BEq α] {items : List α} : tally items = [] ↔ items = [] := by
  constructor
  · intro none
    induction items using List.reverseRecOn with
    | nil => rfl
    | append_singleton front last ih =>
        rw [tally, List.foldl_append] at none
        exact absurd none (countIn_ne_nil last _)
  · rintro rfl
    rfl

theorem firstMode_eq_none_iff [BEq α] {items : List α} : firstMode items = none ↔ items = [] := by
  rw [firstMode, Option.map_eq_none_iff, ← tally_eq_nil_iff]
  cases tally items <;> simp [mostFrequent]

end

section
variable {values : List Float}

theorem mean_eq_none_iff : mean values = none ↔ values = [] := by
  rw [mean, ite_eq_left_iff]
  simp

theorem length_ascending (values : List Float) : (ascending values).length = values.length :=
  (sortedBy_perm _ values).length_eq

/-- Are there numbers in the middle of some that are put in order: one, or two if they are even in
number? -/
structure HasMiddle (sorted : List Float) : Prop where
  upper : sorted.length / 2 < sorted.length
  lower : sorted.length % 2 = 0 → 1 ≤ sorted.length / 2

theorem hasMiddle_ascending (nonempty : values ≠ []) : HasMiddle (ascending values) := by
  have positive : 0 < (ascending values).length := by
    rw [length_ascending]
    exact List.length_pos_iff.mpr nonempty
  constructor
  · omega
  · intro even
    omega

theorem median_eq_none_iff : median values = none ↔ values = [] := by
  constructor
  · intro none
    by_contra nonempty
    have upper := (hasMiddle_ascending nonempty).upper
    have lower : (ascending values).length / 2 - 1 < (ascending values).length := by omega
    simp only [median, List.getElem?_eq_getElem upper, List.getElem?_eq_getElem lower] at none
    split at none <;> cases none
  · rintro rfl
    rfl

theorem standardDeviation_eq_none_iff : standardDeviation values = none ↔ values = [] := by
  rw [standardDeviation, Option.map_eq_none_iff, mean_eq_none_iff]

theorem numeric_eq_noData_iff {function : AggregateFunction} :
    numeric function values = .noData ↔ values = [] := by
  cases function with
  | mean =>
      rw [numeric, ← mean_eq_none_iff]
      cases mean values <;> simp
  | median =>
      rw [numeric, ← median_eq_none_iff]
      cases median values <;> simp
  | mode =>
      rw [numeric, ← firstMode_eq_none_iff]
      cases firstMode values <;> simp
  | min =>
      rw [numeric, ← reduce_eq_none_iff]
      cases reduce Number.smaller values <;> simp
  | max =>
      rw [numeric, ← reduce_eq_none_iff]
      cases reduce Number.larger values <;> simp
  | total => cases values <;> simp [numeric]
  | stddev =>
      rw [numeric, ← standardDeviation_eq_none_iff]
      cases standardDeviation values <;> simp

end

theorem boolean_eq_noData_iff {function : AggregateFunction} {observations : List Value} :
    boolean function observations = .noData ↔ observations.filterMap truth = [] := by
  simp only [boolean]
  cases truths : observations.filterMap truth with
  | nil => simp
  | cons first rest =>
      have nonempty : first :: rest ≠ [] := List.cons_ne_nil _ _
      have numbers : numeric function ((first :: rest).map indicator) ≠ .noData := by
        simp [numeric_eq_noData_iff]
      cases mode : firstMode (first :: rest) with
      | none => exact absurd (firstMode_eq_none_iff.mp mode) nonempty
      | some value => cases function <;> simp_all

theorem text_eq_noData_iff {function : AggregateFunction} {observations : List Value} :
    text function observations = .noData ↔
      function ≠ .mode ∨ observations.filterMap textOf = [] := by
  rw [← firstMode_eq_none_iff]
  cases function with
  | mode =>
      rw [text]
      cases firstMode (observations.filterMap textOf) <;> simp
  | _ => simp [text]

section
variable {options : Nat} {observations : List Value}

theorem lt_of_declaredPicks {option : Nat} (picked : option ∈ declaredPicks options observations) :
    option < options := by
  simpa using (List.mem_filter.mp picked).2

theorem length_optionCounts (options : Nat) (picked : List Nat) :
    (optionCounts options picked).length = options := by
  simp [optionCounts]

theorem sum_optionCounts {picked : List Nat} (declared : ∀ option ∈ picked, option < options) :
    (optionCounts options picked).sum = picked.length := by
  have counted := Multiset.sum_count_eq_card (s := Finset.range options) (m := ↑picked)
    fun option member => Finset.mem_range.mpr (declared option member)
  simpa [Finset.sum, Multiset.range, optionCounts] using counted

theorem leastFrequent_optionCounts (positive : 0 < options) (picked : List Nat) :
    ∃ index < options, leastFrequent (optionCounts options picked) = some index := by
  have counted : (optionCounts options picked).zipIdx ≠ [] := by
    intro none
    have none : (optionCounts options picked).length = 0 := by
      rw [← List.length_zipIdx, none, List.length_nil]
    rw [length_optionCounts] at none
    omega
  rw [leastFrequent]
  cases reduced : reduce _ (optionCounts options picked).zipIdx with
  | none => exact absurd (reduce_eq_none_iff.mp reduced) counted
  | some least =>
      have member := mem_of_reduce (fun left right => (ite_eq_or_eq _ right left).symm) reduced
      have bounded := (List.mem_zipIdx' member).1
      rw [length_optionCounts] at bounded
      exact ⟨least.2, bounded, rfl⟩

theorem middle_lt {picked : List Nat} (nonempty : picked ≠ []) :
    (picked.length - 1) / 2 < picked.mergeSort.length := by
  have positive := List.length_pos_iff.mpr nonempty
  rw [List.length_mergeSort]
  omega

theorem enumerated_of_picked {function : AggregateFunction} (meant : function ≠ .stddev)
    (picked : declaredPicks options observations ≠ []) :
    (∃ index < options, enumerated function options observations = .choice index) ∨
      enumerated function options observations =
        .counts (optionCounts options (declaredPicks options observations)) := by
  simp only [enumerated, List.isEmpty_iff, picked, if_false]
  obtain ⟨first, member⟩ := List.exists_mem_of_ne_nil _ picked
  have positive := Nat.zero_lt_of_lt (lt_of_declaredPicks member)
  obtain ⟨mode, isMode⟩ := Option.ne_none_iff_exists'.mp (mt firstMode_eq_none_iff.mp picked)
  have declared := lt_of_declaredPicks (mem_of_firstMode isMode)
  cases function with
  | mean => exact Or.inl ⟨mode, declared, by rw [isMode]⟩
  | mode => exact Or.inl ⟨mode, declared, by rw [isMode]⟩
  | max => exact Or.inl ⟨mode, declared, by rw [isMode]⟩
  | median =>
      have within := middle_lt picked
      rw [List.getElem?_eq_getElem within]
      refine Or.inl ⟨_, lt_of_declaredPicks (List.mem_mergeSort.mp (List.getElem_mem within)), rfl⟩
  | min =>
      obtain ⟨index, within, least⟩ :=
        leastFrequent_optionCounts positive (declaredPicks options observations)
      exact Or.inl ⟨index, within, by rw [least]⟩
  | total => exact Or.inr rfl
  | stddev => exact absurd rfl meant

theorem enumerated_eq_noData_iff {function : AggregateFunction} :
    enumerated function options observations = .noData ↔
      function = .stddev ∨ declaredPicks options observations = [] := by
  by_cases picked : declaredPicks options observations = []
  · simp [enumerated, picked]
  · by_cases meant : function = .stddev
    · simp [enumerated, meant]
    · rcases enumerated_of_picked meant picked with ⟨index, _, chosen⟩ | counted
      · simp [chosen, picked, meant]
      · simp [counted, picked, meant]

end

/-- Does an observation pick an option? A truth value picks the first option or the second, and a
whole number the option at its place. -/
inductive Picks (options : Nat) : Value → Nat → Prop where
  | choice (index : Nat) : Picks options (.choice index) index
  | flag {flags : List Bool} {index : Nat} (set : flags[index]? = some true) :
      Picks options (.flags flags) index
  | no : Picks options (.bool false) 0
  | yes : Picks options (.bool true) 1
  | number {number : Float} (least : 0.0 ≤ number) (below : number < Float.ofNat options)
      (whole : Number.isWhole number) : Picks options (.number number) number.toUInt64.toNat

theorem mem_picks_iff {options option : Nat} {value : Value} :
    option ∈ picks options value ↔ Picks options value option := by
  cases value with
  | choice index =>
      rw [picks, List.mem_singleton]
      constructor
      · rintro rfl
        exact .choice option
      · rintro ⟨⟩
        rfl
  | flags flags =>
      rw [mem_picks_flags]
      constructor
      · exact .flag
      · rintro (_ | set)
        exact set
  | bool truth =>
      rw [picks, List.mem_singleton]
      constructor
      · rintro rfl
        cases truth
        · exact .no
        · exact .yes
      · rintro (_ | _ | _)
        · rfl
        · rfl
  | number number =>
      rw [picks]
      split
      · rename_i numbers
        simp only [Bool.and_eq_true, decide_eq_true_eq] at numbers
        rw [List.mem_singleton]
        constructor
        · rintro rfl
          exact .number numbers.1.1 numbers.1.2 numbers.2
        · rintro ⟨⟩
          rfl
      · rename_i none
        constructor
        · intro member
          cases member
        · rintro (_ | _ | _ | _ | ⟨least, below, whole⟩)
          simp [least, below, whole] at none
  | _ =>
      constructor
      · intro member
        cases member
      · rintro ⟨⟩

instance (options : Nat) (value : Value) (option : Nat) : Decidable (Picks options value option) :=
  decidable_of_iff _ mem_picks_iff

def pickCount (options : Nat) (value : Value) : Nat :=
  (List.range options).countP fun option => Picks options value option

theorem picks_nodup (options : Nat) (value : Value) : (picks options value).Nodup := by
  cases value with
  | flags flags => exact picks_flags_nodup options flags
  | number number =>
      rw [picks]
      split
      · exact List.nodup_singleton _
      · exact List.nodup_nil
  | choice index => exact List.nodup_singleton _
  | bool truth => exact List.nodup_singleton _
  | _ => exact List.nodup_nil

theorem length_filter_picks (options : Nat) (value : Value) :
    ((picks options value).filter (· < options)).length = pickCount options value := by
  rw [pickCount, List.countP_eq_length_filter]
  apply List.Perm.length_eq
  apply (List.perm_ext_iff_of_nodup ((picks_nodup options value).filter _)
    (List.nodup_range.filter _)).mpr
  intro option
  simp only [List.mem_filter, List.mem_range, mem_picks_iff, decide_eq_true_eq]
  exact And.comm

theorem length_declaredPicks (options : Nat) (observations : List Value) :
    (declaredPicks options observations).length = (observations.map (pickCount options)).sum := by
  rw [declaredPicks, List.filter_flatMap, List.length_flatMap]
  exact congrArg List.sum (List.map_congr_left fun value _ => length_filter_picks options value)

theorem declaredPicks_eq_nil {options : Nat} {observations : List Value} :
    declaredPicks options observations = [] ↔
      ∀ observation ∈ observations, ¬∃ option < options, Picks options observation option := by
  simp only [declaredPicks, List.filter_eq_nil_iff, List.mem_flatMap, decide_eq_true_eq,
    mem_picks_iff]
  grind

/-- Can an aggregate of a kind use an observation? -/
def IsUsable (observation : Value) : ValueKind → Prop
  | .numeric => observation.reading.isSome
  | .cycle => observation.reading.isSome
  | .boolean => (∃ truth, observation = .bool truth) ∨ observation.reading.isSome
  | .enumerated options => ∃ option < options, Picks options observation option
  | .text => ∃ text, observation = .text text

/-- Does a function mean anything for a kind of values? Options have no spread, and of texts there
is only the one that is seen most often. -/
def Means (function : AggregateFunction) : ValueKind → Prop
  | .enumerated _ => function ≠ .stddev
  | .text => function = .mode
  | _ => True

theorem truth_eq_none_iff {observation : Value} :
    truth observation = none ↔ ¬IsUsable observation .boolean := by
  cases observation <;> simp [truth, IsUsable, Value.reading]

theorem textOf_eq_none_iff {observation : Value} :
    textOf observation = none ↔ ¬IsUsable observation .text := by
  cases observation <;> simp [textOf, IsUsable]

end Aggregation

open Aggregation

theorem aggregate_eq_noData_iff {values : List Value} {function : AggregateFunction}
    {kind : ValueKind} : aggregate values function kind = .noData ↔
      ¬Means function kind ∨
        ∀ observation ∈ Value.flatten values, ¬IsUsable observation kind := by
  simp only [aggregate]
  by_cases empty : (Value.flatten values).isEmpty
  · rw [if_pos empty, List.isEmpty_iff.mp empty]
    simp
  · rw [if_neg empty]
    cases kind with
    | numeric => simp [numeric_eq_noData_iff, Means, IsUsable]
    | cycle => simp [numeric_eq_noData_iff, Means, IsUsable]
    | boolean =>
        rw [boolean_eq_noData_iff, List.filterMap_eq_nil_iff]
        simp [truth_eq_none_iff, Means]
    | enumerated options =>
        rw [enumerated_eq_noData_iff, declaredPicks_eq_nil]
        simp [Means, IsUsable]
    | text =>
        rw [text_eq_noData_iff, List.filterMap_eq_nil_iff]
        simp [textOf_eq_none_iff, Means]

theorem aggregate_enumerated {values : List Value} {function : AggregateFunction} {options : Nat}
    (data : aggregate values function (.enumerated options) ≠ .noData) :
    (∃ index < options, aggregate values function (.enumerated options) = .choice index) ∨
      aggregate values function (.enumerated options) =
        .counts (optionCounts options (declaredPicks options (Value.flatten values))) := by
  simp only [aggregate] at data ⊢
  by_cases empty : (Value.flatten values).isEmpty
  · rw [if_pos empty] at data
    exact absurd rfl data
  · rw [if_neg empty] at data ⊢
    apply enumerated_of_picked
    · intro spread
      exact data (enumerated_eq_noData_iff.mpr (Or.inl spread))
    · intro none
      exact data (enumerated_eq_noData_iff.mpr (Or.inr none))

/-- Aggregates make nothing up. There is no data exactly where none of the observations can be used
or the function means nothing for the kind. Otherwise options come to one of those declared, or to a
count for each, which together are the picks of declared options. Each of these picks has a count,
and whatever is put in order has a middle unless it is empty. -/
theorem aggregate_invents_nothing (values : List Value) (function : AggregateFunction)
    (kind : ValueKind) :
    (aggregate values function kind = .noData ↔ ¬Means function kind ∨
      ∀ observation ∈ Value.flatten values, ¬IsUsable observation kind) ∧
    (∀ options, kind = .enumerated options → aggregate values function kind ≠ .noData →
      (∃ index < options, aggregate values function kind = .choice index) ∨
      ∃ counts : List Nat, aggregate values function kind = .counts counts ∧
        counts.length = options ∧
        counts.sum = ((Value.flatten values).map (pickCount options)).sum) ∧
    (∀ options, let picked := declaredPicks options (Value.flatten values)
      (∀ option ∈ picked, option < (optionCounts options picked).length) ∧
      (picked ≠ [] → (picked.length - 1) / 2 < picked.mergeSort.length)) ∧
    ∀ numbers ≠ [], HasMiddle (ascending numbers) := by
  refine ⟨aggregate_eq_noData_iff, ?_, ?_, fun numbers => hasMiddle_ascending⟩
  · rintro options rfl data
    rcases aggregate_enumerated data with chosen | counted
    · exact Or.inl chosen
    · refine Or.inr ⟨_, counted, length_optionCounts _ _, ?_⟩
      rw [sum_optionCounts fun option picked => lt_of_declaredPicks picked, length_declaredPicks]
  · intro options picked
    constructor
    · intro option member
      rw [length_optionCounts]
      exact lt_of_declaredPicks member
    · exact middle_lt

theorem aggregate_invents_nothing_counted :
    let seen : List Value := [.list [.missing, .list [.number 1.5]], .flags [true, false, true],
      .choice 0]
    aggregate seen .total (.enumerated 2) = .counts [2, 0] ∧
    ((Value.flatten seen).map (Aggregation.pickCount 2)).sum = 2 ∧
    Aggregation.HasMiddle (Aggregation.ascending [2.5, 1.0]) := by
  intro seen
  have counted : aggregate seen .total (.enumerated 2) = .counts [2, 0] := by decide +kernel
  obtain ⟨_, options, _, middle⟩ := aggregate_invents_nothing seen .total (.enumerated 2)
  refine ⟨counted, ?_, middle _ (List.cons_ne_nil _ _)⟩
  rw [counted] at options
  rcases options 2 rfl (by decide) with ⟨index, _, chosen⟩ | ⟨counts, same, _, picks⟩
  · cases chosen
  · cases same
    exact picks.symm

end Scouting
