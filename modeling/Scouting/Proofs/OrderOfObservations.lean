import Scouting.Proofs.Magnitudes
import Scouting.Proofs.Modes
import Scouting.Proofs.StableSorting

/-!
Observations in another order. Numbers in ascending order are the same ones, but for the signs of
zeros, in whatever order they come; so are the smallest and the largest of them, and counts of
options. A mode may become another one, which occurs as often.
-/

namespace Scouting

namespace Number

open Float.Model (UnpackedFloat Format)
open Scouting.Unpacked (IsZero)

theorem eq_of_placeOf {left right : UnpackedFloat} (isLeft : left.isNaN = false)
    (isRight : right.isNaN = false) (same : placeOf left = placeOf right) :
    left = right ∨ IsZero left ∧ IsZero right := by
  rcases left with (_ | _) | _ | _ | ⟨_ | _, _, _, _⟩ <;>
    rcases right with (_ | _) | _ | _ | ⟨_ | _, _, _, _⟩ <;>
    simp_all [UnpackedFloat.isNaN, placeOf]

theorem eq_of_beq {left right : Float} (same : left == right) :
    left = right ∨ IsZero left.toModel.unpack ∧ IsZero right.toModel.unpack := by
  obtain ⟨isLeft, isRight⟩ := isNaN_of_beq same
  rcases eq_of_placeOf isLeft isRight ((beq_iff_place isLeft isRight).mp same) with
    unpacked | zeros
  · left
    rw [← pack_unpack left, unpacked, pack_unpack right]
  · exact Or.inr zeros

theorem add_eq {left right sum : Float}
    (added : UnpackedFloat.add Format.binary64 left.toModel.unpack right.toModel.unpack =
      sum.toModel.unpack) : left + right = sum := by
  change (⟨Float.Model.pack (UnpackedFloat.add _ _ _)⟩ : Float) = _
  rw [added, pack_unpack]

theorem zero_add {zero other : Float} (isZero : IsZero zero.toModel.unpack)
    (nonzero : ¬IsZero other.toModel.unpack) : zero + other = other := by
  obtain ⟨sign, isZero⟩ := isZero
  apply add_eq
  rw [isZero]
  cases unpacked : other.toModel.unpack with
  | zero other => exact absurd ⟨other, unpacked⟩ nonzero
  | _ => rfl

theorem add_zero {zero other : Float} (isZero : IsZero zero.toModel.unpack)
    (nonzero : ¬IsZero other.toModel.unpack) : other + zero = other := by
  obtain ⟨sign, isZero⟩ := isZero
  apply add_eq
  rw [isZero]
  cases unpacked : other.toModel.unpack with
  | zero other => exact absurd ⟨other, unpacked⟩ nonzero
  | _ => rfl

theorem isZero_add {left right : Float} (isLeft : IsZero left.toModel.unpack)
    (isRight : IsZero right.toModel.unpack) : IsZero (left + right).toModel.unpack := by
  obtain ⟨sign, isLeft⟩ := isLeft
  obtain ⟨other, isRight⟩ := isRight
  change IsZero (UnpackedFloat.unpack _ (UnpackedFloat.pack _ (UnpackedFloat.add _ _ _)))
  rw [isLeft, isRight]
  cases sign <;> cases other <;> exact ⟨_, rfl⟩

theorem isZero_half {zero : Float} (isZero : IsZero zero.toModel.unpack) :
    IsZero (zero / 2.0).toModel.unpack := by
  obtain ⟨sign, isZero⟩ := isZero
  change IsZero (UnpackedFloat.unpack _ (UnpackedFloat.pack _ (UnpackedFloat.div _ _ _)))
  rw [isZero]
  cases sign <;> exact ⟨_, rfl⟩

theorem beq_of_isZero {left right : Float} (isLeft : IsZero left.toModel.unpack)
    (isRight : IsZero right.toModel.unpack) : left == right := by
  obtain ⟨sign, isLeft⟩ := isLeft
  obtain ⟨other, isRight⟩ := isRight
  change left.toModel.unpack.beq right.toModel.unpack = true
  rw [isLeft, isRight]
  rfl

theorem add_eq_of_beq {left right other another : Float} (lower : left == other)
    (upper : right == another) : left + right = other + another ∨
      IsZero (left + right).toModel.unpack ∧ IsZero (other + another).toModel.unpack := by
  rcases eq_of_beq lower with rfl | ⟨leftZero, otherZero⟩
  · rcases eq_of_beq upper with rfl | ⟨rightZero, anotherZero⟩
    · exact Or.inl rfl
    · by_cases zero : IsZero left.toModel.unpack
      · exact Or.inr ⟨isZero_add zero rightZero, isZero_add zero anotherZero⟩
      · rw [add_zero rightZero zero, add_zero anotherZero zero]
        exact Or.inl rfl
  · rcases eq_of_beq upper with rfl | ⟨rightZero, anotherZero⟩
    · by_cases zero : IsZero right.toModel.unpack
      · exact Or.inr ⟨isZero_add leftZero zero, isZero_add otherZero zero⟩
      · rw [zero_add leftZero zero, zero_add otherZero zero]
        exact Or.inl rfl
    · exact Or.inr ⟨isZero_add leftZero rightZero, isZero_add otherZero anotherZero⟩

/-- Are two numbers the same or equal to each other? -/
def Alike (left right : Float) : Prop := left = right ∨ left == right

theorem half_sum_alike {left right other another : Float} (lower : left == other)
    (upper : right == another) : Alike ((left + right) / 2.0) ((other + another) / 2.0) := by
  rcases add_eq_of_beq lower upper with same | ⟨isZero, otherZero⟩
  · rw [same]
    exact Or.inl rfl
  · exact Or.inr (beq_of_isZero (isZero_half isZero) (isZero_half otherZero))

section
variable {left right : Float} (isLeft : left.isNaN = false) (isRight : right.isNaN = false)
include isLeft isRight

theorem place_smaller : place (smaller left right) = min (place left) (place right) := by
  rw [smaller, isLeft, Bool.false_or]
  split
  · rename_i below
    rw [decide_eq_true_iff, le_iff_place isRight isLeft] at below
    exact (min_eq_right below).symm
  · rename_i above
    rw [decide_eq_true_iff, le_iff_place isRight isLeft] at above
    exact (min_eq_left (le_of_not_ge above)).symm

theorem place_larger : place (larger left right) = max (place left) (place right) := by
  rw [larger, isLeft, Bool.false_or]
  split
  · rename_i below
    rw [decide_eq_true_iff, le_iff_place isLeft isRight] at below
    exact (max_eq_right below).symm
  · rename_i above
    rw [decide_eq_true_iff, le_iff_place isLeft isRight] at above
    exact (max_eq_left (le_of_not_ge above)).symm

end

theorem beq_of_map_place {left right : Option Float} (isLeft : ∀ value ∈ left, value.isNaN = false)
    (isRight : ∀ value ∈ right, value.isNaN = false) (same : left.map place = right.map place) :
    Option.Rel (· == ·) left right := by
  cases left with
  | none =>
      cases right with
      | none => exact .none
      | some right => cases same
  | some left =>
      cases right with
      | none => cases same
      | some right =>
          have same := Option.some.inj same
          exact .some ((beq_iff_place (isLeft left rfl) (isRight right rfl)).mpr same)

end Number

namespace Aggregation

section
variable {α β : Type}

theorem reduce_perm {combine : α → α → α} [Std.Commutative combine] [Std.Associative combine]
    {items others : List α} (perm : items.Perm others) :
    reduce combine items = reduce combine others := by
  induction perm with
  | nil => rfl
  | cons first perm ih => exact congrArg some (perm.foldl_eq first)
  | swap first second rest =>
      rw [reduce, reduce, List.foldl_cons, List.foldl_cons, @Std.Commutative.comm _ combine _]
  | trans _ _ first second => exact first.trans second

theorem image_foldl {combine : α → α → α} {join : β → β → β} {image : α → β} {items : List α}
    (either : ∀ left right, combine left right = left ∨ combine left right = right)
    (joins : ∀ left ∈ items, ∀ right ∈ items,
      image (combine left right) = join (image left) (image right))
    {first : α} (listed : first ∈ items) {rest : List α} (within : ∀ item ∈ rest, item ∈ items) :
    image (rest.foldl combine first) = (rest.map image).foldl join (image first) := by
  induction rest generalizing first with
  | nil => rfl
  | cons next rest ih =>
      have isNext := within next List.mem_cons_self
      have kept : combine first next ∈ items := by
        rcases either first next with same | same
        · rw [same]
          exact listed
        · rw [same]
          exact isNext
      rw [List.foldl_cons, ih kept fun item member => within item (List.mem_cons_of_mem _ member),
        joins first listed next isNext]
      rfl

theorem map_reduce {combine : α → α → α} {join : β → β → β} {image : α → β} {items : List α}
    (either : ∀ left right, combine left right = left ∨ combine left right = right)
    (joins : ∀ left ∈ items, ∀ right ∈ items,
      image (combine left right) = join (image left) (image right)) :
    (reduce combine items).map image = reduce join (items.map image) := by
  cases items with
  | nil => rfl
  | cons first rest =>
      exact congrArg some (image_foldl either joins List.mem_cons_self
        fun item member => List.mem_cons_of_mem _ member)

end

section
variable {values others : List Float} (numbers : ∀ value ∈ values, value.isNaN = false)
include numbers

theorem ascending_sorted :
    (ascending values).Pairwise fun left right => Number.place left ≤ Number.place right := by
  have listed {value : Float} (member : value ∈ ascending values) : value.isNaN = false :=
    numbers value ((sortedBy_perm _ values).mem_iff.mp member)
  exact (sortedBy_sorted (Number.linesUp_rising numbers)).imp_of_mem fun leftIn rightIn =>
    (Number.not_lt_iff_place (listed rightIn) (listed leftIn)).mp

variable (perm : values.Perm others)
include perm

theorem ascending_beq (index : Nat) :
    Option.Rel (· == ·) (ascending values)[index]? (ascending others)[index]? := by
  have numbersOthers : ∀ value ∈ others, value.isNaN = false :=
    fun value member => numbers value (perm.mem_iff.mpr member)
  have places : (ascending values).map Number.place = (ascending others).map Number.place := by
    refine List.Perm.eq_of_pairwise (fun left right _ _ => le_antisymm)
      (List.pairwise_map.mpr (ascending_sorted numbers))
      (List.pairwise_map.mpr (ascending_sorted numbersOthers)) (List.Perm.map _ ?_)
    exact (sortedBy_perm _ values).trans (perm.trans (sortedBy_perm _ others).symm)
  refine Number.beq_of_map_place (fun value found => ?_) (fun value found => ?_) ?_
  · exact numbers value ((sortedBy_perm _ values).mem_iff.mp (List.mem_of_getElem? found))
  · exact numbersOthers value ((sortedBy_perm _ others).mem_iff.mp (List.mem_of_getElem? found))
  · rw [← List.getElem?_map, ← List.getElem?_map, places]

theorem median_alike : Option.Rel Number.Alike (median values) (median others) := by
  have length : (ascending others).length = (ascending values).length := by
    rw [length_ascending, length_ascending, perm.length_eq]
  have lower := ascending_beq numbers perm ((ascending values).length / 2 - 1)
  have upper := ascending_beq numbers perm ((ascending values).length / 2)
  simp only [median, length]
  generalize (ascending values)[(ascending values).length / 2]? = own at upper ⊢
  generalize (ascending others)[(ascending values).length / 2]? = other at upper ⊢
  split
  · generalize (ascending values)[(ascending values).length / 2 - 1]? = below at lower ⊢
    generalize (ascending others)[(ascending values).length / 2 - 1]? = otherBelow at lower ⊢
    cases lower with
    | none => exact .none
    | some lower =>
        cases upper with
        | none => exact .none
        | some upper => exact .some (Number.half_sum_alike lower upper)
  · cases upper with
    | none => exact .none
    | some upper => exact .some (Or.inr upper)

theorem reduce_beq {combine : Float → Float → Float} {join : _ → _ → ℤ ×ₗ ℤ ×ₗ ℤ}
    [Std.Commutative join] [Std.Associative join]
    (either : ∀ left right, combine left right = left ∨ combine left right = right)
    (joins : ∀ {left right : Float}, left.isNaN = false → right.isNaN = false →
      Number.place (combine left right) = join (Number.place left) (Number.place right)) :
    Option.Rel (· == ·) (reduce combine values) (reduce combine others) := by
  have numbersOthers : ∀ value ∈ others, value.isNaN = false :=
    fun value member => numbers value (perm.mem_iff.mpr member)
  refine Number.beq_of_map_place (fun value found => ?_) (fun value found => ?_) ?_
  · exact numbers value (mem_of_reduce either found)
  · exact numbersOthers value (mem_of_reduce either found)
  · rw [map_reduce either fun left leftIn right rightIn =>
        joins (numbers left leftIn) (numbers right rightIn),
      map_reduce either fun left leftIn right rightIn =>
        joins (numbersOthers left leftIn) (numbersOthers right rightIn)]
    exact reduce_perm (perm.map _)

end

end Aggregation

def Aggregate.Alike (left right : Aggregate) : Prop := left = right ∨ left.same right

theorem Aggregate.alike_of_rel {relates : Float → Float → Prop}
    (alike : ∀ left right, relates left right → Number.Alike left right)
    {left right : Option Float} : Option.Rel relates left right →
      Alike (match left with | some value => .number value | none => .noData)
        (match right with | some value => .number value | none => .noData) := by
  intro related
  cases related with
  | none => exact Or.inl rfl
  | some related => exact (alike _ _ related).imp (congrArg number) id

namespace Aggregation

variable {function : AggregateFunction} {kind : ValueKind}

/-- Does a function not depend on the order in which observations of a kind come? -/
def IgnoresOrder (function : AggregateFunction) : ValueKind → Prop
  | .enumerated _ => function = .median ∨ function = .min ∨ function = .total
  | .text => False
  | _ => function = .median ∨ function = .min ∨ function = .max

theorem numeric_alike {values others : List Float}
    (numbers : ∀ value ∈ values, value.isNaN = false) (perm : values.Perm others)
    (ignores : function = .median ∨ function = .min ∨ function = .max) :
    Aggregate.Alike (numeric function values) (numeric function others) := by
  rcases ignores with rfl | rfl | rfl
  · exact Aggregate.alike_of_rel (fun _ _ => id) (median_alike numbers perm)
  · exact Aggregate.alike_of_rel (fun _ _ => Or.inr)
      (reduce_beq numbers perm Number.smaller_either Number.place_smaller)
  · exact Aggregate.alike_of_rel (fun _ _ => Or.inr)
      (reduce_beq numbers perm Number.larger_either Number.place_larger)

section
variable {observations others : List Value} (perm : observations.Perm others)
include perm

theorem boolean_alike (ignores : function = .median ∨ function = .min ∨ function = .max) :
    Aggregate.Alike (boolean function observations) (boolean function others) := by
  have truths := perm.filterMap truth
  have numbers : ∀ value ∈ (observations.filterMap truth).map indicator, value.isNaN = false :=
    fun value member => Number.isNaN_of_isFinite (isFinite_map_indicator _ value member)
  have medians : Aggregate.Alike (numeric .median _) (numeric .median _) :=
    numeric_alike numbers (truths.map indicator) (Or.inl rfl)
  simp only [boolean, truths.isEmpty_eq]
  split
  · exact Or.inl rfl
  · rcases ignores with rfl | rfl | rfl
    · exact medians
    · exact Or.inl (congrArg Aggregate.bool truths.all_eq)
    · exact Or.inl (congrArg Aggregate.bool truths.any_eq)

theorem declaredPicks_perm (options : Nat) :
    (declaredPicks options observations).Perm (declaredPicks options others) :=
  (perm.flatMap_right _).filter _

theorem enumerated_perm {options : Nat}
    (ignores : function = .median ∨ function = .min ∨ function = .total) :
    enumerated function options observations = enumerated function options others := by
  have picked := declaredPicks_perm perm options
  have counts : optionCounts options (declaredPicks options observations) =
      optionCounts options (declaredPicks options others) :=
    List.map_congr_left fun option _ => picked.count_eq option
  have sorted : (declaredPicks options observations).mergeSort =
      (declaredPicks options others).mergeSort := by
    refine List.Perm.eq_of_pairwise' (r := (· ≤ ·)) ?_ ?_ ?_
    · simpa using List.pairwise_mergeSort' (· ≤ ·) (declaredPicks options observations)
    · simpa using List.pairwise_mergeSort' (· ≤ ·) (declaredPicks options others)
    · exact (List.mergeSort_perm _ _).trans (picked.trans (List.mergeSort_perm _ _).symm)
  simp only [enumerated, picked.isEmpty_eq, picked.length_eq, counts, sorted]
  rcases ignores with rfl | rfl | rfl <;> rfl

theorem material_perm (kind : ValueKind) :
    (material observations kind).Perm (material others kind) := by
  cases kind with
  | numeric => exact (perm.filterMap _).map _
  | cycle => exact (perm.filterMap _).map _
  | boolean => exact (perm.filterMap _).map _
  | enumerated options => exact (declaredPicks_perm perm options).map _
  | text => exact (perm.filterMap _).map _

end

theorem IsMode.occurrences_eq {α : Type} {same : α → α → Bool} {items others : List α}
    {mode another : α} (perm : items.Perm others) (isMode : IsMode same items mode)
    (also : IsMode same others another) :
    occurrences same items another = occurrences same items mode := by
  have counted (item : α) : occurrences same others item = occurrences same items item :=
    (perm.countP_eq _).symm
  obtain ⟨front, back, split, _⟩ := isMode.first
  obtain ⟨otherFront, otherBack, otherSplit, _⟩ := also.first
  have isItem : mode ∈ others := perm.mem_iff.mp (by simp [split])
  have isOther : another ∈ items := perm.mem_iff.mpr (by simp [otherSplit])
  have most := isMode.most another isOther
  have otherMost := also.most mode isItem
  rw [counted, counted] at otherMost
  omega

theorem IsModeOf.occurrences_eq {items others : List Aggregate} {mode another : Aggregate}
    (perm : items.Perm others) (isMode : IsModeOf items mode) (also : IsModeOf others another) :
    occurrences Aggregate.same items another = occurrences Aggregate.same items mode := by
  by_cases empty : items = []
  · rw [empty]
    rfl
  · have nonempty : others ≠ [] := fun none => empty (List.perm_nil.mp (none ▸ perm))
    rw [IsModeOf, if_neg empty] at isMode
    rw [IsModeOf, if_neg nonempty] at also
    exact IsMode.occurrences_eq perm isMode also

end Aggregation

open Aggregation

theorem aggregate_alike {values others : List Value} {function : AggregateFunction}
    {kind : ValueKind} (numbers : OnlyNumbers (Value.flatten values))
    (perm : (Value.flatten values).Perm (Value.flatten others))
    (ignores : IgnoresOrder function kind) :
    Aggregate.Alike (aggregate values function kind) (aggregate others function kind) := by
  simp only [aggregate, perm.isEmpty_eq]
  split
  · exact Or.inl rfl
  · cases kind with
    | numeric => exact numeric_alike (isNaN_reading numbers) (perm.filterMap _) ignores
    | cycle => exact numeric_alike (isNaN_reading numbers) (perm.filterMap _) ignores
    | boolean => exact boolean_alike perm ignores
    | enumerated options => exact Or.inl (enumerated_perm perm ignores)
    | text => exact ignores.elim

theorem OnlyNumbers.perm {observations others : List Value} (numbers : OnlyNumbers observations)
    (perm : observations.Perm others) : OnlyNumbers others :=
  fun number member => numbers number (perm.mem_iff.mpr member)

/-- Modes and the order of observations. Where a function takes the mode, it gives what occurs most
often and, of what occurs as often, what comes first. With the same observations in another order,
what does not depend on it is an equal value, and a mode one that occurs as often. -/
theorem order_of_observations {values : List Value} (numbers : OnlyNumbers (Value.flatten values))
    (function : AggregateFunction) (kind : ValueKind) :
    (TakesMode function kind →
      IsModeOf (material (Value.flatten values) kind) (aggregate values function kind)) ∧
    ∀ others, (Value.flatten values).Perm (Value.flatten others) →
      (IgnoresOrder function kind →
        Aggregate.Alike (aggregate values function kind) (aggregate others function kind)) ∧
      (TakesMode function kind →
        let items := material (Value.flatten values) kind
        occurrences Aggregate.same items (aggregate others function kind) =
          occurrences Aggregate.same items (aggregate values function kind)) := by
  refine ⟨aggregate_isModeOf numbers, fun others perm => ⟨aggregate_alike numbers perm, ?_⟩⟩
  intro takes
  exact IsModeOf.occurrences_eq (material_perm perm kind) (aggregate_isModeOf numbers takes)
    (aggregate_isModeOf (numbers.perm perm) takes)

def seenTwice : List Value :=
  [.number 2.0, .number 2.0, .list [.number 0.0, .missing], .number (-0.0)]

theorem order_of_observations_twice :
    let items : List Aggregate := [.number 2.0, .number 2.0, .number 0.0, .number (-0.0)]
    IsMode Aggregate.same items (aggregate seenTwice .mode .numeric) ∧
      Aggregate.Alike (aggregate seenTwice .median .numeric)
        (aggregate seenTwice.reverse .median .numeric) ∧
      occurrences Aggregate.same items (aggregate seenTwice.reverse .mode .numeric) = 2 := by
  intro items
  have flat : Value.flatten seenTwice =
      [.number 2.0, .number 2.0, .number 0.0, .number (-0.0)] := by
    simp [seenTwice, Value.leaves]
  have perm : (Value.flatten seenTwice).Perm (Value.flatten seenTwice.reverse) := by
    have reversed : Value.flatten seenTwice.reverse = (Value.flatten seenTwice).reverse := by
      simp [seenTwice, Value.leaves]
    rw [reversed]
    exact (List.reverse_perm _).symm
  have numbers : OnlyNumbers (Value.flatten seenTwice) := by
    intro number member
    rw [flat] at member
    simp only [List.mem_cons, Value.number.injEq, List.not_mem_nil, or_false] at member
    rcases member with rfl | rfl | rfl | rfl <;> decide
  obtain ⟨isMode, inOrder⟩ := order_of_observations numbers .mode .numeric
  obtain ⟨_, medians⟩ := order_of_observations numbers .median .numeric
  have isMode := isMode rfl
  have asOften := (inOrder _ perm).2 rfl
  rw [flat] at isMode asOften
  refine ⟨isMode, (medians _ perm).1 (Or.inl rfl), asOften.trans ?_⟩
  simp only [aggregate, flat]
  decide +kernel

end Scouting
