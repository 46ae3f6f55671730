import Mathlib
import Scouting.Stat.WeightedRank

/-!
Weighted ranks in exact arithmetic. A value stands somewhere between the least and the greatest of
its kind, and better values stand no lower; so the mean of where several values stand, by weights,
is bounded by one, and no lower for values that are all at least as good.
-/

namespace Scouting.Standing

def map {α β : Type} (read : α → β) (standing : Standing α) : Standing β where
  own := read standing.own
  all := standing.all.map read
  weight := read standing.weight
  negative := standing.negative

theorem foldl_pick {α : Type} (pick : α → α → α) (first : α) (rest : List α) :
    rest.foldl (fun best value => some (match best with
      | none => value
      | some best => pick best value)) (some first) = some (rest.foldl pick first) := by
  induction rest generalizing first with
  | nil => rfl
  | cons next rest ih => exact ih (pick first next)

theorem foldl_eq_sum {ι M : Type} [AddMonoid M] (term : ι → M) (items : List ι) :
    items.foldl (fun total item => total + term item) 0 = (items.map term).sum := by
  rw [List.sum_eq_foldl, List.foldl_map]

section
variable {K : Type} [LinearOrder K]

theorem least_eq_min? (values : List K) : least values = values.min? := by
  have pick : (fun best value : K => if value < best then value else best) = min := by
    funext best value
    rw [min_def]
    split <;> split <;> first | rfl | order
  rw [least, List.filter_eq_self.mpr fun _ _ => BEq.rfl]
  cases values with
  | nil => rfl
  | cons first rest =>
      rw [List.min?_cons', ← pick]
      exact foldl_pick (fun best value => if value < best then value else best) first rest

theorem greatest_eq_max? (values : List K) : greatest values = values.max? := by
  have pick : (fun best value : K => if best < value then value else best) = max := by
    funext best value
    rw [max_def]
    split <;> split <;> first | rfl | order
  rw [greatest, List.filter_eq_self.mpr fun _ _ => BEq.rfl]
  cases values with
  | nil => rfl
  | cons first rest =>
      rw [List.max?_cons', ← pick]
      exact foldl_pick (fun best value => if best < value then value else best) first rest

theorem exists_range {values : List K} {own : K} (member : own ∈ values) :
    ∃ low high, least values = some low ∧ greatest values = some high ∧
      ∀ value ∈ values, low ≤ value ∧ value ≤ high := by
  rw [least_eq_min?, greatest_eq_max?]
  obtain ⟨low, least⟩ := Option.isSome_iff_exists.mp (List.isSome_min?_of_mem member)
  obtain ⟨high, greatest⟩ := Option.isSome_iff_exists.mp (List.isSome_max?_of_mem member)
  exact ⟨low, high, least, greatest, fun value among =>
    ⟨(List.le_min?_iff least).mp le_rfl value among,
      (List.max?_le_iff greatest).mp le_rfl value among⟩⟩

end

section
variable {K : Type} [Field K] [LinearOrder K] [IsStrictOrderedRing K]

theorem share_bounds {standing : Standing K} (member : standing.own ∈ standing.all) :
    0 ≤ standing.share ∧ standing.share ≤ 1 := by
  obtain ⟨low, high, least, greatest, within⟩ := exists_range member
  obtain ⟨above, below⟩ := within standing.own member
  simp only [share, least, greatest]
  split
  · rename_i apart
    have range : 0 < high - low := sub_pos.mpr apart
    have atLeast : 0 ≤ (standing.own - low) / (high - low) :=
      div_nonneg (sub_nonneg.mpr above) range.le
    have atMost : (standing.own - low) / (high - low) ≤ 1 :=
      (div_le_one range).mpr (sub_le_sub_right below low)
    split
    · exact ⟨sub_nonneg.mpr atMost, sub_le_self 1 atLeast⟩
    · exact ⟨atLeast, atMost⟩
  · exact ⟨zero_le_one, le_rfl⟩

def AtLeastAsGood (negative : Bool) (value other : K) : Prop :=
  if negative then value ≤ other else other ≤ value

theorem share_mono {standing other : Standing K} (all : other.all = standing.all)
    (negative : other.negative = standing.negative)
    (better : AtLeastAsGood standing.negative standing.own other.own) :
    other.share ≤ standing.share := by
  simp only [share, all, negative]
  split
  · rename_i low high least greatest
    split
    · rename_i apart
      have range : 0 < high - low := sub_pos.mpr apart
      cases negated : standing.negative with
      | true =>
          rw [AtLeastAsGood, if_pos negated] at better
          simp only [if_true]
          gcongr
      | false =>
          rw [AtLeastAsGood, if_neg (by simp [negated])] at better
          simp only [Bool.false_eq_true, if_false]
          gcongr
    · exact le_rfl
  · exact le_rfl

theorem magnitude_eq_abs (value : K) : magnitude value = |value| := by
  rw [magnitude]
  split
  · rename_i below
    exact (abs_of_neg below).symm
  · rename_i notBelow
    exact (abs_of_nonneg (not_lt.mp notBelow)).symm

theorem mean_eq (standings : List (Standing K)) : mean standings =
    if (standings.map fun standing => |standing.weight|).sum = 0 then none
    else some ((standings.map fun standing => standing.weight * standing.share).sum /
      (standings.map fun standing => |standing.weight|).sum) := by
  simp only [mean, foldl_eq_sum, magnitude_eq_abs, beq_iff_eq]

theorem mean_eq_none_iff (standings : List (Standing K)) :
    mean standings = none ↔ ∀ standing ∈ standings, standing.weight = 0 := by
  have weightless : (standings.map fun standing => |standing.weight|).sum = 0 ↔
      ∀ standing ∈ standings, standing.weight = 0 := by
    constructor
    · intro none standing listed
      exact abs_eq_zero.mp (List.all_zero_of_le_zero_le_of_sum_eq_zero (by simp) none
        (List.mem_map_of_mem listed))
    · intro each
      exact List.sum_eq_zero (by simpa using each)
  rw [mean_eq, ← weightless]
  split <;> simp_all

section
variable {standings : List (Standing K)} {score : K} (found : mean standings = some score)
include found

theorem quotient_of_mean :
    0 < (standings.map fun standing => |standing.weight|).sum ∧
      score = (standings.map fun standing => standing.weight * standing.share).sum /
        (standings.map fun standing => |standing.weight|).sum := by
  rw [mean_eq] at found
  split at found
  · cases found
  · rename_i nonzero
    refine ⟨lt_of_le_of_ne (List.sum_nonneg ?_) (Ne.symm nonzero), (Option.some.inj found).symm⟩
    simp

variable (member : ∀ standing ∈ standings, standing.own ∈ standing.all)
include member

theorem mean_bounds : -1 ≤ score ∧ score ≤ 1 := by
  obtain ⟨positive, rfl⟩ := quotient_of_mean found
  have bounded : ∀ standing ∈ standings,
      |standing.weight * standing.share| ≤ |standing.weight| := by
    intro standing listed
    obtain ⟨nonnegative, atMost⟩ := share_bounds (member standing listed)
    rw [abs_mul, abs_of_nonneg nonnegative]
    exact mul_le_of_le_one_right (abs_nonneg _) atMost
  rw [le_div_iff₀ positive, div_le_one positive]
  constructor
  · rw [neg_one_mul, neg_le, List.sum_neg, List.map_map]
    exact List.sum_le_sum fun standing listed => (neg_le_abs _).trans (bounded standing listed)
  · exact List.sum_le_sum fun standing listed => (le_abs_self _).trans (bounded standing listed)

theorem mean_nonneg (nonnegative : ∀ standing ∈ standings, 0 ≤ standing.weight) : 0 ≤ score := by
  obtain ⟨positive, rfl⟩ := quotient_of_mean found
  refine div_nonneg (List.sum_nonneg ?_) positive.le
  simp only [List.forall_mem_map]
  exact fun standing listed =>
    mul_nonneg (nonnegative standing listed) (share_bounds (member standing listed)).1

end

theorem mean_mono {ι : Type} {terms : List ι} {left right : ι → Standing K} {score other : K}
    (found : mean (terms.map left) = some score) (alsoFound : mean (terms.map right) = some other)
    (all : ∀ term ∈ terms, (right term).all = (left term).all)
    (weight : ∀ term ∈ terms, (right term).weight = (left term).weight)
    (negative : ∀ term ∈ terms, (right term).negative = (left term).negative)
    (nonnegative : ∀ term ∈ terms, 0 ≤ (left term).weight)
    (better : ∀ term ∈ terms,
      AtLeastAsGood (left term).negative (left term).own (right term).own) : other ≤ score := by
  obtain ⟨positive, rfl⟩ := quotient_of_mean found
  obtain ⟨_, rfl⟩ := quotient_of_mean alsoFound
  simp only [List.map_map, Function.comp_def] at positive ⊢
  have magnitudes : terms.map (fun term => |(right term).weight|) =
      terms.map fun term => |(left term).weight| :=
    List.map_congr_left fun term listed => by rw [weight term listed]
  rw [magnitudes]
  refine div_le_div_of_nonneg_right (List.sum_le_sum fun term listed => ?_) positive.le
  rw [weight term listed]
  exact mul_le_mul_of_nonneg_left
    (share_mono (all term listed) (negative term listed) (better term listed))
    (nonnegative term listed)

end

end Scouting.Standing
