import Scouting.Proofs.Listing

/-!
Validating the same definitions once more changes nothing. What is compiled depends on look-ups
alone, and once the definitions are registered again, every look-up is as it was when they were
registered first: what was withdrawn is back, and what was kept is replaced by itself.
-/

namespace Scouting

namespace Catalog

theorem compile_congr {left right : Catalog} (same : left.find? = right.find?) :
    left.compile = right.compile := by
  have resolve : left.resolve = right.resolve := by
    funext key
    simp only [Catalog.resolve, same]
  have reference : left.reference = right.reference := by
    funext text
    simp only [Catalog.reference, resolveReference, parse, resolve, same]
  have numericKey : left.numericKey = right.numericKey := by
    funext text
    simp only [Catalog.numericKey, reference]
  have inCycle : left.inCycle = right.inCycle := by
    funext cycle text
    simp only [Catalog.inCycle, reference]
  have weightedTerm : left.weightedTerm = right.weightedTerm := by
    funext term
    simp only [Catalog.weightedTerm, numericKey, resolve]
  have numericKey? : left.numericKey? = right.numericKey? := by
    funext text
    cases text with
    | none => rfl
    | some text => simp only [Catalog.numericKey?, numericKey]
  have counterInCycle : left.counterInCycle = right.counterInCycle := by
    funext cycle text
    cases text with
    | none => rfl
    | some text => simp only [Catalog.counterInCycle, inCycle]
  have plan : left.plan = right.plan := by
    funext operator
    cases operator with
    | filter key condition comparison value =>
        simp only [Catalog.plan, filterPlan, reference, numericKey?]
    | map key table scale offset => simp only [Catalog.plan, mapPlan, reference]
    | math source => simp only [Catalog.plan, mathPlan, numericKey]
    | extreme extreme keys => simp only [Catalog.plan, numericKeys, numericKey]
    | weightedRank terms => simp only [Catalog.plan, weightedRankPlan, weightedTerm]
    | repetitions cycle conditions sum denominator =>
        simp only [Catalog.plan, repetitionsPlan, reference, inCycle, counterInCycle]
    | sum keys => simp only [Catalog.plan, numericKeys, numericKey]
    | ratio numerator denominator => simp only [Catalog.plan, numericKey]
    | percent numerator denominator => simp only [Catalog.plan, numericKey]
  funext definition
  simp only [compile, plan]

end Catalog

namespace Validation

variable {definitions : List StatDefinition} {catalog other : Catalog}

theorem official_ofDefinitions :
    (ofDefinitions definitions catalog).catalog.official = catalog.official := by
  rw [ofDefinitions_eq]
  refine (Catalog.official_remove _ _).trans ?_
  exact List.foldlRecOn (motive := fun after : Catalog => after.official = catalog.official) _ _ rfl
    fun _ soFar _ _ => soFar

section
variable (same : (registered definitions catalog).find? = (registered definitions other).find?)
include same

theorem candidates_congr : candidates definitions catalog = candidates definitions other := by
  simp only [candidates, compiled, Catalog.compile_congr same]

theorem excluded_congr : excluded definitions catalog = excluded definitions other := by
  have uncompiled : uncompiled definitions catalog = uncompiled definitions other := by
    simp only [Validation.uncompiled, candidates_congr same]
    refine congrArg (Excluded.mk _) (congrArg _ (List.filterMap_congr fun definition _ => ?_))
    simp only [uncompiled?, Catalog.compile_congr same]
  simp only [excluded, withCycles, uncompiled, candidates_congr same]

end

theorem find?_registered_again (noStats : HasNoStats catalog) :
    (registered definitions (ofDefinitions definitions catalog).catalog).find? =
      (registered definitions catalog).find? := by
  funext key
  by_cases accepted : ∃ definition ∈ (accept [] definitions).1, Key.smart definition.id = key
  · obtain ⟨definition, member, rfl⟩ := accepted
    simp only [registered, find?_register_of_mem (accept_nodup [] definitions) member]
  · have others : ∀ definition ∈ (accept [] definitions).1, Key.smart definition.id ≠ key :=
      fun definition member same => accepted ⟨definition, member, same⟩
    simp only [registered, find?_register_of_not_mem others]
    rw [ofDefinitions_eq]
    simp only [Catalog.find?_remove, registered, find?_register_of_not_mem others]
    split
    · rename_i bad
      exact (noStats key (smart_of_excluded bad)).symm
    · rfl

theorem order_again (consistent : catalog.Consistent)
    (same : (registered definitions (ofDefinitions definitions catalog).catalog).find? =
      (registered definitions catalog).find?) :
    (ofDefinitions definitions (ofDefinitions definitions catalog).catalog).catalog.order =
      (ofDefinitions definitions catalog).catalog.order := by
  have listed : (ofDefinitions definitions catalog).catalog.Consistent :=
    consistent_ofDefinitions consistent
  have look (key : Key) : (ofDefinitions definitions catalog).catalog.find? key =
      if key ∈ (excluded definitions catalog).keys then none
      else (registered definitions catalog).find? key := by
    rw [ofDefinitions_eq, Catalog.find?_remove]
  have order :
      (ofDefinitions definitions (ofDefinitions definitions catalog).catalog).catalog.order =
      (registered definitions (ofDefinitions definitions catalog).catalog).order.filter
        fun key => key ∉ (excluded definitions catalog).keys := by
    rw [ofDefinitions_eq, excluded_congr same]
    exact (consistent_register listed _).order_remove _
  have kept : (ofDefinitions definitions catalog).catalog.order.filter
      (fun key => key ∉ (excluded definitions catalog).keys) =
        (ofDefinitions definitions catalog).catalog.order := by
    refine List.filter_eq_self.mpr fun key inOrder => ?_
    have known := (listed.mem_order key).mp inOrder
    rw [look] at known
    split at known
    · cases known
    · rename_i kept
      simpa using kept
  have withdrawn : (((accept [] definitions).1.map fun definition => Key.smart definition.id).filter
      fun key => ((ofDefinitions definitions catalog).catalog.find? key).isNone).filter
        (fun key => key ∉ (excluded definitions catalog).keys) = [] := by
    refine List.filter_eq_nil_iff.mpr fun key member kept => ?_
    obtain ⟨accepted, unknown⟩ := List.mem_filter.mp member
    obtain ⟨definition, first, rfl⟩ := List.mem_map.mp accepted
    rw [look, if_neg (by simpa using kept), registered,
      find?_register_of_mem (accept_nodup [] definitions) first] at unknown
    cases unknown
  rw [order, registered, order_register (accept_nodup [] definitions), List.filter_append, kept,
    withdrawn, List.append_nil]

/-- Validating the same definitions in the catalog that a validation has left comes to the same: the
same stats in the same order, the same exclusions, and a catalog in which every key is known as
before and listed in the same place. -/
theorem ofDefinitions_again (definitions : List StatDefinition) (fields : List FieldDefinition)
    (official : OfficialResults) :
    let first := ofDefinitions definitions (Catalog.ofFields fields official)
    let again := ofDefinitions definitions first.catalog
    again.stats = first.stats ∧ again.exclusions = first.exclusions ∧
    again.catalog.find? = first.catalog.find? ∧ again.catalog.order = first.catalog.order ∧
    again.catalog.official = first.catalog.official ∧
    ∀ space kinds, again.catalog.list space kinds = first.catalog.list space kinds := by
  intro first again
  have same : (registered definitions first.catalog).find? =
      (registered definitions (Catalog.ofFields fields official)).find? :=
    find?_registered_again (hasNoStats_ofFields fields official)
  have excluded := excluded_congr same
  have look : again.catalog.find? = first.catalog.find? := by
    funext key
    have found (catalog : Catalog) := Catalog.find?_remove (registered definitions catalog)
      (Validation.excluded definitions catalog).keys key
    exact (found first.catalog).trans (by rw [excluded, same]; exact (found _).symm)
  have order := order_again (Catalog.Consistent.ofFields fields official) same
  refine ⟨congrArg₂ remaining (candidates_congr same) (congrArg Excluded.keys excluded),
    congrArg Excluded.reports excluded, look, order, official_ofDefinitions, fun space kinds => ?_⟩
  rw [Catalog.list, Catalog.list, look, order]

end Validation

end Scouting
