import Scouting.Proofs.LoadedEvent

/-!
Listing of keys. What is known about keys and the order in which they are listed are kept apart, but
every registration and every withdrawal keeps the two in agreement. Once a configuration is loaded,
the stats that are listed are those that can be used.
-/

namespace Scouting

namespace Catalog

theorem official_withdraw (catalog : Catalog) (key : Key) :
    (catalog.withdraw key).official = catalog.official := by
  rw [withdraw]
  split
  · rfl
  · rfl

theorem official_remove (catalog : Catalog) (keys : List Key) :
    (catalog.remove keys).official = catalog.official :=
  List.foldlRecOn (motive := fun after : Catalog => after.official = catalog.official) _ _ rfl
    fun after soFar key _ => (official_withdraw after key).trans soFar

/-- The known keys are listed, each of them once. -/
structure Consistent (catalog : Catalog) : Prop where
  nodup : catalog.order.Nodup
  mem_order : ∀ key, key ∈ catalog.order ↔ (catalog.find? key).isSome

namespace Consistent

variable {catalog : Catalog}

theorem insert (consistent : catalog.Consistent) (info : KeyInfo) :
    (catalog.insert info).Consistent := by
  by_cases known : (catalog.find? info.key).isSome
  · have order : (catalog.insert info).order = catalog.order := if_pos known
    refine ⟨order ▸ consistent.nodup, fun key => ?_⟩
    rw [order, consistent.mem_order, find?_insert]
    by_cases same : info.key = key
    · simp [← same, known]
    · rw [if_neg same]
  · have order : (catalog.insert info).order = catalog.order ++ [info.key] := if_neg known
    refine ⟨?_, fun key => ?_⟩
    · rw [order, List.nodup_append]
      refine ⟨consistent.nodup, List.nodup_singleton _, fun key listed other isLast same => ?_⟩
      rw [same, List.mem_singleton.mp isLast] at listed
      exact known ((consistent.mem_order _).mp listed)
    · rw [order, List.mem_append, consistent.mem_order, List.mem_singleton, find?_insert]
      by_cases same : info.key = key
      · simp [same]
      · simp [same, Ne.symm same]

theorem order_withdraw (consistent : catalog.Consistent) (key : Key) :
    (catalog.withdraw key).order = catalog.order.filter fun other => other ≠ key := by
  rw [withdraw]
  split
  · rfl
  · rename_i unknown
    refine (List.filter_eq_self.mpr fun other listed => ?_).symm
    have different : other ≠ key := by
      rintro rfl
      exact unknown ((consistent.mem_order other).mp listed)
    simpa using different

theorem withdraw (consistent : catalog.Consistent) (key : Key) :
    (catalog.withdraw key).Consistent := by
  refine ⟨?_, fun other => ?_⟩
  · rw [consistent.order_withdraw]
    exact consistent.nodup.filter _
  · rw [consistent.order_withdraw, List.mem_filter, consistent.mem_order, find?_withdraw]
    by_cases same : other = key
    · simp [same]
    · simp [same]

theorem remove (consistent : catalog.Consistent) (keys : List Key) :
    (catalog.remove keys).Consistent :=
  List.foldlRecOn (motive := Consistent) _ _ consistent
    fun _ soFar key _ => soFar.withdraw key

theorem order_remove (consistent : catalog.Consistent) (keys : List Key) :
    (catalog.remove keys).order = catalog.order.filter fun key => key ∉ keys := by
  induction keys generalizing catalog with
  | nil => simp [Catalog.remove]
  | cons first rest ih =>
      have step : catalog.remove (first :: rest) = (catalog.withdraw first).remove rest := rfl
      rw [step, ih (consistent.withdraw first), consistent.order_withdraw, List.filter_filter]
      refine List.filter_congr fun key _ => ?_
      simp [Bool.and_comm]

theorem ofFields (fields : List FieldDefinition) (official : OfficialResults) :
    (ofFields fields official).Consistent := by
  have empty : (⟨[], [], official⟩ : Catalog).Consistent :=
    ⟨List.nodup_nil, fun _ => by simp [find?]⟩
  exact List.foldlRecOn (motive := Consistent) _ _ empty fun _ soFar info _ => soFar.insert info

end Consistent

end Catalog

namespace Validation

section
variable {catalog : Catalog} {definitions : List StatDefinition}

theorem consistent_register (consistent : catalog.Consistent) (definitions : List StatDefinition) :
    (register catalog definitions).Consistent :=
  List.foldlRecOn (motive := Catalog.Consistent) _ _ consistent
    fun _ soFar definition _ => soFar.insert definition.info

theorem find?_register_of_not_mem {key : Key}
    (others : ∀ definition ∈ definitions, Key.smart definition.id ≠ key) :
    (register catalog definitions).find? key = catalog.find? key := by
  induction definitions generalizing catalog with
  | nil => rfl
  | cons first rest ih =>
      rw [register_cons, ih fun other member => others other (List.mem_cons_of_mem _ member),
        find?_insert_stat, if_neg (others first List.mem_cons_self)]

theorem find?_register_of_mem (unique : (definitions.map StatDefinition.id).Nodup)
    {definition : StatDefinition} (member : definition ∈ definitions) :
    (register catalog definitions).find? (Key.smart definition.id) = some definition.info := by
  induction definitions generalizing catalog with
  | nil => cases member
  | cons first rest ih =>
      obtain ⟨fresh, uniqueRest⟩ := List.nodup_cons.mp unique
      rw [register_cons]
      rcases List.mem_cons.mp member with rfl | inRest
      · rw [find?_register_of_not_mem, find?_insert_stat, if_pos rfl]
        intro other otherIn same
        exact fresh (List.mem_map.mpr ⟨other, otherIn, smart_injective same⟩)
      · exact ih uniqueRest inRest

theorem order_register (unique : (definitions.map StatDefinition.id).Nodup) :
    (register catalog definitions).order =
      catalog.order ++ (definitions.map fun definition => Key.smart definition.id).filter
        fun key => (catalog.find? key).isNone := by
  induction definitions generalizing catalog with
  | nil => exact (List.append_nil _).symm
  | cons first rest ih =>
      obtain ⟨freshId, uniqueRest⟩ := List.nodup_cons.mp unique
      have later : ((rest.map fun definition => Key.smart definition.id).filter
          fun key => ((catalog.insert first.info).find? key).isNone) =
            (rest.map fun definition => Key.smart definition.id).filter
              fun key => (catalog.find? key).isNone := by
        refine List.filter_congr fun key member => ?_
        obtain ⟨other, otherIn, rfl⟩ := List.mem_map.mp member
        have different : Key.smart first.id ≠ Key.smart other.id := fun same =>
          freshId (List.mem_map.mpr ⟨other, otherIn, (smart_injective same).symm⟩)
        rw [find?_insert_stat, if_neg different]
      rw [register_cons, ih uniqueRest, later, List.map_cons]
      by_cases known : (catalog.find? (Key.smart first.id)).isSome
      · have order : (catalog.insert first.info).order = catalog.order := if_pos known
        rw [order, List.filter_cons_of_neg (by simpa [Option.isSome_iff_ne_none] using known)]
      · have order : (catalog.insert first.info).order = catalog.order ++ [Key.smart first.id] :=
          if_neg known
        rw [order, List.filter_cons_of_pos (by simpa using known), List.append_assoc]
        rfl

theorem definitions_of_remaining {accepted : List StatDefinition} {keys : List Key}
    (failed : ∀ definition ∈ accepted, ∀ fault, catalog.compile definition = .error fault →
      Key.smart definition.id ∈ keys) :
    (remaining (compiled catalog accepted) keys).map Stat.definition =
      accepted.filter fun definition => Key.smart definition.id ∉ keys := by
  induction accepted with
  | nil => rfl
  | cons first rest ih =>
      have later := ih fun definition member => failed definition (List.mem_cons_of_mem _ member)
      rw [remaining] at later ⊢
      cases outcome : catalog.compile first with
      | error fault =>
          have bad := failed first List.mem_cons_self fault outcome
          rw [compiled_cons_of_error outcome, List.filter_cons_of_neg (by simpa using bad), later]
      | ok stat =>
          obtain rfl := (Catalog.compile_eq_ok outcome).1
          have same : stat.key = Key.smart stat.definition.id := rfl
          rw [compiled_cons_of_ok outcome, List.filter_cons, List.filter_cons, same, ← later]
          split
          · rfl
          · rfl

end

section
variable {catalog : Catalog}

theorem definitions_of_stats (definitions : List StatDefinition) (catalog : Catalog) :
    (ofDefinitions definitions catalog).stats.map Stat.definition =
      (accept [] definitions).1.filter fun definition =>
        Key.smart definition.id ∉ (excluded definitions catalog).keys := by
  rw [ofDefinitions_eq]
  refine definitions_of_remaining fun definition member fault failed => ?_
  exact excluded_of_fails ⟨definition, mem_accept_iff_isFirst.mp member, rfl, fault, failed⟩

theorem keys_of_stats (definitions : List StatDefinition) (catalog : Catalog) :
    (ofDefinitions definitions catalog).stats.map Stat.key =
      ((accept [] definitions).1.map fun definition => Key.smart definition.id).filter fun key =>
        key ∉ (excluded definitions catalog).keys := by
  have keys := congrArg (List.map fun definition : StatDefinition => Key.smart definition.id)
    (definitions_of_stats definitions catalog)
  rw [List.map_map] at keys
  rw [List.filter_map]
  exact keys

variable (noStats : HasNoStats catalog) (consistent : catalog.Consistent)
  {definitions : List StatDefinition}

include consistent in
theorem consistent_ofDefinitions :
    (ofDefinitions definitions catalog).catalog.Consistent :=
  (consistent_register consistent _).remove _

theorem find?_ofDefinitions {key : Key} (other : key.space ≠ .smart) :
    (ofDefinitions definitions catalog).catalog.find? key = catalog.find? key := by
  have kept : key ∉ (excluded definitions catalog).keys := fun bad => other (smart_of_excluded bad)
  rw [ofDefinitions_eq]
  simp only [Catalog.find?_remove, if_neg kept]
  refine find?_register_of_not_mem fun definition _ same => other ?_
  rw [← same]
  rfl

theorem find?_stat {stat : Stat} (member : stat ∈ (ofDefinitions definitions catalog).stats) :
    (ofDefinitions definitions catalog).catalog.find? stat.key = some stat.definition.info := by
  obtain ⟨candidate, kept⟩ := mem_stats.mp member
  obtain ⟨definition, first, compiles⟩ := mem_candidates.mp candidate
  obtain rfl := (Catalog.compile_eq_ok compiles).1
  rw [ofDefinitions_eq]
  simp only [Catalog.find?_remove, if_neg kept]
  exact find?_register_of_mem (accept_nodup [] definitions) (mem_accept_iff_isFirst.mpr first)

include noStats consistent in
theorem not_smart_of_listed {key : Key} (listed : key ∈ catalog.order) : key.space ≠ .smart := by
  intro smart
  have known := (consistent.mem_order key).mp listed
  rw [noStats key smart] at known
  cases known

include noStats consistent in
theorem order_ofDefinitions : (ofDefinitions definitions catalog).catalog.order =
    catalog.order ++ (ofDefinitions definitions catalog).stats.map Stat.key := by
  have fresh : ((accept [] definitions).1.map fun definition => Key.smart definition.id).filter
      (fun key => (catalog.find? key).isNone) =
        (accept [] definitions).1.map fun definition => Key.smart definition.id := by
    refine List.filter_eq_self.mpr fun key member => ?_
    obtain ⟨definition, _, rfl⟩ := List.mem_map.mp member
    rw [noStats _ rfl, Option.isNone_none]
  have before : catalog.order.filter (fun key => key ∉ (excluded definitions catalog).keys) =
      catalog.order := by
    refine List.filter_eq_self.mpr fun key listed => ?_
    have kept : key ∉ (excluded definitions catalog).keys := fun bad =>
      not_smart_of_listed noStats consistent listed (smart_of_excluded bad)
    simpa using kept
  rw [keys_of_stats, ofDefinitions_eq]
  simp only [registered]
  rw [(consistent_register consistent _).order_remove,
    order_register (accept_nodup [] definitions), fresh, List.filter_append, before]

theorem infos_of_stats (definitions : List StatDefinition) (catalog : Catalog) :
    ((ofDefinitions definitions catalog).stats.map Stat.key).filterMap
        (ofDefinitions definitions catalog).catalog.find? =
      (ofDefinitions definitions catalog).stats.map fun stat => stat.definition.info := by
  rw [List.filterMap_map, ← List.filterMap_eq_map]
  exact List.filterMap_congr fun stat member => find?_stat member

include noStats consistent in
theorem infos_ofDefinitions : (ofDefinitions definitions catalog).catalog.order.filterMap
      (ofDefinitions definitions catalog).catalog.find? =
    catalog.order.filterMap catalog.find? ++
      (ofDefinitions definitions catalog).stats.map fun stat => stat.definition.info := by
  have before : catalog.order.filterMap (ofDefinitions definitions catalog).catalog.find? =
      catalog.order.filterMap catalog.find? :=
    List.filterMap_congr fun key listed =>
      find?_ofDefinitions (not_smart_of_listed noStats consistent listed)
  rw [order_ofDefinitions noStats consistent, List.filterMap_append, before, infos_of_stats]

include noStats consistent in
theorem list_none : (ofDefinitions definitions catalog).catalog.list none [] =
    catalog.list none [] ++
      (ofDefinitions definitions catalog).stats.map fun stat => stat.definition.info := by
  simp only [Catalog.list, infos_ofDefinitions noStats consistent, Option.all_none,
    List.isEmpty_nil, Bool.true_or, Bool.and_true, List.filter_true]

end

end Validation

end Scouting
