import Scouting.Proofs.Compilation
import Scouting.Stat.Validation

/-!
Which definitions a validation accepts, and what is known about stats once these are registered:
exactly the first definition of each identifier, with a key of its own.
-/

namespace Scouting

/-- Is a definition the first with its id, and the id an identifier? -/
def StatDefinition.IsFirst (definitions : List StatDefinition) (definition : StatDefinition) :
    Prop :=
  isIdentifier definition.id ∧ ∃ before after, definitions = before ++ definition :: after ∧
    ∀ other ∈ before, other.id ≠ definition.id

namespace Validation

theorem refusal_eq_none {definition : StatDefinition} {earlier : List StatDefinition} :
    definition.refusal? earlier = none ↔
      isIdentifier definition.id ∧ ∀ other ∈ earlier, other.id ≠ definition.id := by
  simp only [StatDefinition.refusal?]
  split
  · simp_all
  · split <;> simp_all

theorem mem_accept_cons {earlier rest : List StatDefinition} {first definition : StatDefinition} :
    definition ∈ (accept earlier (first :: rest)).1 ↔
      (definition = first ∧ first.refusal? earlier = none) ∨
        definition ∈ (accept (first :: earlier) rest).1 := by
  simp only [accept]
  cases accepted : first.refusal? earlier <;> simp

theorem mem_accept {earlier definitions : List StatDefinition} {definition : StatDefinition} :
    definition ∈ (accept earlier definitions).1 ↔
      isIdentifier definition.id ∧ ∃ before after, definitions = before ++ definition :: after ∧
        ∀ other ∈ earlier ++ before, other.id ≠ definition.id := by
  induction definitions generalizing earlier with
  | nil => simp [accept]
  | cons first rest ih =>
      rw [mem_accept_cons, refusal_eq_none, ih]
      constructor
      · rintro (⟨rfl, identifier, fresh⟩ | ⟨identifier, before, after, rfl, fresh⟩)
        · exact ⟨identifier, [], rest, rfl, by simpa using fresh⟩
        · refine ⟨identifier, first :: before, after, rfl, ?_⟩
          intro other member
          exact fresh other (by grind)
      · rintro ⟨identifier, before, after, split, fresh⟩
        cases before with
        | nil =>
            obtain ⟨rfl, rfl⟩ := List.cons.inj split
            exact Or.inl ⟨rfl, identifier, by simpa using fresh⟩
        | cons head before =>
            obtain ⟨rfl, rfl⟩ := List.cons.inj split
            refine Or.inr ⟨identifier, before, after, rfl, ?_⟩
            intro other member
            exact fresh other (by grind)

theorem mem_accept_iff_isFirst {definitions : List StatDefinition} {definition : StatDefinition} :
    definition ∈ (accept [] definitions).1 ↔ definition.IsFirst definitions := by
  simp only [mem_accept, StatDefinition.IsFirst, List.nil_append]

theorem accept_sublist (earlier definitions : List StatDefinition) :
    (accept earlier definitions).1.Sublist definitions := by
  induction definitions generalizing earlier with
  | nil => simp [accept]
  | cons first rest ih =>
      have later := ih (first :: earlier)
      simp only [accept]
      cases accepted : first.refusal? earlier with
      | none => exact later.cons_cons first
      | some fault => exact later.cons first

theorem accept_nodup (earlier definitions : List StatDefinition) :
    ((accept earlier definitions).1.map StatDefinition.id).Nodup := by
  induction definitions generalizing earlier with
  | nil => simp [accept]
  | cons first rest ih =>
      have later := ih (first :: earlier)
      simp only [accept]
      cases accepted : first.refusal? earlier with
      | some fault => exact later
      | none =>
          refine List.nodup_cons.mpr ⟨?_, later⟩
          intro repeated
          obtain ⟨other, member, same⟩ := List.mem_map.mp repeated
          obtain ⟨_, _, _, _, fresh⟩ := mem_accept.mp member
          exact fresh first (by simp) same.symm

theorem fault_of_mem_refused {earlier definitions : List StatDefinition} {exclusion : Exclusion}
    (member : exclusion ∈ (accept earlier definitions).2) :
    exclusion.fault = .badId ∨ exclusion.fault = .duplicateId := by
  induction definitions generalizing earlier with
  | nil => simp [accept] at member
  | cons first rest ih =>
      simp only [accept] at member
      cases refused : first.refusal? earlier with
      | none =>
          simp only [refused] at member
          exact ih member
      | some fault =>
          simp only [refused, List.mem_cons] at member
          rcases member with rfl | later
          · simp only [StatDefinition.refusal?] at refused
            split at refused
            · exact Or.inl (Option.some.inj refused).symm
            · split at refused
              · exact Or.inr (Option.some.inj refused).symm
              · cases refused
          · exact ih later

theorem smart_injective {left right : String} (same : Key.smart left = Key.smart right) :
    left = right := by
  simpa [Key.smart, Key.plain] using same

theorem register_cons (catalog : Catalog) (first : StatDefinition) (rest : List StatDefinition) :
    register catalog (first :: rest) = register (catalog.insert first.info) rest := rfl

theorem find?_insert_stat (catalog : Catalog) (definition : StatDefinition) (key : Key) :
    (catalog.insert definition.info).find? key =
      if Key.smart definition.id = key then some definition.info else catalog.find? key :=
  Catalog.find?_insert catalog definition.info key

theorem find?_register (catalog : Catalog) (definitions : List StatDefinition) (key : Key) :
    ((register catalog definitions).find? key).isSome ↔
      (catalog.find? key).isSome ∨ ∃ definition ∈ definitions, Key.smart definition.id = key := by
  induction definitions generalizing catalog with
  | nil => simp [register]
  | cons first rest ih =>
      rw [register_cons, ih, find?_insert_stat]
      by_cases same : Key.smart first.id = key <;> simp [same]

end Validation

namespace Catalog

theorem key_of_mem_infos {field : FieldDefinition} {info : KeyInfo} (member : info ∈ field.infos) :
    info.key = Key.result info.key.id := by
  simp only [FieldDefinition.infos] at member
  split at member
  · obtain ⟨index, bound, rfl⟩ := List.mem_mapIdx.mp member
    rfl
  · rw [List.mem_singleton.mp member]
    rfl

theorem isSome_find?_foldl_insert {catalog : Catalog} {infos : List KeyInfo} {key : Key} :
    ((infos.foldl insert catalog).find? key).isSome ↔
      (∃ info ∈ infos, info.key = key) ∨ (catalog.find? key).isSome := by
  induction infos generalizing catalog with
  | nil => simp
  | cons first rest ih =>
      rw [List.foldl_cons, ih, find?_insert]
      by_cases same : first.key = key
      · simp [same]
      · simp [same]

theorem isSome_find?_ofFields {fields : List FieldDefinition} {official : OfficialResults}
    {key : Key} : ((ofFields fields official).find? key).isSome ↔
      (∃ field ∈ fields, ∃ info ∈ field.infos, info.key = key) ∨
      (∃ id ∈ official.ids, Key.plain .official id = key) ∨
      ∃ info ∈ identityInfos, info.key = key := by
  have nothing : ((⟨[], [], official⟩ : Catalog).find? key).isSome = false := rfl
  rw [ofFields, isSome_find?_foldl_insert, nothing]
  simp only [List.mem_append, List.mem_flatMap, List.mem_map, Bool.false_eq_true, or_false]
  constructor
  · rintro ⟨info, (⟨field, member, inField⟩ | ⟨id, member, rfl⟩) | isIdentity, same⟩
    · exact Or.inl ⟨field, member, info, inField, same⟩
    · exact Or.inr (Or.inl ⟨id, member, same⟩)
    · exact Or.inr (Or.inr ⟨info, isIdentity, same⟩)
  · rintro (⟨field, member, info, inField, same⟩ | ⟨id, member, same⟩ | ⟨info, isIdentity, same⟩)
    · exact ⟨info, Or.inl (Or.inl ⟨field, member, inField⟩), same⟩
    · exact ⟨_, Or.inl (Or.inr ⟨id, member, rfl⟩), same⟩
    · exact ⟨info, Or.inr isIdentity, same⟩

theorem find?_ofFields_smart (fields : List FieldDefinition) (official : OfficialResults)
    {key : Key} (smart : key.space = .smart) : (ofFields fields official).find? key = none := by
  refine Option.not_isSome_iff_eq_none.mp fun known => ?_
  rcases isSome_find?_ofFields.mp known with
    ⟨field, _, info, inField, rfl⟩ | ⟨id, _, rfl⟩ | ⟨info, isIdentity, rfl⟩
  · rw [key_of_mem_infos inField] at smart
    cases smart
  · cases smart
  · have others : ∀ info ∈ identityInfos, info.key.space ≠ .smart := by decide
    exact others info isIdentity smart

theorem info_key_of_find? {catalog : Catalog} {key : Key} {info : KeyInfo}
    (found : catalog.find? key = some info) : info.key = key := by
  simpa using List.find?_some found

theorem resolve_eq_ok {catalog : Catalog} {key : Key} {info : KeyInfo} :
    catalog.resolve key = .ok info ↔ catalog.find? key.base = some info ∧ admits info key := by
  have kept : (catalog.find? key.base).filter (admits · key) = some info ↔
      catalog.find? key.base = some info ∧ admits info key := Option.filter_eq_some_iff
  rw [← kept, resolve]
  cases (catalog.find? key.base).filter (admits · key) <;> simp

theorem key_of_resolve {catalog : Catalog} {key : Key} {info : KeyInfo}
    (resolved : catalog.resolve key = .ok info) : info.key = key.base :=
  info_key_of_find? (resolve_eq_ok.mp resolved).1

theorem find?_of_knows {catalog : Catalog} {key : Key} (known : catalog.Knows key) :
    (catalog.find? key.base).isSome := by
  obtain ⟨info, resolved⟩ := known
  simp [(resolve_eq_ok.mp resolved).1]

theorem resolve_of_find? {catalog : Catalog} {key : Key} {info : KeyInfo}
    (whole : key.option = none) (found : catalog.find? key = some info) :
    catalog.resolve key = .ok info :=
  resolve_eq_ok.mpr ⟨(Key.base_of_whole whole).symm ▸ found, by simp [admits, whole]⟩

theorem knows_of_find? {catalog : Catalog} {key : Key} (whole : key.option = none)
    (found : (catalog.find? key).isSome) : catalog.Knows key := by
  obtain ⟨info, look⟩ := Option.isSome_iff_exists.mp found
  exact ⟨info, resolve_of_find? whole look⟩

theorem knows_remove {catalog : Catalog} {keys : List Key} {key : Key} :
    (catalog.remove keys).Knows key ↔ key.base ∉ keys ∧ catalog.Knows key := by
  simp only [Knows, resolve, find?_remove]
  by_cases withdrawn : key.base ∈ keys <;> simp [withdrawn]

end Catalog

end Scouting
