import Scouting.Proofs.KeyText
import Scouting.Proofs.Listing

/-!
Listed keys given back as texts. Whatever is listed is known, but only a text with an identifier
for its id is read as a key. The ids of stats are checked for that; those of fields, of their
counters and of official results are taken as they come.
-/

namespace Scouting

namespace Catalog

variable {catalog : Catalog}

theorem parse_eq_ok {text : String} {key : Key} :
    catalog.parse text = .ok key ↔ Key.ofText? text = some key ∧ catalog.Knows key := by
  simp only [parse, bind_eq_ok, pure_eq_ok, Key.parse_eq_ok]
  constructor
  · rintro ⟨_, spelled, info, resolved, rfl⟩
    exact ⟨spelled, info, resolved⟩
  · rintro ⟨spelled, info, resolved⟩
    exact ⟨key, spelled, info, resolved, rfl⟩

theorem mem_list {info : KeyInfo} :
    info ∈ catalog.list none [] ↔ ∃ key ∈ catalog.order, catalog.find? key = some info := by
  simp [list]

theorem find?_of_listed {info : KeyInfo} (listed : info ∈ catalog.list none []) :
    catalog.find? info.key = some info := by
  obtain ⟨key, _, found⟩ := mem_list.mp listed
  rw [info_key_of_find? found, found]

theorem listed_iff (consistent : catalog.Consistent) {key : Key} :
    (∃ info ∈ catalog.list none [], info.key = key) ↔ (catalog.find? key).isSome := by
  constructor
  · rintro ⟨info, listed, rfl⟩
    rw [find?_of_listed listed]
    rfl
  · intro known
    obtain ⟨info, found⟩ := Option.isSome_iff_exists.mp known
    exact ⟨info, mem_list.mpr ⟨key, (consistent.mem_order key).mpr known, found⟩,
      info_key_of_find? found⟩

theorem resolve_listed {info : KeyInfo} (listed : info ∈ catalog.list none [])
    (whole : info.key.option = none) : catalog.resolve info.key = .ok info :=
  resolve_of_find? whole (find?_of_listed listed)

theorem parse_listed_iff {info : KeyInfo} (listed : info ∈ catalog.list none [])
    (whole : info.key.option = none) :
    catalog.parse info.key.text = .ok info.key ↔ isIdentifier info.key.id := by
  rw [parse_eq_ok, Key.ofText?_text_iff whole, and_iff_left ⟨info, resolve_listed listed whole⟩]

end Catalog

namespace Validation

variable {definitions : List StatDefinition} {fields : List FieldDefinition}
  {official : OfficialResults}

theorem listed_iff_written {key : Key} :
    (∃ info ∈ (ofDefinitions definitions (Catalog.ofFields fields official)).catalog.list none [],
      info.key = key) ↔
    (∃ field ∈ fields, ∃ info ∈ field.infos, info.key = key) ∨
    (∃ id ∈ official.ids, Key.plain .official id = key) ∨
    (∃ info ∈ identityInfos, info.key = key) ∨
    ∃ stat ∈ (ofDefinitions definitions (Catalog.ofFields fields official)).stats,
      stat.key = key := by
  have noStats := hasNoStats_ofFields fields official
  have consistent := Catalog.Consistent.ofFields fields official
  have before : (∃ info ∈ (Catalog.ofFields fields official).list none [], info.key = key) ↔ _ :=
    (Catalog.listed_iff consistent).trans Catalog.isSome_find?_ofFields
  rw [list_none noStats consistent]
  simp only [List.mem_append, or_and_right, exists_or, before, or_assoc, List.mem_map,
    exists_exists_and_eq_and]
  exact Iff.rfl

theorem isIdentifier_of_stat {stat : Stat}
    (member : stat ∈ (ofDefinitions definitions (Catalog.ofFields fields official)).stats) :
    isIdentifier stat.key.id := by
  obtain ⟨definition, first, compiles⟩ := mem_candidates.mp (mem_stats.mp member).1
  obtain rfl := (Catalog.compile_eq_ok compiles).1
  exact first.1

theorem isIdentifier_of_identity : ∀ info ∈ identityInfos, isIdentifier info.key.id := by
  decide

section
variable {key : Key}
  (listed : ∃ info ∈
    (ofDefinitions definitions (Catalog.ofFields fields official)).catalog.list none [],
    info.key = key)
include listed

theorem option_of_listed : key.option = none := by
  rcases listed_iff_written.mp listed with
    ⟨_, _, info, inField, rfl⟩ | ⟨_, _, rfl⟩ | ⟨info, isIdentity, rfl⟩ | ⟨_, _, rfl⟩
  · rw [Catalog.key_of_mem_infos inField]
    rfl
  · rfl
  · have plain : ∀ info ∈ identityInfos, info.key.option = none := by decide
    exact plain info isIdentity
  · rfl

theorem isIdentifier_of_checked (checked : key.space = .smart ∨ key.space = .identity) :
    isIdentifier key.id := by
  rcases listed_iff_written.mp listed with
    ⟨_, _, info, inField, rfl⟩ | ⟨_, _, rfl⟩ | ⟨info, isIdentity, rfl⟩ | ⟨_, member, rfl⟩
  · rw [Catalog.key_of_mem_infos inField] at checked
    simp [Key.result, Key.plain] at checked
  · simp [Key.plain] at checked
  · exact isIdentifier_of_identity info isIdentity
  · exact isIdentifier_of_stat member

end

theorem isIdentifier_of_all_listed : (∀ key : Key,
      (∃ info ∈ (ofDefinitions definitions (Catalog.ofFields fields official)).catalog.list none [],
        info.key = key) → isIdentifier key.id) ↔
    (∀ field ∈ fields, ∀ info ∈ field.infos, isIdentifier info.key.id) ∧
      ∀ id ∈ official.ids, isIdentifier id := by
  simp only [listed_iff_written]
  constructor
  · intro all
    exact ⟨fun field member info inField => all _ (Or.inl ⟨field, member, info, inField, rfl⟩),
      fun id member => all (Key.plain .official id) (Or.inr (Or.inl ⟨id, member, rfl⟩))⟩
  · rintro ⟨ofFields, ofImports⟩ _
      (⟨field, member, info, inField, rfl⟩ | ⟨id, member, rfl⟩ | ⟨info, isIdentity, rfl⟩ |
        ⟨stat, member, rfl⟩)
    · exact ofFields field member info inField
    · exact ofImports id member
    · exact isIdentifier_of_identity info isIdentity
    · exact isIdentifier_of_stat member

/-- Every listed key is known, and is read back from its text exactly if its id is an identifier.
That is so for stats and identity, and for all listed keys exactly if every field, counter and
imported value has an identifier for its id. -/
theorem listed_usable_iff (definitions : List StatDefinition) (fields : List FieldDefinition)
    (official : OfficialResults) :
    let catalog := (ofDefinitions definitions (Catalog.ofFields fields official)).catalog
    (∀ info ∈ catalog.list none [], catalog.resolve info.key = .ok info ∧
      (catalog.parse info.key.text = .ok info.key ↔ isIdentifier info.key.id)) ∧
    (∀ info ∈ catalog.list none [], info.key.space = .smart ∨ info.key.space = .identity →
      catalog.parse info.key.text = .ok info.key) ∧
    ((∀ info ∈ catalog.list none [], catalog.parse info.key.text = .ok info.key) ↔
      (∀ field ∈ fields, ∀ info ∈ field.infos, isIdentifier info.key.id) ∧
      ∀ id ∈ official.ids, isIdentifier id) := by
  intro catalog
  have whole {info : KeyInfo} (listed : info ∈ catalog.list none []) : info.key.option = none :=
    option_of_listed ⟨info, listed, rfl⟩
  have usable {info : KeyInfo} (listed : info ∈ catalog.list none []) :
      catalog.parse info.key.text = .ok info.key ↔ isIdentifier info.key.id :=
    Catalog.parse_listed_iff listed (whole listed)
  refine ⟨fun info listed => ⟨Catalog.resolve_listed listed (whole listed), usable listed⟩,
    fun info listed checked => (usable listed).mpr ?_, ?_⟩
  · exact isIdentifier_of_checked ⟨info, listed, rfl⟩ checked
  · rw [← isIdentifier_of_all_listed]
    constructor
    · rintro all _ ⟨info, listed, rfl⟩
      exact (usable listed).mp (all info listed)
    · intro all info listed
      exact (usable listed).mpr (all info.key ⟨info, listed, rfl⟩)

/-- A counter whose label has a hyphen is listed under a text that is refused as unknown. -/
theorem hyphenated_unusable :
    let counters : FieldDefinition :=
      ⟨"intake", "Intake", .multicounter, .played, ["Human-Player"], none, .uniform false, none⟩
    let catalog := (ofDefinitions [] (Catalog.ofFields [counters] OfficialResults.empty)).catalog
    (∃ info ∈ catalog.list none [], info.key.text = "result.intake_human-player") ∧
    catalog.parse "result.intake_human-player" =
      .error (.unknownKey "result.intake_human-player") := by
  decide +kernel

end Validation

end Scouting
