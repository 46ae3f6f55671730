import Scouting.Proofs.ExactCounts
import Scouting.Proofs.NarrowedKeys

/-!
Options counted in two ways. The total of a field with options collects the picks of all
observations and counts them option by option; the total of one option asks every observation
whether it chooses the option and adds up the answers. Both come to the same counts.
-/

namespace Scouting

namespace Aggregation

def picksOption (option : Nat) (value : Value) : Bool := (chooses option value).getD false

def countOption (option : Nat) (observations : List Value) : Nat :=
  (observations.map fun value => (picksOption option value).toNat).sum

theorem indicator_eq_ofNat (chosen : Bool) : indicator chosen = Float.ofNat chosen.toNat := by
  cases chosen <;> rfl

theorem countOption_le_length (option : Nat) (observations : List Value) :
    countOption option observations ≤ observations.length := by
  induction observations with
  | nil => rfl
  | cons value rest ih =>
      have one := Bool.toNat_le (picksOption option value)
      rw [countOption, List.map_cons, List.sum_cons, List.length_cons]
      exact Nat.add_comm 1 _ ▸ Nat.add_le_add one ih

theorem mem_picks_flags {options option : Nat} {flags : List Bool} :
    option ∈ picks options (.flags flags) ↔ flags[option]? = some true := by
  rw [picks, List.mem_map]
  constructor
  · rintro ⟨⟨flag, index⟩, member, rfl⟩
    obtain ⟨listed, rfl⟩ := List.mem_filter.mp member
    exact List.mem_zipIdx_iff_getElem?.mp listed
  · intro set
    exact ⟨(true, option), List.mem_filter.mpr ⟨List.mem_zipIdx_iff_getElem?.mpr set, rfl⟩, rfl⟩

theorem picks_flags_nodup (options : Nat) (flags : List Bool) :
    (picks options (.flags flags)).Nodup := by
  have indices : (flags.zipIdx.map (·.2)).Nodup := by
    rw [List.zipIdx_map_snd]
    exact List.nodup_range'
  exact indices.sublist (List.filter_sublist.map _)

theorem choice_or_flags {kind : FieldKind} (enumerated : kind.isEnumerated) {value : Value}
    (suits : KeyInfo.suits kind value) :
    (∃ index, value = .choice index) ∨ ∃ flags, value = .flags flags := by
  cases kind with
  | select | dropdown | multiselect =>
      cases value with
      | choice index => exact Or.inl ⟨index, rfl⟩
      | flags flags => exact Or.inr ⟨flags, rfl⟩
      | _ => cases suits
  | _ => cases enumerated

theorem count_picks {kind : FieldKind} (enumerated : kind.isEnumerated) {value : Value}
    (suits : KeyInfo.suits kind value) (options option : Nat) :
    (picks options value).count option = (picksOption option value).toNat := by
  obtain ⟨index, rfl⟩ | ⟨flags, rfl⟩ := choice_or_flags enumerated suits
  · rw [picks, List.count_singleton, picksOption, chooses, Option.getD_some]
    cases index == option <;> rfl
  · rw [(picks_flags_nodup options flags).count]
    simp only [mem_picks_flags, picksOption, chooses, Option.getD_some]
    cases flags[option]? with
    | none => rfl
    | some set => cases set <;> rfl

theorem chooses_eq_some {kind : FieldKind} (enumerated : kind.isEnumerated) {value : Value}
    (suits : KeyInfo.suits kind value) (option : Nat) :
    chooses option value = some (picksOption option value) := by
  obtain ⟨index, rfl⟩ | ⟨flags, rfl⟩ := choice_or_flags enumerated suits
  · rfl
  · rfl

section
variable {kind : FieldKind} (enumerated : kind.isEnumerated) {values : List Value}
  (suits : ∀ value ∈ Value.flatten values, KeyInfo.suits kind value)
include enumerated suits

theorem count_declaredPicks {options option : Nat} (declared : option < options) :
    (declaredPicks options (Value.flatten values)).count option =
      countOption option (Value.flatten values) := by
  rw [declaredPicks, List.count_filter (by simpa using declared), List.count_flatMap, countOption]
  exact congrArg List.sum (List.map_congr_left fun value member =>
    count_picks enumerated (suits value member) options option)

theorem indicators_eq_ofNat (option : Nat) : indicators option values =
    ((Value.flatten values).map fun value => (picksOption option value).toNat).map Float.ofNat := by
  rw [indicators, List.filterMap_congr fun value member =>
    chooses_eq_some enumerated (suits value member) option]
  simp [indicator_eq_ofNat]

theorem total_option (few : (Value.flatten values).length < 2 ^ 53) (option : Nat) :
    aggregateOption values .total option = if (Value.flatten values).isEmpty then .noData
      else .number (Float.ofNat (countOption option (Value.flatten values))) := by
  change numeric .total (indicators option values) = _
  rw [indicators_eq_ofNat enumerated suits, numeric]
  have small := Nat.lt_of_le_of_lt (countOption_le_length option (Value.flatten values)) few
  cases observations : Value.flatten values with
  | nil => rfl
  | cons first rest =>
      rw [observations] at small
      have total := Number.sum_ofNat (List.cons_ne_nil _ _) small
      exact congrArg Aggregate.number total

theorem declaredPicks_eq_nil_iff {options : Nat} :
    declaredPicks options (Value.flatten values) = [] ↔
      ∀ option < options, countOption option (Value.flatten values) = 0 := by
  constructor
  · intro none option declared
    rw [← count_declaredPicks enumerated suits declared, none, List.count_nil]
  · intro none
    refine List.eq_nil_iff_forall_not_mem.mpr fun option member => ?_
    have declared : option < options := by simpa using (List.mem_filter.mp member).2
    have absent := none option declared
    rw [← count_declaredPicks enumerated suits declared] at absent
    exact List.count_eq_zero.mp absent member

theorem total_options (options : Nat) : aggregate values .total (.enumerated options) =
    if ∀ option < options, countOption option (Value.flatten values) = 0 then .noData
    else .counts ((List.range options).map fun option =>
      countOption option (Value.flatten values)) := by
  have counted : optionCounts options (declaredPicks options (Value.flatten values)) =
      (List.range options).map fun option => countOption option (Value.flatten values) :=
    List.map_congr_left fun option member =>
      count_declaredPicks enumerated suits (List.mem_range.mp member)
  simp only [← declaredPicks_eq_nil_iff enumerated suits, ← counted, aggregate]
  cases observations : Value.flatten values with
  | nil => rfl
  | cons first rest => simp [Aggregation.enumerated, List.isEmpty_iff]

end

end Aggregation

theorem KeyInfo.valueKind_of_enumerated {info : KeyInfo} (enumerated : info.kind.isEnumerated) :
    info.valueKind = .enumerated info.options.length := by
  rw [valueKind]
  cases kind : info.kind <;> rw [kind] at enumerated <;> first | rfl | cases enumerated

namespace Event

variable {event : Event} {key : Key} {info : KeyInfo}

/-- The observations of a field that an aggregate for a subject, or for the event, is of. -/
def observations (event : Event) (info : KeyInfo) (subject : Option Subject) : List Value :=
  Value.flatten ((event.pooled subject).map fun subject =>
    event.snapshot.readResult info subject none)

theorem flatten_observations (event : Event) (info : KeyInfo) (subject : Option Subject) :
    Value.flatten (event.observations info subject) = event.observations info subject :=
  Value.flatten_flatten _

theorem observes_of_observations {subject : Option Subject} {value : Value}
    (member : value ∈ event.observations info subject) : info.Observes value := by
  obtain ⟨read, inReads, within⟩ := Value.mem_flatten.mp member
  obtain ⟨subject, _, rfl⟩ := List.mem_map.mp inReads
  exact KeyInfo.observes_of_readResult within

theorem stat_result (sound : event.environment.Sound)
    (resolved : event.catalog.resolve key = .ok info) (field : key.space = .result)
    (subject : Option Subject) (function : AggregateFunction) :
    event.stat key subject (some function) =
      .ok (info.pool key (event.observations info subject) function) := by
  obtain ⟨reading, read⟩ := exists_reading sound ⟨info, resolved⟩ none
  have values : reading = fun subject => event.snapshot.readResult info subject none := by
    funext subject
    have same := (read subject).1
    rw [read_result resolved field] at same
    exact (Except.ok.inj same).symm
  rw [stat_eq resolved (fun subject => (read subject).2), values, observations,
    KeyInfo.pool_flatten]
  rfl

/-- The total of a field with options and the totals of its options agree. If the field has a count
for each option, they are as many as there are options, and the total of an option is its count; if
the field has no data, each option has none either, or a total of zero. That there are fewer
observations than two to the fifty-third is what makes counting exact. -/
theorem option_totals (reachable : event.Reachable)
    (resolved : event.catalog.resolve key = .ok info) (field : key.space = .result)
    (whole : key.option = none) (enumerated : info.kind.isEnumerated) (subject : Option Subject)
    (few : (event.observations info subject).length < 2 ^ 53) :
    let total := fun key => event.stat key subject (some .total)
    (total key = .ok .noData ∧ ∀ option < info.options.length,
      total { key with option := some option } = .ok .noData ∨
        total { key with option := some option } = .ok (.number 0.0)) ∨
    ∃ counts : List Nat, total key = .ok (.counts counts) ∧
      counts.length = info.options.length ∧
      ∀ option (declared : option < counts.length),
        total { key with option := some option } = .ok (.number (Float.ofNat counts[option])) := by
  intro total
  have suits : ∀ value ∈ Value.flatten (event.observations info subject),
      KeyInfo.suits info.kind value := by
    rw [flatten_observations]
    exact fun value member => KeyInfo.suits_of_observes (observes_of_observations member)
  have ofWhole := Aggregation.total_options enumerated suits info.options.length
  have ofOption := Aggregation.total_option enumerated suits
    (by rwa [flatten_observations])
  simp only [flatten_observations] at ofWhole ofOption
  have asked : total key = .ok (aggregate (event.observations info subject) .total
      (.enumerated info.options.length)) := by
    simp only [total, stat_result reachable.sound resolved field, KeyInfo.pool, whole,
      KeyInfo.valueKind_of_enumerated enumerated]
  have askedOption {option : Nat} (declared : option < info.options.length) :
      total { key with option := some option } =
        .ok (aggregateOption (event.observations info subject) .total option) := by
    have narrowed : event.catalog.resolve { key with option := some option } = .ok info := by
      have found := (Catalog.resolve_eq_ok.mp resolved).1
      exact Catalog.resolve_eq_ok.mpr ⟨found, by simpa [Catalog.admits] using declared⟩
    simp only [total, stat_result reachable.sound narrowed field, KeyInfo.pool]
  rw [ofWhole] at asked
  split at asked
  · rename_i none
    refine Or.inl ⟨asked, fun option declared => ?_⟩
    rw [askedOption declared, ofOption, none option declared]
    split
    · exact Or.inl rfl
    · exact Or.inr rfl
  · rename_i picked
    have observed : (event.observations info subject).isEmpty = false := by
      refine Bool.eq_false_iff.mpr fun empty => picked fun option _ => ?_
      rw [List.isEmpty_iff.mp empty]
      rfl
    refine Or.inr ⟨_, asked, by simp, fun option declared => ?_⟩
    rw [List.length_map, List.length_range] at declared
    rw [askedOption declared, ofOption, observed]
    simp

def ticked : Event :=
  let tags : FieldDefinition :=
    ⟨"tags", "tags", .multiselect, .played, ["a", "b", "c"], none, .uniform false, none⟩
  let fields := Dictionary.ofList [("tags", Recorded.flags [true, false, true])]
  ofInputs
    [⟨7, some "a_qm1", none, .played, false, "", false, none, none, none, fields, none, none⟩]
    { Configuration.empty with fields := [tags] } OfficialResults.empty Settings.standard

theorem option_totals_ticked :
    ∃ info, ticked.catalog.resolve (Key.result "tags") = .ok info ∧ info.kind.isEnumerated ∧
      (ticked.observations info none).length < 2 ^ 53 ∧
      ∃ counts : List Nat,
        ticked.stat (Key.result "tags") none (some .total) = .ok (.counts counts) ∧
        counts.length = info.options.length ∧
        ∀ option (declared : option < counts.length),
          ticked.stat ⟨.result, "tags", some option⟩ none (some .total) =
            .ok (.number (Float.ofNat counts[option])) := by
  have facts : (ticked.catalog.resolve (Key.result "tags")).toOption.map (fun info =>
      (info.kind.isEnumerated, decide ((ticked.observations info none).length < 2 ^ 53))) =
        some (true, true) := by
    decide +kernel
  have data : (ticked.stat (Key.result "tags") none (some .total)).toOption ≠ some .noData := by
    decide +kernel
  cases resolved : ticked.catalog.resolve (Key.result "tags") with
  | error error => simp [resolved, Except.toOption] at facts
  | ok info =>
      simp only [resolved, Except.toOption, Option.map_some, Option.some.injEq, Prod.mk.injEq,
        decide_eq_true_eq] at facts
      refine ⟨info, rfl, facts.1, facts.2, ?_⟩
      have reachable : ticked.Reachable := Reachable.ofInputs _ _ _ _
      rcases option_totals reachable resolved rfl rfl facts.1 none facts.2 with
        ⟨noData, _⟩ | counted
      · exact absurd (congrArg Except.toOption noData) data
      · exact counted

end Event

end Scouting
