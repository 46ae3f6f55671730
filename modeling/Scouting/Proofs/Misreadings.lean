import Scouting.Proofs.LoneNumber
import Scouting.Proofs.NumberOrder
import Scouting.Proofs.PooledRepetitions

/-!
Values that are recorded and values that are written in a condition. A recorded value is read by the
kind of its field, a written one by its own shape, and both come to the same number but in two
cases: a whole number other than zero and one that is recorded as a truth value, and a label of an
option that spells another number where the field counts something.
-/

namespace Scouting

namespace FieldKind

variable {kind : FieldKind}

theorem ne_boolean_of_isNumeric (counts : kind.isNumeric) : kind ≠ .boolean := by
  rintro rfl
  cases counts

theorem ne_boolean_of_isEnumerated (enumerated : kind.isEnumerated) : kind ≠ .boolean := by
  rintro rfl
  cases enumerated

theorem not_isEnumerated_of_isNumeric (counts : kind.isNumeric) : ¬kind.isEnumerated := by
  cases kind <;> first | exact Bool.false_ne_true | cases counts

end FieldKind

theorem Value.leaves_of_reading {value : Value} {number : Float}
    (reading : value.reading = some number) : value.leaves = [value] := by
  cases value with
  | missing => cases reading
  | list items => cases reading
  | _ => simp [leaves]

theorem Aggregation.enumerated_lone {options index : Nat} (declared : index < options) :
    enumerated .mean options [.choice index] = .choice index := by
  simp [enumerated, declaredPicks, picks, declared, firstMode, tally, countIn, mostFrequent]

namespace KeyInfo

/-- Is a value one number in a condition and another one where it is recorded? -/
inductive Misread (info : KeyInfo) : Json → Prop where
  /-- Any whole number but zero is recorded as true. -/
  | truth {integer : Int} (boolean : info.kind = .boolean) (nonzero : integer ≠ 0)
      (other : Float.ofInt integer ≠ 1.0) : Misread info (.integer integer)
  /-- Where something is counted, a text is recorded as the number that it spells. -/
  | label {label : String} {index : Nat} {number : Float} (counts : info.kind.isNumeric)
      (option : info.optionIndex? label = some index)
      (spells : Decimal.read (Text.trim label.toList) = some number)
      (other : number ≠ Float.ofNat index) : Misread info (.text label)

/-- What number a recorded value is observed as. -/
inductive Reads (info : KeyInfo) : Recorded → Float → Prop where
  | counted {recorded : Recorded} {number : Float} (counts : info.kind.isNumeric)
      (same : counted recorded = .number number) : Reads info recorded number
  | chosen {recorded : Recorded} {index : Nat} (enumerated : info.kind.isEnumerated)
      (same : info.chosen recorded = .choice index) : Reads info recorded (Float.ofNat index)
  | truth (boolean : info.kind = .boolean) (value : Bool) :
      Reads info (.bool value) (Aggregation.indicator value)
  | whole (boolean : info.kind = .boolean) (integer : Int) :
      Reads info (.integer integer) (Aggregation.indicator (integer != 0))
  | column (entries : List CycleEntry) : Reads info (.cycles entries) (Float.ofNat entries.length)
  | emptyColumn : Reads info (.flags []) (Float.ofNat 0)

section
variable {info : KeyInfo} {recorded : Recorded} {observed target : Float}

theorem reads_of_counted (counts : info.kind.isNumeric)
    (reading : (counted recorded).reading = some observed) : info.Reads recorded observed := by
  rcases counted_eq recorded with missing | ⟨number, found⟩
  · rw [missing] at reading
    cases reading
  · rw [found] at reading
    cases reading
    exact .counted counts found

theorem reads_of_chosen (enumerated : info.kind.isEnumerated)
    (reading : (info.chosen recorded).reading = some observed) : info.Reads recorded observed := by
  rcases info.chosen_eq recorded with missing | ⟨index, found⟩
  · rw [missing] at reading
    cases reading
  · rw [found] at reading
    cases reading
    exact .chosen enumerated found

theorem reads_of_reading (reading : (info.observe recorded).reading = some observed) :
    info.Reads recorded observed := by
  cases kind : info.kind <;> simp only [observe, kind] at reading
  case counter | multicounter | number | slider =>
    exact reads_of_counted (by rw [kind]; rfl) reading
  case select | dropdown => exact reads_of_chosen (by rw [kind]; rfl) reading
  case multiselect =>
    split at reading
    · cases reading
    · exact reads_of_chosen (by rw [kind]; rfl) reading
  case boolean =>
    split at reading <;> cases reading
    · exact .truth kind _
    · exact .whole kind _
  case cycle =>
    split at reading <;> cases reading
    · exact .column _
    · exact .emptyColumn
  case string | text => split at reading <;> cases reading

theorem observed_of_bool {value : Bool}
    (reading : (info.observe (.bool value)).reading = some observed) :
    observed = Aggregation.indicator value := by
  cases reads_of_reading reading with
  | counted _ same =>
      cases same
      rfl
  | chosen _ same => cases same
  | truth => rfl

theorem observed_of_float {number : Float}
    (reading : (info.observe (.float number)).reading = some observed) :
    info.kind.isNumeric ∧ observed = number := by
  cases reads_of_reading reading with
  | counted counts same =>
      cases same
      exact ⟨counts, rfl⟩
  | chosen _ same => cases same

theorem observed_of_integer {integer : Int}
    (reading : (info.observe (Recorded.ofInteger integer)).reading = some observed) :
    observed = if info.kind = .boolean then Aggregation.indicator (integer != 0)
      else Float.ofInt integer := by
  rw [Recorded.ofInteger] at reading
  split at reading
  · cases reads_of_reading reading with
    | counted counts same =>
        cases same
        rw [if_neg (FieldKind.ne_boolean_of_isNumeric counts)]
    | chosen enumerated same =>
        rw [if_neg (FieldKind.ne_boolean_of_isEnumerated enumerated)]
        cases integer with
        | ofNat number =>
            simp only [chosen] at same
            split at same <;> cases same
            rfl
        | negSucc number => cases same
    | whole boolean => rw [if_pos boolean]
  · obtain ⟨counts, same⟩ := observed_of_float reading
    rw [same, if_neg (FieldKind.ne_boolean_of_isNumeric counts)]

theorem observed_of_text {label : String}
    (reading : (info.observe (.text label)).reading = some observed) :
    (info.kind.isNumeric ∧ Decimal.read (Text.trim label.toList) = some observed) ∨
      (info.kind.isEnumerated ∧ ∃ index, info.optionIndex? label = some index ∧
        observed = Float.ofNat index) := by
  cases reads_of_reading reading with
  | counted counts same =>
      simp only [counted] at same
      split at same
      · rename_i number spells
        cases same
        exact Or.inl ⟨counts, spells⟩
      · cases same
  | chosen enumerated same =>
      simp only [chosen] at same
      split at same
      · rename_i index option
        cases same
        exact Or.inr ⟨enumerated, _, option, rfl⟩
      · cases same

theorem indicator_eq_ofInt_iff {integer : Int} :
    Aggregation.indicator (integer != 0) = Float.ofInt integer ↔
      integer = 0 ∨ Float.ofInt integer = 1.0 := by
  by_cases zero : integer = 0
  · subst zero
    exact iff_of_true rfl (Or.inl rfl)
  · have truth : (integer != 0) = true := bne_iff_ne.mpr zero
    rw [truth, or_iff_right zero]
    exact eq_comm

theorem labelReading_of_label {label : String} (notBoolean : info.kind ≠ .boolean) :
    info.labelReading? label = ((info.optionIndex? label).map Float.ofNat).or
      (Decimal.read (Text.trim label.toList)) := by
  rw [labelReading?, truthLabel?, if_neg notBoolean, Option.none_or]

theorem target_of_option {label : String} {index : Nat} (notBoolean : info.kind ≠ .boolean)
    (option : info.optionIndex? label = some index)
    (written : info.target (.text label) = .ok target) : target = Float.ofNat index := by
  rw [KeyInfo.target, labelReading_of_label notBoolean, option] at written
  cases written
  rfl

theorem target_of_number {label : String} {number : Float} (notBoolean : info.kind ≠ .boolean)
    (none : info.optionIndex? label = none)
    (spells : Decimal.read (Text.trim label.toList) = some number)
    (written : info.target (.text label) = .ok target) : target = number := by
  rw [KeyInfo.target, labelReading_of_label notBoolean, none, spells] at written
  cases written
  rfl

theorem observed_eq_target_iff {value : Json} (stored : Recorded.ofJson? value = some recorded)
    (reading : (info.observe recorded).reading = some observed)
    (written : info.target value = .ok target) : observed = target ↔ ¬info.Misread value := by
  cases value with
  | null => cases stored
  | object members => cases stored
  | array items => cases written
  | bool truth =>
      cases stored
      cases written
      exact iff_of_true (observed_of_bool reading) nofun
  | float number =>
      cases stored
      cases written
      exact iff_of_true (observed_of_float reading).2 nofun
  | integer integer =>
      cases stored
      cases written
      rw [observed_of_integer reading]
      by_cases boolean : info.kind = .boolean
      · rw [if_pos boolean, indicator_eq_ofInt_iff]
        constructor
        · rintro same ⟨_, nonzero, other⟩
          exact same.elim nonzero other
        · intro read
          by_contra neither
          obtain ⟨nonzero, other⟩ := not_or.mp neither
          exact read (.truth boolean nonzero other)
      · rw [if_neg boolean]
        refine iff_of_true rfl ?_
        rintro ⟨isBoolean, _, _⟩
        exact boolean isBoolean
  | text label =>
      cases stored
      rcases observed_of_text reading with ⟨counts, spells⟩ | ⟨enumerated, index, option, rfl⟩
      · have notBoolean := FieldKind.ne_boolean_of_isNumeric counts
        cases option : info.optionIndex? label with
        | none =>
            refine iff_of_true (target_of_number notBoolean option spells written).symm ?_
            rintro (_ | ⟨_, named, _, _⟩)
            rw [option] at named
            cases named
        | some index =>
            rw [target_of_option notBoolean option written]
            constructor
            · rintro same (_ | ⟨_, named, read, other⟩)
              rw [option] at named
              rw [spells] at read
              cases named
              cases read
              exact other same
            · intro read
              by_contra other
              exact read (.label counts option spells other)
      · have notBoolean := FieldKind.ne_boolean_of_isEnumerated enumerated
        refine iff_of_true (target_of_option notBoolean option written).symm ?_
        rintro (_ | ⟨counts, _, _, _⟩)
        exact FieldKind.not_isEnumerated_of_isNumeric counts enumerated

/-- Was a value recorded that a condition is written as, and is it the number that it is written as?
What is recorded as no number at all is not even equal to itself. -/
structure Holds (info : KeyInfo) (value : Json) (recorded : Recorded) : Prop where
  stored : Recorded.ofJson? value = some recorded
  isNumber : ∃ number, (info.observe recorded).reading = some number ∧ number.isNaN = false
  read : ¬info.Misread value

theorem Holds.reading {value : Json} (holds : info.Holds value recorded)
    (written : info.target value = .ok target) :
    (info.observe recorded).reading = some target ∧ target == target := by
  obtain ⟨number, reading, isNumber⟩ := holds.isNumber
  obtain rfl := (observed_eq_target_iff holds.stored reading written).mpr holds.read
  exact ⟨reading, (Number.beq_iff_place isNumber isNumber).mpr rfl⟩

theorem reading_aggregate_lone {value values : Value} (fits : info.Fits value)
    (reading : value.reading = some observed) (lone : values.leaves = [value]) :
    (aggregate [values] .mean info.valueKind).reading = some observed := by
  have shape := hasShape_of_suits fits.shape
  have flat : Value.flatten [values] = [value] := by
    rw [Value.flatten_cons, Value.flatten_nil, List.append_nil, lone]
  have mean : Aggregation.numeric .mean ([value].filterMap Value.reading) = .number observed := by
    rw [List.filterMap_cons_some reading, List.filterMap_nil, Aggregation.numeric_mean_singleton]
  simp only [aggregate, flat, List.isEmpty_cons, Bool.false_eq_true, if_false]
  cases kind : info.valueKind with
  | numeric => exact congrArg Aggregate.reading mean
  | cycle => exact congrArg Aggregate.reading mean
  | boolean =>
      rw [kind] at shape
      obtain ⟨truth, rfl⟩ := shape
      have mean := Aggregation.numeric_mean_singleton (Aggregation.indicator truth)
      exact (congrArg Aggregate.reading mean).trans reading
  | enumerated options =>
      rw [kind] at shape
      obtain ⟨index, rfl⟩ | ⟨flags, rfl⟩ := shape
      · have declared : index < options := options_of_valueKind kind ▸ fits.declared index rfl
        exact (congrArg Aggregate.reading (Aggregation.enumerated_lone declared)).trans reading
      · cases reading
  | text =>
      rw [kind] at shape
      obtain ⟨text, rfl⟩ := shape
      cases reading

end

end KeyInfo

end Scouting
