import Mathlib.Data.Prod.Lex
import Scouting.Proofs.KeyText
import Scouting.Proofs.PlayOrder
import Scouting.Record

/-!
Match keys and the order of play. Whatever stands in front of the last underscore, a key that ends
in a known level and its numbers is placed by level, set and match number, however many zeros the
numbers start with. Keys of no known level come after all of these, and since two keys never share
a place, keys can be sorted in one way only.
-/

namespace Scouting

open Text

namespace PlayOrder

theorem tail_after {front back : List Char} (absent : '_' ∉ back) :
    tail (front ++ '_' :: back) = back := by
  have kept : ∀ char ∈ back.reverse, char != '_' := by
    intro char member
    apply bne_iff_ne.mpr
    rintro rfl
    exact absent (List.mem_reverse.mp member)
  have stop : ∀ next ∈ ('_' :: front.reverse).head?, ¬(next != '_') := by simp
  rw [tail, List.reverse_append, List.reverse_cons, List.append_assoc, List.singleton_append,
    (takeWhile_run kept stop).1, List.reverse_reverse]

/-- What stands between the last underscore of a key and the first digit after it. -/
def levelOf (key : String) : String := String.ofList ((tail key.toList).takeWhile (!isDigit ·))

theorem competitionLevels_nodup : competitionLevels.Nodup := by
  decide

theorem findIdx?_level {rank : Nat} {level : String}
    (known : competitionLevels[rank]? = some level) :
    competitionLevels.findIdx? (· == level) = some rank := by
  obtain ⟨below, rfl⟩ := List.getElem?_eq_some_iff.mp known
  refine List.findIdx?_eq_some_iff_getElem.mpr ⟨below, beq_self_eq_true _, ?_⟩
  intro earlier before same
  exact before.ne (competitionLevels_nodup.getElem_inj_iff.mp (eq_of_beq same))

theorem plain_of_mem_levels {level : String} (known : level ∈ competitionLevels) :
    ∀ char ∈ level.toList, isDigit char = false ∧ char ≠ '_' := by
  have plain : competitionLevels.all fun level =>
      level.toList.all fun char => !isDigit char && char != '_' := by decide
  intro char member
  simpa using List.all_eq_true.mp (List.all_eq_true.mp plain level known) char member

theorem numberOrZero_numeral {digits : List Char} {number : Nat}
    (numeral : IsNumeral digits number) (fits : number < bound32) :
    numberOrZero digits = number := by
  rw [numberOrZero, readNatural_numeral numeral fits, Option.getD_some]

section
variable {key level : String} {front rest : List Char} {rank : Nat}
  (known : competitionLevels[rank]? = some level)
  (parts : key.toList = front ++ '_' :: (level.toList ++ rest)) (absent : '_' ∉ rest)
  (numbered : ∃ first ∈ rest.head?, isDigit first)
include known parts absent numbered

theorem tail_parted : (tail key.toList).takeWhile (!isDigit ·) = level.toList ∧
    (tail key.toList).dropWhile (!isDigit ·) = rest := by
  have plain := plain_of_mem_levels (List.mem_of_getElem? known)
  have single : '_' ∉ level.toList ++ rest := by
    intro member
    rcases List.mem_append.mp member with inLevel | inRest
    · exact (plain _ inLevel).2 rfl
    · exact absent inRest
  rw [parts, tail_after single]
  apply takeWhile_run
  · intro char member
    simp [(plain char member).1]
  · intro next first
    obtain ⟨digit, isFirst, isDigit⟩ := numbered
    rw [Option.mem_unique first isFirst]
    simp [isDigit]

theorem levelOf_parted : levelOf key = level := by
  rw [levelOf, (tail_parted known parts absent numbered).1, String.ofList_toList]

theorem ofKey_parted : ofKey key = match splitFirst 'm' rest with
    | (set, some number) => ⟨rank, numberOrZero set, numberOrZero number, key⟩
    | (number, none) => ⟨rank, 0, numberOrZero number, key⟩ := by
  obtain ⟨ofLevel, ofNumbers⟩ := tail_parted known parts absent numbered
  rcases numbers : splitFirst 'm' rest with ⟨set, _ | number⟩ <;>
    simp only [ofKey, ofLevel, ofNumbers, String.ofList_toList, findIdx?_level known, numbers]

end

/-- Does a key end in the level of a rank, and after it in the numbers of a set and a match, or in
the number of a match alone? -/
inductive Names (rank : Nat) : Nat → Nat → String → Prop where
  | inSet {event level sets numbers : String} {set number : Nat}
      (known : competitionLevels[rank]? = some level)
      (ofSet : IsNumeral sets.toList set) (setFits : set < bound32)
      (ofMatch : IsNumeral numbers.toList number) (fits : number < bound32) :
      Names rank set number (event ++ "_" ++ level ++ sets ++ "m" ++ numbers)
  | alone {event level numbers : String} {number : Nat}
      (known : competitionLevels[rank]? = some level)
      (ofMatch : IsNumeral numbers.toList number) (fits : number < bound32) :
      Names rank 0 number (event ++ "_" ++ level ++ numbers)

section
variable {rank set number : Nat} {key : String}

theorem ofKey_of_names (names : Names rank set number key) :
    ofKey key = ⟨rank, set, number, key⟩ ∧ levelOf key ∈ competitionLevels := by
  cases names with
  | @inSet event level sets numbers _ _ known ofSet setFits ofMatch fits =>
      have parts : (event ++ "_" ++ level ++ sets ++ "m" ++ numbers).toList = event.toList ++
          '_' :: (level.toList ++ (sets.toList ++ 'm' :: numbers.toList)) := by simp
      have absent : '_' ∉ sets.toList ++ 'm' :: numbers.toList := by
        simp [ofSet.not_mem, ofMatch.not_mem]
      have numbered := ofSet.exists_first ('m' :: numbers.toList)
      have noMark : 'm' ∉ sets.toList := ofSet.not_mem (by decide)
      rw [ofKey_parted known parts absent numbered, levelOf_parted known parts absent numbered,
        splitFirst_append noMark]
      simp only [numberOrZero_numeral ofSet setFits, numberOrZero_numeral ofMatch fits, true_and]
      exact List.mem_of_getElem? known
  | @alone event level numbers _ known ofMatch fits =>
      have parts : (event ++ "_" ++ level ++ numbers).toList = event.toList ++
          '_' :: (level.toList ++ numbers.toList) := by simp
      have absent : '_' ∉ numbers.toList := ofMatch.not_mem (by decide)
      have numbered := ofMatch.exists_first []
      rw [List.append_nil] at numbered
      have noMark : 'm' ∉ numbers.toList := ofMatch.not_mem (by decide)
      rw [ofKey_parted known parts absent numbered, levelOf_parted known parts absent numbered,
        splitFirst_of_not_mem noMark]
      simp only [numberOrZero_numeral ofMatch fits, true_and]
      exact List.mem_of_getElem? known

end

/-- The place of a match in the order of play: by level, then by set, then by number, and of equal
ones by the text of the key. -/
def place (order : PlayOrder) : ℕ ×ₗ ℕ ×ₗ ℕ ×ₗ String :=
  toLex (order.level, toLex (order.set, toLex (order.number, order.key)))

theorem le_iff_place (left right : PlayOrder) : left.le right ↔ left.place ≤ right.place := by
  simp only [le, place, Prod.Lex.toLex_le_toLex]
  by_cases level : left.level = right.level
  · by_cases set : left.set = right.set
    · by_cases number : left.number = right.number
      · simp [level, set, number]
      · simp [level, set, number]
    · simp [level, set]
  · simp [level]

theorem level_lt_of_known {key : String} (known : levelOf key ∈ competitionLevels) :
    (ofKey key).level < competitionLevels.length := by
  obtain ⟨rank, below, same⟩ := List.getElem_of_mem known
  have found := findIdx?_level (List.getElem?_eq_some_iff.mpr ⟨below, same⟩)
  rw [levelOf] at found
  simp only [ofKey, found]
  split
  · exact below
  · exact below

theorem level_of_unknown {key : String} (unknown : levelOf key ∉ competitionLevels) :
    (ofKey key).level = competitionLevels.length := by
  have notFound : competitionLevels.findIdx? (· == levelOf key) = none := by
    apply List.findIdx?_eq_none_iff.mpr
    intro level member
    apply beq_eq_false_iff_ne.mpr
    rintro rfl
    exact unknown member
  rw [levelOf] at notFound
  simp only [ofKey, notFound]

theorem place_lt_of_unknown {key other : String} (known : levelOf key ∈ competitionLevels)
    (unknown : levelOf other ∉ competitionLevels) : (ofKey key).place < (ofKey other).place := by
  apply Prod.Lex.toLex_lt_toLex.mpr
  apply Or.inl
  rw [level_of_unknown unknown]
  exact level_lt_of_known known

theorem ofKey_injective : Function.Injective ofKey := by
  intro left right same
  rw [← key_ofKey left, same, key_ofKey]

theorem eq_inPlayOrder_iff (keys sorted : List String) :
    sorted.Perm keys ∧ sorted.Pairwise (fun left right => before left right) ↔
      sorted = inPlayOrder id keys := by
  constructor
  · rintro ⟨perm, ordered⟩
    apply List.Perm.eq_of_pairwise (fun left right _ _ first second =>
      before_antisymm first second) ordered (inPlayOrder_sorted id keys)
    exact perm.trans (inPlayOrder_perm id keys).symm
  · rintro rfl
    exact ⟨inPlayOrder_perm id keys, inPlayOrder_sorted id keys⟩

end PlayOrder

theorem lt_of_optional {members : List (String × Json)} {name : String} {bound : Nat}
    {value : Option Nat}
    (decodes : Json.optional members name (Json.natural? bound) = some value) :
    ∀ number ∈ value, number < bound := by
  rw [Json.optional.eq_def] at decodes
  split at decodes
  · cases decodes
    nofun
  · cases decodes
    nofun
  · obtain ⟨number, isNumber, rfl⟩ := Option.map_eq_some_iff.mp decodes
    rintro _ ⟨⟩
    exact lt_of_natural? isNumber

namespace Record

theorem matchNumber_lt_of_ofJson? {json : Json} {record : Record}
    (decodes : ofJson? json = some record) :
    ∀ number ∈ record.matchNumber, number < bound32 := by
  obtain ⟨members, _, decodes⟩ := Option.bind_eq_some_iff.mp decodes
  iterate 12 obtain ⟨_, _, decodes⟩ := Option.bind_eq_some_iff.mp decodes
  obtain ⟨matchNumber, isNumber, decodes⟩ := Option.bind_eq_some_iff.mp decodes
  cases decodes
  exact lt_of_optional isNumber

theorem decode_numbered {json : Json} {written : Record} {event : String} {number : Nat}
    (decodes : ofJson? json = some written) (played : written.mode = .played)
    (keyless : written.matchKey = none) (ofEvent : written.eventId = some event)
    (numbered : written.matchNumber = some number) :
    decode json = .ok { written with matchKey := some (event ++ "_qm" ++ toString number) } ∧
      PlayOrder.Names 0 0 number (event ++ "_qm" ++ toString number) := by
  constructor
  · simp [decode, decodes, withMatchKey, checked, played, keyless, ofEvent, numbered]
  · have fits := matchNumber_lt_of_ofJson? decodes number numbered
    have level : competitionLevels[0]? = some "qm" := rfl
    have names : PlayOrder.Names 0 0 number (event ++ "_" ++ "qm" ++ toString number) :=
      PlayOrder.Names.alone level (isNumeral_toString number) fits
    have joined : event ++ "_" ++ "qm" = event ++ "_qm" := String.append_assoc
    rwa [joined] at names

end Record

/-- Where matches stand in the order of play. A key that ends in a known level, possibly a set, and
a match, each number below two to the thirty-second and written with any number of zeros in front,
is placed by its level, its set or zero, its match and then its text, whatever event it starts with;
a record that gives an event and a number instead has such a key. Places are compared level first,
then set, then number, keys of no known level come after these, different keys have different
places, and so keys have exactly one order. -/
theorem PlayOrder.keys_in_play_order :
    (∀ {rank set number key}, Names rank set number key →
      ofKey key = ⟨rank, set, number, key⟩) ∧
    (∀ {json} {written : Record} {event : String} {number : Nat},
      Record.ofJson? json = some written → written.mode = .played → written.matchKey = none →
      written.eventId = some event → written.matchNumber = some number →
        let key := event ++ "_qm" ++ toString number
        Record.decode json = .ok { written with matchKey := some key } ∧ Names 0 0 number key) ∧
    (∀ left right : PlayOrder, left.le right ↔
      toLex (left.level, toLex (left.set, toLex (left.number, left.key))) ≤
        toLex (right.level, toLex (right.set, toLex (right.number, right.key)))) ∧
    (∀ {rank set number key other}, Names rank set number key →
      levelOf other ∉ competitionLevels →
        (ofKey key).le (ofKey other) ∧ ¬(ofKey other).le (ofKey key)) ∧
    Function.Injective ofKey ∧
    ∀ keys sorted : List String,
      sorted.Perm keys ∧ sorted.Pairwise (fun left right => (ofKey left).le (ofKey right)) ↔
        sorted = inPlayOrder id keys := by
  refine ⟨fun names => (ofKey_of_names names).1, ?_, le_iff_place, ?_, ofKey_injective,
    eq_inPlayOrder_iff⟩
  · intro json written event number decodes played keyless ofEvent numbered
    exact Record.decode_numbered decodes played keyless ofEvent numbered
  · intro rank set number key other names unknown
    have later := place_lt_of_unknown (ofKey_of_names names).2 unknown
    rw [le_iff_place, le_iff_place]
    exact ⟨later.le, later.not_ge⟩

theorem PlayOrder.keys_in_play_order_older :
    ofKey "a_qm1_sf02m10" = ⟨3, 2, 10, "a_qm1_sf02m10"⟩ ∧
    (∃ written, Record.decode (.object [("team", .integer 7), ("event_id", .text "a_f"),
        ("match_number", .integer 12)]) = .ok written ∧ written.matchKey = some "a_f_qm12") ∧
    (ofKey "a_qm1_sf02m10").le (ofKey "a_practice1") ∧
    ¬(ofKey "a_practice1").le (ofKey "a_qm1_sf02m10") := by
  obtain ⟨placed, older, _, last, _⟩ := keys_in_play_order
  have names : Names 3 2 10 "a_qm1_sf02m10" := by
    have joined : "a_qm1" ++ "_" ++ "sf" ++ "02" ++ "m" ++ "10" = "a_qm1_sf02m10" := by decide
    obtain ⟨set, setFits⟩ : IsNumeral "02".toList 2 ∧ 2 < bound32 :=
      readDigits_eq_some_iff.mp (by decide)
    obtain ⟨number, fits⟩ : IsNumeral "10".toList 10 ∧ 10 < bound32 :=
      readDigits_eq_some_iff.mp (by decide)
    rw [← joined]
    exact .inSet rfl set setFits number fits
  have unknown : levelOf "a_practice1" ∉ competitionLevels := by decide
  refine ⟨placed names, ?_, last names unknown⟩
  obtain ⟨decodes, _⟩ := @older (.object [("team", .integer 7), ("event_id", .text "a_f"),
    ("match_number", .integer 12)]) _ "a_f" 12 rfl rfl rfl rfl rfl
  exact ⟨_, decodes, congrArg some (by decide)⟩

end Scouting
