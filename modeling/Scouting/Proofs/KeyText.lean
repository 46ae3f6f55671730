import Scouting.Proofs.Numerals
import Scouting.Proofs.Tokens
import Scouting.Key

/-!
The written form of keys. Between blanks stand a namespace, a point and an identifier, and possibly
one more point and the number of an option. A text that is written like this is read as the key that
it names, no other text is read at all, and a key whose id is an identifier is read back from its
own text.
-/

namespace Scouting

open Text

section
variable {separator : Char} {before rest : List Char}

theorem splitFirst_append (absent : separator ∉ before) :
    splitFirst separator (before ++ separator :: rest) = (before, some rest) := by
  induction before with
  | nil => simp [splitFirst]
  | cons first before ih =>
      simp only [List.mem_cons, not_or] at absent
      rw [List.cons_append, splitFirst, if_neg (Ne.symm absent.1), ih absent.2]

theorem splitFirst_joins (separator : Char) (chars : List Char) :
    (splitFirst separator chars).1 ++ (splitFirst separator chars).2.elim [] (separator :: ·) =
      chars := by
  induction chars with
  | nil => rfl
  | cons first rest ih =>
      rw [splitFirst]
      by_cases here : first = separator
      · rw [if_pos here, here]
        rfl
      · rw [if_neg here, List.cons_append, ih]

theorem splitFirst_of_not_mem (absent : separator ∉ before) :
    splitFirst separator before = (before, none) := by
  induction before with
  | nil => rfl
  | cons first before ih =>
      simp only [List.mem_cons, not_or] at absent
      rw [splitFirst, if_neg (Ne.symm absent.1), ih absent.2]

end

theorem dropBlanks_of_no_blank {chars : List Char} (none : ∀ char ∈ chars, isBlank char = false) :
    dropBlanks chars = chars := by
  cases chars with
  | nil => rfl
  | cons first rest =>
      exact List.dropWhile_cons_of_neg (by simp [none first List.mem_cons_self])

theorem trim_of_no_blank {chars : List Char} (none : ∀ char ∈ chars, isBlank char = false) :
    trim chars = chars := by
  rw [trim, dropBlanks_of_no_blank none,
    dropBlanks_of_no_blank fun char member => none char (List.mem_reverse.mp member),
    List.reverse_reverse]

theorem exists_trim (chars : List Char) :
    ∃ front back, (∀ char ∈ front, isBlank char) ∧ (∀ char ∈ back, isBlank char) ∧
      chars = front ++ trim chars ++ back := by
  have blanks (run : List Char) : ∀ char ∈ run.takeWhile isBlank, isBlank char := by
    intro char member
    exact List.mem_takeWhile_imp member
  refine ⟨chars.takeWhile isBlank, ((dropBlanks chars).reverse.takeWhile isBlank).reverse,
    blanks chars, fun char member => blanks _ char (List.mem_reverse.mp member), ?_⟩
  have ending : trim chars ++ ((dropBlanks chars).reverse.takeWhile isBlank).reverse =
      dropBlanks chars := by
    rw [trim, ← List.reverse_append]
    apply List.reverse_eq_iff.mpr
    exact List.takeWhile_append_dropWhile
  rw [List.append_assoc, ending]
  exact List.takeWhile_append_dropWhile.symm

theorem trim_between {front core back : List Char} (before : ∀ char ∈ front, isBlank char)
    (after : ∀ char ∈ back, isBlank char) (filled : core ≠ [])
    (none : ∀ char ∈ core, isBlank char = false) : trim (front ++ core ++ back) = core := by
  have start : dropBlanks (front ++ core ++ back) = core ++ back := by
    rw [List.append_assoc, dropBlanks, List.dropWhile_append_of_pos before]
    cases core with
    | nil => exact absurd rfl filled
    | cons first rest =>
        apply List.dropWhile_cons_of_neg
        simp [none first List.mem_cons_self]
  have backward : ∀ char ∈ back.reverse, isBlank char := by
    intro char member
    exact after char (List.mem_reverse.mp member)
  have whole := trim_of_no_blank none
  rw [trim, dropBlanks_of_no_blank none] at whole
  rw [trim, start, List.reverse_append, dropBlanks, List.dropWhile_append_of_pos backward]
  exact whole

theorem code_of_mem_identifier {id : String} (identifier : isIdentifier id) {char : Char}
    (member : char ∈ id.toList) : 48 ≤ char.toNat ∧ char.toNat ≤ 122 := by
  simp only [isIdentifier, Bool.and_eq_true, List.all_eq_true] at identifier
  have inside := identifier.2 char member
  simp only [isAlphanumeric, isDigit, Bool.or_eq_true, Bool.and_eq_true,
    decide_eq_true_eq] at inside
  rcases inside with ((digit | small) | capital) | rfl
  · have code : 48 ≤ char.toNat ∧ char.toNat ≤ 57 := digit
    omega
  · have code : 97 ≤ char.toNat ∧ char.toNat ≤ 122 := small
    omega
  · have code : 65 ≤ char.toNat ∧ char.toNat ≤ 90 := capital
    omega
  · decide

namespace Namespace

theorem ofText?_text (space : Namespace) : ofText? space.text = some space := by
  cases space <;> decide

theorem eq_text_of_ofText? {text : String} {space : Namespace}
    (found : ofText? text = some space) : text = space.text := by
  have same := List.find?_some found
  exact (eq_of_beq same).symm

theorem isIdentifier_text (space : Namespace) : isIdentifier space.text := by
  cases space <;> decide

end Namespace

namespace Key

variable {key : Key}

theorem isIdentifier_of_ofText? {text : String} (found : ofText? text = some key) :
    isIdentifier key.id := by
  simp only [ofText?, Option.bind_eq_bind, Option.bind_eq_some_iff] at found
  obtain ⟨_, _, _, _, found⟩ := found
  split at found
  · rename_i identifier
    obtain ⟨_, _, same⟩ := Option.bind_eq_some_iff.mp found
    cases same
    exact identifier
  · cases found

theorem toList_text (key : Key) : key.text.toList = key.space.text.toList ++ '.' ::
    (key.id.toList ++ key.option.elim [] fun option => '.' :: (toString option).toList) := by
  cases option : key.option <;> simp [text, option]

/-- How an option is written behind an id: not at all, or as its number after a point. -/
inductive OptionSuffix : Option Nat → List Char → Prop where
  | whole : OptionSuffix none []
  | narrowed {option : Nat} {sign digits : List Char} (plus : sign = [] ∨ sign = ['+'])
      (numeral : IsNumeral digits option) (fits : option < bound64) :
      OptionSuffix (some option) ('.' :: (sign ++ digits))

theorem optionSuffix_iff {option : Option Nat} {suffix : List Char} :
    OptionSuffix option suffix ↔
      ∃ rest : Option (List Char), suffix = rest.elim [] ('.' :: ·) ∧
        readOption? rest = some option := by
  constructor
  · intro written
    cases written with
    | whole => exact ⟨none, rfl, rfl⟩
    | @narrowed option sign digits plus numeral fits =>
        have read : readNatural bound64 (sign ++ digits) = some option := by
          refine readNatural_eq_some_iff.mpr ⟨fits, digits, numeral, ?_⟩
          rcases plus with rfl | rfl
          · exact Or.inl rfl
          · exact Or.inr rfl
        exact ⟨some (sign ++ digits), rfl, by rw [readOption?, read, Option.map_some]⟩
  · rintro ⟨rest, rfl, read⟩
    cases rest with
    | none =>
        cases read
        exact OptionSuffix.whole
    | some chars =>
        obtain ⟨number, isNumber, rfl⟩ := Option.map_eq_some_iff.mp read
        obtain ⟨fits, digits, numeral, written⟩ := readNatural_eq_some_iff.mp isNumber
        rcases written with rfl | rfl
        · exact OptionSuffix.narrowed (Or.inl rfl) numeral fits
        · exact OptionSuffix.narrowed (Or.inr rfl) numeral fits

theorem OptionSuffix.code {option : Option Nat} {suffix : List Char}
    (written : OptionSuffix option suffix) {char : Char} (member : char ∈ suffix) :
    43 ≤ char.toNat ∧ char.toNat ≤ 57 := by
  cases written with
  | whole => cases member
  | narrowed plus numeral fits =>
      rcases List.mem_cons.mp member with rfl | member
      · decide
      · rcases List.mem_append.mp member with inSign | inDigits
        · rcases plus with rfl | rfl
          · cases inSign
          · obtain rfl := List.mem_singleton.mp inSign
            decide
        · have code := numeral.code inDigits
          omega

/-- Does a text name a key? -/
structure IsWritten (key : Key) (text : String) : Prop where
  identifier : isIdentifier key.id
  form : ∃ front suffix back, (∀ char ∈ front, isBlank char) ∧ (∀ char ∈ back, isBlank char) ∧
    OptionSuffix key.option suffix ∧ text.toList =
      front ++ (key.space.text.toList ++ '.' :: (key.id.toList ++ suffix)) ++ back

theorem IsWritten.fits {text : String} (written : key.IsWritten text) :
    ∀ option ∈ key.option, option < bound64 := by
  obtain ⟨_, _, _, _, _, _, suffix, _⟩ := written
  intro option narrowed
  rw [Option.mem_def.mp narrowed] at suffix
  cases suffix with
  | narrowed plus numeral fits => exact fits

theorem isWritten_of_ofText? {text : String} (found : ofText? text = some key) :
    key.IsWritten text := by
  have identifier := isIdentifier_of_ofText? found
  simp only [ofText?, Option.bind_eq_bind, Option.bind_eq_some_iff] at found
  obtain ⟨space, isSpace, later, hasLater, found⟩ := found
  split at found
  · obtain ⟨option, read, same⟩ := Option.bind_eq_some_iff.mp found
    cases same
    obtain ⟨front, back, before, after, around⟩ := exists_trim text.toList
    have named : String.ofList (splitFirst '.' (trim text.toList)).1 = space.text :=
      Namespace.eq_text_of_ofText? isSpace
    have parted := splitFirst_joins '.' (trim text.toList)
    rw [hasLater, ← String.toList_ofList (l := (splitFirst '.' (trim text.toList)).1),
      named] at parted
    have rest := splitFirst_joins '.' later
    refine ⟨identifier, front, _, back, before, after, optionSuffix_iff.mpr ⟨_, rfl, read⟩, ?_⟩
    rw [String.toList_ofList, rest]
    rw [← parted] at around
    exact around
  · cases found

theorem ofText?_of_isWritten {text : String} (written : key.IsWritten text) :
    ofText? text = some key := by
  obtain ⟨identifier, front, suffix, back, before, after, option, form⟩ := written
  have noBlank : ∀ char ∈ key.space.text.toList ++ '.' :: (key.id.toList ++ suffix),
      isBlank char = false := by
    intro char member
    apply Token.isBlank_eq_false
    rcases List.mem_append.mp member with inSpace | later
    · have code := code_of_mem_identifier key.space.isIdentifier_text inSpace
      omega
    · rcases List.mem_cons.mp later with rfl | later
      · decide
      · rcases List.mem_append.mp later with inId | inSuffix
        · have code := code_of_mem_identifier identifier inId
          omega
        · have code := option.code inSuffix
          omega
  have inSpace : '.' ∉ key.space.text.toList := fun member =>
    absurd (code_of_mem_identifier key.space.isIdentifier_text member) (by decide)
  have inId : '.' ∉ key.id.toList := fun member =>
    absurd (code_of_mem_identifier identifier member) (by decide)
  obtain ⟨rest, rfl, read⟩ := optionSuffix_iff.mp option
  have parted : splitFirst '.' (key.id.toList ++ rest.elim [] ('.' :: ·)) =
      (key.id.toList, rest) := by
    cases rest with
    | none =>
        rw [Option.elim_none, List.append_nil]
        exact splitFirst_of_not_mem inId
    | some digits => exact splitFirst_append inId
  rw [ofText?, form, trim_between before after (by simp) noBlank, splitFirst_append inSpace]
  simp [parted, Namespace.ofText?_text, identifier, read]

theorem ofText?_eq_some_iff {text : String} : ofText? text = some key ↔ key.IsWritten text :=
  ⟨isWritten_of_ofText?, ofText?_of_isWritten⟩

theorem isWritten_text (identifier : isIdentifier key.id)
    (fits : ∀ option ∈ key.option, option < bound64) : key.IsWritten key.text := by
  have suffix : OptionSuffix key.option
      (key.option.elim [] fun option => '.' :: (toString option).toList) := by
    cases option : key.option with
    | none => exact OptionSuffix.whole
    | some index =>
        exact OptionSuffix.narrowed (Or.inl rfl) (isNumeral_toString index) (fits index option)
  refine ⟨identifier, [], _, [], by simp, by simp, suffix, ?_⟩
  rw [List.nil_append, List.append_nil]
  exact toList_text key

theorem ofText?_text_iff (whole : key.option = none) :
    ofText? key.text = some key ↔ isIdentifier key.id := by
  constructor
  · exact isIdentifier_of_ofText?
  · intro identifier
    exact ofText?_of_isWritten (isWritten_text identifier (by simp [whole]))

theorem parse_eq_ok {text : String} : parse text = .ok key ↔ ofText? text = some key := by
  rw [parse]
  cases ofText? text <;> simp

theorem parse_eq_error {text : String} {error : StatError} :
    parse text = .error error ↔ ofText? text = none ∧ error = .unknownKey text := by
  rw [parse]
  cases ofText? text <;> simp [eq_comm]

/-- A text is read exactly if it names a key, and it is read as that key; a text that names none is
an unknown key. A key with an identifier, and an option that fits sixty-four bits if it has one, is
read back from its own text, so texts that are read mean the same key exactly if the keys they are
read as are written alike. -/
theorem written_form :
    (∀ text (key : Key), parse text = .ok key ↔ key.IsWritten text) ∧
    (∀ text, parse text = .error (.unknownKey text) ↔ ∀ key : Key, ¬key.IsWritten text) ∧
    (∀ key : Key, isIdentifier key.id → (∀ option ∈ key.option, option < bound64) →
      parse key.text = .ok key) ∧
    ∀ first second (key other : Key), parse first = .ok key → parse second = .ok other →
      (key = other ↔ key.text = other.text) := by
  have reads : ∀ text (key : Key), parse text = .ok key ↔ key.IsWritten text := by
    intro text key
    rw [parse_eq_ok, ofText?_eq_some_iff]
  have own : ∀ key : Key, isIdentifier key.id → (∀ option ∈ key.option, option < bound64) →
      parse key.text = .ok key := by
    intro key identifier fits
    exact (reads _ _).mpr (isWritten_text identifier fits)
  have again : ∀ text (key : Key), parse text = .ok key → parse key.text = .ok key := by
    intro text key read
    have written := (reads text key).mp read
    exact own key written.identifier written.fits
  refine ⟨reads, ?_, own, ?_⟩
  · intro text
    rw [parse_eq_error, and_iff_left rfl, Option.eq_none_iff_forall_ne_some]
    apply forall_congr'
    intro key
    rw [ne_eq, ofText?_eq_some_iff]
  · intro first second key other isKey isOther
    constructor
    · exact congrArg text
    · intro same
      have read := again second other isOther
      rw [← same, again first key isKey] at read
      exact Except.ok.inj read

theorem written_form_narrowed :
    parse "result.climb.3" = .ok ⟨.result, "climb", some 3⟩ ∧
    parse " result.climb.+03\n" = .ok ⟨.result, "climb", some 3⟩ := by
  obtain ⟨reads, _, own, _⟩ := written_form
  obtain ⟨digits, fits⟩ : IsNumeral ['0', '3'] 3 ∧ 3 < bound64 :=
    readDigits_eq_some_iff.mp (by decide)
  have suffix : OptionSuffix (some 3) ['.', '+', '0', '3'] := .narrowed (Or.inr rfl) digits fits
  have written : IsWritten ⟨.result, "climb", some 3⟩ " result.climb.+03\n" := by
    refine ⟨by decide, [' '], _, ['\n'], ?_, ?_, suffix, rfl⟩
    · simp [isBlank]
    · simp [isBlank]
  exact ⟨own ⟨.result, "climb", some 3⟩ (by decide) (by decide), (reads _ _).mpr written⟩

end Key

end Scouting
