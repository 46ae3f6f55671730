import Scouting.Json.Basic
import Scouting.Text.Natural

/-!
Numbers as they are written. A numeral is one or more decimal digits, and zeros may stand in front.
A text reads as a number exactly if it is a numeral, with or without a plus sign, of a number below
the bound.
-/

namespace Scouting

namespace Text

/-- Do these digits write a number? -/
structure IsNumeral (digits : List Char) (number : Nat) : Prop where
  filled : digits ≠ []
  only : ∀ char ∈ digits, isDigit char
  value : digitsValue digits = number

theorem code_of_isDigit {char : Char} (digit : isDigit char) :
    48 ≤ char.toNat ∧ char.toNat ≤ 57 := by
  rw [isDigit, Bool.and_eq_true, decide_eq_true_eq, decide_eq_true_eq] at digit
  exact digit

theorem IsNumeral.code {digits : List Char} {number : Nat} (numeral : IsNumeral digits number)
    {char : Char} (member : char ∈ digits) : 48 ≤ char.toNat ∧ char.toNat ≤ 57 :=
  code_of_isDigit (numeral.only char member)

theorem IsNumeral.not_mem {digits : List Char} {number : Nat} (numeral : IsNumeral digits number)
    {char : Char} (above : 57 < char.toNat) : char ∉ digits := by
  intro member
  have code := numeral.code member
  omega

theorem IsNumeral.exists_first {digits : List Char} {number : Nat}
    (numeral : IsNumeral digits number) (rest : List Char) :
    ∃ first ∈ (digits ++ rest).head?, isDigit first := by
  cases digits with
  | nil => exact absurd rfl numeral.filled
  | cons first others => exact ⟨first, rfl, numeral.only first List.mem_cons_self⟩

theorem readDigits_eq_some_iff {bound number : Nat} {chars : List Char} :
    readDigits bound chars = some number ↔ IsNumeral chars number ∧ number < bound := by
  rw [readDigits]
  constructor
  · intro read
    split at read
    · rename_i accepted
      simp only [Bool.and_eq_true, Bool.not_eq_true', List.isEmpty_eq_false_iff, List.all_eq_true,
        decide_eq_true_eq] at accepted
      obtain ⟨⟨filled, only⟩, below⟩ := accepted
      cases read
      exact ⟨⟨filled, only, rfl⟩, below⟩
    · cases read
  · rintro ⟨⟨filled, only, rfl⟩, below⟩
    apply if_pos
    simpa [filled, below] using only

theorem readNatural_numeral {bound number : Nat} {digits : List Char}
    (numeral : IsNumeral digits number) (below : number < bound) :
    readNatural bound digits = some number := by
  rw [readNatural]
  · exact readDigits_eq_some_iff.mpr ⟨numeral, below⟩
  · intro rest plus
    have code := numeral.code (plus ▸ List.mem_cons_self)
    exact absurd code (by decide)

theorem readNatural_eq_some_iff {bound number : Nat} {chars : List Char} :
    readNatural bound chars = some number ↔
      number < bound ∧ ∃ digits, IsNumeral digits number ∧
        (chars = digits ∨ chars = '+' :: digits) := by
  constructor
  · intro read
    rw [readNatural.eq_def] at read
    split at read
    · rename_i digits
      obtain ⟨numeral, below⟩ := readDigits_eq_some_iff.mp read
      exact ⟨below, digits, numeral, Or.inr rfl⟩
    · obtain ⟨numeral, below⟩ := readDigits_eq_some_iff.mp read
      exact ⟨below, chars, numeral, Or.inl rfl⟩
  · rintro ⟨below, digits, numeral, rfl | rfl⟩
    · exact readNatural_numeral numeral below
    · exact readDigits_eq_some_iff.mpr ⟨numeral, below⟩

theorem digitsValue_toDigits (number : Nat) : digitsValue (Nat.toDigits 10 number) = number := by
  have same : digitsValue (Nat.toDigits 10 number) =
      Nat.ofDigitChars 10 (Nat.toDigits 10 number) 0 := by
    rw [digitsValue, Nat.ofDigitChars_eq_foldl]
    simp only [digitValue, Nat.mul_comm]
  rw [same, Nat.ofDigitChars_ten_toDigits]

theorem isNumeral_toDigits (number : Nat) : IsNumeral (Nat.toDigits 10 number) number := by
  refine ⟨Nat.toDigits_ne_nil, fun char member => ?_, digitsValue_toDigits number⟩
  have digit := Nat.isDigit_of_mem_toDigits (by decide) (by decide) member
  simp only [Char.isDigit, Bool.and_eq_true, decide_eq_true_eq] at digit
  rw [isDigit, Bool.and_eq_true, decide_eq_true_eq, decide_eq_true_eq]
  exact digit

theorem isNumeral_toString (number : Nat) : IsNumeral (toString number).toList number := by
  rw [Nat.toString_eq_ofList_toDigits, String.toList_ofList]
  exact isNumeral_toDigits number

end Text

theorem lt_of_natural? {bound value : Nat} {json : Json}
    (decodes : json.natural? bound = some value) : value < bound := by
  rw [Json.natural?.eq_def] at decodes
  split at decodes
  · split at decodes
    · cases decodes
      assumption
    · cases decodes
  · cases decodes

end Scouting
