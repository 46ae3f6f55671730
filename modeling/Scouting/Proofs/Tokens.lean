import Mathlib.Data.List.TakeWhile
import Scouting.Expression.Token

/-!
What a text splits into. Blanks part tokens, and numbers and names are taken as long as they can be.
Scanning a text gives the tokens that it splits into, and fails where it splits into none.
-/

namespace Scouting

open Text

theorem takeWhile_run {test : Char → Bool} {run rest : List Char} (all : ∀ char ∈ run, test char)
    (stop : ∀ next ∈ rest.head?, ¬test next) :
    (run ++ rest).takeWhile test = run ∧ (run ++ rest).dropWhile test = rest := by
  have none : rest.takeWhile test = [] ∧ rest.dropWhile test = rest := by
    cases rest with
    | nil => exact ⟨rfl, rfl⟩
    | cons next later =>
        have fails : ¬test next := stop next rfl
        exact ⟨List.takeWhile_cons_of_neg fails, List.dropWhile_cons_of_neg fails⟩
  rw [List.takeWhile_append_of_pos all, List.dropWhile_append_of_pos all, none.1, none.2]
  exact ⟨List.append_nil _, rfl⟩

theorem dropWhile_stops (test : Char → Bool) (chars : List Char) :
    ∀ next ∈ (chars.dropWhile test).head?, ¬test next := by
  intro next first
  have stops := List.head?_dropWhile_not test chars
  rw [Option.mem_def.mp first] at stops
  simpa using stops

namespace Token

section
variable {char : Char}

theorem code_of_inNumber (inside : inNumber char) :
    char.toNat = 46 ∨ 48 ≤ char.toNat ∧ char.toNat ≤ 57 := by
  simp only [inNumber, isDigit, Bool.or_eq_true, Bool.and_eq_true, decide_eq_true_eq,
    beq_iff_eq] at inside
  rcases inside with digit | rfl
  · exact Or.inr digit
  · exact Or.inl rfl

theorem code_of_startsName (starts : startsName char) :
    65 ≤ char.toNat ∧ char.toNat ≤ 122 := by
  simp only [startsName, isLetter, Bool.or_eq_true, Bool.and_eq_true, decide_eq_true_eq,
    beq_iff_eq] at starts
  rcases starts with (small | capital) | rfl
  · have code : 97 ≤ char.toNat ∧ char.toNat ≤ 122 := small
    omega
  · have code : 65 ≤ char.toNat ∧ char.toNat ≤ 90 := capital
    omega
  · decide

theorem code_of_isBlank (blank : isBlank char) : char.toNat ≤ 32 ∨ 133 ≤ char.toNat := by
  simp only [isBlank, Bool.or_eq_true, Bool.and_eq_true, decide_eq_true_eq, beq_iff_eq] at blank
  omega

theorem sign_eq_none (outside : char.toNat < 37 ∨ 47 < char.toNat ∨ char.toNat = 46) :
    Sign.ofChar? char = none := by
  rw [Sign.ofChar?.eq_def]
  split
  all_goals first | exact absurd outside (by decide) | rfl

theorem isBlank_eq_false (between : 32 < char.toNat ∧ char.toNat < 133) : isBlank char = false := by
  refine Bool.eq_false_iff.mpr fun blank => ?_
  have code := code_of_isBlank blank
  omega

theorem sign_of_isBlank (blank : isBlank char) : Sign.ofChar? char = none := by
  have code := code_of_isBlank blank
  exact sign_eq_none (by omega)

theorem sign_of_inNumber (inside : inNumber char) :
    Sign.ofChar? char = none ∧ isBlank char = false := by
  have code := code_of_inNumber inside
  exact ⟨sign_eq_none (by omega), isBlank_eq_false (by omega)⟩

theorem sign_of_startsName (starts : startsName char) :
    Sign.ofChar? char = none ∧ isBlank char = false ∧ inNumber char = false := by
  have code := code_of_startsName starts
  refine ⟨sign_eq_none (by omega), isBlank_eq_false (by omega), ?_⟩
  refine Bool.eq_false_iff.mpr fun inside => ?_
  have numberCode := code_of_inNumber inside
  omega

theorem toLower_of_inNumber (inside : inNumber char) : char.toLower = char := by
  have code := code_of_inNumber inside
  have notCapital : ¬(char.val ≥ 'A'.val ∧ char.val ≤ 'Z'.val) := by
    intro capital
    have above : 65 ≤ char.toNat := capital.1
    omega
  exact dif_neg notCapital

end

end Token

namespace Decimal

/-- Digits, with or without one point among them, and the number that they stand for. -/
inductive Spells : List Char → Float → Prop where
  | whole {digits : List Char} : digits ≠ [] → (∀ digit ∈ digits, isDigit digit) →
      Spells digits (nearest (digitsValue digits) 0)
  | pointed {before after : List Char} : before ++ after ≠ [] →
      (∀ digit ∈ before ++ after, isDigit digit) →
      Spells (before ++ '.' :: after) (nearest (digitsValue (before ++ after)) (-after.length))

section
variable {before after : List Char} (front : ∀ digit ∈ before, isDigit digit)
include front

theorem readMagnitude_whole :
    readMagnitude before =
      if before = [] then none else some (nearest (digitsValue before) 0) := by
  have taken := List.takeWhile_eq_self_iff.mpr front
  have dropped := List.dropWhile_eq_nil_iff.mpr front
  simp [readMagnitude, taken, dropped]

theorem takeWhile_to_point (after : List Char) :
    (before ++ '.' :: after).takeWhile isDigit = before ∧
      (before ++ '.' :: after).dropWhile isDigit = '.' :: after := by
  refine takeWhile_run front fun next first => ?_
  cases first
  decide

theorem readMagnitude_pointed (back : ∀ digit ∈ after, isDigit digit) :
    readMagnitude (before ++ '.' :: after) =
      if before ++ after = [] then none
      else some (nearest (digitsValue (before ++ after)) (-after.length)) := by
  obtain ⟨taken, dropped⟩ := takeWhile_to_point front after
  have takenAfter := List.takeWhile_eq_self_iff.mpr back
  have droppedAfter := List.dropWhile_eq_nil_iff.mpr back
  simp [readMagnitude, taken, dropped, takenAfter, droppedAfter]

theorem readMagnitude_twice (back : ∀ digit ∈ after, isDigit digit) (rest : List Char) :
    readMagnitude (before ++ '.' :: (after ++ '.' :: rest)) = none := by
  obtain ⟨taken, dropped⟩ := takeWhile_to_point front (after ++ '.' :: rest)
  obtain ⟨takenAfter, droppedAfter⟩ := takeWhile_to_point back rest
  simp [readMagnitude, taken, dropped, takenAfter, droppedAfter]

end

theorem digits_or_point {run : List Char} (only : ∀ char ∈ run, Token.inNumber char) :
    (∀ digit ∈ run, isDigit digit) ∨ ∃ before after : List Char,
      (∀ digit ∈ before, isDigit digit) ∧ run = before ++ '.' :: after := by
  cases rest : run.dropWhile isDigit with
  | nil => exact Or.inl (List.dropWhile_eq_nil_iff.mp rest)
  | cons next after =>
      have notDigit : ¬isDigit next := dropWhile_stops isDigit run next (by rw [rest]; rfl)
      have member : next ∈ run := (List.dropWhile_suffix isDigit).subset (by rw [rest]; simp)
      have point : next = '.' := by simpa [Token.inNumber, notDigit] using only next member
      refine Or.inr ⟨run.takeWhile isDigit, after, fun _ => List.mem_takeWhile_imp, ?_⟩
      rw [← point, ← rest, List.takeWhile_append_dropWhile]

theorem readMagnitude_eq_some_iff {run : List Char} {value : Float}
    (only : ∀ char ∈ run, Token.inNumber char) :
    readMagnitude run = some value ↔ Spells run value := by
  constructor
  · intro read
    rcases digits_or_point only with digits | ⟨before, rest, front, rfl⟩
    · rw [readMagnitude_whole digits] at read
      split at read
      · cases read
      · rename_i nonempty
        cases read
        exact Spells.whole nonempty digits
    · have inRest : ∀ char ∈ rest, Token.inNumber char := fun char member =>
        only char (by simp [member])
      rcases digits_or_point inRest with back | ⟨after, more, back, rfl⟩
      · rw [readMagnitude_pointed front back] at read
        split at read
        · cases read
        · rename_i nonempty
          cases read
          refine Spells.pointed nonempty fun digit member => ?_
          exact (List.mem_append.mp member).elim (front digit) (back digit)
      · rw [readMagnitude_twice front back] at read
        cases read
  · intro spells
    cases spells with
    | whole nonempty digits => rw [readMagnitude_whole digits, if_neg nonempty]
    | pointed nonempty digits =>
        have front := fun digit member => digits digit (List.mem_append_left _ member)
        have back := fun digit member => digits digit (List.mem_append_right _ member)
        rw [readMagnitude_pointed front back, if_neg nonempty]

theorem read_eq_readMagnitude {run : List Char} (only : ∀ char ∈ run, Token.inNumber char) :
    read run = readMagnitude run := by
  have lowered : run.map Char.toLower = run :=
    (List.map_congr_left fun char member => Token.toLower_of_inNumber (only char member)).trans
      (List.map_id _)
  have unsigned : readUnsigned run = readMagnitude run := by
    have word {first : Char} {rest : List Char} (letter : ¬Token.inNumber first) :
        String.ofList run ≠ String.ofList (first :: rest) := by
      intro same
      rw [String.ofList_injective same] at only
      exact letter (only first List.mem_cons_self)
    rw [readUnsigned, lowered]
    split
    · rename_i same
      exact absurd same (word (by decide))
    · rename_i same
      exact absurd same (word (by decide))
    · rename_i same
      exact absurd same (word (by decide))
    · rfl
  rw [← unsigned, read.eq_def]
  split
  · exact absurd (only '-' List.mem_cons_self) (by decide)
  · exact absurd (only '+' List.mem_cons_self) (by decide)
  · rfl

theorem read_eq_some_iff {run : List Char} {value : Float}
    (only : ∀ char ∈ run, Token.inNumber char) : read run = some value ↔ Spells run value := by
  rw [read_eq_readMagnitude only, readMagnitude_eq_some_iff only]

theorem Spells.inNumber {run : List Char} {value : Float} (spells : Spells run value) :
    run ≠ [] ∧ ∀ char ∈ run, Token.inNumber char := by
  cases spells with
  | whole nonempty digits =>
      exact ⟨nonempty, fun char member => by simp [Token.inNumber, digits char member]⟩
  | @pointed before after nonempty digits =>
      refine ⟨by simp, fun char member => ?_⟩
      by_cases point : char = '.'
      · simp [Token.inNumber, point]
      · have digit : char ∈ before ++ after := by simpa [point] using member
        simp [Token.inNumber, digits char digit]

end Decimal

namespace Token

/-- Does a text split into tokens? -/
inductive Splits : List Char → List Token → Prop where
  | nil : Splits [] []
  | blank {char : Char} {rest : List Char} {tokens : List Token} : isBlank char →
      Splits rest tokens → Splits (char :: rest) tokens
  | sign {char : Char} {mark : Sign} {rest : List Char} {tokens : List Token} :
      Sign.ofChar? char = some mark → Splits rest tokens →
        Splits (char :: rest) (.sign mark :: tokens)
  | number {run rest : List Char} {value : Float} {tokens : List Token} :
      Decimal.Spells run value → (∀ next ∈ rest.head?, ¬inNumber next) → Splits rest tokens →
        Splits (run ++ rest) (.number value :: tokens)
  | name {first : Char} {run rest : List Char} {tokens : List Token} : startsName first →
      (∀ char ∈ run, inName char) → (∀ next ∈ rest.head?, ¬inName next) → Splits rest tokens →
        Splits (first :: run ++ rest) (.name (String.ofList (first :: run)) :: tokens)

theorem scan_of_splits {chars : List Char} {tokens : List Token} (splits : Splits chars tokens) :
    ∀ position, ∃ placed, scan position chars = .ok placed ∧
      placed.map PlacedToken.token = tokens := by
  induction splits with
  | nil => exact fun position => ⟨[], by rw [scan], rfl⟩
  | @blank char rest tokens blank _ ih =>
      intro position
      obtain ⟨placed, found, same⟩ := ih (position + char.utf8Size)
      refine ⟨placed, ?_, same⟩
      rw [scan, sign_of_isBlank blank]
      simp only [blank, if_true, found]
  | @sign char mark rest tokens isSign _ ih =>
      intro position
      obtain ⟨placed, found, same⟩ := ih (position + char.utf8Size)
      refine ⟨⟨.sign mark, position⟩ :: placed, ?_, by rw [List.map_cons, same]⟩
      rw [scan, isSign]
      simp only [found]
  | @number run rest value tokens spells stop _ ih =>
      intro position
      obtain ⟨nonempty, only⟩ := spells.inNumber
      obtain ⟨placed, found, same⟩ := ih (position + byteCount run)
      refine ⟨⟨.number value, position⟩ :: placed, ?_, by rw [List.map_cons, same]⟩
      cases run with
      | nil => exact absurd rfl nonempty
      | cons first more =>
          have inside := only first List.mem_cons_self
          obtain ⟨taken, dropped⟩ :=
            takeWhile_run (fun char member => only char (List.mem_cons_of_mem _ member)) stop
          have read := (Decimal.read_eq_some_iff only).mpr spells
          obtain ⟨noSign, noBlank⟩ := sign_of_inNumber inside
          rw [List.cons_append, scan, noSign]
          simp only [noBlank, inside, taken, dropped, read, found, if_true, Bool.false_eq_true,
            if_false]
  | @name first run rest tokens starts only stop _ ih =>
      intro position
      obtain ⟨placed, found, same⟩ := ih (position + byteCount (first :: run))
      refine ⟨⟨.name (String.ofList (first :: run)), position⟩ :: placed, ?_,
        by rw [List.map_cons, same]⟩
      obtain ⟨taken, dropped⟩ := takeWhile_run only stop
      obtain ⟨noSign, noBlank, noNumber⟩ := sign_of_startsName starts
      rw [List.cons_append, scan, noSign]
      simp only [noBlank, noNumber, starts, taken, dropped, found, if_true, Bool.false_eq_true,
        if_false]

theorem Splits.unique {chars : List Char} {tokens others : List Token}
    (splits : Splits chars tokens) (also : Splits chars others) : tokens = others := by
  obtain ⟨placed, scanned, rfl⟩ := scan_of_splits splits 0
  obtain ⟨otherPlaced, otherScanned, rfl⟩ := scan_of_splits also 0
  rw [scanned] at otherScanned
  cases otherScanned
  rfl

end Token

end Scouting
