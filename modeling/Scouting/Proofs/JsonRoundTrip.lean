import Mathlib.Data.List.DropRight
import Mathlib.Tactic.SplitIfs
import Scouting.Json.Reader
import Scouting.Json.Writer
import Scouting.Proofs.Increasing

/-!
Writing a document and reading it back. A document without numbers, whose members stand in order
and which is not nested too deeply, comes back as it was, whatever characters its texts are made of.
-/

namespace Scouting

namespace Json

open Text

theorem hexValue?_hexDigit : ∀ value < 16, hexValue? (hexDigit value) = some value := by
  decide

theorem escaped_control {char : Char} (control : char.toNat < 0x20) (rest : List Char) :
    escaped ('u' :: '0' :: '0' :: hexDigit (char.toNat / 16) :: hexDigit (char.toNat % 16) ::
      rest) = some (char, rest) := by
  have zero : hexValue? '0' = some 0 := by decide
  have high := hexValue?_hexDigit (char.toNat / 16) (by omega)
  have low := hexValue?_hexDigit (char.toNat % 16) (by omega)
  have unit : hexUnit ('0' :: '0' :: hexDigit (char.toNat / 16) :: hexDigit (char.toNat % 16) ::
      rest) = some (char.toNat, rest) := by
    simp only [hexUnit, zero, high, low, Option.bind_eq_bind, Option.bind_some, Option.pure_def,
      Option.some.injEq, Prod.mk.injEq, and_true]
    omega
  have noTrail : ¬(0xDC00 ≤ char.toNat && char.toNat ≤ 0xDFFF) = true := by
    simp only [Bool.and_eq_true, decide_eq_true_eq]
    omega
  have noLead : ¬(0xD800 ≤ char.toNat && char.toNat ≤ 0xDBFF) = true := by
    simp only [Bool.and_eq_true, decide_eq_true_eq]
    omega
  have itself : unitChar char.toNat rest = some (char, rest) := by
    rw [unitChar.eq_def, if_neg noTrail, if_neg noLead, Char.ofNat_toNat]
  change (hexUnit _).bind (fun read => unitChar read.1 read.2) = _
  rw [unit]
  exact itself

theorem stringTail_quotedChar (steps : Nat) (done : List Char) (char : Char) (rest : List Char) :
    stringTail (steps + 1) done (quotedChar char ++ rest) =
      stringTail steps (char :: done) rest := by
  simp only [quotedChar]
  split_ifs with quote slash backspace feed line carriage tab control
  · rw [quote]
    rfl
  · rw [slash]
    rfl
  · rw [backspace]
    rfl
  · rw [feed]
    rfl
  · rw [line]
    rfl
  · rw [carriage]
    rfl
  · rw [tab]
    rfl
  · change stringTail (steps + 1) done ('\\' :: 'u' :: '0' :: '0' :: hexDigit (char.toNat / 16) ::
      hexDigit (char.toNat % 16) :: rest) = _
    rw [stringTail, if_neg (by decide), if_pos rfl, escaped_control control]
  · rw [List.singleton_append, stringTail, if_neg quote, if_neg slash, if_neg control]

theorem stringTail_quoted (chars : List Char) (steps : Nat) (enough : chars.length < steps)
    (done rest : List Char) :
    stringTail steps done (chars.flatMap quotedChar ++ '"' :: rest) =
      some (String.ofList (done.reverse ++ chars), rest) := by
  induction chars generalizing steps done with
  | nil =>
      obtain ⟨steps, rfl⟩ := Nat.exists_eq_add_one.mpr enough
      simp [stringTail]
  | cons char others ih =>
      obtain ⟨steps, rfl⟩ := Nat.exists_eq_add_one.mpr (Nat.zero_lt_of_lt enough)
      rw [List.flatMap_cons, List.append_assoc, stringTail_quotedChar,
        ih steps (Nat.lt_of_succ_lt_succ enough), List.reverse_cons, List.append_assoc,
        List.singleton_append]

theorem quotedChar_ne_nil (char : Char) : quotedChar char ≠ [] := by
  simp only [quotedChar]
  split_ifs <;> exact List.cons_ne_nil _ _

theorem length_le_quoted (chars : List Char) :
    chars.length ≤ (chars.flatMap quotedChar).length := by
  induction chars with
  | nil => exact Nat.le_refl 0
  | cons char others ih =>
      have some := List.length_pos_of_ne_nil (quotedChar_ne_nil char)
      rw [List.flatMap_cons, List.length_append, List.length_cons]
      omega

theorem stringRest_quoted (value : String) (rest : List Char) :
    stringRest (value.toList.flatMap quotedChar ++ '"' :: rest) = some (value, rest) := by
  have enough : value.toList.length <
      (value.toList.flatMap quotedChar ++ '"' :: rest).length := by
    have within := length_le_quoted value.toList
    rw [List.length_append, List.length_cons]
    omega
  rw [stringRest, stringTail_quoted _ _ enough, List.reverse_nil, List.nil_append,
    String.ofList_toList]

/-- A reader takes a text, whatever follows it, for a value. -/
def Takes {α : Type} (item : List Char → Option (α × List Char)) (text : List Char) (value : α) :
    Prop :=
  ∀ rest, item (text ++ rest) = some (value, rest)

theorem skipSpace_blank {blank : List Char} (blanks : ∀ char ∈ blank, isSpace char)
    (chars : List Char) : skipSpace (blank ++ chars) = skipSpace chars := by
  rw [skipSpace, List.dropWhile_append_of_pos blanks, skipSpace]

theorem skipSpace_of_not_space {char : Char} (solid : isSpace char = false) (chars : List Char) :
    skipSpace (char :: chars) = char :: chars := by
  rw [skipSpace, List.dropWhile_cons_of_neg (by simp [solid])]

/-- The loop over items that stand between commas, up to a closing bracket. -/
structure Loops {α : Type} (tail : Nat → List α → List Char → Option (List α × List Char))
    (item : List Char → Option (α × List Char)) (closing : Char) : Prop where
  solid : isSpace closing = false
  skips : ∀ chars, item (skipSpace chars) = item chars
  more : ∀ steps done chars value rest after, item chars = some (value, rest) →
    skipSpace rest = ',' :: after → tail (steps + 1) done chars = tail steps (value :: done) after
  last : ∀ steps done chars value rest after, item chars = some (value, rest) →
    skipSpace rest = closing :: after →
      tail (steps + 1) done chars = some ((value :: done).reverse, after)

theorem skipSpace_skipSpace (chars : List Char) : skipSpace (skipSpace chars) = skipSpace chars :=
  List.dropWhile_idempotent ..

theorem loops_items (item : List Char → Option (Json × List Char)) :
    Loops (itemsTail item) (fun chars => item (skipSpace chars)) ']' where
  solid := by decide
  skips := by
    intro chars
    rw [skipSpace_skipSpace]
  more := by
    intro steps done chars value rest after taken follows
    simp only [itemsTail, taken, follows]
  last := by
    intro steps done chars value rest after taken follows
    simp only [itemsTail, taken, follows]

theorem loops_members (item : List Char → Option (Json × List Char)) :
    Loops (membersTail item) (memberItem item) '\x7d' where
  solid := by decide
  skips := by
    intro chars
    rw [memberItem, skipSpace_skipSpace, memberItem]
  more := by
    intro steps done chars value rest after taken follows
    simp only [membersTail, taken, follows]
  last := by
    intro steps done chars value rest after taken follows
    simp only [membersTail, taken, follows]

theorem Loops.takes {α : Type} {tail : Nat → List α → List Char → Option (List α × List Char)}
    {item : List Char → Option (α × List Char)} {closing : Char} (loops : Loops tail item closing)
    {blank : List Char} (blanks : ∀ char ∈ blank, isSpace char) {entries : List (List Char × α)}
    (filled : entries ≠ []) (each : ∀ entry ∈ entries, Takes item entry.1 entry.2) {steps : Nat}
    (enough : entries.length ≤ steps) (done : List α) (rest : List Char) :
    tail steps done ([','].intercalate (entries.map (·.1)) ++ (blank ++ closing :: rest)) =
      some (done.reverse ++ entries.map (·.2), rest) := by
  induction entries generalizing steps done with
  | nil => exact absurd rfl filled
  | cons entry others ih =>
      obtain ⟨steps, rfl⟩ := Nat.exists_eq_add_one.mpr
        (Nat.lt_of_lt_of_le (Nat.zero_lt_succ others.length) enough)
      have taken := each entry List.mem_cons_self
      cases others with
      | nil =>
          have closes : skipSpace (blank ++ closing :: rest) = closing :: rest := by
            rw [skipSpace_blank blanks, skipSpace_of_not_space loops.solid]
          rw [List.map_singleton, List.intercalate_singleton,
            loops.last steps done _ entry.2 _ rest (taken _) closes, List.reverse_cons]
          rfl
      | cons next others =>
          have goesOn : ∀ after, skipSpace (',' :: after) = ',' :: after :=
            skipSpace_of_not_space (by decide)
          rw [List.map_cons, List.map_cons, List.intercalate_cons_cons, List.append_assoc,
            List.append_assoc, List.singleton_append,
            loops.more steps done _ entry.2 _ _ (taken _) (goesOn _), ← List.map_cons,
            ih (List.cons_ne_nil _ _)
              (fun other member => each other (List.mem_cons_of_mem _ member))
              (Nat.le_of_succ_le_succ enough) (entry.2 :: done),
            List.reverse_cons, List.append_assoc]
          rfl

theorem prettyItems_eq (indent : String) (items : List Json) :
    prettyItems indent items = items.map (prettyAt indent) := by
  induction items with
  | nil => rfl
  | cons item rest ih => rw [prettyItems, ih, List.map_cons]

def prettyMember (indent : String) (member : String × Json) : String :=
  quoted member.1 ++ ": " ++ prettyAt indent member.2

theorem prettyMembers_eq (indent : String) (members : List (String × Json)) :
    prettyMembers indent members = members.map (prettyMember indent) := by
  induction members with
  | nil => rfl
  | cons member rest ih => rw [prettyMembers, ih, List.map_cons, prettyMember]

def margin (indent : String) : List Char := '\n' :: (indent ++ "  ").toList

theorem toList_block_nil {opening closing : String} (first last : Char)
    (opens : opening.toList = [first]) (closes : closing.toList = [last]) (indent : String)
    (rest : List Char) :
    (block opening closing indent []).toList ++ rest = first :: last :: rest := by
  simp [block, opens, closes]

theorem intercalate_lines (indent : String) {parts : List String} (filled : parts ≠ []) :
    '\n' :: indent.toList ++ ' ' :: ' ' ::
        (",\n" ++ indent ++ "  ").toList.intercalate (parts.map String.toList) =
      [','].intercalate (parts.map fun part => margin indent ++ part.toList) := by
  induction parts with
  | nil => exact absurd rfl filled
  | cons part others ih =>
      cases others with
      | nil => simp [margin]
      | cons next others =>
          have later := ih (List.cons_ne_nil _ _)
          simp only [List.map_cons, List.intercalate_cons_cons] at later ⊢
          rw [← later]
          simp [margin]

theorem toList_block {opening closing : String} (first last : Char)
    (opens : opening.toList = [first]) (closes : closing.toList = [last]) (indent : String)
    {parts : List String} (filled : parts ≠ []) (rest : List Char) :
    (block opening closing indent parts).toList ++ rest =
      first :: ([','].intercalate (parts.map fun part => margin indent ++ part.toList) ++
        ('\n' :: indent.toList ++ last :: rest)) := by
  rw [← intercalate_lines indent filled]
  cases parts with
  | nil => exact absurd rfl filled
  | cons part others => simp [block, opens, closes]

def Solid (text : List Char) : Prop :=
  ∃ first rest, text = first :: rest ∧ isSpace first = false ∧ first ∉ [']', '\x7d']

theorem Solid.skipSpace {text : List Char} (solid : Solid text) (rest : List Char) :
    Json.skipSpace (text ++ rest) = text ++ rest := by
  obtain ⟨first, others, rfl, notSpace, _⟩ := solid
  exact skipSpace_of_not_space notSpace (others ++ rest)

theorem Solid.open {text : List Char} (solid : Solid text) {closing : Char}
    (closes : closing ∈ [']', '\x7d']) (rest : List Char) :
    (text ++ rest).head? ≠ some closing := by
  obtain ⟨first, others, rfl, _, notClosing⟩ := solid
  rintro ⟨⟩
  exact notClosing closes

theorem length_le_intercalate (parts : List (List Char)) :
    parts.length ≤ ([','].intercalate parts).length + 1 := by
  induction parts with
  | nil => exact Nat.zero_le _
  | cons part others ih =>
      cases others with
      | nil => exact Nat.succ_le_succ (Nat.zero_le _)
      | cons next others =>
          rw [List.intercalate_cons_cons, List.length_append, List.length_append, List.length_cons]
          simp only [List.length_singleton]
          omega

theorem intercalate_append_cons (front part : List Char) (others : List (List Char)) :
    [','].intercalate ((front ++ part) :: others) =
      front ++ [','].intercalate (part :: others) := by
  cases others with
  | nil => simp only [List.intercalate_singleton]
  | cons next others => simp only [List.intercalate_cons_cons, List.append_assoc]

theorem exists_intercalate (part : List Char) (others : List (List Char)) :
    ∃ chars, [','].intercalate (part :: others) = part ++ chars := by
  cases others with
  | nil => exact ⟨[], by rw [List.intercalate_singleton, List.append_nil]⟩
  | cons next others =>
      exact ⟨[','] ++ [','].intercalate (next :: others), by
        rw [List.intercalate_cons_cons, List.append_assoc]⟩

section
variable {α : Type} {tail : Nat → List α → List Char → Option (List α × List Char)}
  {item : List Char → Option (α × List Char)} {closing : Char}

theorem Takes.indented (loops : Loops tail item closing) {blank text : List Char}
    (blanks : ∀ char ∈ blank, isSpace char) {value : α} (takes : Takes item text value) :
    Takes item (blank ++ text) value := by
  intro rest
  rw [List.append_assoc, ← loops.skips, skipSpace_blank blanks, loops.skips]
  exact takes rest

theorem blank_step {indent : String} (blanks : ∀ char ∈ indent.toList, isSpace char) :
    ∀ char ∈ (indent ++ "  ").toList, isSpace char := by
  intro char member
  rw [String.toList_append, List.mem_append] at member
  rcases member with inIndent | inStep
  · exact blanks char inIndent
  · have spaces : "  ".toList = List.replicate 2 ' ' := rfl
    rw [spaces] at inStep
    rw [List.eq_of_mem_replicate inStep]
    decide

theorem blank_margin {indent : String} (blanks : ∀ char ∈ indent.toList, isSpace char) :
    ∀ char ∈ margin indent, isSpace char := by
  intro char member
  rcases List.mem_cons.mp member with rfl | inStep
  · decide
  · exact blank_step blanks char inStep

theorem Loops.takes_block (loops : Loops tail item closing) {indent : String}
    (blanks : ∀ char ∈ indent.toList, isSpace char) (text : α → String) {values : List α}
    (filled : values ≠ []) (solid : ∀ value ∈ values, Solid (text value).toList)
    (each : ∀ value ∈ values, Takes item (text value).toList value) (rest : List Char) :
    ∃ first ∈ values, ∃ chars, skipSpace ([','].intercalate
        ((values.map text).map fun part => margin indent ++ part.toList) ++
          ('\n' :: indent.toList ++ closing :: rest)) = (text first).toList ++ chars ∧
      tail ((text first).toList ++ chars).length [] ((text first).toList ++ chars) =
        some (values, rest) := by
  have margins := blank_margin blanks
  have closes : ∀ char ∈ '\n' :: indent.toList, isSpace char := by
    intro char member
    rcases List.mem_cons.mp member with rfl | inIndent
    · decide
    · exact blanks char inIndent
  cases values with
  | nil => exact absurd rfl filled
  | cons first others =>
      let entries := ((text first).toList, first) ::
        others.map fun value => (margin indent ++ (text value).toList, value)
      have takes : ∀ entry ∈ entries, Takes item entry.1 entry.2 := by
        intro entry member
        rcases List.mem_cons.mp member with rfl | later
        · exact each first List.mem_cons_self
        · obtain ⟨value, isOther, rfl⟩ := List.mem_map.mp later
          exact (each value (List.mem_cons_of_mem _ isOther)).indented loops margins
      have texts : entries.map (·.1) = (text first).toList ::
          (others.map text).map fun part => margin indent ++ part.toList := by
        simp [entries, Function.comp_def]
      have values : entries.map (·.2) = first :: others := by
        simp [entries, Function.comp_def]
      obtain ⟨inside, opened⟩ := exists_intercalate (text first).toList
        ((others.map text).map fun part => margin indent ++ part.toList)
      refine ⟨first, List.mem_cons_self, inside ++ ('\n' :: indent.toList ++ closing :: rest),
        ?_, ?_⟩
      · rw [List.map_cons, List.map_cons, intercalate_append_cons, opened, List.append_assoc,
          skipSpace_blank margins, List.append_assoc,
          (solid first List.mem_cons_self).skipSpace]
      · have enough : entries.length ≤ ((text first).toList ++
            (inside ++ ('\n' :: indent.toList ++ closing :: rest))).length := by
          have commas := length_le_intercalate (entries.map (·.1))
          rw [texts, opened, ← texts] at commas
          simp only [List.length_append, List.length_cons, List.length_map] at commas ⊢
          omega
        have taken := loops.takes closes (List.cons_ne_nil _ _) takes enough [] rest
        rwa [texts, values, opened, List.append_assoc] at taken

end

theorem value_of_scalar (depth : Nat) (first : Char) (notArray : first ≠ '[')
    (notObject : first ≠ '\x7b') (rest : List Char) :
    value depth (first :: rest) = scalar (first :: rest) := by
  cases depth with
  | zero => rfl
  | succ depth =>
      rw [value]
      · rintro _ ⟨⟩
        exact notArray rfl
      · rintro _ ⟨⟩
        exact notObject rfl

theorem takes_array {item : List Char → Option (Json × List Char)} {items : List Json}
    {chars rest : List Char} (more : (skipSpace chars).head? ≠ some ']')
    (taken : itemsTail item (skipSpace chars).length [] (skipSpace chars) = some (items, rest)) :
    arrayRest item chars = some (array items, rest) := by
  rw [arrayRest]
  split
  · rename_i closed
    rw [closed] at more
    exact absurd rfl more
  · rw [taken]
    rfl

theorem takes_object {item : List Char → Option (Json × List Char)}
    {members : List (String × Json)} (increasing : members.Pairwise (·.1 < ·.1))
    {chars rest : List Char} (more : (skipSpace chars).head? ≠ some '\x7d')
    (taken : membersTail item (skipSpace chars).length [] (skipSpace chars) =
      some (members, rest)) :
    objectRest item chars = some (object members, rest) := by
  rw [objectRest]
  split
  · rename_i closed
    rw [closed] at more
    exact absurd rfl more
  · simp only [taken, Option.map_some, Entries.ofList_of_increasing increasing]

/-- A document without numbers, nested at most `depth` deep, with the members of its objects in
order. -/
inductive Readable : Nat → Json → Prop
  | null (depth : Nat) : Readable depth null
  | bool (depth : Nat) (value : Bool) : Readable depth (bool value)
  | text (depth : Nat) (value : String) : Readable depth (text value)
  | array (depth : Nat) (items : List Json) (each : ∀ item ∈ items, Readable depth item) :
    Readable (depth + 1) (array items)
  | object (depth : Nat) (members : List (String × Json))
    (increasing : members.Pairwise (·.1 < ·.1))
    (each : ∀ member ∈ members, Readable depth member.2) :
    Readable (depth + 1) (object members)

theorem toList_quoted (value : String) :
    (quoted value).toList = '"' :: (value.toList.flatMap quotedChar ++ ['"']) := by
  rw [quoted, String.toList_ofList]
  rfl

theorem toList_null (indent : String) : (prettyAt indent null).toList = ['n', 'u', 'l', 'l'] := by
  simp [prettyAt, scalarText]

theorem toList_false (indent : String) :
    (prettyAt indent (bool false)).toList = ['f', 'a', 'l', 's', 'e'] := by
  simp [prettyAt, scalarText]

theorem toList_true (indent : String) :
    (prettyAt indent (bool true)).toList = ['t', 'r', 'u', 'e'] := by
  simp [prettyAt, scalarText]

theorem solid_cons {first : Char} (solid : isSpace first = false ∧ first ∉ [']', '\x7d'])
    (rest : List Char) : Solid (first :: rest) :=
  ⟨first, rest, rfl, solid⟩

theorem solid_block {opening closing : String} (first last : Char)
    (opens : opening.toList = [first]) (closes : closing.toList = [last])
    (solid : isSpace first = false ∧ first ∉ [']', '\x7d']) (indent : String)
    (parts : List String) :
    Solid (block opening closing indent parts).toList := by
  rw [← List.append_nil (block _ _ _ _).toList]
  by_cases empty : parts = []
  · rw [empty, toList_block_nil first last opens closes]
    exact solid_cons solid _
  · rw [toList_block first last opens closes indent empty]
    exact solid_cons solid _

theorem solid_prettyAt {depth : Nat} {document : Json} (readable : Readable depth document)
    (indent : String) : Solid (prettyAt indent document).toList := by
  cases readable with
  | null =>
      rw [toList_null]
      exact solid_cons (by decide) _
  | bool _ truth =>
      cases truth with
      | false =>
          rw [toList_false]
          exact solid_cons (by decide) _
      | true =>
          rw [toList_true]
          exact solid_cons (by decide) _
  | text _ content =>
      change Solid (quoted content).toList
      rw [toList_quoted]
      exact solid_cons (by decide) _
  | array =>
      rw [prettyAt]
      exact solid_block '[' ']' rfl rfl (by decide) _ _
  | object =>
      rw [prettyAt]
      exact solid_block '\x7b' '\x7d' rfl rfl (by decide) _ _

theorem toList_prettyMember (indent : String) (member : String × Json) (rest : List Char) :
    (prettyMember indent member).toList ++ rest =
      '"' :: (member.1.toList.flatMap quotedChar ++
        '"' :: ':' :: ' ' :: ((prettyAt indent member.2).toList ++ rest)) := by
  simp [prettyMember, toList_quoted]

theorem solid_prettyMember (indent : String) (member : String × Json) :
    Solid (prettyMember indent member).toList := by
  rw [← List.append_nil (prettyMember indent member).toList, toList_prettyMember]
  exact solid_cons (by decide) _

theorem takes_prettyMember {item : List Char → Option (Json × List Char)} {indent : String}
    {member : String × Json} (solid : Solid (prettyAt indent member.2).toList)
    (takes : Takes item (prettyAt indent member.2).toList member.2) :
    Takes (memberItem item) (prettyMember indent member).toList member := by
  intro rest
  have space : skipSpace (' ' :: ((prettyAt indent member.2).toList ++ rest)) =
      (prettyAt indent member.2).toList ++ rest := by
    rw [← solid.skipSpace rest]
    exact skipSpace_skipSpace _
  have quote : ∀ chars, skipSpace ('"' :: chars) = '"' :: chars :=
    skipSpace_of_not_space (by decide)
  have colon : ∀ chars, skipSpace (':' :: chars) = ':' :: chars :=
    skipSpace_of_not_space (by decide)
  simp only [toList_prettyMember, memberItem, quote, stringRest_quoted, colon, space, takes rest,
    Option.map_some]

theorem takes_prettyAt {depth : Nat} {document : Json} (readable : Readable depth document)
    {indent : String} (blanks : ∀ char ∈ indent.toList, isSpace char) :
    Takes (value depth) (prettyAt indent document).toList document := by
  induction readable generalizing indent with
  | null depth =>
      intro rest
      rw [toList_null]
      exact value_of_scalar depth 'n' (by decide) (by decide) _
  | bool depth truth =>
      intro rest
      cases truth with
      | false =>
          rw [toList_false]
          exact value_of_scalar depth 'f' (by decide) (by decide) _
      | true =>
          rw [toList_true]
          exact value_of_scalar depth 't' (by decide) (by decide) _
  | text depth content =>
      intro rest
      change value depth ((quoted content).toList ++ rest) = _
      rw [toList_quoted, List.cons_append, List.append_assoc, List.singleton_append,
        value_of_scalar depth '"' (by decide) (by decide), scalar, stringRest_quoted]
      rfl
  | array depth items each ih =>
      intro rest
      rw [prettyAt, prettyItems_eq]
      by_cases empty : items = []
      · rw [empty, List.map_nil, toList_block_nil '[' ']' rfl rfl]
        rfl
      · rw [toList_block '[' ']' rfl rfl _ (by simpa using empty)]
        obtain ⟨first, member, chars, opened, taken⟩ :=
          (loops_items (value depth)).takes_block blanks (prettyAt (indent ++ "  ")) empty
            (fun item member => solid_prettyAt (each item member) _)
            (fun item member rest => by
              rw [(solid_prettyAt (each item member) _).skipSpace]
              exact ih item member (blank_step blanks) rest) rest
        refine takes_array ?_ ?_
        · rw [opened]
          exact (solid_prettyAt (each first member) _).open (by decide) chars
        · rw [opened]
          exact taken
  | object depth members increasing each ih =>
      intro rest
      rw [prettyAt, prettyMembers_eq]
      by_cases empty : members = []
      · rw [empty, List.map_nil, toList_block_nil '\x7b' '\x7d' rfl rfl]
        rfl
      · rw [toList_block '\x7b' '\x7d' rfl rfl _ (by simpa using empty)]
        obtain ⟨first, member, chars, opened, taken⟩ :=
          (loops_members (value depth)).takes_block blanks (prettyMember (indent ++ "  ")) empty
            (fun member _ => solid_prettyMember _ member)
            (fun member inMembers => takes_prettyMember (solid_prettyAt (each member inMembers) _)
              (ih member inMembers (blank_step blanks))) rest
        refine takes_object increasing ?_ ?_
        · rw [opened]
          exact (solid_prettyMember _ first).open (by decide) chars
        · rw [opened]
          exact taken

theorem read_pretty {document : Json} (readable : Readable depthLimit document) :
    read document.pretty = some document := by
  have solid := solid_prettyAt readable ""
  have takes := takes_prettyAt readable (by simp : ∀ char ∈ "".toList, isSpace char) []
  have skipped := solid.skipSpace []
  rw [List.append_nil] at takes skipped
  rw [read, pretty, skipped, takes]
  rfl

end Json

end Scouting
