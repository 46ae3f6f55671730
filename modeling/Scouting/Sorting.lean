/-!
Stable sorting. Items are inserted one by one, and an item moves only past items that it may not
stand before. Many items are sorted in other ways. These come to the same wherever the order lines
the items up; where it does not, nothing is promised of them, and they may give up.
-/

namespace Scouting

variable {α : Type}

def insertBefore (before : α → α → Bool) (item : α) : List α → List α
  | [] => [item]
  | first :: rest =>
    if before item first then item :: first :: rest else first :: insertBefore before item rest

/-- Items sorted so that each may stand before the next; of two that may stand either way, the one
that came first stays in front. -/
def sortedBy (before : α → α → Bool) : List α → List α
  | [] => []
  | item :: rest => insertBefore before item (sortedBy before rest)

/-- Does an order put items in line, so that it compares any two of them and never goes in a
circle? -/
structure LinesUp (before : α → α → Bool) (items : List α) : Prop where
  total : ∀ left ∈ items, ∀ right ∈ items, before left right ∨ before right left
  trans : ∀ first ∈ items, ∀ second ∈ items, ∀ third ∈ items,
    before first second → before second third → before first third

instance (before : α → α → Bool) (items : List α) : Decidable (LinesUp before items) :=
  decidable_of_iff ((∀ left ∈ items, ∀ right ∈ items, before left right ∨ before right left) ∧
    ∀ first ∈ items, ∀ second ∈ items, ∀ third ∈ items,
      before first second → before second third → before first third)
    ⟨fun both => ⟨both.1, both.2⟩, fun lined => ⟨lined.total, lined.trans⟩⟩

/-- How many items are sorted by insertion, whatever their order. -/
def insertionLimit : Nat := 20

/-- Is a sort of the items sure to end, with what inserting them one by one comes to? -/
def Sortable (before : α → α → Bool) (items : List α) : Prop :=
  items.length ≤ insertionLimit ∨ LinesUp before items

instance (before : α → α → Bool) (items : List α) : Decidable (Sortable before items) :=
  inferInstanceAs (Decidable (_ ∨ _))

theorem insertBefore_perm (before : α → α → Bool) (item : α) (items : List α) :
    (insertBefore before item items).Perm (item :: items) := by
  induction items with
  | nil => exact List.Perm.refl _
  | cons first rest ih =>
    simp only [insertBefore]
    split
    · exact List.Perm.refl _
    · exact (ih.cons first).trans (List.Perm.swap item first rest)

theorem sortedBy_perm (before : α → α → Bool) (items : List α) :
    (sortedBy before items).Perm items := by
  induction items with
  | nil => exact List.Perm.refl _
  | cons item rest ih => exact (insertBefore_perm before item _).trans (ih.cons item)

end Scouting
