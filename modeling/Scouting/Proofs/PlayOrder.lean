import Mathlib.Data.List.Sort
import Mathlib.Data.String.Basic
import Scouting.PlayOrder

/-!
Any two matches can be compared by when they are played, so items can be listed in play order.
-/

namespace Scouting

namespace PlayOrder

theorem le_total (left right : PlayOrder) : left.le right || right.le left := by
  have keys := Std.le_total (a := left.key) (b := right.key)
  simp only [le, Bool.or_eq_true]
  grind

theorem le_trans {first second third : PlayOrder} (before : first.le second)
    (after : second.le third) : first.le third := by
  have keys : first.key ≤ second.key → second.key ≤ third.key → first.key ≤ third.key :=
    Std.le_trans
  simp only [le] at before after ⊢
  grind

theorem le_antisymm {left right : PlayOrder} (before : left.le right) (after : right.le left) :
    left = right := by
  have keys : left.key ≤ right.key → right.key ≤ left.key → left.key = right.key := Std.le_antisymm
  obtain ⟨level, set, number, key⟩ := left
  obtain ⟨otherLevel, otherSet, otherNumber, otherKey⟩ := right
  simp only [le] at before after
  simp only [PlayOrder.mk.injEq]
  grind

end PlayOrder

section
variable {α β : Type} (matchKey : α → String)

theorem inPlayOrder_perm (items : List α) : (inPlayOrder matchKey items).Perm items :=
  List.mergeSort_perm items _

/-- Is a match played no later than another? -/
def PlayOrder.before (left right : String) : Bool := (ofKey left).le (ofKey right)

theorem inPlayOrder_sorted (items : List α) :
    (inPlayOrder matchKey items).Pairwise fun left right =>
      PlayOrder.before (matchKey left) (matchKey right) := by
  have trans : ∀ first second third : α,
      PlayOrder.before (matchKey first) (matchKey second) →
        PlayOrder.before (matchKey second) (matchKey third) →
          PlayOrder.before (matchKey first) (matchKey third) :=
    fun _ _ _ => PlayOrder.le_trans
  have total : ∀ left right : α, (PlayOrder.before (matchKey left) (matchKey right) ||
      PlayOrder.before (matchKey right) (matchKey left)) = true :=
    fun _ _ => PlayOrder.le_total _ _
  exact List.pairwise_mergeSort trans total items

theorem PlayOrder.key_ofKey (key : String) : (ofKey key).key = key := by
  simp only [ofKey]
  split
  · rfl
  · split
    · rfl
    · rfl

theorem PlayOrder.before_antisymm {left right : String} (before : before left right)
    (after : PlayOrder.before right left) : left = right := by
  rw [← key_ofKey left, le_antisymm before after, key_ofKey]

theorem map_inPlayOrder (otherKey : β → String) (change : α → β)
    (same : ∀ item, otherKey (change item) = matchKey item) (items : List α) :
    (inPlayOrder matchKey items).map change = inPlayOrder otherKey (items.map change) :=
  List.map_mergeSort fun first _ second _ => by rw [same, same]

end

end Scouting
