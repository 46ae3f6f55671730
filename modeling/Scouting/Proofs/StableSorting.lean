import Mathlib.Data.List.Basic
import Scouting.Sorting

/-!
Sorting by insertion is sorting: where the order lines items up, each of them may stand before all
that come after it. It is stable: items that may stand either way keep the order they came in. This
says all about a sorted list, so that any other stable sort comes to the same. What is sorted stays
as it is when it is sorted again.
-/

namespace Scouting

variable {α β : Type} {before : α → α → Bool} {item : α} {items : List α}

namespace LinesUp

theorem of_subset {others : List α} (lined : LinesUp before others)
    (subset : ∀ item ∈ items, item ∈ others) : LinesUp before items where
  total left leftIn right rightIn :=
    lined.total left (subset left leftIn) right (subset right rightIn)
  trans first firstIn second secondIn third thirdIn :=
    lined.trans first (subset first firstIn) second (subset second secondIn) third
      (subset third thirdIn)

theorem of_map {image : β → α} {items : List β} (lined : LinesUp before (items.map image)) :
    LinesUp (fun left right => before (image left) (image right)) items where
  total _ leftIn _ rightIn :=
    lined.total _ (List.mem_map_of_mem leftIn) _ (List.mem_map_of_mem rightIn)
  trans _ firstIn _ secondIn _ thirdIn :=
    lined.trans _ (List.mem_map_of_mem firstIn) _ (List.mem_map_of_mem secondIn) _
      (List.mem_map_of_mem thirdIn)

end LinesUp

theorem insertBefore_sorted (sorted : items.Pairwise fun left right => before left right)
    (lined : LinesUp before (item :: items)) :
    (insertBefore before item items).Pairwise fun left right => before left right := by
  induction items with
  | nil => exact List.pairwise_singleton _ _
  | cons first rest ih =>
      obtain ⟨least, later⟩ := List.pairwise_cons.mp sorted
      simp only [insertBefore]
      split
      · rename_i front
        refine List.pairwise_cons.mpr ⟨fun other member => ?_, sorted⟩
        rcases List.mem_cons.mp member with rfl | inRest
        · exact front
        · exact lined.trans item List.mem_cons_self first (by simp) other
            (List.mem_cons_of_mem _ member) front (least other inRest)
      · rename_i behind
        have inserted := ih later (lined.of_subset (by grind))
        refine List.pairwise_cons.mpr ⟨fun other member => ?_, inserted⟩
        rcases List.mem_cons.mp ((insertBefore_perm before item rest).mem_iff.mp member) with
          rfl | inRest
        · exact (lined.total other List.mem_cons_self first (by simp)).resolve_left behind
        · exact least other inRest

theorem sortedBy_sorted (lined : LinesUp before items) :
    (sortedBy before items).Pairwise fun left right => before left right := by
  induction items with
  | nil => exact List.Pairwise.nil
  | cons item rest ih =>
      have perm := (sortedBy_perm before rest).cons item
      exact insertBefore_sorted (ih (lined.of_subset fun _ => List.mem_cons_of_mem _))
        (lined.of_subset fun _ => perm.mem_iff.mp)

theorem filter_insertBefore {keep : α → Bool}
    (alike : keep item → ∀ other ∈ items, keep other → before item other) :
    (insertBefore before item items).filter keep = (item :: items).filter keep := by
  induction items with
  | nil => rfl
  | cons first rest ih =>
      simp only [insertBefore]
      split
      · rfl
      · rename_i behind
        have inserted := ih fun kept other member =>
          alike kept other (List.mem_cons_of_mem _ member)
        rw [List.filter_cons, inserted]
        by_cases kept : keep item
        · have passed : ¬keep first := fun also => behind (alike kept first List.mem_cons_self also)
          simp [kept, passed]
        · simp [kept, List.filter_cons]

theorem filter_sortedBy {keep : α → Bool}
    (alike : ∀ left ∈ items, ∀ right ∈ items, keep left → keep right → before left right) :
    (sortedBy before items).filter keep = items.filter keep := by
  induction items with
  | nil => rfl
  | cons item rest ih =>
      rw [sortedBy, filter_insertBefore, List.filter_cons, List.filter_cons, ih]
      · intro left leftIn right rightIn
        exact alike left (List.mem_cons_of_mem _ leftIn) right (List.mem_cons_of_mem _ rightIn)
      · intro kept other member
        exact alike item List.mem_cons_self other
          (List.mem_cons_of_mem _ ((sortedBy_perm before rest).mem_iff.mp member)) kept

theorem sortedBy_of_sorted (sorted : items.Pairwise fun left right => before left right) :
    sortedBy before items = items := by
  induction items with
  | nil => rfl
  | cons item rest ih =>
      obtain ⟨least, later⟩ := List.pairwise_cons.mp sorted
      rw [sortedBy, ih later]
      cases rest with
      | nil => rfl
      | cons first others => rw [insertBefore, if_pos (least first List.mem_cons_self)]

/-- May two items stand either way? -/
def eitherWay (before : α → α → Bool) (left right : α) : Bool :=
  before left right && before right left

theorem eq_of_sorted {others : List α} (loops : ∀ item ∈ items, before item item)
    (perm : others.Perm items) (sorted : items.Pairwise fun left right => before left right)
    (otherSorted : others.Pairwise fun left right => before left right)
    (ties : ∀ item ∈ items,
      others.filter (eitherWay before item) = items.filter (eitherWay before item)) :
    others = items := by
  induction items generalizing others with
  | nil => exact perm.eq_nil
  | cons first rest ih =>
      cases others with
      | nil => exact perm.symm.eq_nil.symm
      | cons other more =>
          obtain ⟨least, later⟩ := List.pairwise_cons.mp sorted
          obtain ⟨otherLeast, otherLater⟩ := List.pairwise_cons.mp otherSorted
          have own : eitherWay before first first := by simp [eitherWay, loops]
          have heads : other = first := by
            have forth : before first other := by
              rcases List.mem_cons.mp (perm.mem_iff.mp List.mem_cons_self) with rfl | inRest
              · exact loops other List.mem_cons_self
              · exact least other inRest
            have back : before other first := by
              rcases List.mem_cons.mp (perm.mem_iff.mpr List.mem_cons_self) with rfl | inMore
              · exact loops first List.mem_cons_self
              · exact otherLeast first inMore
            have tied : eitherWay before first other := by simp [eitherWay, forth, back]
            have groups := ties first List.mem_cons_self
            rw [List.filter_cons_of_pos tied, List.filter_cons_of_pos own] at groups
            exact (List.cons.inj groups).1
          subst heads
          refine congrArg _ (ih (fun item member => loops item (List.mem_cons_of_mem _ member))
            perm.cons_inv later otherLater fun item member => ?_)
          have groups := ties item (List.mem_cons_of_mem _ member)
          rw [List.filter_cons, List.filter_cons] at groups
          split at groups
          · exact (List.cons.inj groups).2
          · exact groups

/-- However lined up items are sorted, if stably, they come out in the same order. -/
theorem eq_sortedBy {others : List α} (lined : LinesUp before items) (perm : others.Perm items)
    (sorted : others.Pairwise fun left right => before left right)
    (ties : ∀ item ∈ items,
      others.filter (eitherWay before item) = items.filter (eitherWay before item)) :
    others = sortedBy before items := by
  have again := sortedBy_perm before items
  refine eq_of_sorted (fun item member => ?_) (perm.trans again.symm) (sortedBy_sorted lined)
    sorted fun item member => ?_
  · have inItems := again.mem_iff.mp member
    simpa using lined.total item inItems item inItems
  · have inItems := again.mem_iff.mp member
    rw [ties item inItems]
    refine (filter_sortedBy fun left leftIn right rightIn leftTied rightTied => ?_).symm
    simp only [eitherWay, Bool.and_eq_true] at leftTied rightTied
    exact lined.trans left leftIn item inItems right rightIn leftTied.2 rightTied.1

theorem sortedBy_sortedBy (lined : LinesUp before items) :
    sortedBy before (sortedBy before items) = sortedBy before items :=
  sortedBy_of_sorted (sortedBy_sorted lined)

end Scouting
