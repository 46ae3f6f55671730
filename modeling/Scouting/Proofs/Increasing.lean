import Mathlib.Data.List.Induction
import Mathlib.Data.List.Sort
import Scouting.Snapshot

/-!
Sorted lists without repetition: erasing the repeated items of a sorted list leaves every item once,
in strictly increasing order.
-/

namespace Scouting

section
variable {α : Type} [DecidableEq α]

theorem eraseReps_loop (first : α) (rest kept : List α) :
    List.eraseRepsBy.loop (· == ·) first rest kept =
      kept.reverse ++ List.eraseRepsBy.loop (· == ·) first rest [] := by
  induction rest generalizing first kept with
  | nil => simp [List.eraseRepsBy.loop]
  | cons next rest ih =>
      simp only [List.eraseRepsBy.loop]
      split
      · exact ih first kept
      · rw [ih next (first :: kept), ih next [first]]
        simp

theorem eraseReps_cons_cons (first next : α) (rest : List α) :
    (first :: next :: rest).eraseReps =
      if first = next then (next :: rest).eraseReps else first :: (next :: rest).eraseReps := by
  simp only [List.eraseReps, List.eraseRepsBy, List.eraseRepsBy.loop]
  by_cases same : first = next
  · simp [same]
  · rw [beq_eq_false_iff_ne.mpr same, if_neg same]
    exact eraseReps_loop next rest [first]

theorem mem_eraseReps {items : List α} {item : α} :
    item ∈ items.eraseReps ↔ item ∈ items := by
  induction items with
  | nil => rfl
  | cons first rest ih =>
      cases rest with
      | nil => rfl
      | cons next rest =>
          rw [eraseReps_cons_cons]
          split
          · rename_i same
            rw [ih, same]
            simp
          · rw [List.mem_cons, ih, ← List.mem_cons]

end

theorem eraseReps_increasing {α : Type} [LinearOrder α] {items : List α}
    (sorted : items.Pairwise (· ≤ ·)) : items.eraseReps.Pairwise (· < ·) := by
  induction items with
  | nil => exact List.Pairwise.nil
  | cons first rest ih =>
      obtain ⟨least, later⟩ := List.pairwise_cons.mp sorted
      cases rest with
      | nil => exact List.pairwise_singleton _ _
      | cons next rest =>
          rw [eraseReps_cons_cons]
          split
          · exact ih later
          · rename_i different
            refine List.pairwise_cons.mpr ⟨fun item member => ?_, ih later⟩
            have below : first < next :=
              lt_of_le_of_ne (least next List.mem_cons_self) different
            rcases List.mem_cons.mp (mem_eraseReps.mp member) with rfl | inRest
            · exact below
            · exact lt_of_lt_of_le below ((List.pairwise_cons.mp later).1 item inRest)

theorem eq_of_increasing {α : Type} {before : α → α → Prop}
    (asymmetric : ∀ left right, before left right → ¬before right left) {left right : List α}
    (increasing : left.Pairwise before) (also : right.Pairwise before)
    (same : ∀ item, item ∈ left ↔ item ∈ right) : left = right := by
  have distinct {items : List α} (increasing : items.Pairwise before) : items.Nodup := by
    refine increasing.imp ?_
    rintro item _ below rfl
    exact asymmetric item item below below
  have perm : left.Perm right :=
    (List.perm_ext_iff_of_nodup (distinct increasing) (distinct also)).mpr same
  refine perm.eq_of_pairwise (fun first second _ _ below above => ?_) increasing also
  exact absurd above (asymmetric first second below)

namespace Entries

variable {κ α : Type} [LT κ] [DecidableLT κ] [DecidableEq κ] [LE κ] [Std.IsLinearOrder κ]
  [Std.LawfulOrderLT κ]

theorem insert_of_above {key : κ} {value : α} {entries : List (κ × α)}
    (above : ∀ entry ∈ entries, entry.1 < key) :
    insert key value entries = entries ++ [(key, value)] := by
  induction entries with
  | nil => rfl
  | cons first rest ih =>
      have below : first.1 < key := above first List.mem_cons_self
      have notSame : key ≠ first.1 := by
        rintro rfl
        exact Std.lt_irrefl below
      have notBefore : ¬key < first.1 := fun before => Std.lt_irrefl (Std.lt_trans below before)
      rw [insert, if_neg notBefore, if_neg notSame,
        ih fun entry member => above entry (List.mem_cons_of_mem _ member), List.cons_append]

theorem ofList_of_increasing {entries : List (κ × α)} (increasing : entries.Pairwise (·.1 < ·.1)) :
    ofList entries = entries := by
  induction entries using List.reverseRecOn with
  | nil => rfl
  | append_singleton front last ih =>
      obtain ⟨frontIncreasing, _, across⟩ := List.pairwise_append.mp increasing
      have step : ofList (front ++ [last]) = insert last.1 last.2 (ofList front) := by
        rw [ofList, List.foldl_append]
        rfl
      rw [step, ih frontIncreasing]
      exact insert_of_above fun entry member => across entry member last List.mem_cons_self

end Entries

namespace Dictionary

variable {κ α : Type} [LT κ] {map : Dictionary κ α}

theorem mem_keys [DecidableEq κ] {key : κ} :
    key ∈ map.keys ↔ ∃ value, map.find? key = some value := by
  rw [← Option.isSome_iff_exists, find?, List.lookup_isSome_iff, keys, List.mem_map]
  refine exists_congr fun entry => and_congr_right fun _ => ?_
  rw [beq_iff_eq, eq_comm]

theorem keys_nodup [LE κ] [Std.IsLinearOrder κ] [Std.LawfulOrderLT κ] : map.keys.Nodup := by
  have increasing : map.keys.Pairwise (· < ·) := List.pairwise_map.mpr map.increasing
  refine increasing.imp fun {left right} below => ?_
  rintro rfl
  exact Std.lt_irrefl below

section
variable [DecidableLT κ] [DecidableEq κ] [LE κ] [Std.IsLinearOrder κ] [Std.LawfulOrderLT κ]

theorem mem_keys_insert {key other : κ} {value : α} :
    other ∈ (map.insert key value).keys ↔ other = key ∨ other ∈ map.keys := by
  rw [mem_keys, mem_keys, find?_insert]
  by_cases same : other = key
  · simp [same]
  · simp [same]

theorem mem_keys_ofList {entries : List (κ × α)} {key : κ} :
    key ∈ (ofList entries).keys ↔ key ∈ entries.map (·.1) := by
  suffices kept : ∀ map : Dictionary κ α,
      key ∈ (entries.foldl (fun map entry => map.insert entry.1 entry.2) map).keys ↔
        key ∈ map.keys ∨ key ∈ entries.map (·.1) by
    exact (kept empty).trans (or_iff_right List.not_mem_nil)
  induction entries with
  | nil => simp
  | cons entry rest ih =>
      intro map
      rw [List.foldl_cons, ih, mem_keys_insert, List.map_cons, List.mem_cons, or_assoc,
        or_left_comm]

theorem entries_ofList (entries : List (κ × α)) :
    (ofList entries).entries = Entries.ofList entries :=
  (List.foldl_hom Dictionary.entries fun _ _ => rfl).symm

theorem ofList_entries (map : Dictionary κ α) : ofList map.entries = map :=
  Dictionary.ext ((entries_ofList map.entries).trans (Entries.ofList_of_increasing map.increasing))

end

end Dictionary

theorem Snapshot.teams_increasing (snapshot : Snapshot) : snapshot.teams.Pairwise (· < ·) :=
  eraseReps_increasing (List.pairwise_mergeSort' (· ≤ ·) _)

end Scouting
