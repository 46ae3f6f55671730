/-!
Dictionaries: finite maps kept as a list of entries with strictly increasing keys. Every operation
is told by what it does to look-ups, and because the order is fixed, two dictionaries with the same
look-ups are equal.
-/

namespace Scouting

namespace Entries

variable {κ α β : Type} [LT κ] [DecidableLT κ] [DecidableEq κ]

/-- Binds a key in a list with increasing keys, in place of any value it had. -/
def insert (key : κ) (value : α) : List (κ × α) → List (κ × α)
  | [] => [(key, value)]
  | entry :: rest =>
    if key < entry.1 then (key, value) :: entry :: rest
    else if key = entry.1 then (key, value) :: rest
    else entry :: insert key value rest

/-- The entries with increasing keys; of several entries for a key the last one counts. -/
def ofList (entries : List (κ × α)) : List (κ × α) :=
  entries.foldl (fun sorted entry => insert entry.1 entry.2 sorted) []

theorem mem_insert {key : κ} {value : α} {entries : List (κ × α)} {entry : κ × α}
    (member : entry ∈ insert key value entries) : entry = (key, value) ∨ entry ∈ entries := by
  induction entries with
  | nil => simpa [insert] using member
  | cons first rest ih =>
    simp only [insert] at member
    split at member
    · simpa using member
    · split at member <;> simp only [List.mem_cons] at member ⊢
      · rcases member with same | later
        · exact Or.inl same
        · exact Or.inr (Or.inr later)
      · rcases member with same | later
        · exact Or.inr (Or.inl same)
        · rcases ih later with same | later
          · exact Or.inl same
          · exact Or.inr (Or.inr later)

theorem pairwise_insert [LE κ] [Std.IsLinearOrder κ] [Std.LawfulOrderLT κ] (key : κ) (value : α)
    {entries : List (κ × α)} (increasing : entries.Pairwise (·.1 < ·.1)) :
    (insert key value entries).Pairwise (·.1 < ·.1) := by
  induction entries with
  | nil => simp [insert]
  | cons first rest ih =>
    have ⟨front, back⟩ := List.pairwise_cons.mp increasing
    simp only [insert]
    split
    · rename_i before
      refine List.pairwise_cons.mpr ⟨fun entry member => ?_, increasing⟩
      rcases List.mem_cons.mp member with rfl | later
      · exact before
      · exact Std.lt_trans before (front entry later)
    · split
      · rename_i same
        exact List.pairwise_cons.mpr ⟨fun entry member => same ▸ front entry member, back⟩
      · rename_i notBefore different
        refine List.pairwise_cons.mpr ⟨fun entry member => ?_, ih back⟩
        rcases mem_insert member with rfl | later
        · exact Std.lt_of_le_of_ne (Std.not_lt.mp notBefore) (Ne.symm different)
        · exact front entry later

omit [LT κ] [DecidableLT κ] in
theorem lookup_cons (key : κ) (entry : κ × α) (rest : List (κ × α)) :
    (entry :: rest).lookup key = if key = entry.1 then some entry.2 else rest.lookup key := by
  obtain ⟨name, value⟩ := entry
  by_cases same : key = name
  · rw [same, List.lookup_cons_self, if_pos rfl]
  · rw [List.lookup_cons, beq_eq_false_iff_ne.mpr same, if_neg same]

theorem lookup_insert (key other : κ) (value : α) (entries : List (κ × α)) :
    (insert key value entries).lookup other =
      if other = key then some value else entries.lookup other := by
  induction entries with
  | nil => simp [insert, lookup_cons]
  | cons entry rest ih => grind [insert, lookup_cons]

omit [LT κ] [DecidableLT κ] in
theorem lookup_filter_ne (key other : κ) (entries : List (κ × α)) :
    (entries.filter (·.1 != key)).lookup other =
      if other = key then none else entries.lookup other := by
  induction entries with
  | nil => simp
  | cons entry rest ih => grind [lookup_cons]

omit [DecidableLT κ] in
theorem lookup_eq_none_of_lt [LE κ] [Std.IsLinearOrder κ] [Std.LawfulOrderLT κ] {key : κ}
    {entries : List (κ × α)} (below : ∀ entry ∈ entries, key < entry.1) :
    entries.lookup key = none := by
  induction entries with
  | nil => rfl
  | cons entry rest ih =>
    have notHead : key ≠ entry.1 := fun same =>
      Std.lt_irrefl (a := entry.1) (same ▸ below entry List.mem_cons_self)
    rw [lookup_cons, if_neg notHead]
    exact ih fun later member => below later (List.mem_cons_of_mem _ member)

omit [DecidableLT κ] in
theorem first_le_of_lookup [LE κ] [Std.IsLinearOrder κ] [Std.LawfulOrderLT κ] {key : κ} {value : α}
    {first : κ × α} {rest : List (κ × α)} (increasing : (first :: rest).Pairwise (·.1 < ·.1))
    (found : (first :: rest).lookup key = some value) : first.1 ≤ key := by
  refine Std.not_lt.mp fun below => ?_
  have above : ∀ entry ∈ first :: rest, key < entry.1 := fun entry member => by
    rcases List.mem_cons.mp member with rfl | later
    · exact below
    · exact Std.lt_trans below ((List.pairwise_cons.mp increasing).1 entry later)
  simp [lookup_eq_none_of_lt above] at found

omit [DecidableLT κ] in
theorem eq_of_lookup_eq [LE κ] [Std.IsLinearOrder κ] [Std.LawfulOrderLT κ]
    {left right : List (κ × α)} (leftIncreasing : left.Pairwise (·.1 < ·.1))
    (rightIncreasing : right.Pairwise (·.1 < ·.1))
    (same : ∀ key, left.lookup key = right.lookup key) : left = right := by
  induction left generalizing right with
  | nil =>
    cases right with
    | nil => rfl
    | cons entry rest => simpa [lookup_cons] using same entry.1
  | cons first rest ih =>
    cases right with
    | nil => simpa [lookup_cons] using same first.1
    | cons entry others =>
      have atFirst : (entry :: others).lookup first.1 = some first.2 := by
        simp [← same, lookup_cons]
      have atEntry : (first :: rest).lookup entry.1 = some entry.2 := by
        simp [same, lookup_cons]
      have keys : first.1 = entry.1 := Std.le_antisymm
        (first_le_of_lookup leftIncreasing atEntry) (first_le_of_lookup rightIncreasing atFirst)
      have values : first.2 = entry.2 := by
        simpa [lookup_cons, keys, eq_comm] using atFirst
      have ⟨front, back⟩ := List.pairwise_cons.mp leftIncreasing
      have ⟨otherFront, otherBack⟩ := List.pairwise_cons.mp rightIncreasing
      have tails : rest = others := ih back otherBack fun key => by
        by_cases atHead : key = first.1
        · rw [lookup_eq_none_of_lt fun later member => atHead ▸ front later member,
            lookup_eq_none_of_lt fun later member => atHead ▸ keys ▸ otherFront later member]
        · simpa [lookup_cons, atHead, keys ▸ atHead] using same key
      rw [tails, Prod.ext keys values]

end Entries

@[ext]
structure Dictionary (κ α : Type) [LT κ] where
  entries : List (κ × α)
  increasing : entries.Pairwise (·.1 < ·.1)

namespace Dictionary

variable {κ α : Type} [LT κ]

def empty : Dictionary κ α := ⟨[], List.Pairwise.nil⟩

instance : Inhabited (Dictionary κ α) := ⟨empty⟩

def find? [DecidableEq κ] (map : Dictionary κ α) (key : κ) : Option α := map.entries.lookup key

def contains [DecidableEq κ] (map : Dictionary κ α) (key : κ) : Bool := (map.find? key).isSome

def keys (map : Dictionary κ α) : List κ := map.entries.map (·.1)

def values (map : Dictionary κ α) : List α := map.entries.map (·.2)

def size (map : Dictionary κ α) : Nat := map.entries.length

def isEmpty (map : Dictionary κ α) : Bool := map.entries.isEmpty

def filter (keep : κ × α → Bool) (map : Dictionary κ α) : Dictionary κ α :=
  ⟨map.entries.filter keep, map.increasing.filter keep⟩

def erase [DecidableEq κ] (map : Dictionary κ α) (key : κ) : Dictionary κ α :=
  map.filter (·.1 != key)

@[simp] theorem find?_empty [DecidableEq κ] (key : κ) :
    (empty : Dictionary κ α).find? key = none := rfl

@[simp] theorem find?_erase [DecidableEq κ] (map : Dictionary κ α) (key other : κ) :
    (map.erase key).find? other = if other = key then none else map.find? other :=
  Entries.lookup_filter_ne key other map.entries

section
variable [DecidableLT κ] [DecidableEq κ] [LE κ] [Std.IsLinearOrder κ] [Std.LawfulOrderLT κ]

/-- Binds a key, in place of any value it had. -/
def insert (map : Dictionary κ α) (key : κ) (value : α) : Dictionary κ α :=
  ⟨Entries.insert key value map.entries, Entries.pairwise_insert key value map.increasing⟩

/-- The entries of a list; of several entries for a key the last one counts. -/
def ofList (entries : List (κ × α)) : Dictionary κ α :=
  entries.foldl (fun map entry => map.insert entry.1 entry.2) empty

@[simp] theorem find?_insert (map : Dictionary κ α) (key other : κ) (value : α) :
    (map.insert key value).find? other = if other = key then some value else map.find? other :=
  Entries.lookup_insert key other value map.entries

omit [DecidableLT κ] in
theorem ext_find? {left right : Dictionary κ α} (same : ∀ key, left.find? key = right.find? key) :
    left = right :=
  Dictionary.ext (Entries.eq_of_lookup_eq left.increasing right.increasing same)

end

end Dictionary

end Scouting
