import Scouting.Record

/-!
The record store: every record that was submitted, in order of arrival. A record's id is its place,
which never changes; only its flags do.
-/

namespace Scouting

structure Store where
  records : List Record

inductive StoreError where
  | unknownRecord (id : Nat)
  deriving DecidableEq

def StoreError.message : StoreError → String
  | .unknownRecord id => "No record with id " ++ toString id

namespace Store

def get? (store : Store) (id : Nat) : Option Record := store.records[id]?

def size (store : Store) : Nat := store.records.length

def isEmpty (store : Store) : Bool := store.records.isEmpty

/-- Adds a record after all others; its id is the number of records before. -/
def insert (store : Store) (record : Record) : Nat × Store :=
  (store.size, ⟨store.records ++ [record]⟩)

@[simp] theorem size_insert (store : Store) (record : Record) :
    (store.insert record).2.size = store.size + 1 := by
  simp [insert, size]

theorem get?_insert (store : Store) (record : Record) (id : Nat) :
    (store.insert record).2.get? id = if id = store.size then some record else store.get? id := by
  simp only [insert, get?, size]
  grind

def modify (store : Store) (id : Nat) (change : Record → Record) : Except StoreError Store :=
  if id < store.size then .ok ⟨store.records.modify id change⟩ else .error (.unknownRecord id)

theorem get?_modify {store changed : Store} {id : Nat} {change : Record → Record}
    (done : store.modify id change = .ok changed) (other : Nat) :
    changed.get? other =
      if other = id then (store.get? other).map change else store.get? other := by
  simp only [modify] at done
  split at done
  · cases done
    simp only [get?, List.getElem?_modify]
    grind
  · cases done

def setIgnored (store : Store) (id : Nat) (ignored : Bool) : Except StoreError Store :=
  store.modify id fun record => { record with ignored }

def setUnsure (store : Store) (id : Nat) (unsure : Bool) (reason : String) :
    Except StoreError Store :=
  store.modify id fun record =>
    { record with unsure, unsureReason := if unsure then reason else "" }

def idsWhere (store : Store) (test : Record → Bool) : List Nat :=
  (store.records.zipIdx.filter fun entry => test entry.1).map (·.2)

def ofMode (store : Store) (mode : Mode) : List Nat := store.idsWhere (·.mode == mode)

def find (store : Store) (mode : Mode) (team : Nat) (matchKey : Option String) : List Nat :=
  store.idsWhere fun record =>
    record.mode == mode && record.team == team && record.matchKey == matchKey

end Store

end Scouting
