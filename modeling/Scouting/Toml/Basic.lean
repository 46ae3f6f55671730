/-!
TOML documents as trees of tables, and the rules by which keys and headers build them: nothing is
defined twice, a header opens a table only if none has opened it before, and dotted keys extend only
tables that dotted keys or headers of inner tables have made.
-/

namespace Scouting

inductive TableOrigin where
  | defined
  | implied
  | dotted
  deriving DecidableEq

inductive Toml where
  | bool (value : Bool)
  | integer (value : Int)
  | float (value : Float)
  | text (value : String)
  | moment (text : String)
  | array (items : List Toml)
  | table (origin : TableOrigin) (entries : List (String × Toml))
  | inlineTable (entries : List (String × Toml))
  | tables (items : List (List (String × Toml)))

namespace Toml

instance : Inhabited Toml := ⟨bool false⟩

abbrev Entries := List (String × Toml)

/-- Puts a value in place of the one with its name, or after all others. -/
def setEntry (name : String) (value : Toml) : Entries → Entries
  | [] => [(name, value)]
  | entry :: rest =>
    if entry.1 = name then (name, value) :: rest else entry :: setEntry name value rest

/-- Changes the table at the end of a path. Tables missing on the way are made; a dotted key does
not lead through a table with a header of its own. -/
def change (dotted : Bool) (action : TableOrigin → Entries → Option (TableOrigin × Entries)) :
    List String → TableOrigin → Entries → Option (TableOrigin × Entries)
  | [], origin, entries => action origin entries
  | name :: path, origin, entries => do
    let value ← match entries.lookup name with
      | none =>
        let made := if dotted then TableOrigin.dotted else .implied
        let (inner, content) ← change dotted action path made []
        some (table inner content)
      | some (table inner content) =>
        if dotted && inner = .defined then none
        else do
          let (inner, content) ← change dotted action path inner content
          some (table inner content)
      | some (tables items) =>
        match items.getLast? with
        | none => none
        | some last => do
          let (_, content) ← change dotted action path .defined last
          some (tables (items.dropLast ++ [content]))
      | some _ => none
    return (origin, setEntry name value entries)

def addEntry (dotted : Bool) (name : String) (value : Toml) (origin : TableOrigin)
    (entries : Entries) : Option (TableOrigin × Entries) :=
  if (origin == .dotted) == dotted && (entries.lookup name).isNone then
    some (origin, entries ++ [(name, value)])
  else none

def bind (path : List String) (name : String) (value : Toml) (origin : TableOrigin)
    (entries : Entries) : Option (TableOrigin × Entries) :=
  change true (addEntry (!path.isEmpty) name value) path origin entries

def openTable (name : String) (origin : TableOrigin) (entries : Entries) :
    Option (TableOrigin × Entries) :=
  match entries.lookup name with
  | none => some (origin, entries ++ [(name, table .defined [])])
  | some (table .implied content) => some (origin, setEntry name (table .defined content) entries)
  | some _ => none

def openNext (name : String) (origin : TableOrigin) (entries : Entries) :
    Option (TableOrigin × Entries) :=
  match entries.lookup name with
  | none => some (origin, entries ++ [(name, tables [[]])])
  | some (tables items) => some (origin, setEntry name (tables (items ++ [[]])) entries)
  | some _ => none

end Toml

end Scouting
