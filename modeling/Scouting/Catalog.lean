import Scouting.Configuration
import Scouting.OfficialResults

/-!
The catalog of keys: what is known about every key that can be read, and the order in which the keys
were registered. Fields come first, then official results, then identity, then stats.
-/

namespace Scouting

/-- What is known about keys, the keys in the order in which they were registered, and the official
results that some of them read. -/
structure Catalog where
  /-- Of several entries for a key the first one counts. -/
  infos : List KeyInfo
  order : List Key
  official : OfficialResults

namespace FieldDefinition

def counterId (field : FieldDefinition) (option : String) : String :=
  let word := (Text.lowercase option).toList.map fun char => if char = ' ' then '_' else char
  field.id ++ "_" ++ String.ofList word

def counterInfo (field : FieldDefinition) (option : String) (index : Nat) : KeyInfo :=
  { key := Key.result (field.counterId option)
    name := field.name ++ " " ++ option
    kind := .counter
    options := []
    polarity := .uniform (field.polarity.isNegative (some index))
    mode := field.mode
    cycle := field.cycle }

/-- The options by which a field is narrowed: a truth value has two. -/
def keyOptions (field : FieldDefinition) : List String :=
  match field.kind with
  | .boolean => ["false", "true"]
  | _ => field.options

def infos (field : FieldDefinition) : List KeyInfo :=
  match field.kind with
  | .multicounter => field.options.mapIdx fun index option => field.counterInfo option index
  | _ =>
    [{ key := Key.result field.id
       name := field.name
       kind := field.kind
       options := field.keyOptions
       polarity := field.polarity
       mode := field.mode
       cycle := field.cycle }]

end FieldDefinition

/-- What is known about an imported key: its kind is that of its first value. -/
def OfficialResults.info (results : OfficialResults) (id : String) : KeyInfo :=
  let field := results.fields.find? id
  let name := (field.bind OfficialField.name).getD (Text.titleCase id)
  let kind := ((results.sample? id).map FieldKind.infer).getD .number
  { KeyInfo.simple (Key.plain .official id) name kind with
    polarity := .uniform ((field.map OfficialField.negative).getD false) }

def StatDefinition.info (definition : StatDefinition) : KeyInfo :=
  { KeyInfo.simple (Key.smart definition.id) definition.displayName .number with
    polarity := .uniform definition.negative }

def identityInfos : List KeyInfo :=
  let info (id name : String) (kind : FieldKind) : KeyInfo :=
    KeyInfo.simple (Key.plain .identity id) name kind
  [info "team" "Team Number" .number, info "name" "Team Name" .string, info "city" "City" .string,
    info "state_prov" "State" .string, info "country" "Country" .string,
    info "match_key" "Match" .string, info "position" "Position" .number,
    info "scouter" "Scouter" .string]

namespace Catalog

def find? (catalog : Catalog) (key : Key) : Option KeyInfo :=
  catalog.infos.find? fun info => info.key = key

/-- Registers a key: in place of what was known about it, or after all others. -/
def insert (catalog : Catalog) (info : KeyInfo) : Catalog :=
  { catalog with
    infos := info :: catalog.infos
    order :=
      if (catalog.find? info.key).isSome then catalog.order else catalog.order ++ [info.key] }

/-- Forgets a key, if it is known. -/
def withdraw (catalog : Catalog) (key : Key) : Catalog :=
  if (catalog.find? key).isSome then
    { catalog with
      infos := catalog.infos.filter fun info => info.key ≠ key
      order := catalog.order.filter fun other => other ≠ key }
  else catalog

def remove (catalog : Catalog) (keys : List Key) : Catalog := keys.foldl withdraw catalog

def ofFields (fields : List FieldDefinition) (official : OfficialResults) : Catalog :=
  (fields.flatMap FieldDefinition.infos ++ official.ids.map official.info ++ identityInfos).foldl
    insert ⟨[], [], official⟩

@[simp] theorem find?_insert (catalog : Catalog) (info : KeyInfo) (key : Key) :
    (catalog.insert info).find? key = if info.key = key then some info else catalog.find? key := by
  by_cases same : info.key = key <;> simp [find?, insert, same]

@[simp] theorem find?_withdraw (catalog : Catalog) (key other : Key) :
    (catalog.withdraw key).find? other = if other = key then none else catalog.find? other := by
  rw [withdraw]
  split
  · simp only [find?]
    induction catalog.infos with
    | nil => simp
    | cons first rest ih => grind
  · rename_i unknown
    by_cases same : other = key
    · rw [if_pos same, same]
      exact Option.not_isSome_iff_eq_none.mp unknown
    · rw [if_neg same]

@[simp] theorem find?_remove (catalog : Catalog) (keys : List Key) (key : Key) :
    (catalog.remove keys).find? key = if key ∈ keys then none else catalog.find? key := by
  rw [remove]
  induction keys generalizing catalog with
  | nil => simp
  | cons first rest ih => grind [find?_withdraw]

def admits (info : KeyInfo) (key : Key) : Bool :=
  match key.option with
  | none => true
  | some option => option < info.options.length

/-- What is known about a key, whose option has to be declared. -/
def resolve (catalog : Catalog) (key : Key) : Except StatError KeyInfo :=
  match (catalog.find? key.base).filter (admits · key) with
  | some info => .ok info
  | none => .error (.unknownKey key.text)

def parse (catalog : Catalog) (text : String) : Except StatError Key := do
  let key ← Key.parse text
  let _ ← catalog.resolve key
  return key

def implied : List Namespace := [.result, .smart, .official]

/-- The key that a reference means. With a point in it, it has to be a known key as it is written;
without one it is an id, of a field or else of a stat or else of an imported key. -/
def resolveReference (catalog : Catalog) (reference : String) : Except StatError Key :=
  let trimmed := Text.trimmed reference
  if '.' ∈ trimmed.toList then catalog.parse trimmed
  else
    match (implied.map fun space => Key.plain space trimmed).find? fun key =>
      (catalog.find? key).isSome with
    | some key => .ok key
    | none => .error (.unknownKey trimmed)

/-- The keys of a namespace and of some kinds; without either, every key. -/
def list (catalog : Catalog) (space : Option Namespace) (kinds : List FieldKind) : List KeyInfo :=
  (catalog.order.filterMap catalog.find?).filter fun info =>
    space.all (info.key.space = ·) && (kinds.isEmpty || kinds.contains info.kind)

def keyName (info : KeyInfo) (key : Key) : String :=
  match key.option.bind (info.options[·]?) with
  | some label => info.name ++ " " ++ label
  | none => info.name

def displayName (catalog : Catalog) (key : Key) (function : Option AggregateFunction) : String :=
  let name := match catalog.resolve key with
    | .ok info => keyName info key
    | .error _ => Text.titleCase key.id
  match function with
  | some function => Text.titleCase function.name ++ " " ++ name
  | none => name

end Catalog

end Scouting
