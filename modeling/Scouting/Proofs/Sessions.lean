import Scouting.Proofs.Agreement
import Scouting.Proofs.Compilation
import Scouting.Proofs.JsonRoundTrip
import Scouting.Session

/-!
What sessions do to the folder that they work in. Reading changes nothing and depends on the folder
alone; a document that is written stands at its path afterwards, and no other file is changed.
Picklists that are written are read back as they were.
-/

namespace Scouting

theorem mapM_encoded {α β : Type} {encode : α → β} {decode : β → Option α}
    (inverse : ∀ value, decode (encode value) = some value) (values : List α) :
    (values.map encode).mapM decode = some values := by
  induction values with
  | nil => rfl
  | cons value rest ih =>
      rw [List.map_cons, List.mapM_cons, inverse, ih]
      rfl

theorem Json.map?_encoded {α : Type} {encode : α → Json} {decode : Json → Option α}
    (inverse : ∀ value, decode (encode value) = some value) (values : Dictionary String α) :
    Json.map? some decode (.object (values.entries.map fun (name, value) => (name, encode value))) =
      some values := by
  rw [Json.map?, mapM_encoded, Option.map_some, Dictionary.ofList_entries]
  intro entry
  simp only [inverse]
  rfl

namespace Picklists

variable (picklists : Picklists)

theorem readable_toJson (depth : Nat) : Json.Readable (depth + 2) picklists.toJson := by
  refine Json.Readable.object _ _ ?_ ?_
  · exact List.pairwise_map.mpr picklists.lists.increasing
  · intro member inLists
    obtain ⟨entry, _, rfl⟩ := List.mem_map.mp inLists
    refine Json.Readable.array _ _ fun item inTeams => ?_
    obtain ⟨team, _, rfl⟩ := List.mem_map.mp inTeams
    exact Json.Readable.text depth team

theorem ofJson?_toJson : ofJson? picklists.toJson = some picklists := by
  have teams : ∀ teams : List String,
      Json.list? Json.text? (.array (teams.map .text)) = some teams :=
    mapM_encoded fun _ => rfl
  rw [ofJson?, toJson, Json.map?_encoded teams, Option.map_some]

theorem read_pretty : (Json.read picklists.toJson.pretty).bind ofJson? = some picklists := by
  rw [Json.read_pretty (picklists.readable_toJson 125), Option.bind_some, ofJson?_toJson]

end Picklists

namespace Folder

variable {folder : Folder} {path : String}

theorem place_write (named : path.isEmpty = false) (file : folder.place path ≠ .folder)
    (content : String) : (folder.write path content).place path = .file content := by
  have within : ¬(parts path).all (· = "..") := by
    intro upward
    apply file
    rw [place, if_neg (by simp [named]), if_pos upward]
  rw [place, if_neg (by simp [named]), if_neg within]
  simp only [write, Dictionary.find?_insert, if_pos]

theorem place_write_of_ne {other content : String} (found : folder.place path = .file content)
    (elsewhere : normal other ≠ normal path) (text : String) :
    (folder.write other text).place path = .file content := by
  simp only [place, write, Dictionary.find?_insert, if_neg (Ne.symm elsewhere)] at found ⊢
  split at found
  · cases found
  · rename_i named
    rw [if_neg named]
    split at found
    · cases found
    · rename_i within
      rw [if_neg within]
      split at found
      · exact found
      · split at found
        · cases found
        · split at found
          · cases found
          · cases found

def outcome {α : Type} (folder : Folder) (session : Session α) : Except Failure α :=
  (session.run.run ⟨folder, [], []⟩).1

end Folder

namespace Session

/-- A session that leaves everything as it is, whatever it comes to. -/
def Quiet {α : Type} (session : Session α) : Prop :=
  ∀ console, ∃ outcome, session.run.run console = (outcome, console)

section
variable {α β : Type} {session : Session α} {next : α → Session β}

theorem Quiet.bind (quiet : Quiet session) (later : ∀ value, Quiet (next value)) :
    Quiet (session >>= next) := by
  intro console
  obtain ⟨outcome, ran⟩ := quiet console
  rw [run_bind, ran]
  cases outcome with
  | error failure => exact ⟨.error failure, rfl⟩
  | ok value => exact later value console

theorem Quiet.within (quiet : Quiet session) (context : String) :
    Quiet (Session.within context session) := by
  intro console
  obtain ⟨outcome, ran⟩ := quiet console
  rw [Session.within, run_tryCatch, ran]
  cases outcome with
  | error failure => exact ⟨_, rfl⟩
  | ok value => exact ⟨_, rfl⟩

theorem quiet_pure (value : α) : Quiet (pure value) := fun _ => ⟨.ok value, rfl⟩

theorem quiet_fail (cause : Cause) : Quiet (fail cause : Session α) := fun _ => ⟨_, rfl⟩

theorem Quiet.unless {next : Unit → Session β} (later : ∀ done, Quiet (next done))
    {condition : Prop} [Decidable condition] {message : String} :
    Quiet (if condition then refuse message >>= next else next ()) := by
  split
  · exact (quiet_fail (.refused message)).bind later
  · exact later ()

theorem quiet_ofLookup (look : Except StatError α) : Quiet (ofLookup look) := by
  cases look with
  | ok value => exact quiet_pure value
  | error error => exact quiet_fail (.stat error)

theorem quiet_ofInput (look : Except InputError α) : Quiet (ofInput look) := by
  cases look with
  | ok value => exact quiet_pure value
  | error error => exact quiet_fail (.input error)

theorem run_place (path : String) (console : Console) :
    (place path).run.run console = (.ok (console.folder.place path), console) := rfl

theorem quiet_place (path : String) : Quiet (place path) := fun _ => ⟨_, rfl⟩

theorem quiet_readJson (path : String) : Quiet (readJson path) := by
  refine (quiet_place path).bind fun place => ?_
  cases place with
  | file content =>
      dsimp only
      cases Json.read content with
      | some json => exact quiet_pure json
      | none => exact quiet_fail .notJson
  | folder => exact quiet_fail .notJson
  | absent => exact quiet_fail (.access .notFound)
  | insideFile => exact quiet_fail (.access .notFolder)

theorem quiet_readSettings (path : String) : Quiet (readSettings path) := by
  refine (quiet_place path).bind fun place => ?_
  cases place with
  | file content =>
      dsimp only
      cases Settings.ofToml? content with
      | some settings => exact quiet_pure settings
      | none => exact quiet_fail .settings
  | folder => exact quiet_fail (.settingsAccess .isFolder)
  | absent => exact quiet_pure Settings.standard
  | insideFile => exact quiet_pure Settings.standard

theorem quiet_readPicklists (path : String) : Quiet (readPicklists path) := by
  refine (quiet_place path).bind fun place => ?_
  cases place with
  | file | folder =>
      refine (quiet_readJson path).bind fun json => ?_
      cases Picklists.ofJson? json with
      | some picklists => exact quiet_pure picklists
      | none => exact quiet_fail .notJson
  | absent | insideFile => exact quiet_pure Picklists.empty

theorem outcome_bind (folder : Folder) (quiet : Quiet session) (next : α → Session β) :
    folder.outcome (session >>= next) =
      folder.outcome session >>= fun value => folder.outcome (next value) := by
  obtain ⟨outcome, ran⟩ := quiet ⟨folder, [], []⟩
  rw [Folder.outcome, run_bind, Folder.outcome, ran]
  cases outcome with
  | error failure => rfl
  | ok value => rfl

theorem Quiet.run (quiet : Quiet session) (folder : Folder) :
    session.run.run ⟨folder, [], []⟩ = (folder.outcome session, ⟨folder, [], []⟩) := by
  obtain ⟨outcome, ran⟩ := quiet ⟨folder, [], []⟩
  rw [Folder.outcome, ran]

theorem run_within_eq_ok {context : String} {console after : Console} {value : α} :
    (within context session).run.run console = (.ok value, after) ↔
      session.run.run console = (.ok value, after) := by
  rw [within, run_tryCatch]
  rcases session.run.run console with ⟨failure | value, after⟩
  · exact ⟨nofun, nofun⟩
  · rfl

theorem outcome_within_eq_ok {folder : Folder} {context : String} {value : α} :
    folder.outcome (within context session) = .ok value ↔ folder.outcome session = .ok value := by
  rw [Folder.outcome, within, run_tryCatch, Folder.outcome]
  rcases session.run.run ⟨folder, [], []⟩ with ⟨failure | value, after⟩
  · exact ⟨nofun, nofun⟩
  · rfl

theorem outcome_ofLookup_eq_ok {folder : Folder} {look : Except StatError α} {value : α} :
    folder.outcome (ofLookup look) = .ok value ↔ look = .ok value := by
  cases look with
  | ok other =>
      change (Except.ok other : Except Failure α) = .ok value ↔ _
      rw [Except.ok.injEq, Except.ok.injEq]
  | error error => exact ⟨nofun, nofun⟩

theorem outcome_ofInput_eq_ok {folder : Folder} {look : Except InputError α} {value : α} :
    folder.outcome (ofInput look) = .ok value ↔ look = .ok value := by
  cases look with
  | ok other =>
      change (Except.ok other : Except Failure α) = .ok value ↔ _
      rw [Except.ok.injEq, Except.ok.injEq]
  | error error => exact ⟨nofun, nofun⟩

end

theorem outcome_place_bind {β : Type} (folder : Folder) (path : String)
    (next : Place → Session β) :
    folder.outcome (place path >>= next) = folder.outcome (next (folder.place path)) := by
  rw [outcome_bind folder (quiet_place path)]
  rfl

theorem outcome_readPicklists (folder : Folder) (path : String) :
    folder.outcome (readPicklists path) =
      match folder.place path with
      | .absent => .ok Picklists.empty
      | .insideFile => .ok Picklists.empty
      | .folder => .error ⟨[], .notJson⟩
      | .file content => match (Json.read content).bind Picklists.ofJson? with
        | some picklists => .ok picklists
        | none => .error ⟨[], .notJson⟩ := by
  rw [readPicklists, outcome_place_bind]
  cases stands : folder.place path with
  | absent => rfl
  | insideFile => rfl
  | folder =>
      dsimp only
      rw [outcome_bind folder (quiet_readJson path), readJson, outcome_place_bind, stands]
      rfl
  | file content =>
      dsimp only
      rw [outcome_bind folder (quiet_readJson path), readJson, outcome_place_bind, stands]
      dsimp only
      cases Json.read content with
      | none => rfl
      | some json =>
          change folder.outcome (match Picklists.ofJson? json with
            | some picklists => pure picklists
            | none => fail .notJson) = _
          rw [Option.bind_some]
          cases Picklists.ofJson? json with
          | none => rfl
          | some picklists => rfl

theorem writeJson_eq_ok {path : String} {json : Json} {console after : Console}
    (done : (writeJson path json).run.run console = (.ok (), after)) :
    after.folder = console.folder.write path json.pretty ∧
      after.folder.place path = .file json.pretty := by
  rw [writeJson] at done
  cases named : path.isEmpty with
  | true =>
      rw [named] at done
      cases done
  | false =>
      simp only [named, Bool.false_eq_true, if_false] at done
      rw [run_bind, run_place] at done
      dsimp only at done
      rw [run_bind, run_place] at done
      dsimp only at done
      cases stands : console.folder.place path with
      | folder =>
          rw [stands] at done
          cases done
      | insideFile =>
          rw [stands] at done
          cases parent : console.folder.place (Folder.parent path) with
          | file | folder | absent | insideFile =>
              rw [parent] at done
              cases done
      | file | absent =>
          rw [stands] at done
          cases done
          have file : console.folder.place path ≠ .folder := by
            rw [stands]
            intro same
            cases same
          exact ⟨rfl, Folder.place_write named file json.pretty⟩

end Session

end Scouting
