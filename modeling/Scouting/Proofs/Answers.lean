import Scouting.Proofs.Increasing
import Scouting.Proofs.LoadedEvent

/-!
Answers of events. A key that is known can be read in every case, and evaluations that share what
they remember come to the same answers as evaluations of their own.
-/

namespace Scouting

namespace Environment.Settles

variable {environment : Environment} {α β ι : Type}

theorem pure (value : α) : environment.Settles (pure value) value := Agree.pure value

theorem bind {action : Run Memo α} {next : α → Run Memo β} {value : α} {result : β}
    (first : environment.Settles action value) (later : environment.Settles (next value) result) :
    environment.Settles (action >>= next) result := by
  intro memo start remembers
  obtain ⟨_, after, _, ran, same, remembersAfter, _⟩ := first memo start remembers
  cases same
  rw [run_bind, ran]
  exact later after start remembersAfter

theorem mapM {action : ι → Run Memo α} {value : ι → α} {items : List ι}
    (each : ∀ item ∈ items, environment.Settles (action item) (value item)) :
    environment.Settles (items.mapM action) (items.map value) := by
  induction items with
  | nil => exact pure []
  | cons first rest ih =>
      have head := each first List.mem_cons_self
      have tail := ih fun item member => each item (List.mem_cons_of_mem _ member)
      rw [List.mapM_cons, List.map_cons]
      exact head.bind (tail.bind (pure _))

theorem tryCatch {action : Run Memo α} {value : α} (settles : environment.Settles action value)
    (handle : StatError → Run Memo α) : environment.Settles (tryCatch action handle) value := by
  intro memo start remembers
  obtain ⟨_, after, _, ran, same, remembersAfter, may⟩ := settles memo start remembers
  cases same
  rw [run_tryCatch, ran]
  exact ⟨_, after, start, rfl, rfl, remembersAfter, may⟩

end Environment.Settles

namespace Value

mutual

theorem flatten_leaves (value : Value) : flatten (leaves value) = leaves value := by
  cases value with
  | list items =>
      rw [leaves_list]
      exact flatten_flatten items
  | _ => simp [leaves]

theorem flatten_flatten (values : List Value) : flatten (flatten values) = flatten values := by
  cases values with
  | nil => simp
  | cons value rest =>
      rw [flatten_cons, flatten_append, flatten_leaves value, flatten_flatten rest]

end

theorem flatten_eq_flatMap (values : List Value) : flatten values = values.flatMap leaves := by
  induction values with
  | nil => simp
  | cons value rest ih => rw [flatten_cons, List.flatMap_cons, ih]

end Value

theorem KeyInfo.pool_flatten (info : KeyInfo) (key : Key) (values : List Value)
    (function : AggregateFunction) :
    info.pool key (Value.flatten values) function = info.pool key values function := by
  simp only [pool, aggregateOption, aggregate, Value.flatten_flatten]

theorem Catalog.resolve_eq_error {catalog : Catalog} {key : Key} (unknown : ¬catalog.Knows key) :
    catalog.resolve key = .error (.unknownKey key.text) := by
  cases resolved : catalog.resolve key with
  | ok info => exact absurd ⟨info, resolved⟩ unknown
  | error error =>
      simp only [resolve] at resolved
      split at resolved
      · cases resolved
      · exact resolved.symm ▸ rfl

namespace Event

variable {event : Event} {key : Key}

section
variable (sound : event.environment.Sound) (known : event.catalog.Knows key)
include sound known

theorem readIn_settles (subject : Subject) (index : Option Nat) :
    ∃ value, event.read key subject index = .ok value ∧
      event.environment.Settles (event.readIn key subject index) value :=
  sound.read_settles known rfl index

theorem exists_reading (index : Option Nat) : ∃ reading : Subject → Value, ∀ subject,
    event.read key subject index = .ok (reading subject) ∧
      event.environment.Settles (event.readIn key subject index) (reading subject) :=
  Classical.axiomOfChoice fun subject => readIn_settles sound known subject index

end

theorem readOrMissing_settles {subject : Subject} {value : Value}
    (settles : event.environment.Settles (event.readIn key subject none) value) :
    event.environment.Settles (event.readOrMissing key subject) value :=
  settles.tryCatch _

/-- The subjects whose values an aggregate is of: one, or all teams as a whole. -/
def pooled (event : Event) : Option Subject → List Subject
  | some subject => [subject]
  | none => event.teams.map Subject.ofTeam

theorem statIn_settles {info : KeyInfo} (resolved : event.catalog.resolve key = .ok info)
    {reading : Subject → Value}
    (settles : ∀ subject, event.environment.Settles (event.readIn key subject none)
      (reading subject)) (subject : Option Subject) (function : AggregateFunction) :
    event.environment.Settles (event.statIn key subject function)
      (info.pool key ((event.pooled subject).map reading) function) := by
  have values : event.environment.Settles
      ((event.pooled subject).mapM (event.readOrMissing key))
      ((event.pooled subject).map reading) :=
    Environment.Settles.mapM fun subject _ => readOrMissing_settles (settles subject)
  have pooled : event.environment.Settles
      (event.catalog.aggregate key ((event.pooled subject).map reading) function)
      (info.pool key ((event.pooled subject).map reading) function) := by
    rw [Catalog.aggregate_eq resolved]
    exact Environment.Settles.pure _
  cases subject with
  | some subject => exact values.bind pooled
  | none => exact values.bind pooled

section
variable {info : KeyInfo} (resolved : event.catalog.resolve key = .ok info)
  {reading : Subject → Value}
  (settles : ∀ subject, event.environment.Settles (event.readIn key subject none)
    (reading subject))
include resolved settles

theorem stat_eq (subject : Option Subject) (function : Option AggregateFunction) :
    event.stat key subject function =
      .ok (info.pool key ((event.pooled subject).map reading)
        (function.getD (event.defaultFunction key))) := by
  simp only [stat, resolved]
  exact (statIn_settles resolved settles subject _).evaluate

theorem teamStats_eq (teams : List Nat) (function : Option AggregateFunction) :
    event.teamStats key teams function =
      .ok (teams.map fun team => info.pool key [reading (Subject.ofTeam team)]
        (function.getD (event.defaultFunction key))) := by
  simp only [teamStats, resolved]
  exact (Environment.Settles.mapM fun team _ =>
    statIn_settles resolved settles (some (Subject.ofTeam team)) _).evaluate

end

theorem readIn_unknown (unknown : ¬event.catalog.Knows key) (subject : Subject)
    (index : Option Nat) (memo : Memo) : (event.readIn key subject index).run.run memo =
      (.error (.unknownKey key.text), memo) := by
  simp only [readIn, Catalog.read, Catalog.resolve_eq_error unknown, ofExcept]
  rfl

section
variable {failure : StatError} (refused : event.catalog.resolve key = .error failure)
include refused

theorem stat_refused (subject : Option Subject) (function : Option AggregateFunction) :
    event.stat key subject function = .error failure := by
  simp only [stat, refused]
  rfl

theorem teamStats_refused (teams : List Nat) (function : Option AggregateFunction) :
    event.teamStats key teams function = .error failure := by
  simp only [teamStats, refused]
  rfl

end

/-- Sharing one evaluation changes no answer: the aggregates of several teams are those that each
team gets from an evaluation of its own, and the aggregate over the event is that of the
observations which separate reads give for its teams, taken in increasing order. -/
theorem shared_evaluation {event : Event} (reachable : event.Reachable) {key : Key}
    (known : event.catalog.Knows key) (function : Option AggregateFunction) :
    (∀ teams : List Nat, event.teamStats key teams function =
      teams.mapM fun team => event.stat key (some (Subject.ofTeam team)) function) ∧
    event.teams.Pairwise (· < ·) ∧
    ∃ values : List Value,
      (event.teams.mapM fun team => event.read key (Subject.ofTeam team) none) = .ok values ∧
      event.stat key none function =
        Environment.evaluate (event.catalog.aggregate key (values.flatMap Value.leaves)
          (function.getD (event.defaultFunction key))) := by
  obtain ⟨reading, read⟩ := exists_reading reachable.sound known none
  obtain ⟨info, resolved⟩ := known
  have settles := fun subject => (read subject).2
  refine ⟨fun teams => ?_, event.snapshot.teams_increasing,
    event.teams.map fun team => reading (Subject.ofTeam team), ?_, ?_⟩
  · rw [teamStats_eq resolved settles]
    exact (mapM_eq_pure fun team _ =>
      stat_eq resolved settles (some (Subject.ofTeam team)) function).symm
  · rw [mapM_eq_pure fun team _ => (read (Subject.ofTeam team)).1]
    rfl
  · rw [stat_eq resolved settles, Catalog.aggregate_eq resolved, ← Value.flatten_eq_flatMap,
      KeyInfo.pool_flatten, pooled, List.map_map]
    rfl

theorem shared_evaluation_small : small.catalog.Knows (Key.smart "double") ∧
    (small.teamStats (Key.smart "double") [7, 9, 7] (some .total) = [7, 9, 7].mapM fun team =>
      small.stat (Key.smart "double") (some (Subject.ofTeam team)) (some .total)) ∧
    small.teams = [7] ∧
    ∃ values : List Value,
      (small.teams.mapM fun team =>
        small.read (Key.smart "double") (Subject.ofTeam team) none) = .ok values ∧
      small.stat (Key.smart "double") none (some .total) =
        Environment.evaluate (small.catalog.aggregate (Key.smart "double")
          (values.flatMap Value.leaves) .total) := by
  have teams : small.teams = [7] := by decide +kernel
  have resolves := small_resolves (show
    (small.catalog.resolve (Key.smart "double")).toOption.map KeyInfo.mode = some .played by
      decide +kernel)
  have known : small.catalog.Knows (Key.smart "double") := resolves.imp fun _ found => found.1
  obtain ⟨each, _, pooled⟩ := shared_evaluation small_reachable known (some .total)
  exact ⟨known, each [7, 9, 7], teams, pooled⟩

end Event

end Scouting
