import Scouting.Proofs.FiniteObservations
import Scouting.Proofs.RankingOrder
import Scouting.Proofs.TeamReads

/-!
Which numbers can be compared. Aggregates of finite observations can, so a ranking by them is in
order; and what an expression comes to is finite. A text that stands for no number cannot: it is
read, aggregated and ranked like a number.
-/

namespace Scouting

theorem KeyInfo.isNaN_pool {info : KeyInfo} {key : Key} {values : List Value}
    {function : AggregateFunction} {number : Float}
    (observed : FiniteObservations (Value.flatten values))
    (pooled : info.pool key values function = .number number) : number.isNaN = false := by
  simp only [pool] at pooled
  split at pooled
  · exact isNaN_aggregateOption observed.few pooled
  · exact isNaN_aggregate observed pooled

def ComesToFinite {σ : Type} (action : Run σ Float) : Prop :=
  ∀ state number after, action.run.run state = (.ok number, after) → number.isFinite

namespace ComesToFinite

variable {σ α : Type}

theorem finite (value : Float) : ComesToFinite (Expression.finite value : Run σ Float) := by
  intro state number after ran
  simp only [Expression.finite] at ran
  split at ran
  · rename_i isFinite
    cases ran
    exact isFinite
  · cases ran

theorem bind (action : Run σ α) {next : α → Run σ Float}
    (later : ∀ value, ComesToFinite (next value)) : ComesToFinite (action >>= next) := by
  intro state number after ran
  rw [run_bind] at ran
  split at ran
  · exact later _ _ number after ran
  · cases ran

theorem eval (lookup : String → Run σ Float) (expression : Expression) :
    ComesToFinite (expression.eval lookup) := by
  cases expression with
  | number value =>
      simp only [Expression.eval]
      exact finite value
  | key name =>
      simp only [Expression.eval]
      exact bind _ finite
  | negate inner =>
      simp only [Expression.eval]
      exact bind _ fun value => finite (-value)
  | binary operation left right =>
      simp only [Expression.eval]
      exact bind _ fun leftValue => bind _ fun rightValue => bind _ finite
  | call function arguments =>
      simp only [Expression.eval]
      exact bind _ fun values => finite (function.apply values)

end ComesToFinite

/-- Are all numbers that a value holds finite? -/
def Value.IsFinite (value : Value) : Prop :=
  ∀ observation ∈ value.leaves, ∀ number, observation.reading = some number → number.isFinite

theorem Value.isFinite_list {items : List Value} (each : ∀ item ∈ items, item.IsFinite) :
    (Value.list items).IsFinite := by
  intro observation member
  rw [leaves_list, flatten_eq_flatMap] at member
  obtain ⟨item, listed, leaf⟩ := List.mem_flatMap.mp member
  exact each item listed observation leaf

namespace Environment

theorem run_of_orNone {σ : Type} {action : Run σ Float} {state after : σ} {number : Float}
    (ran : (orNone action).run.run state = (.ok (some number), after)) :
    action.run.run state = (.ok number, after) := by
  rw [orNone, run_tryCatch, map_eq_pure_bind, run_bind] at ran
  rcases outcome : action.run.run state with ⟨error | value, later⟩
  · rw [outcome] at ran
    cases error with
    | missingOperand reason => cases ran
    | unknownKey text => cases ran
    | circular path => cases ran
  · rw [outcome] at ran
    cases ran
    rfl

variable {environment : Environment} {key : Key} {stat : Stat} {expression : Expression}
  {bindings : List (String × Key)} (math : stat.plan = .math expression bindings)
include math

theorem isFinite_settled {subject : Subject} {value : Value}
    (settled : environment.settle environment.answers stat subject = pure value) :
    value.IsFinite := by
  have ran : (environment.settle environment.answers stat subject).run.run () =
      (.ok value, ()) := by
    rw [settled]
    rfl
  rw [settle, run_bind] at ran
  split at ran
  · rename_i outcome _ tried
    cases outcome with
    | none =>
        cases ran
        intro observation member
        simp at member
    | some number =>
        cases ran
        have evaluated := run_of_orNone tried
        simp only [run, math] at evaluated
        intro observation member other read
        simp only [Value.leaves, List.mem_singleton] at member
        subst member
        cases read
        exact ComesToFinite.eval _ expression _ _ _ evaluated
  · cases ran

theorem Sound.isFinite_answer (sound : environment.Sound)
    (found : environment.stats.find? key = some stat) (subject : Subject) :
    (environment.answer key subject).IsFinite := by
  have computed := sound.compute_answers found subject
  cases scope : stat.isTeamScoped with
  | true =>
      rw [compute, if_pos scope] at computed
      exact isFinite_settled math computed
  | false =>
      cases inMatch : subject.isMatch with
      | true => exact isFinite_settled math (sound.settle_answers found scope inMatch)
      | false =>
          have whole : environment.answer key subject =
              environment.answer key (Subject.ofTeam subject.team) := by
            refine pure_injective ?_
            rw [← computed, ← sound.compute_answers found, compute, compute,
              if_neg (by simp [scope]), if_neg (by simp [inMatch]), if_neg (by simp [scope]),
              if_neg (by simp [Subject.isMatch, Subject.ofTeam])]
            rfl
          rw [whole, sound.answer_ofTeam found scope]
          refine Value.isFinite_list fun item member => ?_
          obtain ⟨matchKey, _, rfl⟩ := List.mem_map.mp member
          exact isFinite_settled math (sound.settle_answers found scope rfl)

end Environment

namespace Event

variable {event : Event} {key : Key}

theorem isNaN_stat {info : KeyInfo} (resolved : event.catalog.resolve key = .ok info)
    {reading : Subject → Value}
    (settles : ∀ subject, event.environment.Settles (event.readIn key subject none)
      (reading subject)) {subject : Option Subject} {function : Option AggregateFunction}
    (observed : FiniteObservations (Value.flatten ((event.pooled subject).map reading)))
    {number : Float} (found : event.stat key subject function = .ok (.number number)) :
    number.isNaN = false := by
  rw [stat_eq resolved settles] at found
  exact KeyInfo.isNaN_pool observed (Except.ok.inj found)

theorem isFinite_read_math (sound : event.environment.Sound) {stat : Stat}
    (member : stat ∈ event.stats.stats) {expression : Expression}
    {bindings : List (String × Key)} (math : stat.plan = .math expression bindings)
    {subject : Subject} {index : Option Nat} {value : Value}
    (read : event.read stat.key subject index = .ok value) : value.IsFinite := by
  have found : event.environment.stats.find? stat.key = some stat :=
    StatSet.find?_of_mem sound.unique member
  rw [read_stat sound member] at read
  exact Except.ok.inj read ▸ sound.isFinite_answer math found subject

theorem finiteObservations_of_readings {observations : List Value} {readings : List (Option Float)}
    (same : observations.map Value.reading = readings)
    (finite : ∀ reading ∈ readings, ∀ number, reading = some number → number.isFinite)
    (few : readings.length < 2 ^ 53) : FiniteObservations observations := by
  subst same
  refine ⟨fun observation member number read => ?_, by simpa using few⟩
  exact finite _ (List.mem_map_of_mem member) number read

/-- Numbers that are made of finite observations can be compared: whatever the function, the
aggregate of a subject, of the event or of several teams is then no value that is not a number, and
a ranking by them is in order. What is read of a stat that an expression computes is always
finite. -/
theorem comparable_if_finite (reachable : event.Reachable) (known : event.catalog.Knows key)
    (function : Option AggregateFunction) :
    (∀ subject values,
      ((event.pooled subject).mapM fun pooled => event.read key pooled none) = .ok values →
        FiniteObservations (Value.flatten values) →
          ∃ aggregate, event.stat key subject function = .ok aggregate ∧
            ∀ number, aggregate = .number number → number.isNaN = false) ∧
    (∀ teams : List Nat,
      (∀ team ∈ teams, ∀ value, event.read key (Subject.ofTeam team) none = .ok value →
        FiniteObservations value.leaves) →
          (∃ aggregates, event.teamStats key teams function = .ok aggregates ∧
            ∀ number, .number number ∈ aggregates → number.isNaN = false) ∧
          ∃ ranking given ranked rest, event.ranking key teams function = .ok ranking ∧
            ranking.entries = ranked ++ rest ∧
            Ranking.Arranges ranking.negative given ranked rest) ∧
    ∀ stat ∈ event.stats.stats, ∀ expression bindings, stat.plan = .math expression bindings →
      ∀ subject index value, event.read stat.key subject index = .ok value → value.IsFinite := by
  have sound := reachable.sound
  obtain ⟨reading, read⟩ := exists_reading sound known none
  obtain ⟨info, resolved⟩ := known
  have settles := fun subject => (read subject).2
  refine ⟨fun subject values reads observed => ?_, fun teams observed => ?_, ?_⟩
  · rw [mapM_eq_pure fun pooled _ => (read pooled).1] at reads
    obtain rfl := Except.ok.inj reads
    exact ⟨_, stat_eq resolved settles subject function,
      fun number same => KeyInfo.isNaN_pool observed same⟩
  · have each : ∀ team ∈ teams, ∀ number,
        event.stat key (some (Subject.ofTeam team)) function = .ok (.number number) →
          number.isNaN = false := by
      intro team member number found
      refine isNaN_stat resolved settles ?_ found
      simpa [pooled] using observed team member _ (read (Subject.ofTeam team)).1
    refine ⟨⟨_, teamStats_eq resolved settles teams function, fun number member => ?_⟩, ?_⟩
    · obtain ⟨team, listed, same⟩ := List.mem_map.mp member
      refine each team listed number ?_
      rw [stat_eq resolved settles]
      exact congrArg Except.ok same
    · obtain ⟨ranking, given, ranked, rest, found, _, _, split, arranged⟩ :=
        arranges_of_comparable resolved settles each
      exact ⟨ranking, given, ranked, rest, found, split, arranged⟩
  · intro stat member expression bindings math subject index value found
    exact isFinite_read_math sound member math found

theorem comparable_if_finite_small :
    (∀ team ∈ [9, 7, 7], ∀ value,
      small.read (Key.smart "double") (Subject.ofTeam team) none = .ok value →
        FiniteObservations value.leaves) ∧
    (∃ aggregates, small.teamStats (Key.smart "double") [9, 7, 7] (some .stddev) = .ok aggregates ∧
      ∀ number, .number number ∈ aggregates → number.isNaN = false) ∧
    ∃ ranking given ranked rest,
      small.ranking (Key.smart "double") [9, 7, 7] (some .stddev) = .ok ranking ∧
      ranking.entries = ranked ++ rest ∧
      Ranking.Arranges ranking.negative given ranked rest := by
  have known : small.catalog.Knows (Key.smart "double") :=
    (small_resolves (show (small.catalog.resolve (Key.smart "double")).toOption.map
      KeyInfo.mode = some .played by decide +kernel)).imp fun _ found => found.1
  have outside : (small.read (Key.smart "double") (Subject.ofTeam 9) none).toOption.map
      (fun value => value.leaves.map Value.reading) = some [] := by
    decide +kernel
  have inside : (small.read (Key.smart "double") (Subject.ofTeam 7) none).toOption.map
      (fun value => value.leaves.map Value.reading) = some [some 6.0] := by
    decide +kernel
  have observed : ∀ team ∈ [9, 7, 7], ∀ value,
      small.read (Key.smart "double") (Subject.ofTeam team) none = .ok value →
        FiniteObservations value.leaves := by
    intro team member value read
    simp only [List.mem_cons, List.not_mem_nil, or_false, or_self] at member
    rcases member with rfl | rfl
    · rw [read] at outside
      exact finiteObservations_of_readings (Option.some.inj outside) nofun (by decide)
    · rw [read] at inside
      exact finiteObservations_of_readings (Option.some.inj inside) (by simp; decide) (by decide)
  exact ⟨observed, (comparable_if_finite small_reachable known (some .stddev)).2.1 [9, 7, 7]
    observed⟩

/-- An event in which a counter is five and nine for two teams, and for a third one a text that
stands for no number. -/
def unclear : Event :=
  let record (team : Nat) (value : Recorded) : Record :=
    ⟨team, some "a_qm1", none, .played, false, "", false, none, none, none,
      Dictionary.ofList [("auto", value)], none, none⟩
  ofInputs [record 5 (.integer 5), record 7 (.text "nan"), record 9 (.integer 9)] small.config
    OfficialResults.empty Settings.standard

/-- What is not a number is aggregated like one, and keeps a ranking from being in order. -/
theorem unclear_ranked :
    (unclear.stat (Key.result "auto") (some (Subject.ofTeam 7)) none).toOption =
      some (.number (0.0 / 0.0)) ∧
    (0.0 / 0.0 : Float).isNaN ∧
    ([5, 9].mapM fun team =>
      unclear.stat (Key.result "auto") (some (Subject.ofTeam team)) none).toOption =
        some [.number 5.0, .number 9.0] ∧
    unclear.isNegative (Key.result "auto") = .ok false ∧
    (unclear.rank (Key.result "auto") [5, 7, 9]).toOption = some [5, 7, 9] := by
  decide +kernel

end Event

end Scouting
