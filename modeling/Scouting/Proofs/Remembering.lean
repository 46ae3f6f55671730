import Scouting.Proofs.Operators
import Scouting.Proofs.Places

/-!
Remembering changes no answer. In an environment in which every stat can be evaluated, a stat's
value at a place is what it comes to if the values that it reads are simply there, whatever is
remembered already and whichever stats are on the way.
-/

namespace Scouting

namespace Stat

def scope (stat : Stat) (subject : Subject) : Subject :=
  if stat.isTeamScoped then subject.toTeam else subject

theorem scope_scope (stat : Stat) (subject : Subject) :
    stat.scope (stat.scope subject) = stat.scope subject := by
  simp only [scope]
  split <;> rfl

theorem scope_samePlace (stat : Stat) {snapshot : Snapshot} {subject other : Subject}
    (place : snapshot.SamePlace subject other) :
    snapshot.SamePlace (stat.scope subject) (stat.scope other) := by
  simp only [scope]
  split
  · rw [place.toTeam]
    rfl
  · exact place

end Stat

namespace Environment

theorem smartValue_run {environment : Environment} {key : Key} {stat : Stat}
    (found : environment.stats.find? key = some stat) (way : List Key) (subject : Subject)
    (memo : Memo) :
    (environment.smartValue way key subject).run.run memo =
      match memo.lookup (stat.key, stat.scope subject) with
      | some value => (.ok value, memo)
      | none =>
        if stat.key ∈ way then (.error (.circular (way ++ [stat.key])), memo)
        else
          match (environment.compute (environment.smartValue (way ++ [stat.key])) stat
            (stat.scope subject)).run.run memo with
          | (.ok value, after) => (.ok value, ((stat.key, stat.scope subject), value) :: after)
          | (.error error, after) => (.error error, after) := by
  have scope : (if stat.isTeamScoped then subject.toTeam else subject) = stat.scope subject := rfl
  rw [smartValue]
  split
  · rename_i missing
    rw [found] at missing
    cases missing
  · rename_i other present
    rw [found] at present
    cases present
    simp only [scope]
    rw [run_bind]
    change (match memo.lookup (stat.key, stat.scope subject) with
      | some value => _ | none => _ : Run Memo Value).run.run memo = _
    cases memo.lookup (stat.key, stat.scope subject) with
    | some value => rfl
    | none =>
        dsimp only
        split
        · rfl
        · rw [run_bind]
          rcases (environment.compute (environment.smartValue (way ++ [stat.key])) stat
            (stat.scope subject)).run.run memo with ⟨_ | _, after⟩
          · rfl
          · rfl

theorem evaluate_source {environment : Environment} {key : Key} {stat : Stat}
    (found : environment.stats.find? key = some stat) (subject : Subject) :
    evaluate (environment.source key subject) =
      evaluate (environment.compute (environment.smartValue [stat.key]) stat
        (stat.scope subject)) := by
  simp only [evaluate, source, smartValue_run found, List.lookup_nil, List.not_mem_nil, if_false,
    List.nil_append]
  rcases (environment.compute (environment.smartValue [stat.key]) stat
    (stat.scope subject)).run.run [] with ⟨_ | _, after⟩
  · rfl
  · rfl

theorem smartValue_scope {environment : Environment} {key : Key} {stat : Stat}
    (found : environment.stats.find? key = some stat) (way : List Key) (subject : Subject) :
    environment.smartValue way key subject =
      environment.smartValue way stat.key (stat.scope subject) := by
  have base : stat.key = key.base := by simpa using List.find?_some found
  have refound : environment.stats.find? stat.key = some stat := by
    rw [base]
    exact found
  refine ExceptT.ext (StateT.ext fun memo => ?_)
  have once := smartValue_run found way subject memo
  have again := smartValue_run refound way (stat.scope subject) memo
  rw [Stat.scope_scope] at again
  exact once.trans again.symm

/-- Every stat can be evaluated: the known stats are those that are there, plans read known keys,
and no stat is needed for its own value. -/
structure Sound (environment : Environment) : Prop where
  unique : (environment.stats.stats.map Stat.key).Nodup
  known : ∀ stat ∈ environment.stats.stats, environment.catalog.Knows stat.key
  present : ∀ key : Key, key.space = .smart → environment.catalog.Knows key →
    ∃ stat, environment.stats.find? key = some stat
  grounded : ∀ stat ∈ environment.stats.stats, environment.catalog.Grounds stat.plan
  ranked : ∃ rank : Key → Nat, ∀ stat ∈ environment.stats.stats, ∀ key ∈ stat.dependencies,
    rank key < rank stat.key

theorem Sound.transfer {environment other : Environment} (sound : environment.Sound)
    (stats : other.stats = environment.stats) (catalog : other.catalog = environment.catalog) :
    other.Sound := by
  constructor
  · rw [stats]
    exact sound.unique
  · rw [stats, catalog]
    exact sound.known
  · rw [stats, catalog]
    exact sound.present
  · rw [stats, catalog]
    exact sound.grounded
  · rw [stats]
    exact sound.ranked

/-- The value of a stat, as an evaluation of its own finds it. -/
def answer (environment : Environment) (key : Key) (subject : Subject) : Value :=
  (evaluate (environment.source key subject)).toOption.getD .missing

/-- A source of stats that remembers nothing: the values are simply there. -/
def answers (environment : Environment) : Source Unit := fun key subject =>
  pure (environment.answer key subject)

def Remembers (environment : Environment) (memo : Memo) (_ : Unit) : Prop :=
  ∀ entry ∈ memo, entry.2 = environment.answer entry.1.1 entry.1.2

/-- An evaluation comes to a value, whatever is remembered. -/
def Settles {α : Type} (environment : Environment) (action : Run Memo α) (value : α) : Prop :=
  Agree environment.Remembers (fun _ => False) action (pure value : Run Unit α)

section
variable {environment : Environment} {α : Type}

theorem pure_injective {value other : α} (same : (pure value : Run Unit α) = pure other) :
    value = other :=
  Except.ok.inj (congrArg (fun action : Run Unit α => (action.run.run ()).1) same)

theorem remembers_nothing : environment.Remembers [] () := nofun

theorem Settles.evaluate {action : Run Memo α} {value : α}
    (settles : environment.Settles action value) :
    Environment.evaluate action = .ok value := by
  obtain ⟨outcome, after, otherAfter, ran, otherRan, _, _⟩ := settles [] () remembers_nothing
  cases otherRan
  rw [Environment.evaluate, ran]

theorem Settles.unique {action : Run Memo α} {value other : α}
    (settles : environment.Settles action value) (again : environment.Settles action other) :
    value = other :=
  Except.ok.inj (settles.evaluate.symm.trans again.evaluate)

theorem settles_of_agree {action : Run Memo α} {plain : Run Unit α}
    (agree : Agree environment.Remembers (fun _ => False) action plain) :
    ∃ value, plain = pure value ∧ environment.Settles action value := by
  obtain ⟨outcome, _, _, _, ran, _, may⟩ := agree [] () remembers_nothing
  cases outcome with
  | error error => exact (may error rfl).elim
  | ok value =>
      have same : plain = pure value := ExceptT.ext (StateT.ext fun _ => ran)
      rw [same] at agree
      exact ⟨value, same, agree⟩

end

section
variable {σ τ : Type} {related : σ → τ → Prop} {allowed : StatError → Prop}
  {same : Subject → Subject → Prop} {environment : Environment} {source : Source σ}
  {otherSource : Source τ} {stat : Stat}

theorem aligned_of_reads
    (grounds : environment.catalog.Grounds stat.plan ∨ ∀ text, allowed (.unknownKey text))
    (reflexive : ∀ subject, same subject subject)
    (places : ∀ subject other, same subject other → environment.snapshot.SamePlace subject other)
    (reads : ∀ key ∈ stat.dependencies, ∀ subject other, same subject other →
      Agree related allowed (source key subject) (otherSource key other)) :
    Aligned related allowed same environment environment source otherSource stat.plan.keys where
  observed := by
    intro key member subject other place
    refine Catalog.read_agree (grounds.imp_left (·.known key member)) (places subject other place)
      (fun smart => ?_) none
    exact reads key.base (Stat.base_mem_dependencies member smart) subject other place
  aggregated := by
    intro key member values function
    exact Catalog.aggregate_agree (grounds.imp_left (·.known key member)) values function
  functions := fun _ _ => rfl
  fallback := rfl
  team := fun subject other place => (places subject other place).team
  isMatch := fun subject other place => (places subject other place).isMatch
  played := by
    intro subject other place
    rw [(places subject other place).team]
    exact List.forall₂_same.mpr fun inMatch _ => reflexive inMatch

theorem compute_agree
    (grounds : environment.catalog.Grounds stat.plan ∨ ∀ text, allowed (.unknownKey text))
    (reflexive : ∀ subject, same subject subject)
    (places : ∀ subject other, same subject other → environment.snapshot.SamePlace subject other)
    (reads : ∀ key ∈ stat.dependencies, ∀ subject other, same subject other →
      Agree related allowed (source key subject) (otherSource key other))
    {subject other : Subject} (place : same subject other) :
    Agree related allowed (environment.compute source stat subject)
      (environment.compute otherSource stat other) := by
  have whole : same subject.toTeam other.toTeam := by
    rw [(places subject other place).toTeam]
    exact reflexive other.toTeam
  exact (aligned_of_reads grounds reflexive places reads).compute (grounds.imp_left (·.bound))
    (fun _ _ => ⟨rfl, fun _ => reflexive _⟩) place whole

end

theorem compute_scope {σ : Type} (environment : Environment) (source : Source σ) (stat : Stat)
    (subject : Subject) :
    environment.compute source stat (stat.scope subject) =
      environment.compute source stat subject := by
  simp only [compute, Stat.scope]
  split
  · rfl
  · rfl

section
variable {environment : Environment} {rank : Key → Nat} {stat : Stat}

theorem settles_of_computed {key : Key} (found : environment.stats.find? key = some stat)
    (computed : ∀ way : List Key, (∀ member ∈ way, rank stat.key < rank member) →
      ∀ subject other, environment.snapshot.SamePlace subject other →
        Agree environment.Remembers (fun _ => False)
          (environment.compute (environment.smartValue (way ++ [stat.key])) stat subject)
          (environment.compute environment.answers stat other)) :
    (∀ way : List Key, (∀ member ∈ way, rank stat.key < rank member) →
      ∀ subject other, environment.snapshot.SamePlace subject other →
        environment.Settles (environment.smartValue way key subject)
          (environment.answer key other)) ∧
    ∀ subject, environment.compute environment.answers stat subject =
      pure (environment.answer key subject) := by
  have fresh : ∀ subject, environment.compute environment.answers stat subject =
      pure (environment.answer key subject) := by
    intro subject
    obtain ⟨value, comes, settles⟩ :=
      settles_of_agree (computed [] nofun (stat.scope subject) (stat.scope subject) rfl)
    have answered : evaluate (environment.source key subject) = .ok value :=
      (evaluate_source found subject).trans settles.evaluate
    rw [← compute_scope, comes, answer, answered]
    rfl
  have settles : ∀ way : List Key, (∀ member ∈ way, rank stat.key < rank member) →
      ∀ subject other, environment.snapshot.SamePlace subject other →
        environment.Settles
          (environment.compute (environment.smartValue (way ++ [stat.key])) stat
            (stat.scope subject)) (environment.answer key other) := by
    intro way above subject other place
    have agree := computed way above _ _ (stat.scope_samePlace place)
    rwa [compute_scope _ _ _ other, fresh] at agree
  refine ⟨fun way above subject other place memo start remembers => ?_, fresh⟩
  have remembered : environment.answer stat.key (stat.scope subject) =
      environment.answer key other := by
    have own : environment.answer stat.key (stat.scope subject) =
        environment.answer key subject := by
      simp only [answer, source, ← smartValue_scope found]
    rw [own]
    exact (settles [] nofun subject subject rfl).unique (settles [] nofun subject other place)
  rw [smartValue_run found]
  cases look : memo.lookup (stat.key, stat.scope subject) with
  | some value =>
      obtain ⟨before, after, rfl, _⟩ := List.lookup_eq_some_iff.mp look
      have same : value = environment.answer key other :=
        (remembers ((stat.key, stat.scope subject), value) (by simp)).trans remembered
      exact ⟨.ok value, _, start, rfl, by rw [same]; rfl, remembers, nofun⟩
  | none =>
      have offWay : stat.key ∉ way := fun member => Nat.lt_irrefl _ (above _ member)
      obtain ⟨outcome, after, otherAfter, ran, otherRan, remembersAfter, _⟩ :=
        settles way above subject other place memo start remembers
      cases otherRan
      simp only [if_neg offWay, ran]
      refine ⟨_, _, start, rfl, rfl, ?_, nofun⟩
      intro entry member
      rcases List.mem_cons.mp member with rfl | earlier
      · exact remembered.symm
      · exact remembersAfter entry earlier

theorem Sound.dependency (sound : environment.Sound) (member : stat ∈ environment.stats.stats)
    {key : Key} (reads : key ∈ stat.dependencies) :
    ∃ read, environment.stats.find? key = some read ∧ read.key = key := by
  obtain ⟨named, kept, rfl⟩ := List.mem_map.mp reads
  obtain ⟨planned, smart⟩ := List.mem_filter.mp kept
  obtain ⟨read, found⟩ :=
    sound.present named (by simpa using smart) ((sound.grounded stat member).known named planned)
  exact ⟨read, found, by simpa using List.find?_some found⟩

theorem Sound.smartValue_settles (sound : environment.Sound)
    (ranked : ∀ stat ∈ environment.stats.stats, ∀ key ∈ stat.dependencies,
      rank key < rank stat.key)
    {key : Key} (found : environment.stats.find? key = some stat) :
    (∀ way : List Key, (∀ member ∈ way, rank stat.key < rank member) →
      ∀ subject other, environment.snapshot.SamePlace subject other →
        environment.Settles (environment.smartValue way key subject)
          (environment.answer key other)) ∧
    ∀ subject, environment.compute environment.answers stat subject =
      pure (environment.answer key subject) := by
  induction height : rank stat.key using Nat.strongRecOn generalizing key stat with
  | ind height ih =>
      subst height
      have member := List.mem_of_find?_eq_some found
      refine settles_of_computed found fun way above subject other place => ?_
      refine compute_agree (.inl (sound.grounded stat member))
        (Snapshot.SamePlace.refl environment.snapshot) (fun _ _ => id) (fun dependency reads => ?_)
        place
      obtain ⟨read, readFound, rfl⟩ := sound.dependency member reads
      have lower := ranked stat member read.key reads
      refine (ih (rank read.key) lower readFound rfl).1 (way ++ [stat.key]) ?_
      intro earlier onWay
      rcases List.mem_append.mp onWay with before | last
      · exact Nat.lt_trans lower (above earlier before)
      · rw [List.mem_singleton.mp last]
        exact lower

end

namespace Sound

variable {environment : Environment} (sound : environment.Sound)
include sound

theorem source_settles {key : Key} {stat : Stat}
    (found : environment.stats.find? key = some stat) {subject other : Subject}
    (place : environment.snapshot.SamePlace subject other) :
    environment.Settles (environment.source key subject) (environment.answer key other) := by
  obtain ⟨rank, ranked⟩ := sound.ranked
  exact (sound.smartValue_settles ranked found).1 [] nofun subject other place

theorem compute_answers {key : Key} {stat : Stat}
    (found : environment.stats.find? key = some stat) (subject : Subject) :
    environment.compute environment.answers stat subject =
      pure (environment.answer key subject) := by
  obtain ⟨rank, ranked⟩ := sound.ranked
  exact (sound.smartValue_settles ranked found).2 subject

theorem read_settles {key : Key} (known : environment.catalog.Knows key) {subject other : Subject}
    (place : environment.snapshot.SamePlace subject other) (index : Option Nat) :
    ∃ value,
      evaluate (environment.catalog.read environment.snapshot environment.source key other index) =
        .ok value ∧
      environment.Settles
        (environment.catalog.read environment.snapshot environment.source key subject index)
        value := by
  have agree : ∀ subject, environment.snapshot.SamePlace subject other →
      Agree environment.Remembers (fun _ => False)
        (environment.catalog.read environment.snapshot environment.source key subject index)
        (environment.catalog.read environment.snapshot environment.answers key other index) := by
    intro subject place
    refine Catalog.read_agree (.inl known) place (fun smart => ?_) index
    obtain ⟨stat, found⟩ := sound.present key smart known
    have base : environment.stats.find? key.base = some stat := found
    exact sound.source_settles base place
  obtain ⟨value, plain, settles⟩ := settles_of_agree (agree subject place)
  obtain ⟨own, ownPlain, ownSettles⟩ := settles_of_agree (agree other rfl)
  have same : own = value := pure_injective (ownPlain.symm.trans plain)
  exact ⟨value, same ▸ ownSettles.evaluate, settles⟩

end Sound

end Environment

end Scouting
