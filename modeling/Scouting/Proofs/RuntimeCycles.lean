import Mathlib.Data.List.Chain
import Mathlib.Logic.Relation
import Scouting.Proofs.Remembering

/-!
Evaluation where stats may need their own values. Nothing is assumed of the stats: they may read
each other in circles, read keys that nobody knows, and leave names unbound. With the stats under
way on a stack, on which each of them is pushed before it is computed and from which it is taken
afterwards, an evaluation nests no deeper than there are stats and leaves the stack as it found it.
What it reports as circular is a walk along references that comes back to one of its stats.
-/

namespace Scouting

theorem Stat.base_of_mem_dependencies {stat : Stat} {key : Key} (reads : key ∈ stat.dependencies) :
    key.base = key := by
  obtain ⟨named, _, rfl⟩ := List.mem_map.mp reads
  rfl

namespace Environment

/-- What an evaluation keeps: the values that it found, and the stats that are under way. -/
structure Visit where
  memo : Memo
  stack : List Key

namespace Visit

def push (key : Key) (visit : Visit) : Visit := { visit with stack := visit.stack ++ [key] }

def pop (visit : Visit) : Visit := { visit with stack := visit.stack.dropLast }

def remember (key : Key) (subject : Subject) (value : Value) (visit : Visit) : Visit :=
  { visit with memo := ((key, subject), value) :: visit.memo }

end Visit

def attempt {σ α : Type} (action : Run σ α) : Run σ (Except StatError α) :=
  tryCatch (.ok <$> action) fun error => return .error error

/-- The value of a stat, with the stats under way on a stack and calls nested no deeper than said.
An empty path stands for calls that would have to be nested deeper. -/
def stackedValue (environment : Environment) : Nat → Source Visit
  | 0, _, _ => throw (.circular [])
  | depth + 1, key, subject =>
    match environment.stats.find? key with
    | none => throw (.unknownKey key.text)
    | some stat => do
      let visit ← get
      match visit.memo.lookup (stat.key, stat.scope subject) with
      | some value => return value
      | none =>
        if stat.key ∈ visit.stack then throw (.circular (visit.stack ++ [stat.key]))
        else do
          modify (Visit.push stat.key)
          let outcome ← attempt
            (environment.compute (stackedValue environment depth) stat (stat.scope subject))
          modify Visit.pop
          let value ← ofExcept outcome
          modify (Visit.remember stat.key (stat.scope subject) value)
          return value

variable {environment : Environment}

theorem attempt_run {σ α : Type} (action : Run σ α) (state : σ) :
    (attempt action).run.run state =
      (.ok (action.run.run state).1, (action.run.run state).2) := by
  rw [attempt, run_tryCatch, map_eq_pure_bind, run_bind]
  rcases action.run.run state with ⟨_ | _, after⟩
  · rfl
  · rfl

theorem stackedValue_run {key : Key} {stat : Stat} (found : environment.stats.find? key = some stat)
    (depth : Nat) (subject : Subject) (visit : Visit) :
    (environment.stackedValue (depth + 1) key subject).run.run visit =
      match visit.memo.lookup (stat.key, stat.scope subject) with
      | some value => (.ok value, visit)
      | none =>
        if stat.key ∈ visit.stack then (.error (.circular (visit.stack ++ [stat.key])), visit)
        else
          match (environment.compute (environment.stackedValue depth) stat
            (stat.scope subject)).run.run (visit.push stat.key) with
          | (.ok value, after) =>
            (.ok value, after.pop.remember stat.key (stat.scope subject) value)
          | (.error error, after) => (.error error, after.pop) := by
  simp only [stackedValue, found]
  rw [run_bind]
  change (match visit.memo.lookup (stat.key, stat.scope subject) with
    | some value => _ | none => _ : Run Visit Value).run.run visit = _
  cases visit.memo.lookup (stat.key, stat.scope subject) with
  | some value => rfl
  | none =>
      dsimp only
      split
      · rfl
      · rw [run_bind]
        change (attempt _ >>= _ : Run Visit Value).run.run (visit.push stat.key) = _
        rw [run_bind, attempt_run]
        rcases (environment.compute (environment.stackedValue depth) stat
          (stat.scope subject)).run.run (visit.push stat.key) with ⟨_ | _, after⟩
        · rfl
        · rfl

theorem smartValue_unknown {key : Key} (unknown : environment.stats.find? key = none)
    (way : List Key) (subject : Subject) :
    environment.smartValue way key subject = throw (.unknownKey key.text) := by
  rw [smartValue]
  split
  · rfl
  · rename_i stat found
    cases unknown.symm.trans found

theorem compute_alike {σ τ : Type} {related : σ → τ → Prop} {allowed : StatError → Prop}
    {source : Source σ} {otherSource : Source τ} {stat : Stat}
    (unknown : ∀ text, allowed (.unknownKey text))
    (reads : ∀ key ∈ stat.dependencies, ∀ subject,
      Agree related allowed (source key subject) (otherSource key subject)) (subject : Subject) :
    Agree related allowed (environment.compute source stat subject)
      (environment.compute otherSource stat subject) := by
  refine compute_agree (.inr unknown) Eq.refl ?_ ?_ rfl
  · rintro subject _ rfl
    exact Snapshot.SamePlace.refl environment.snapshot subject
  · rintro key member subject _ rfl
    exact reads key member subject

/-- What a run keeps beside the way that it is given: the same values, and the way as its stack. -/
def Follows (way : List Key) (memo : Memo) (visit : Visit) : Prop :=
  visit.memo = memo ∧ visit.stack = way

theorem smartValue_follows (depth : Nat) {way : List Key}
    (deep : (environment.stats.off way).length < depth) (key : Key) (subject : Subject) :
    Agree (Follows way) (fun _ => True) (environment.smartValue way key subject)
      (environment.stackedValue depth key subject) := by
  induction depth generalizing way key subject with
  | zero => exact absurd deep (Nat.not_lt_zero _)
  | succ depth ih =>
      cases found : environment.stats.find? key with
      | none =>
          rw [smartValue_unknown found]
          simp only [stackedValue, found]
          exact Agree.throw trivial
      | some stat =>
          rintro _ ⟨memo, stack⟩ ⟨rfl, rfl⟩
          rw [smartValue_run found, stackedValue_run found]
          dsimp only
          cases memo.lookup (stat.key, stat.scope subject) with
          | some value => exact ⟨_, _, _, rfl, rfl, ⟨rfl, rfl⟩, fun _ _ => trivial⟩
          | none =>
              dsimp only
              split
              · exact ⟨_, _, _, rfl, rfl, ⟨rfl, rfl⟩, fun _ _ => trivial⟩
              · rename_i offWay
                have deeper := Nat.lt_of_lt_of_le (StatSet.length_off_lt found offWay)
                  (Nat.le_of_lt_succ deep)
                obtain ⟨outcome, after, visit, ran, stackedRan, ⟨rfl, pushed⟩, _⟩ :=
                  compute_alike (fun _ => trivial) (fun key _ subject => ih deeper key subject)
                    (stat.scope subject) memo (Visit.push stat.key ⟨memo, stack⟩) ⟨rfl, rfl⟩
                have popped : visit.pop.stack = stack := by
                  rw [Visit.pop, pushed, List.dropLast_concat]
                rw [ran, stackedRan]
                cases outcome with
                | error error => exact ⟨_, _, _, rfl, rfl, ⟨rfl, popped⟩, fun _ _ => trivial⟩
                | ok value => exact ⟨_, _, _, rfl, rfl, ⟨rfl, popped⟩, fun _ _ => trivial⟩

theorem agree_self_iff {σ α : Type} {allowed : StatError → Prop} {action : Run σ α} :
    Agree Eq allowed action action ↔
      ∀ state error, (action.run.run state).1 = .error error → allowed error := by
  constructor
  · intro agree state error failed
    obtain ⟨_, _, _, ran, _, _, may⟩ := agree state state rfl
    rw [ran] at failed
    exact may error failed
  · rintro may state _ rfl
    exact ⟨_, _, _, rfl, rfl, rfl, may state⟩

def References (environment : Environment) (source target : Key) : Prop :=
  ∃ stat, environment.stats.find? source = some stat ∧ target ∈ stat.dependencies

/-- A path that follows the stats on the way and goes on along references, from a stat to one that
is on the path already. -/
structure Circles (environment : Environment) (way : List Key) (start : Key) (path : List Key) :
    Prop where
  goesOn : ∃ rest, path = way ++ start :: rest ∧ (start :: rest).IsChain environment.References
  comesBack : ∃ front last, path = front ++ [last] ∧ last ∈ front

/-- What a failure says about circles is true. -/
def Truthful (environment : Environment) (way : List Key) (start : Key) (error : StatError) :
    Prop :=
  ∀ path, error = .circular path → environment.Circles way start path

theorem Circles.before {way : List Key} {source target : Key} {path : List Key}
    (circles : environment.Circles (way ++ [source]) target path)
    (references : environment.References source target) : environment.Circles way source path := by
  obtain ⟨⟨rest, rfl, follows⟩, comesBack⟩ := circles
  refine ⟨⟨target :: rest, by simp, ?_⟩, comesBack⟩
  exact List.isChain_cons_cons.mpr ⟨references, follows⟩

theorem circles_of_mem {way : List Key} {key : Key} (onWay : key ∈ way) :
    environment.Circles way key (way ++ [key]) :=
  ⟨⟨[], rfl, List.isChain_singleton key⟩, ⟨way, key, rfl, onWay⟩⟩

theorem smartValue_eq_error {way : List Key} {key : Key} {stat : Stat} {subject : Subject}
    {memo : Memo} {error : StatError} (found : environment.stats.find? key = some stat)
    (failed : ((environment.smartValue way key subject).run.run memo).1 = .error error) :
    stat.key ∈ way ∧ error = .circular (way ++ [stat.key]) ∨
      stat.key ∉ way ∧ ((environment.compute (environment.smartValue (way ++ [stat.key])) stat
        (stat.scope subject)).run.run memo).1 = .error error := by
  rw [smartValue_run found] at failed
  cases look : memo.lookup (stat.key, stat.scope subject) with
  | some value =>
      rw [look] at failed
      cases failed
  | none =>
      simp only [look] at failed
      split at failed
      · rename_i onWay
        exact .inl ⟨onWay, (Except.error.inj failed).symm⟩
      · rename_i offWay
        refine .inr ⟨offWay, ?_⟩
        rcases ran : (environment.compute (environment.smartValue (way ++ [stat.key])) stat
          (stat.scope subject)).run.run memo with ⟨_ | _, after⟩
        · rw [ran] at failed
          exact failed
        · rw [ran] at failed
          cases failed

theorem smartValue_truthful (way : List Key) (key : Key) (subject : Subject) :
    Agree Eq (environment.Truthful way key.base) (environment.smartValue way key subject)
      (environment.smartValue way key subject) := by
  induction height : (environment.stats.off way).length using Nat.strongRecOn
    generalizing way key subject with
  | ind height ih =>
      subst height
      cases found : environment.stats.find? key with
      | none =>
          rw [smartValue_unknown found]
          exact Agree.throw nofun
      | some stat =>
          have base : stat.key = key.base := by simpa using List.find?_some found
          refine agree_self_iff.mpr fun memo error failed => ?_
          rcases smartValue_eq_error found failed with ⟨onWay, rfl⟩ | ⟨offWay, failed⟩
          · rintro _ ⟨⟩
            rw [base] at onWay ⊢
            exact circles_of_mem onWay
          · refine agree_self_iff.mp (compute_alike (fun _ => nofun)
              (fun dependency reads subject => ?_) _) memo error failed
            have nested := ih _ (StatSet.length_off_lt found offWay) (way ++ [stat.key]) dependency
              subject rfl
            refine nested.mono fun error truthful path circular => ?_
            rw [base, Stat.base_of_mem_dependencies reads] at truthful
            exact (truthful path circular).before ⟨stat, found, reads⟩

open Relation

theorem Circles.leads {start : Key} {path : List Key}
    (circles : environment.Circles [] start path) :
    ∃ last, TransGen environment.References start last ∧
      TransGen environment.References last last := by
  obtain ⟨⟨rest, rfl, follows⟩, ⟨front, last, split, member⟩⟩ := circles
  rw [List.nil_append] at split
  have ordered : (front ++ [last]).Pairwise (TransGen environment.References) := by
    rw [← split]
    exact List.isChain_iff_pairwise.mp (follows.imp fun _ _ => TransGen.single)
  have toLast : ∀ key ∈ front, TransGen environment.References key last := by
    intro key onWay
    exact (List.pairwise_append.mp ordered).2.2 key onWay last List.mem_cons_self
  cases front with
  | nil => cases member
  | cons first others =>
      obtain ⟨rfl, _⟩ := List.cons.inj split
      exact ⟨last, toLast start List.mem_cons_self, toLast last member⟩

theorem circles_of_evaluate {key : Key} {subject : Subject} {path : List Key}
    (circular : evaluate (environment.source key subject) = .error (.circular path)) :
    environment.Circles [] key.base path :=
  agree_self_iff.mp (smartValue_truthful [] key subject) [] (.circular path) circular path rfl

/-- Whatever the stats and the catalog are, a call ends with calls nested no deeper than there are
stats off the stack, and leaves the stack as it found it. What an evaluation reports as circular
starts at the stat, goes on along references, and ends at a stat that it went through; where no stat
that is reached leads to itself, nothing is reported as circular. -/
theorem evaluation_ends (environment : Environment) :
    (∀ depth visit, (environment.stats.off visit.stack).length < depth → ∀ key subject,
      let call := (environment.smartValue visit.stack key subject).run.run visit.memo
      (environment.stackedValue depth key subject).run.run visit =
        (call.1, { memo := call.2, stack := visit.stack })) ∧
    (∀ key subject,
      ((environment.stackedValue (environment.stats.size + 1) key subject).run.run ⟨[], []⟩).1 =
        evaluate (environment.source key subject)) ∧
    (∀ key subject path, evaluate (environment.source key subject) = .error (.circular path) →
      path.head? = some key.base ∧ path.IsChain environment.References ∧
        ∃ front last, path = front ++ [last] ∧ last ∈ front) ∧
    ∀ key subject,
      (∀ read, ReflTransGen environment.References key.base read →
        ¬TransGen environment.References read read) →
      ∀ path, evaluate (environment.source key subject) ≠ .error (.circular path) := by
  have stacked : ∀ depth visit, (environment.stats.off visit.stack).length < depth →
      ∀ key subject,
        let call := (environment.smartValue visit.stack key subject).run.run visit.memo
        (environment.stackedValue depth key subject).run.run visit =
          (call.1, { memo := call.2, stack := visit.stack }) := by
    intro depth visit deep key subject call
    obtain ⟨outcome, memo, after, ran, stackedRan, ⟨rfl, left⟩, _⟩ :=
      smartValue_follows depth deep key subject visit.memo visit ⟨rfl, rfl⟩
    simp only [call, ran, stackedRan, ← left]
  refine ⟨stacked, fun key subject => ?_, fun key subject path circular => ?_,
    fun key subject acyclic path circular => ?_⟩
  · have enough : (environment.stats.off []).length < environment.stats.size + 1 :=
      Nat.lt_succ_of_le (List.length_filter_le _ _)
    rw [stacked _ ⟨[], []⟩ enough key subject]
    rfl
  · obtain ⟨⟨rest, rfl, follows⟩, comesBack⟩ := circles_of_evaluate circular
    exact ⟨rfl, follows, comesBack⟩
  · obtain ⟨last, reached, circle⟩ := (circles_of_evaluate circular).leads
    exact acyclic last reached.to_reflTransGen circle

def circle : Environment :=
  let reads (id other : String) : Stat :=
    ⟨⟨id, "", .sum ["smart." ++ other], false, false, none⟩, .sum [Key.smart other]⟩
  let stats := [reads "x" "y", reads "y" "x"]
  { stats := ⟨stats⟩
    snapshot := Snapshot.ofTeams []
    catalog := (stats.map fun stat => stat.definition.info).foldl Catalog.insert
      (Catalog.ofFields [] OfficialResults.empty)
    fallback := .mean }

example :
    (match evaluate (circle.source (Key.smart "x") (Subject.inMatch 1 "e_qm1")) with
      | .error (.circular path) => path
      | _ => []) = [Key.smart "x", Key.smart "y", Key.smart "x"] := by
  decide +kernel

end Environment

end Scouting
