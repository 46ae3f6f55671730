import Scouting.Proofs.LookAlikes

/-!
Answers do not depend on the order in which records arrive, as long as it does not decide which of
them counts: where one record alone was touched last, that one counts in every order.
-/

namespace Scouting

/-- Was only one of some records touched last? -/
def HasClearLatest (records : List Record) : Prop :=
  ∀ first ∈ records, ∀ second ∈ records,
    (∀ record ∈ records, record.touched ≤ first.touched) →
      (∀ record ∈ records, record.touched ≤ second.touched) → first = second

theorem hasClearLatest_filter {records : List Record} (test : Record → Bool)
    (distinct : ∀ first ∈ records, ∀ second ∈ records,
      first.touched = second.touched → first = second) :
    HasClearLatest (records.filter test) := by
  intro first firstIn second secondIn greatest alsoGreatest
  exact distinct first (List.mem_filter.mp firstIn).1 second (List.mem_filter.mp secondIn).1
    (le_antisymm (alsoGreatest first firstIn) (greatest second secondIn))

namespace Snapshot

theorem counting_perm {records others : List Record} (perm : records.Perm others)
    (clear : HasClearLatest records) : counting none records = counting none others := by
  by_cases empty : records = []
  · subst empty
    rw [perm.nil_eq]
  · have alsoNonempty : others ≠ [] := fun none => empty (none ▸ perm).eq_nil
    obtain ⟨record, counts, isLatest⟩ := exists_counting empty
    obtain ⟨other, alsoCounts, alsoLatest⟩ := exists_counting alsoNonempty
    obtain ⟨member, greatest⟩ := isLatest.greatest
    obtain ⟨alsoMember, alsoGreatest⟩ := alsoLatest.greatest
    rw [counts, alsoCounts, clear record member other (perm.mem_iff.mpr alsoMember) greatest
      fun earlier listed => alsoGreatest earlier (perm.mem_iff.mp listed)]

theorem infos_take (snapshot : Snapshot) (record : Record) :
    (snapshot.take record).infos = snapshot.infos := by
  simp only [take]
  split
  · rfl
  · rfl
  · rfl

theorem infos_ofStore (store : Store) (infos : List TeamInfo) :
    (ofStore store infos).infos = (ofTeams infos).infos := by
  rw [ofStore]
  generalize ofTeams infos = snapshot
  induction store.records.filter fun record => !record.ignored generalizing snapshot with
  | nil => rfl
  | cons record rest ih => rw [List.foldl_cons, ih, infos_take]

section
variable {records others : List Record} (perm : records.Perm others) (infos : List TeamInfo)
include perm

theorem teams_perm : (ofStore ⟨records⟩ infos).teams = (ofStore ⟨others⟩ infos).teams := by
  refine eq_of_increasing (fun _ _ => Nat.lt_asymm) (teams_increasing _) (teams_increasing _) ?_
  intro team
  simp only [mem_teams_ofStore, perm.mem_iff]

theorem looksAlike_perm
    (played : ∀ team matchKey, HasClearLatest (records.filter fun record =>
      !record.ignored && record.isPlayedBy team matchKey))
    (pit : ∀ team, HasClearLatest (records.filter fun record =>
      !record.ignored && record.isPitOf team)) (team : Nat) :
    (ofStore ⟨records⟩ infos).LooksAlike (ofStore ⟨others⟩ infos) team where
  info := by rw [info?, info?, infos_ofStore, infos_ofStore]
  pit := by
    rw [pitRecord?_ofStore, pitRecord?_ofStore, counting_perm (perm.filter _) (pit team)]
  played := by
    intro matchKey
    rw [playedRecord?_ofStore, playedRecord?_ofStore,
      counting_perm (perm.filter _) (played team matchKey)]

end

end Snapshot

namespace Event

/-- Where no two records of a team in a match, or of a team in the pit, compete for being the one
that was touched last, the order in which records arrive makes no difference to any answer: every
key has the same values, aggregates and rankings, and the teams are the same. -/
theorem order_of_arrival {records others : List Record} (perm : records.Perm others)
    (played : ∀ team matchKey, HasClearLatest (records.filter fun record =>
      !record.ignored && record.isPlayedBy team matchKey))
    (pit : ∀ team, HasClearLatest (records.filter fun record =>
      !record.ignored && record.isPitOf team))
    (config : Configuration) (official : OfficialResults) (settings : Settings) :
    let event := ofInputs records config official settings
    let other := ofInputs others config official settings
    event.teams = other.teams ∧
    ∀ key, (∀ subject index, event.read key subject index = other.read key subject index) ∧
      (∀ subject function, event.stat key subject function = other.stat key subject function) ∧
      (∀ teams function, event.teamStats key teams function = other.teamStats key teams function) ∧
      ∀ teams function, event.ranking key teams function = other.ranking key teams function := by
  intro event other
  have teams : event.teams = other.teams := Snapshot.teams_perm perm config.teams
  have looks : event.environment.LooksAlike other.environment (fun _ => True) fun _ => True :=
    { stats := rfl
      catalog := rfl
      fallback := rfl
      teams := fun team _ => Snapshot.looksAlike_perm perm config.teams played pit team
      closed := fun _ _ _ _ _ => trivial
      everyone := fun _ _ _ _ _ => ⟨teams, fun _ => trivial⟩ }
  have sound : event.environment.Sound := sound_ofInputs records config official settings
  have also : other.environment.Sound := sound_ofInputs others config official settings
  refine ⟨teams, fun key => ⟨fun subject index => ?_, fun subject function => ?_,
    fun teams function => ?_, fun teams function => ?_⟩⟩
  · exact read_eq_of_alike looks sound also (fun _ => trivial) trivial index
  · refine stat_eq_of_alike looks sound also (fun _ => trivial) subject function ?_
      fun _ _ => trivial
    cases subject with
    | some subject => rfl
    | none => rw [pooled, pooled, teams]
  · exact teamStats_eq_of_alike looks sound also (fun _ => trivial) (fun _ _ => trivial) function
  · exact ranking_eq_of_alike looks sound also (fun _ => trivial) (fun _ _ => trivial) function

def counted (second : Int) (count : Int) : Record :=
  let fields := Dictionary.ofList [("auto", Recorded.integer count)]
  ⟨7, some "a_qm1", none, .played, false, "", false, none, some ⟨second, 0⟩, none, fields, none,
    none⟩

theorem order_of_arrival_small :
    [counted 0 3, counted 5 4].Perm [counted 5 4, counted 0 3] ∧
    (∀ team matchKey, HasClearLatest ([counted 0 3, counted 5 4].filter fun record =>
      !record.ignored && record.isPlayedBy team matchKey)) ∧
    (∀ team, HasClearLatest ([counted 0 3, counted 5 4].filter fun record =>
      !record.ignored && record.isPitOf team)) ∧
    ∀ teams function,
      (ofInputs [counted 0 3, counted 5 4] small.config OfficialResults.empty
        Settings.standard).ranking (Key.smart "double") teams function =
      (ofInputs [counted 5 4, counted 0 3] small.config OfficialResults.empty
        Settings.standard).ranking (Key.smart "double") teams function := by
  have distinct : ∀ first ∈ [counted 0 3, counted 5 4], ∀ second ∈ [counted 0 3, counted 5 4],
      first.touched = second.touched → first = second := by
    have apart : (counted 0 3).touched ≠ (counted 5 4).touched := by decide
    simp only [List.mem_cons, List.not_mem_nil, or_false]
    rintro first (rfl | rfl) second (rfl | rfl) same
    · rfl
    · exact absurd same apart
    · exact absurd same.symm apart
    · rfl
  have perm : [counted 0 3, counted 5 4].Perm [counted 5 4, counted 0 3] := List.Perm.swap _ _ _
  have played : ∀ team matchKey, HasClearLatest ([counted 0 3, counted 5 4].filter fun record =>
      !record.ignored && record.isPlayedBy team matchKey) :=
    fun _ _ => hasClearLatest_filter _ distinct
  have pit : ∀ team, HasClearLatest ([counted 0 3, counted 5 4].filter fun record =>
      !record.ignored && record.isPitOf team) :=
    fun _ => hasClearLatest_filter _ distinct
  have same := order_of_arrival perm played pit small.config OfficialResults.empty Settings.standard
  exact ⟨perm, played, pit, (same.2 (Key.smart "double")).2.2.2⟩

end Event

end Scouting
