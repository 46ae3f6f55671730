import Mathlib.Data.List.Basic
import Mathlib.Data.List.Forall2
import Scouting.Stat.Compilation

/-!
What a compiled plan can rely on: every key that it reads is known to the catalog that it was compiled
against, and every name in its expression is bound to one of these keys. A definition that does not
compile is never faulted for a cycle, so faults of that kind come from the search for cycles alone.
-/

namespace Scouting

section
variable {ε α β : Type}

theorem bind_eq_ok {action : Except ε α} {next : α → Except ε β} {result : β} :
    action >>= next = .ok result ↔ ∃ value, action = .ok value ∧ next value = .ok result := by
  cases action <;> simp [bind, Except.bind]

theorem pure_eq_ok {value result : α} : (pure value : Except ε α) = .ok result ↔ value = result := by
  simp [pure, Except.pure]

theorem toOption_map_eq_some {action : Except ε α} {f : α → β} {result : β} :
    action.toOption.map f = some result ↔ ∃ value, action = .ok value ∧ f value = result := by
  cases action <;> simp [Except.toOption]

theorem mapM_eq_ok {action : α → Except ε β} {items : List α} {results : List β} :
    items.mapM action = .ok results ↔
      List.Forall₂ (fun item result => action item = .ok result) items results := by
  induction items generalizing results with
  | nil =>
      rw [List.mapM_nil, pure_eq_ok, List.forall₂_nil_left_iff, eq_comm]
  | cons item rest ih =>
      simp only [List.mapM_cons, bind_eq_ok, pure_eq_ok, ih, List.forall₂_cons_left_iff]
      constructor
      · rintro ⟨result, first, others, later, rfl⟩
        exact ⟨result, others, first, later, rfl⟩
      · rintro ⟨result, others, first, later, rfl⟩
        exact ⟨result, first, others, later, rfl⟩

theorem exists_of_mem_mapM {action : α → Except ε β} {items : List α} {results : List β}
    (done : items.mapM action = .ok results) {result : β} (member : result ∈ results) :
    ∃ item ∈ items, action item = .ok result := by
  induction mapM_eq_ok.mp done with
  | nil => cases member
  | cons first rest ih =>
      rcases List.mem_cons.mp member with rfl | later
      · exact ⟨_, List.mem_cons_self, first⟩
      · obtain ⟨item, inItems, found⟩ := ih (mapM_eq_ok.mpr rest) later
        exact ⟨item, List.mem_cons_of_mem _ inItems, found⟩

theorem exists_result_of_mapM {action : α → Except ε β} {items : List α} {results : List β}
    (done : items.mapM action = .ok results) {item : α} (member : item ∈ items) :
    ∃ result ∈ results, action item = .ok result := by
  induction mapM_eq_ok.mp done with
  | nil => cases member
  | cons first rest ih =>
      rcases List.mem_cons.mp member with rfl | later
      · exact ⟨_, List.mem_cons_self, first⟩
      · obtain ⟨result, inResults, found⟩ := ih (mapM_eq_ok.mpr rest) later
        exact ⟨result, List.mem_cons_of_mem _ inResults, found⟩

end

theorem asReference_eq_ok {α : Type} {look : Except StatError α} {value : α} :
    asReference look = .ok value ↔ look = .ok value := by
  cases look <;> simp [asReference]

/-- Is every name in the plan's expression, if it has one, bound to a key that the plan reads? -/
def Plan.Binds : Plan → Prop
  | .math expression bindings =>
    ∀ name ∈ expression.names, ∃ key ∈ bindings.map (·.2), bindings.lookup name = some key
  | _ => True

def Plan.kind : Plan → OperatorKind
  | filter .. => .filter
  | map .. => .map
  | math .. => .math
  | extreme .. => .extreme
  | weightedRank _ => .weightedRank
  | repetitions .. => .repetitions
  | sum _ => .sum
  | ratio .. => .ratio
  | percent .. => .percent

namespace Catalog

/-- Is a key known, and its option declared? -/
def Knows (catalog : Catalog) (key : Key) : Prop := ∃ info, catalog.resolve key = .ok info

/-- A plan reads known keys only, and every name in its expression means one of them. -/
structure Grounds (catalog : Catalog) (plan : Plan) : Prop where
  known : ∀ key ∈ plan.keys, catalog.Knows key
  bound : plan.Binds

theorem reference_known {catalog : Catalog} {text : String} {key : Key} {info : KeyInfo}
    (found : catalog.reference text = .ok (key, info)) : catalog.resolve key = .ok info := by
  simp only [reference, bind_eq_ok, asReference_eq_ok, pure_eq_ok] at found
  obtain ⟨_, _, _, resolved, same⟩ := found
  cases same
  exact resolved

theorem numericKey_known {catalog : Catalog} {text : String} {key : Key}
    (found : catalog.numericKey text = .ok key) : catalog.Knows key := by
  simp only [numericKey, bind_eq_ok] at found
  obtain ⟨⟨other, info⟩, referred, accepted⟩ := found
  have same : other = key := by
    split at accepted
    · cases accepted
    · split at accepted
      · cases accepted
      · exact pure_eq_ok.mp accepted
    · exact pure_eq_ok.mp accepted
  exact same ▸ ⟨info, reference_known referred⟩

theorem numericKeys_known {catalog : Catalog} {texts : List String} {keys : List Key}
    (found : catalog.numericKeys texts = .ok keys) : ∀ key ∈ keys, catalog.Knows key := by
  intro key member
  rw [numericKeys] at found
  split at found
  · cases found
  · obtain ⟨_, _, referred⟩ := exists_of_mem_mapM found member
    exact numericKey_known referred

theorem numericKey?_known {catalog : Catalog} {text : Option String} {key : Option Key}
    (found : catalog.numericKey? text = .ok key) : ∀ inner ∈ key, catalog.Knows inner := by
  intro inner present
  cases text with
  | none =>
      cases pure_eq_ok.mp found
      cases present
  | some text =>
      simp only [numericKey?, bind_eq_ok, pure_eq_ok] at found
      obtain ⟨other, referred, rfl⟩ := found
      cases present
      exact numericKey_known referred

theorem weightedTerm_known {catalog : Catalog} {reference : WeightedReference}
    {term : WeightedTerm} (found : catalog.weightedTerm reference = .ok term) :
    catalog.Knows term.key := by
  simp only [weightedTerm, bind_eq_ok, pure_eq_ok] at found
  obtain ⟨key, referred, _, _, rfl⟩ := found
  exact numericKey_known referred

theorem filterPlan_grounded {catalog : Catalog} {key : Option String} {condition : String}
    {comparison : Comparison} {value : Json} {plan : Plan}
    (found : catalog.filterPlan key condition comparison value = .ok plan) :
    catalog.Grounds plan := by
  simp only [filterPlan, bind_eq_ok] at found
  obtain ⟨⟨other, info⟩, referred, accepted⟩ := found
  split at accepted
  · cases accepted
  · simp only [bind_eq_ok, pure_eq_ok] at accepted
    obtain ⟨kept, keptFound, _, _, rfl⟩ := accepted
    refine ⟨?_, trivial⟩
    intro inner member
    rcases List.mem_append.mp member with inKept | inCondition
    · exact numericKey?_known keptFound inner (Option.mem_toList.mp inKept)
    · exact List.mem_singleton.mp inCondition ▸ ⟨info, reference_known referred⟩

theorem mapPlan_grounded {catalog : Catalog} {reference : String} {table : List Float}
    {scale offset : Float} {plan : Plan}
    (found : catalog.mapPlan reference table scale offset = .ok plan) : catalog.Grounds plan := by
  simp only [mapPlan, bind_eq_ok] at found
  obtain ⟨⟨key, info⟩, referred, needed, _, accepted⟩ := found
  have same : Plan.map key table scale offset = plan := by
    split at accepted
    · split at accepted
      · cases accepted
      · exact pure_eq_ok.mp accepted
    · exact pure_eq_ok.mp accepted
  rw [← same]
  refine ⟨?_, trivial⟩
  intro inner member
  exact List.mem_singleton.mp member ▸ ⟨info, reference_known referred⟩

theorem lookup_of_mem_names {bindings : List (String × Key)} {name : String}
    (bound : name ∈ bindings.map (·.1)) :
    ∃ key ∈ bindings.map (·.2), bindings.lookup name = some key := by
  obtain ⟨key, look⟩ : ∃ key, bindings.lookup name = some key := by
    refine Option.ne_none_iff_exists'.mp fun unbound => ?_
    obtain ⟨binding, member, rfl⟩ := List.mem_map.mp bound
    simpa using List.lookup_eq_none_iff.mp unbound binding member
  obtain ⟨before, after, rfl, _⟩ := List.lookup_eq_some_iff.mp look
  exact ⟨key, by simp, look⟩

theorem names_of_bindings {catalog : Catalog} {references : List String}
    {bindings : List (String × Key)}
    (bound : (references.mapM fun name => do return (name, ← catalog.numericKey name)) =
      .ok bindings) : bindings.map (·.1) = references := by
  have names : List.Forall₂ (· = ·) references (bindings.map (·.1)) := by
    refine List.forall₂_map_right_iff.mpr ((mapM_eq_ok.mp bound).imp ?_)
    intro name binding referred
    simp only [bind_eq_ok, pure_eq_ok] at referred
    obtain ⟨_, _, rfl⟩ := referred
    rfl
  rw [List.forall₂_eq_eq_eq] at names
  exact names.symm

theorem mathPlan_grounded {catalog : Catalog} {source : String} {plan : Plan}
    (found : catalog.mathPlan source = .ok plan) : catalog.Grounds plan := by
  simp only [mathPlan] at found
  split at found
  · cases found
  · rename_i expression _
    obtain ⟨bindings, bound, same⟩ := bind_eq_ok.mp found
    cases pure_eq_ok.mp same
    refine ⟨?_, ?_⟩
    · intro key member
      obtain ⟨binding, inBindings, rfl⟩ := List.mem_map.mp member
      obtain ⟨name, _, referred⟩ := exists_of_mem_mapM bound inBindings
      simp only [bind_eq_ok, pure_eq_ok] at referred
      obtain ⟨key, known, rfl⟩ := referred
      exact numericKey_known known
    · intro name occurs
      refine lookup_of_mem_names ?_
      rw [names_of_bindings bound, Expression.references]
      exact List.mem_eraseDups.mpr occurs

theorem weightedRankPlan_grounded {catalog : Catalog} {references : List WeightedReference}
    {plan : Plan} (found : catalog.weightedRankPlan references = .ok plan) :
    catalog.Grounds plan := by
  rw [weightedRankPlan] at found
  split at found
  · cases found
  · simp only [bind_eq_ok, pure_eq_ok] at found
    obtain ⟨terms, referred, rfl⟩ := found
    refine ⟨?_, trivial⟩
    intro key member
    obtain ⟨term, inTerms, rfl⟩ := List.mem_map.mp member
    obtain ⟨_, _, termFound⟩ := exists_of_mem_mapM referred inTerms
    exact weightedTerm_known termFound

theorem repetitionsPlan_grounded {catalog : Catalog} {cycle : String}
    {conditions : Dictionary String Json} {sum denominator : Option String} {plan : Plan}
    (found : catalog.repetitionsPlan cycle conditions sum denominator = .ok plan) :
    catalog.Grounds plan := by
  simp only [repetitionsPlan, bind_eq_ok] at found
  obtain ⟨⟨key, info⟩, referred, accepted⟩ := found
  split at accepted
  · cases accepted
  · simp only [bind_eq_ok, pure_eq_ok] at accepted
    obtain ⟨_, _, _, _, _, _, rfl⟩ := accepted
    refine ⟨?_, trivial⟩
    intro inner member
    exact List.mem_singleton.mp member ▸ ⟨info, reference_known referred⟩

theorem numericPair_known {catalog : Catalog} {first second : String} {left right : Key}
    (leftFound : catalog.numericKey first = .ok left)
    (rightFound : catalog.numericKey second = .ok right) :
    ∀ key ∈ [left, right], catalog.Knows key := by
  intro key member
  rcases List.mem_pair.mp member with rfl | rfl
  · exact numericKey_known leftFound
  · exact numericKey_known rightFound

theorem plan_grounded {catalog : Catalog} {operator : Operator} {plan : Plan}
    (found : catalog.plan operator = .ok plan) : catalog.Grounds plan := by
  cases operator with
  | filter key condition comparison value => exact filterPlan_grounded found
  | map key table scale offset => exact mapPlan_grounded found
  | math source => exact mathPlan_grounded found
  | extreme extreme keys =>
      simp only [Catalog.plan, bind_eq_ok, pure_eq_ok] at found
      obtain ⟨keys, referred, rfl⟩ := found
      exact ⟨numericKeys_known referred, trivial⟩
  | weightedRank terms => exact weightedRankPlan_grounded found
  | repetitions cycle conditions sum denominator => exact repetitionsPlan_grounded found
  | sum keys =>
      simp only [Catalog.plan, bind_eq_ok, pure_eq_ok] at found
      obtain ⟨keys, referred, rfl⟩ := found
      exact ⟨numericKeys_known referred, trivial⟩
  | ratio numerator denominator =>
      simp only [Catalog.plan, bind_eq_ok, pure_eq_ok] at found
      obtain ⟨top, topFound, bottom, bottomFound, rfl⟩ := found
      exact ⟨numericPair_known topFound bottomFound, trivial⟩
  | percent numerator denominator =>
      simp only [Catalog.plan, bind_eq_ok, pure_eq_ok] at found
      obtain ⟨top, topFound, bottom, bottomFound, rfl⟩ := found
      exact ⟨numericPair_known topFound bottomFound, trivial⟩

theorem kind_of_plan {catalog : Catalog} {operator : Operator} {plan : Plan}
    (found : catalog.plan operator = .ok plan) : plan.kind = operator.kind := by
  cases operator with
  | filter key condition comparison value =>
      simp only [Catalog.plan, filterPlan, bind_eq_ok] at found
      obtain ⟨_, _, accepted⟩ := found
      split at accepted
      · cases accepted
      · simp only [bind_eq_ok, pure_eq_ok] at accepted
        obtain ⟨_, _, _, _, rfl⟩ := accepted
        rfl
  | map key table scale offset =>
      simp only [Catalog.plan, mapPlan, bind_eq_ok] at found
      obtain ⟨⟨key, info⟩, _, needed, _, accepted⟩ := found
      have same : Plan.map key table scale offset = plan := by
        split at accepted
        · split at accepted
          · cases accepted
          · exact pure_eq_ok.mp accepted
        · exact pure_eq_ok.mp accepted
      rw [← same]
      rfl
  | math source =>
      simp only [Catalog.plan, mathPlan] at found
      split at found
      · cases found
      · simp only [bind_eq_ok, pure_eq_ok] at found
        obtain ⟨_, _, rfl⟩ := found
        rfl
  | weightedRank terms =>
      simp only [Catalog.plan, weightedRankPlan] at found
      split at found
      · cases found
      · simp only [bind_eq_ok, pure_eq_ok] at found
        obtain ⟨_, _, rfl⟩ := found
        rfl
  | repetitions cycle conditions sum denominator =>
      simp only [Catalog.plan, repetitionsPlan, bind_eq_ok] at found
      obtain ⟨_, _, accepted⟩ := found
      split at accepted
      · cases accepted
      · simp only [bind_eq_ok, pure_eq_ok] at accepted
        obtain ⟨_, _, _, _, _, _, rfl⟩ := accepted
        rfl
  | extreme extreme keys =>
      simp only [Catalog.plan, bind_eq_ok, pure_eq_ok] at found
      obtain ⟨_, _, rfl⟩ := found
      rfl
  | sum keys =>
      simp only [Catalog.plan, bind_eq_ok, pure_eq_ok] at found
      obtain ⟨_, _, rfl⟩ := found
      rfl
  | ratio numerator denominator =>
      simp only [Catalog.plan, bind_eq_ok, pure_eq_ok] at found
      obtain ⟨_, _, _, _, rfl⟩ := found
      rfl
  | percent numerator denominator =>
      simp only [Catalog.plan, bind_eq_ok, pure_eq_ok] at found
      obtain ⟨_, _, _, _, rfl⟩ := found
      rfl

theorem names_of_math {catalog : Catalog} {operator : Operator} {expression : Expression}
    {bindings : List (String × Key)}
    (found : catalog.plan operator = .ok (.math expression bindings)) :
    bindings.map (·.1) = expression.references := by
  have kind := kind_of_plan found
  cases operator with
  | math source =>
      simp only [Catalog.plan, mathPlan] at found
      split at found
      · cases found
      · obtain ⟨_, bound, same⟩ := bind_eq_ok.mp found
        cases pure_eq_ok.mp same
        exact names_of_bindings bound
  | _ => cases kind

theorem plan_of_compile {catalog : Catalog} {definition : StatDefinition} {stat : Stat}
    (found : catalog.compile definition = .ok stat) :
    catalog.plan stat.definition.operator = .ok stat.plan := by
  simp only [compile, bind_eq_ok, pure_eq_ok] at found
  obtain ⟨plan, planned, rfl⟩ := found
  exact planned

theorem compile_eq_ok {catalog : Catalog} {definition : StatDefinition} {stat : Stat}
    (found : catalog.compile definition = .ok stat) :
    stat.definition = definition ∧ catalog.Grounds stat.plan := by
  simp only [compile, bind_eq_ok, pure_eq_ok] at found
  obtain ⟨plan, planned, rfl⟩ := found
  exact ⟨rfl, plan_grounded planned⟩

end Catalog

def BlamesNoCycle {α : Type} (check : Checked α) : Prop := ∀ path, check ≠ .error (.circular path)

namespace BlamesNoCycle

variable {α β : Type}

theorem pure (value : α) : BlamesNoCycle (Pure.pure value : Checked α) := by
  intro path same
  cases same

theorem asReference (look : Except StatError α) : BlamesNoCycle (asReference look) := by
  intro path same
  cases look <;> cases same

theorem bind {check : Checked α} {next : α → Checked β} (first : BlamesNoCycle check)
    (later : ∀ value, BlamesNoCycle (next value)) : BlamesNoCycle (check >>= next) := by
  intro path same
  cases outcome : check with
  | error fault =>
      rw [outcome] at same
      exact first path (outcome.trans (by cases same; rfl))
  | ok value =>
      rw [outcome] at same
      exact later value path same

theorem mapM {check : α → Checked β} (each : ∀ item, BlamesNoCycle (check item))
    (items : List α) : BlamesNoCycle (items.mapM check) := by
  induction items with
  | nil => exact pure []
  | cons item rest ih =>
      rw [List.mapM_cons]
      exact (each item).bind fun _ => ih.bind fun _ => pure _

theorem reference (catalog : Catalog) (text : String) : BlamesNoCycle (catalog.reference text) :=
  (asReference _).bind fun _ => (asReference _).bind fun _ => pure _

theorem numericKey (catalog : Catalog) (text : String) :
    BlamesNoCycle (catalog.numericKey text) := by
  refine (reference catalog text).bind ?_
  rintro ⟨key, info⟩ path same
  dsimp only at same
  repeat' split at same
  all_goals cases same

theorem numericKeys (catalog : Catalog) (texts : List String) :
    BlamesNoCycle (catalog.numericKeys texts) := by
  rw [Catalog.numericKeys]
  split
  · intro path same
    cases same
  · exact mapM (numericKey catalog) texts

theorem target (info : KeyInfo) (value : Json) : BlamesNoCycle (info.target value) := by
  intro path same
  simp only [KeyInfo.target] at same
  repeat' split at same
  all_goals cases same

theorem inCycle (catalog : Catalog) (cycle : Key) (text : String) :
    BlamesNoCycle (catalog.inCycle cycle text) := by
  refine (reference catalog text).bind ?_
  rintro ⟨key, info⟩ path same
  dsimp only at same
  split at same <;> cases same

theorem counterInCycle (catalog : Catalog) (cycle : Key) (text : Option String) :
    BlamesNoCycle (catalog.counterInCycle cycle text) := by
  cases text with
  | none => exact pure none
  | some text =>
      refine (inCycle catalog cycle text).bind fun info path same => ?_
      split at same <;> cases same

theorem filterPlan (catalog : Catalog) (key : Option String) (condition : String)
    (comparison : Comparison) (value : Json) :
    BlamesNoCycle (catalog.filterPlan key condition comparison value) := by
  refine (reference catalog condition).bind fun found => ?_
  have kept : BlamesNoCycle (catalog.numericKey? key) := by
    cases key with
    | none => exact pure none
    | some text => exact (numericKey catalog text).bind fun _ => pure _
  dsimp only
  split
  · intro path same
    cases same
  · exact kept.bind fun _ => (target found.2 value).bind fun _ => pure _

theorem mapPlan (catalog : Catalog) (text : String) (table : List Float) (scale offset : Float) :
    BlamesNoCycle (catalog.mapPlan text table scale offset) := by
  refine (reference catalog text).bind fun found => ?_
  refine BlamesNoCycle.bind (fun path same => ?_) fun needed path same => ?_
  · simp only [Catalog.tableSize?] at same
    repeat' split at same
    all_goals cases same
  · repeat' split at same
    all_goals cases same

theorem mathPlan (catalog : Catalog) (source : String) :
    BlamesNoCycle (catalog.mathPlan source) := by
  rw [Catalog.mathPlan]
  split
  · intro path same
    cases same
  · exact (mapM (fun name => (numericKey catalog name).bind fun _ => pure _) _).bind
      fun _ => pure _

theorem weightedRankPlan (catalog : Catalog) (terms : List WeightedReference) :
    BlamesNoCycle (catalog.weightedRankPlan terms) := by
  rw [Catalog.weightedRankPlan]
  split
  · intro path same
    cases same
  · refine BlamesNoCycle.bind (mapM (fun term => ?_) terms) fun _ => pure _
    exact (numericKey catalog term.reference).bind fun _ => (asReference _).bind fun _ => pure _

theorem repetitionsPlan (catalog : Catalog) (cycle : String) (conditions : Dictionary String Json)
    (sum denominator : Option String) :
    BlamesNoCycle (catalog.repetitionsPlan cycle conditions sum denominator) := by
  refine (reference catalog cycle).bind fun found => ?_
  dsimp only
  split
  · intro path same
    cases same
  · refine BlamesNoCycle.bind (mapM (fun entry => ?_) conditions.entries) fun _ => ?_
    · exact (inCycle catalog found.1 entry.1).bind fun input =>
        (target input entry.2).bind fun _ => pure _
    · exact (counterInCycle catalog found.1 sum).bind fun _ =>
        (counterInCycle catalog found.1 denominator).bind fun _ => pure _

theorem compile (catalog : Catalog) (definition : StatDefinition) :
    BlamesNoCycle (catalog.compile definition) := by
  refine BlamesNoCycle.bind ?_ fun _ => pure _
  cases definition.operator with
  | filter key condition comparison value => exact filterPlan catalog key condition comparison value
  | map key table scale offset => exact mapPlan catalog key table scale offset
  | math source => exact mathPlan catalog source
  | extreme extreme keys => exact (numericKeys catalog keys).bind fun _ => pure _
  | weightedRank terms => exact weightedRankPlan catalog terms
  | repetitions cycle conditions sum denominator =>
      exact repetitionsPlan catalog cycle conditions sum denominator
  | sum keys => exact (numericKeys catalog keys).bind fun _ => pure _
  | ratio numerator denominator =>
      exact (numericKey catalog numerator).bind fun _ =>
        (numericKey catalog denominator).bind fun _ => pure _
  | percent numerator denominator =>
      exact (numericKey catalog numerator).bind fun _ =>
        (numericKey catalog denominator).bind fun _ => pure _

end BlamesNoCycle

end Scouting
