import SimPilot.IntentCompiler.Validation
import SimPilot.Runtime.Policy
/-!
# What the compiler accepts and what the runtime enforces

The validator and the policy engine read the same untyped parameters with different
code. The validator takes a string and a list of strings for either key of either
constraint type (`_action_values`); the policy engine takes a string for `action` and a
list for `actions` and skips everything else. `enforced_iff`: an accepted specification
is enforced exactly when the constraints the policy engine skips follow from those it
reads.
-/

namespace SimPilot.IntentCompiler

/-- The actions a constraint permits, as the validator collects it. -/
def admits (c : Constraint) (type : String) : Prop :=
  type ∉ forbiddenSet c ∧ ∀ allowed ∈ allowedSet c, type ∈ allowed

/-- The shapes the validator accepts and the policy engine skips: a list under the
`action` of either type, a string under the `actions` of `allowed_action`. -/
def skipped (c : Constraint) : Bool :=
  match c.type with
  | .forbiddenAction => (c.string "action").isNone
  | .allowedAction =>
    if c.parameters.contains "actions" then (c.string "actions").isSome else (c.string "action").isNone
  | _ => false

/-- The constraints of `spec` the policy engine skips permit whatever the ones it reads permit. -/
def SkippedFollow (spec : TaskSpecification) : Prop :=
  ∀ c ∈ spec.constraints, skipped c = true → ∀ type : NonEmptyString,
    PolicyEngine.permits spec type.val = true → admits c type.val

/-- Every action the policy engine allows keeps to the sets the validator collected. -/
def Enforced (spec : TaskSpecification) : Prop :=
  ∀ (action : Action) (observation : Observation) (totalSpend : ℚ) (validation : AdapterValidation),
    (PolicyEngine.evaluate spec action observation totalSpend validation).allowed = true →
      action.type.val ∉ forbidden spec ∧ ∀ allowed ∈ allowedSets spec, action.type.val ∈ allowed

/-! ## Reading one accepted constraint -/

theorem str?_eq_some {v : JsonValue} {s : String} (h : v.str? = some s) : v = .str s := by
  cases v <;> simp_all [JsonValue.str?]

/-- A value is not both a string and a list of strings. -/
theorem str?_of_strings? {v : JsonValue} {values : List String} (h : v.strings? = some values) : v.str? = none := by
  cases v <;> simp_all [JsonValue.strings?, JsonValue.str?]

theorem actionValues_eq_some {value : Option JsonValue} {actions : List String}
    (h : actionValues value = some actions) :
    (∃ s, value = some (.str s) ∧ actions = [s]) ∨
      ∃ v values, value = some v ∧ v.strings? = some values ∧ actions = values.dedup ∧ v.str? = none := by
  unfold actionValues at h
  split at h
  · rename_i s
    exact .inl ⟨s, rfl, by simpa using h.symm⟩
  · rename_i v _
    obtain ⟨values, hv, rfl⟩ := Option.map_eq_some_iff.1 h
    exact .inr ⟨v, values, rfl, hv, rfl, str?_of_strings? hv⟩
  · cases h

/-- A `forbidden_action` constraint that is accepted and not skipped forbids the same
action on both sides. -/
theorem forbiddenSet_eq {c : Constraint} (hs : skipped c = false) :
    forbiddenSet c = (PolicyEngine.forbiddenAction c).toList := by
  unfold forbiddenSet PolicyEngine.forbiddenAction
  split
  · rename_i ht
    simp only [skipped, ht, Option.isNone_eq_false_iff, Option.isSome_iff_exists] at hs
    obtain ⟨s, hstr⟩ := hs
    obtain ⟨v, hv, hvs⟩ := Option.bind_eq_some_iff.1 hstr
    obtain rfl := str?_eq_some hvs
    simp [hv, actionValues, hstr]
  · rfl

/-- So does an `allowed_action` constraint. -/
theorem allowedSet_eq {c : Constraint} {catalog : CompilerCapabilityCatalog} {index : Nat}
    (hc : constraintErrors catalog c index = []) (hs : skipped c = false) :
    (∀ type, (∀ allowed ∈ allowedSet c, type ∈ allowed) ↔ ∀ allowed ∈ PolicyEngine.allowedSet c, type ∈ allowed) := by
  intro type
  by_cases ht : c.type = .allowedAction
  on_goal 2 => simp [allowedSet, PolicyEngine.allowedSet, ht]
  simp only [constraintErrors, ht, List.append_eq_nil_iff] at hc
  have hset := hc.2
  -- the validator read a set
  cases hv : allowedSet c with
  | none => simp [hv] at hset
  | some actions =>
    have hread : actionValues (c.parameters.get (allowedKey c)) = some actions := by
      simp only [allowedSet, ht, if_true] at hv
      cases ha : actionValues (c.parameters.get (allowedKey c)) with
      | none => simp [ha] at hv
      | some a =>
        simp only [ha] at hv
        split at hv
        · cases hv
        · exact hv
    unfold PolicyEngine.allowedSet
    simp only [ht, if_true]
    simp only [skipped, ht] at hs
    by_cases hk : c.parameters.contains "actions"
    · -- `actions` is present: not skipped means it is a list
      simp only [allowedKey, hk, if_true] at hread hs
      rcases actionValues_eq_some hread with ⟨s, hs', -⟩ | ⟨v, values, hv', hvs, rfl, -⟩
      · simp [Constraint.string, hs', JsonValue.str?] at hs
      · simp [hv', hvs]
    · -- `action` is the only key: not skipped means it is a string
      simp only [allowedKey, hk, Bool.false_eq_true, if_false] at hread hs
      have hnone : c.parameters.get "actions" = none := by
        simpa [Assoc.contains] using hk
      rcases actionValues_eq_some hread with ⟨s, hs', rfl⟩ | ⟨v, values, hv', -, -, hstr⟩
      · simp [hnone, Constraint.string, hs', JsonValue.str?]
      · simp [Constraint.string, hv', hstr] at hs

theorem admits_of_permits {spec : TaskSpecification} {catalog : CompilerCapabilityCatalog} {c : Constraint}
    {index : Nat} (hm : c ∈ spec.constraints) (hc : constraintErrors catalog c index = []) (hs : skipped c = false)
    {type : String} (hp : PolicyEngine.permits spec type = true) : admits c type := by
  simp only [PolicyEngine.permits, Bool.and_eq_true, decide_eq_true_eq, List.all_eq_true] at hp
  refine ⟨fun hf => hp.1 ?_, (allowedSet_eq hc hs type).2 fun allowed ha => hp.2 allowed ?_⟩
  · rw [forbiddenSet_eq hs, Option.mem_toList] at hf
    exact List.mem_append_right _ (List.mem_filterMap.2 ⟨c, hm, hf⟩)
  · exact List.mem_filterMap.2 ⟨c, hm, ha⟩

theorem admits_all_iff {spec : TaskSpecification} {type : String} :
    (type ∉ forbidden spec ∧ ∀ allowed ∈ allowedSets spec, type ∈ allowed) ↔
      type ∉ spec.authority.forbiddenActions.map (·.val) ∧ ∀ c ∈ spec.constraints, admits c type := by
  simp only [forbidden, allowedSets, List.mem_append, not_or, List.mem_flatMap, not_exists, not_and,
    List.mem_filterMap, admits, forall_exists_index, and_imp, Option.mem_def]
  constructor
  · rintro ⟨⟨ha, hf⟩, hs⟩
    exact ⟨ha, fun c hc => ⟨hf c hc, fun allowed h => hs allowed c hc h⟩⟩
  · rintro ⟨ha, h⟩
    exact ⟨⟨ha, fun c hc => (h c hc).1⟩, fun allowed c hc hal => (h c hc).2 allowed hal⟩

/-! ## A situation in which nothing but the type decides -/

/-- A number above every reserve and floor of a specification. -/
def plenty (spec : TaskSpecification) : ℚ :=
  ((spec.constraints.filterMap PolicyEngine.minimumReserve) ++
    (spec.constraints.filterMap PolicyEngine.resourceFloor).map Prod.snd).foldr max 0

theorem le_foldr_max {l : List ℚ} {x : ℚ} (h : x ∈ l) : x ≤ l.foldr max 0 := by
  induction l with
  | nil => cases h
  | cons y l ih =>
    rcases List.mem_cons.1 h with rfl | h
    · exact le_max_left _ _
    · exact (ih h).trans (le_max_right _ _)

/-- An observation with plenty of cash and of every resource that has a floor. -/
def richObservation (spec : TaskSpecification) : Observation where
  sequence := 1
  timestamp := 0
  tick := 0
  summary := ⟨"rich", by decide, by decide⟩
  state := ("cash" :: (spec.constraints.filterMap PolicyEngine.resourceFloor).map Prod.fst).map
    fun name => (name, .float (plenty spec))

theorem get_map_const {names : List String} {v : JsonValue} {name : String} (h : name ∈ names) :
    Assoc.get (names.map fun n => (n, v)) name = some v := by
  induction names with
  | nil => cases h
  | cons n names ih =>
    by_cases hn : n = name
    · simp [hn]
    · simp only [List.map_cons, Assoc.get_cons, hn, if_false]
      exact ih ((List.mem_cons.1 h).resolve_left (Ne.symm hn))

/-- The amounts an accepted specification limits spending to are not negative. -/
theorem hardMaximum_nonneg {spec : TaskSpecification} {catalog : CompilerCapabilityCatalog}
    (h : validateSpecification spec catalog = []) :
    ∀ m ∈ spec.constraints.filterMap PolicyEngine.hardMaximum, 0 ≤ m := by
  intro m hm
  obtain ⟨c, hc, hcm⟩ := List.mem_filterMap.1 hm
  obtain ⟨index, he⟩ := constraintErrors_of_valid h hc
  unfold PolicyEngine.hardMaximum at hcm
  split at hcm
  · rename_i ht
    simp only [constraintErrors, ht, List.append_eq_nil_iff] at he
    have hn : numeric (c.parameters.get "amount") = some m := hcm
    simp only [hn] at he
    by_contra hneg
    simp [not_le.1 hneg] at he
  · cases hcm

/-- Of a valid action that costs nothing the policy engine looks at the type alone. -/
theorem evaluate_rich {spec : TaskSpecification} {catalog : CompilerCapabilityCatalog}
    (h : validateSpecification spec catalog = []) {action : Action}
    (hp : PolicyEngine.permits spec action.type.val = true) :
    (PolicyEngine.evaluate spec action (richObservation spec) 0 ⟨true, "Action is valid.", 0, false, le_refl _⟩).allowed
      = true := by
  refine PolicyEngine.evaluate_allowed.2 ⟨rfl, hp, ?_, ?_, ?_, ?_⟩
  · simpa using spec.authority.total_nonneg
  · simpa using hardMaximum_nonneg h
  · have hcash : (richObservation spec).state.get "cash" = some (.float (plenty spec)) :=
      get_map_const (List.mem_cons_self ..)
    simp only [PolicyEngine.reserveReasons, hcash, Option.bind_some, JsonValue.number?]
    split
    · rfl
    · rw [PolicyEngine.when_eq_nil]
      simp only [sub_zero, List.any_eq_true, decide_eq_true_eq, not_exists, not_and, not_lt]
      intro m hm
      exact le_foldr_max (List.mem_append_left _ hm)
  · rintro ⟨resource, floor⟩ hf
    have hget : (richObservation spec).state.get resource = some (.float (plenty spec)) :=
      get_map_const (List.mem_cons_of_mem _ (List.mem_map.2 ⟨_, hf, rfl⟩))
    simp only [PolicyEngine.floorReasons, hget, Option.bind_some, JsonValue.number?, PolicyEngine.when_eq_nil, not_lt]
    exact le_foldr_max (List.mem_append_right _ (List.mem_map.2 ⟨_, hf, rfl⟩))

def actionOf (type : NonEmptyString) : Action := { type, expectedEffect := type }

/-! ## The result -/

/-- **An accepted specification is enforced exactly when what the policy engine skips
follows from what it reads.** -/
theorem enforced_iff (spec : TaskSpecification) (catalog : CompilerCapabilityCatalog)
    (h : validateSpecification spec catalog = []) : Enforced spec ↔ SkippedFollow spec := by
  constructor
  · intro henf c hc _ type hp
    have hrich := @evaluate_rich spec catalog h (actionOf type) hp
    have hall := henf (actionOf type) _ _ _ hrich
    exact (admits_all_iff.1 hall).2 c hc
  · intro hfollow action observation totalSpend validation hallowed
    obtain ⟨-, hp, -⟩ := PolicyEngine.evaluate_allowed.1 hallowed
    refine admits_all_iff.2 ⟨fun hf => ?_, fun c hc => ?_⟩
    · simp only [PolicyEngine.permits, Bool.and_eq_true, decide_eq_true_eq] at hp
      exact hp.1 (List.mem_append_left _ hf)
    · obtain ⟨index, he⟩ := constraintErrors_of_valid h hc
      cases hs : skipped c with
      | true => exact hfollow c hc hs action.type hp
      | false => exact admits_of_permits hc he hs hp

/-- The capabilities of the reference simulation the example below needs. -/
def sampleCatalog : CompilerCapabilityCatalog := { resources := ["cash"], actions := ["pause", "take_loan"] }

/-- `forbidden_action` with its one action in a list: accepted and skipped. -/
def listForbidden : TaskSpecification where
  objective := { type := .reachResource, parameters := [("resource", .str "cash"), ("target", .int 1)] }
  constraints := [{ type := .forbiddenAction, parameters := [("action", .list [.str "take_loan"])] }]
  authority := {}

/-- The same constraint with its action as a string. -/
def stringForbidden : TaskSpecification :=
  { listForbidden with
    constraints := [{ type := .forbiddenAction, parameters := [("action", .str "take_loan")] }] }

theorem enforced_iff_stringForbidden : Enforced stringForbidden ↔ SkippedFollow stringForbidden :=
  enforced_iff stringForbidden sampleCatalog (by decide +kernel)

/-- An accepted specification whose only constraint forbids `take_loan`, and an
evaluation that allows it. -/
theorem listForbidden_not_enforced :
    ¬ ∀ (spec : TaskSpecification) (catalog : CompilerCapabilityCatalog),
      validateSpecification spec catalog = [] → Enforced spec := by
  intro h
  have hvalid : validateSpecification listForbidden sampleCatalog = [] := by decide +kernel
  have hloan := h listForbidden sampleCatalog hvalid (actionOf ⟨"take_loan", by decide, by decide⟩)
    (richObservation listForbidden) 0 ⟨true, "Action is valid.", 0, false, le_refl _⟩ (by decide +kernel)
  exact hloan.1 (by decide +kernel)

end SimPilot.IntentCompiler
