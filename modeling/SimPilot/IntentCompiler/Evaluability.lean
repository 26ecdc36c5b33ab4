import SimPilot.IntentCompiler.Validation
import SimPilot.Runtime.Evaluator
/-!
# What is accepted can be evaluated

| here | there |
| --- | --- |
| `AcceptedObjective` | what `_validate_objective` lets through (`intent_compiler/validation.py:101-149`) |
| `ObjectiveMet`, `StopMet` | what an objective and a stop condition ask of an observation |
| `Unsupported`, `OnString` | what is let through and `ProgressEvaluator` cannot decide (`runtime/evaluator.py:79-148`) |

The validator accepts the direction `equal` for `maintain_resource`, and thresholds and
stop conditions on string resources. The evaluator has no answer to these.
-/

namespace SimPilot
namespace ProgressEvaluator
open IntentCompiler

/-! ## What is asked of an observation -/

/-- What an objective asks of an observation and the observations before it. -/
inductive ObjectiveMet (objective : Objective) (o : Observation) (history : List Observation) : Prop
  | project (name : String) (type : objective.type = .completeProject)
      (project : item objective.parameters "project_type" = .str name)
      (now : hasActiveProject o name = false) (before : ∃ earlier ∈ history, hasActiveProject earlier name = true)
  | reached (resource : String) (value target : ℚ) (type : objective.type = .reachResource)
      (named : item objective.parameters "resource" = .str resource)
      (bound : (item objective.parameters "target").number? = some target) (observed : numericResource o resource = some value)
      (met : target ≤ value)
  | above (resource : String) (value target : ℚ) (type : objective.type = .maintainResource ∨ objective.type = .runUntil)
      (direction : item objective.parameters "direction" = .str "above")
      (named : item objective.parameters "resource" = .str resource)
      (bound : (item objective.parameters "target").number? = some target) (observed : numericResource o resource = some value)
      (met : target ≤ value)
  | below (resource : String) (value target : ℚ) (type : objective.type = .maintainResource ∨ objective.type = .runUntil)
      (direction : item objective.parameters "direction" = .str "below")
      (named : item objective.parameters "resource" = .str resource)
      (bound : (item objective.parameters "target").number? = some target) (observed : numericResource o resource = some value)
      (met : value ≤ target)
  | equal (resource : String) (type : objective.type = .runUntil)
      (direction : item objective.parameters "direction" = .str "equal")
      (named : item objective.parameters "resource" = .str resource)
      (met : (resourceValue o resource).pyEq (item objective.parameters "target") = true)

/-- A stop condition holds of an observation. -/
def StopMet (o : Observation) (condition : NonEmptyString) : Prop :=
  ∃ m value, Condition.fullmatch condition.val = some m ∧ numericResource o m.resource = some value ∧
    m.operator.compare value m.target = true

/-! ## What is accepted -/

/-- The objectives `_validate_objective` accepts. -/
inductive AcceptedObjective (catalog : CompilerCapabilityCatalog) (objective : Objective) : Prop
  | project (name : String) (type : objective.type = .completeProject)
      (project : item objective.parameters "project_type" = .str name)
  | reach (resource : String) (target : ℚ) (type : objective.type = .reachResource) (known : resource ∈ catalog.resources)
      (named : item objective.parameters "resource" = .str resource)
      (bound : (item objective.parameters "target").number? = some target)
  | directed (resource direction : String) (target : ℚ)
      (type : objective.type = .maintainResource ∨ objective.type = .runUntil) (known : resource ∈ catalog.resources)
      (named : item objective.parameters "resource" = .str resource)
      (bound : (item objective.parameters "target").number? = some target)
      (given : objective.parameters.get "direction" = some (.str direction)) (accepted : direction ∈ ["above", "below", "equal"])
  | text (resource : String) (type : objective.type = .runUntil) (known : resource ∈ catalog.resources)
      (named : item objective.parameters "resource" = .str resource) (string : resource ∈ catalog.stringResources)
      (scalar : isScalar (item objective.parameters "target") = true)
      (given : objective.parameters.get "direction" = some (.str "equal"))

theorem item_of_str {d : Dict} {key name : String} (h : (d.get key).bind JsonValue.str? = some name) :
    item d key = .str name := by
  obtain ⟨v, hv, hs⟩ := Option.bind_eq_some_iff.1 h
  cases v <;> simp_all [JsonValue.str?, item]

theorem item_of_numeric {d : Dict} {key : String} {q : ℚ} (h : numeric (d.get key) = some q) :
    (item d key).number? = some q := by
  obtain ⟨v, hv, hn⟩ := Option.bind_eq_some_iff.1 h
  simp [item, hv, hn]

/-- A threshold that is accepted is a number. -/
theorem numeric_of_threshold {resource value : Option JsonValue} {path : String} {catalog : CompilerCapabilityCatalog}
    (h : resourceThresholdErrors resource value path catalog = []) : ∃ q, numeric value = some q := by
  unfold resourceThresholdErrors at h
  split at h
  · split at h
    · split at h
      · cases h
      · exact ⟨_, by assumption⟩
    · cases h
  · cases h

theorem acceptedObjective {spec : TaskSpecification} {catalog : CompilerCapabilityCatalog}
    (h : objectiveErrors spec catalog = []) : AcceptedObjective catalog spec.objective := by
  unfold objectiveErrors at h
  dsimp only at h
  split at h
  · rename_i htype
    obtain ⟨-, hname⟩ := List.append_eq_nil_iff.1 h
    split at hname
    · rename_i name hget
      exact .project name htype (item_of_str hget)
    · cases hname
  · rename_i htype
    split at h
    swap
    · obtain ⟨-, hcons⟩ := List.append_eq_nil_iff.1 h
      cases hcons
    rename_i resource hget
    split at h
    swap
    · obtain ⟨-, hcons⟩ := List.append_eq_nil_iff.1 h
      cases hcons
    rename_i hknown
    rw [List.append_eq_nil_iff, List.append_eq_nil_iff] at h
    obtain ⟨⟨-, hthreshold⟩, hdirection⟩ := h
    split at hthreshold
    · -- an exact string target
      rename_i hstring
      obtain ⟨hmem, hrun, hequal, htarget⟩ := hstring
      refine .text resource hrun hknown (item_of_str hget) hmem ?_ hequal
      cases ht : spec.objective.parameters.get "target" with
      | none => rw [ht] at htarget; cases htarget
      | some v =>
        rw [ht] at htarget
        cases v <;> simp_all [item, isScalar, JsonValue.isStr]
    · obtain ⟨target, htarget⟩ := numeric_of_threshold hthreshold
      have hbound := item_of_numeric htarget
      cases ht : spec.objective.type with
      | completeProject => exact (htype ht).elim
      | reachResource => exact .reach resource target ht hknown (item_of_str hget) hbound
      | maintainResource | runUntil =>
        rw [ht] at hdirection
        simp only [reduceCtorEq, or_true, true_and, List.mem_cons, List.not_mem_nil, or_false,
          ite_eq_right_iff, List.cons_ne_nil, imp_false, not_not] at hdirection
        rcases hdirection with hd | hd | hd
        · exact .directed resource "above" target (by simp [ht]) hknown (item_of_str hget) hbound hd (by simp)
        · exact .directed resource "below" target (by simp [ht]) hknown (item_of_str hget) hbound hd (by simp)
        · exact .directed resource "equal" target (by simp [ht]) hknown (item_of_str hget) hbound hd (by simp)

/-- The stop conditions that are accepted name resources of the catalog. -/
theorem acceptedStops {spec : TaskSpecification} {catalog : CompilerCapabilityCatalog}
    (h : validateSpecification spec catalog = []) :
    ∀ condition ∈ spec.stopConditions, ∃ m, Condition.fullmatch condition.val = some m ∧ m.resource ∈ catalog.resources := by
  intro condition hmem
  obtain ⟨index, hi⟩ := List.mem_iff_getElem?.1 hmem
  have hi : (condition, index) ∈ spec.stopConditions.zipIdx := List.mk_mem_zipIdx_iff_getElem?.2 hi
  simp only [validateSpecification, List.append_eq_nil_iff, List.flatMap_eq_nil_iff] at h
  have hstop := h.2 (condition, index) hi
  unfold stopConditionErrors at hstop
  dsimp only at hstop
  split at hstop
  · cases hstop
  · rename_i m hm
    split at hstop
    · rename_i hknown
      exact ⟨m, hm, hknown⟩
    · cases hstop

/-! ## What cannot be decided -/

/-- An observation of every resource of the catalog. -/
structure Observed (catalog : CompilerCapabilityCatalog) (o : Observation) : Prop where
  numbers : ∀ name ∈ catalog.resources, name ∉ catalog.stringResources → ∃ value, numericResource o name = some value
  strings : ∀ name ∈ catalog.stringResources, ∃ text, resourceValue o name = .str text
  projects : ∃ projects, item o.state "active_projects" = .list projects

/-- An accepted objective the evaluator has no answer to: to maintain a resource at an
exact value, or a threshold on a string resource. -/
def Unsupported (catalog : CompilerCapabilityCatalog) (objective : Objective) : Prop :=
  objective.type = .maintainResource ∧ item objective.parameters "direction" = .str "equal" ∨
    objective.type ≠ .completeProject ∧ (∃ name ∈ catalog.stringResources, item objective.parameters "resource" = .str name) ∧
      ¬ (objective.type = .runUntil ∧ item objective.parameters "direction" = .str "equal")

/-- A stop condition on a string resource. -/
def OnString (catalog : CompilerCapabilityCatalog) (condition : NonEmptyString) : Prop :=
  ∃ m, Condition.fullmatch condition.val = some m ∧ m.resource ∈ catalog.stringResources

variable {catalog : CompilerCapabilityCatalog} {o : Observation}

theorem Observed.not_number (ho : Observed catalog o) {name : String} (h : name ∈ catalog.stringResources) :
    numericResource o name = none := by
  obtain ⟨text, ht⟩ := ho.strings name h
  rw [numericResource, ht]
  rfl

/-- The answer of a scan of stop conditions. -/
inductive StopAnswer (catalog : CompilerCapabilityCatalog) (o : Observation) (stops : List NonEmptyString) :
    Option RuntimeEvaluation → Prop
  | none (h : ∀ condition ∈ stops, ¬ StopMet o condition ∧ ¬ OnString catalog condition) : StopAnswer catalog o stops none
  | met (before after : List NonEmptyString) (condition : NonEmptyString) (e : RuntimeEvaluation)
      (split : stops = before ++ condition :: after) (quiet : ∀ b ∈ before, ¬ OnString catalog b) (met : StopMet o condition)
      (number : ¬ OnString catalog condition) (status : e.currentStatus = .blocked) (flag : e.stopConditionMet = true)
      (reason : e.blockedReason = some s!"stop condition met: {condition.val}") : StopAnswer catalog o stops (some e)
  | undecided (before after : List NonEmptyString) (condition : NonEmptyString) (e : RuntimeEvaluation)
      (split : stops = before ++ condition :: after) (quiet : ∀ b ∈ before, ¬ StopMet o b)
      (string : OnString catalog condition) (status : e.currentStatus = .blocked) (flag : e.stopConditionMet = false) :
      StopAnswer catalog o stops (some e)

/-- **The stop conditions are scanned** up to the first that is met or cannot be decided. -/
theorem evaluateStopConditions_answer (ho : Observed catalog o) : ∀ stops : List NonEmptyString,
    (∀ condition ∈ stops, ∃ m, Condition.fullmatch condition.val = some m ∧ m.resource ∈ catalog.resources) →
      StopAnswer catalog o stops (evaluateStopConditions o stops)
  | [], _ => .none (by simp)
  | condition :: rest, h => by
    obtain ⟨m, hm, hknown⟩ := h condition (by simp)
    simp only [evaluateStopConditions, hm]
    by_cases hstring : m.resource ∈ catalog.stringResources
    · simp only [ho.not_number hstring]
      exact .undecided [] rest condition _ rfl (by simp) ⟨m, hm, hstring⟩ rfl rfl
    obtain ⟨value, hvalue⟩ := ho.numbers m.resource hknown hstring
    simp only [hvalue]
    have hnot : ¬ OnString catalog condition := by
      rintro ⟨m', hm', hstring'⟩
      rw [hm] at hm'
      cases hm'
      exact hstring hstring'
    split
    · rename_i hmet
      exact .met [] rest condition _ rfl (by simp) ⟨m, value, hm, hvalue, hmet⟩ hnot rfl rfl rfl
    rename_i hunmet
    have hunmet : ¬ StopMet o condition := by
      rintro ⟨m', value', hm', hvalue', hmet⟩
      rw [hm] at hm'
      cases hm'
      rw [hvalue] at hvalue'
      cases hvalue'
      exact hunmet hmet
    generalize hscan : evaluateStopConditions o rest = answer
    have hanswer := evaluateStopConditions_answer ho rest fun c hc => h c (List.mem_cons_of_mem _ hc)
    rw [hscan] at hanswer
    cases hanswer with
    | none hall => exact .none (List.forall_mem_cons.2 ⟨⟨hunmet, hnot⟩, hall⟩)
    | met before after c e split quiet met number status flag reason =>
      exact .met (condition :: before) after c e (by rw [split]; rfl) (List.forall_mem_cons.2 ⟨hnot, quiet⟩) met number status
        flag reason
    | undecided before after c e split quiet string status flag =>
      exact .undecided (condition :: before) after c e (by rw [split]; rfl) (List.forall_mem_cons.2 ⟨hunmet, quiet⟩) string
        status flag

/-! ## The objective -/

/-- The evaluation of an objective, before the stop conditions are asked. -/
inductive ObjectiveAnswer (catalog : CompilerCapabilityCatalog) (objective : Objective) (o : Observation)
    (history : List Observation) : Except PyError RuntimeEvaluation → Prop
  | met (e : RuntimeEvaluation) (h : ObjectiveMet objective o history) (complete : e.complete = true)
      (status : e.currentStatus = .completed) : ObjectiveAnswer catalog objective o history (.ok e)
  | unmet (e : RuntimeEvaluation) (h : ¬ ObjectiveMet objective o history) (supported : ¬ Unsupported catalog objective)
      (complete : e.complete = false) (status : e.currentStatus = .running) :
      ObjectiveAnswer catalog objective o history (.ok e)
  | unsupported (e : RuntimeEvaluation) (h : ¬ ObjectiveMet objective o history) (unsupported : Unsupported catalog objective)
      (complete : e.complete = false) (status : e.currentStatus = .blocked) (flag : e.stopConditionMet = false) :
      ObjectiveAnswer catalog objective o history (.ok e)

variable {objective : Objective} {history : List Observation}

theorem ObjectiveAnswer.result {complete : Bool} {summary : String} (hmet : complete = true ↔ ObjectiveMet objective o history)
    (hs : ¬ Unsupported catalog objective) : ObjectiveAnswer catalog objective o history (.ok (result complete summary)) := by
  cases complete with
  | true => exact .met _ (hmet.1 rfl) rfl rfl
  | false => exact .unmet _ (fun h => Bool.false_ne_true (hmet.2 h)) hs rfl rfl

theorem ObjectiveAnswer.blocked {reason : String} (hmet : ¬ ObjectiveMet objective o history)
    (hs : Unsupported catalog objective) : ObjectiveAnswer catalog objective o history (.ok (blocked reason)) :=
  .unsupported _ hmet hs rfl rfl rfl

theorem evaluateProject_answer (ho : Observed catalog o) {name : String} (htype : objective.type = .completeProject)
    (hproject : item objective.parameters "project_type" = .str name) :
    ObjectiveAnswer catalog objective o history (.ok (evaluateProject objective.parameters o history)) := by
  obtain ⟨projects, hprojects⟩ := ho.projects
  have hactive : projects.any (isProject name) = hasActiveProject o name := by simp [hasActiveProject, hprojects]
  have hsupported : ¬ Unsupported catalog objective := by
    rintro (⟨h, -⟩ | ⟨h, -⟩)
    · rw [htype] at h
      cases h
    · exact h htype
  have hiff : ObjectiveMet objective o history ↔
      hasActiveProject o name = false ∧ ∃ earlier ∈ history, hasActiveProject earlier name = true := by
    constructor
    · intro h
      cases h with
      | project name' _ project now before =>
        rw [hproject] at project
        cases project
        exact ⟨now, before⟩
      | reached _ _ _ type => rw [htype] at type; cases type
      | above _ _ _ type | below _ _ _ type => rcases type with type | type <;> (rw [htype] at type; cases type)
      | equal _ type => rw [htype] at type; cases type
    · rintro ⟨now, before⟩
      exact .project name htype hproject now before
  simp only [evaluateProject, hproject, hprojects, hactive]
  cases hnow : hasActiveProject o name with
  | true =>
    refine .result ?_ hsupported
    rw [hiff, hnow]
    simp
  | false =>
    rw [hnow] at hiff
    cases hbefore : history.any (hasActiveProject · name) with
    | true =>
      refine .result ?_ hsupported
      rw [hiff]
      simpa using hbefore
    | false =>
      refine .result ?_ hsupported
      rw [hiff]
      simpa using hbefore

/-- What a threshold asks, in the direction it is given. -/
theorem objectiveMet_threshold {resource : String} {target : ℚ}
    (htype : objective.type ≠ .completeProject) (hnamed : item objective.parameters "resource" = .str resource)
    (hbound : (item objective.parameters "target").number? = some target)
    (hequal : ¬ (objective.type = .runUntil ∧ item objective.parameters "direction" = .str "equal")) :
    ObjectiveMet objective o history ↔ ∃ value, numericResource o resource = some value ∧
      (objective.type = .reachResource ∧ target ≤ value ∨
        objective.type ≠ .reachResource ∧ item objective.parameters "direction" = .str "above" ∧ target ≤ value ∨
        objective.type ≠ .reachResource ∧ item objective.parameters "direction" = .str "below" ∧ value ≤ target) := by
  constructor
  · intro h
    cases h with
    | project _ type => exact (htype type).elim
    | reached resource' value target' type named bound observed met =>
      rw [hnamed] at named
      rw [hbound] at bound
      cases named
      cases bound
      exact ⟨value, observed, .inl ⟨type, met⟩⟩
    | above resource' value target' type direction named bound observed met =>
      rw [hnamed] at named
      rw [hbound] at bound
      cases named
      cases bound
      exact ⟨value, observed, .inr (.inl ⟨by rcases type with type | type <;> simp [type], direction, met⟩)⟩
    | below resource' value target' type direction named bound observed met =>
      rw [hnamed] at named
      rw [hbound] at bound
      cases named
      cases bound
      exact ⟨value, observed, .inr (.inr ⟨by rcases type with type | type <;> simp [type], direction, met⟩)⟩
    | equal _ type direction => exact (hequal ⟨type, direction⟩).elim
  · rintro ⟨value, hvalue, ⟨type, met⟩ | ⟨type, direction, met⟩ | ⟨type, direction, met⟩⟩
    · exact .reached resource value target type hnamed hbound hvalue met
    · refine .above resource value target ?_ direction hnamed hbound hvalue met
      cases ht : objective.type <;> simp_all
    · refine .below resource value target ?_ direction hnamed hbound hvalue met
      cases ht : objective.type <;> simp_all

theorem evaluateNumeric_answer (ho : Observed catalog o) {resource : String} {target : ℚ}
    (htype : objective.type ≠ .completeProject) (hknown : resource ∈ catalog.resources)
    (hnamed : item objective.parameters "resource" = .str resource)
    (hbound : (item objective.parameters "target").number? = some target)
    (hequal : ¬ (objective.type = .runUntil ∧ item objective.parameters "direction" = .str "equal"))
    (hdirection : objective.type = .reachResource ∨ ∃ direction ∈ ["above", "below", "equal"],
      objective.parameters.get "direction" = some (.str direction)) :
    ObjectiveAnswer catalog objective o history (evaluateNumeric objective resource o) := by
  have hmet : ObjectiveMet objective o history ↔ _ := objectiveMet_threshold htype hnamed hbound hequal
  unfold evaluateNumeric
  simp only [hbound]
  by_cases hstring : resource ∈ catalog.stringResources
  · have hnone := ho.not_number hstring
    simp only [hnone]
    refine .blocked ?_ (.inr ⟨htype, ⟨resource, hstring, hnamed⟩, hequal⟩)
    rw [hmet, hnone]
    rintro ⟨value, hvalue, -⟩
    cases hvalue
  obtain ⟨value, hvalue⟩ := ho.numbers resource hknown hstring
  simp only [hvalue]
  rw [hvalue] at hmet
  have hsupported : ¬ (objective.type = .maintainResource ∧ item objective.parameters "direction" = .str "equal") →
      ¬ Unsupported catalog objective := by
    rintro hne (h | ⟨-, ⟨name, hmem, hname⟩, -⟩)
    · exact hne h
    · rw [hnamed] at hname
      cases hname
      exact hstring hmem
  by_cases hreach : objective.type = .reachResource
  · rw [if_pos hreach]
    refine .result ?_ (hsupported fun h => ?_)
    · rw [hmet]
      simp [hreach]
    · rw [hreach] at h
      cases h.1
  rw [if_neg hreach]
  obtain ⟨direction, hmem, hgiven⟩ := hdirection.resolve_left hreach
  have hitem : item objective.parameters "direction" = .str direction := by simp [item, hgiven]
  rw [hitem] at hmet hsupported hequal
  rw [hgiven]
  simp only [List.mem_cons, List.not_mem_nil, or_false] at hmem
  rcases hmem with rfl | rfl | rfl
  · refine .result ?_ (hsupported (by simp))
    rw [hmet]
    simp [hreach, JsonValue.pyEq]
  · refine .result ?_ (hsupported (by simp))
    rw [hmet]
    simp [hreach, JsonValue.pyEq, JsonValue.canon]
  · -- the objective is to maintain the resource at the target
    refine .blocked ?_ (.inl ⟨?_, hitem⟩)
    · rw [hmet]
      simp [hreach]
    · cases ht : objective.type <;> simp_all

theorem evaluateResourceObjective_answer {spec : TaskSpecification} (ho : Observed catalog o)
    (ha : AcceptedObjective catalog spec.objective) (htype : spec.objective.type ≠ .completeProject) :
    ObjectiveAnswer catalog spec.objective o history (evaluateResourceObjective spec o) := by
  have hpyEq : ∀ v : JsonValue, v.pyEq (.str "equal") = true ↔ v = .str "equal" := by
    intro v
    cases v <;> simp [JsonValue.pyEq, JsonValue.canon]
  -- an exact value is compared with whatever is observed
  have hexact : ∀ resource, resource ∈ catalog.resources → item spec.objective.parameters "resource" = .str resource →
      spec.objective.type = .runUntil → item spec.objective.parameters "direction" = .str "equal" →
      isScalar (item spec.objective.parameters "target") = true →
      ObjectiveAnswer catalog spec.objective o history (evaluateResourceObjective spec o) := by
    intro resource hknown hnamed hrun hdirection hscalar
    have hvalue : resourceValue o resource ≠ .null := by
      by_cases hstring : resource ∈ catalog.stringResources
      · obtain ⟨text, htext⟩ := ho.strings resource hstring
        rw [htext]
        simp
      · obtain ⟨value, hnumber⟩ := ho.numbers resource hknown hstring
        intro hnull
        rw [numericResource, hnull] at hnumber
        cases hnumber
    simp only [evaluateResourceObjective, hnamed, hrun, hdirection, JsonValue.pyEq_self, and_self, if_true, hscalar, hvalue,
      if_false]
    refine .result ?_ ?_
    · constructor
      · exact fun hmet => .equal resource hrun hdirection hnamed hmet
      · intro h
        cases h with
        | project _ type => exact (htype type).elim
        | reached _ _ _ type => rw [hrun] at type; cases type
        | above _ _ _ _ direction | below _ _ _ _ direction =>
          rw [hdirection] at direction
          exact absurd direction (by simp)
        | equal resource' _ _ named met =>
          rw [hnamed] at named
          cases named
          exact met
    · rintro (⟨h, -⟩ | ⟨-, -, h⟩)
      · rw [hrun] at h
        cases h
      · exact h ⟨hrun, hdirection⟩
  cases ha with
  | project _ type => exact (htype type).elim
  | text resource type known named string scalar given =>
    exact hexact resource known named type (by simp [item, given]) scalar
  | reach resource target type known named bound =>
    have hne : ¬ (spec.objective.type = .runUntil ∧ (item spec.objective.parameters "direction").pyEq (.str "equal") = true) := by
      simp [type]
    simp only [evaluateResourceObjective, named, hne, if_false]
    exact evaluateNumeric_answer ho htype known named bound (by simp [type]) (.inl type)
  | directed resource direction target type known named bound given accepted =>
    have hitem : item spec.objective.parameters "direction" = .str direction := by simp [item, given]
    by_cases hequal : spec.objective.type = .runUntil ∧ direction = "equal"
    · obtain ⟨hrun, rfl⟩ := hequal
      refine hexact resource known named hrun hitem ?_
      cases ht : item spec.objective.parameters "target" <;> simp_all [JsonValue.number?, isScalar]
    · have hne : ¬ (spec.objective.type = .runUntil ∧ item spec.objective.parameters "direction" = .str "equal") := by
        rw [hitem]
        simpa using hequal
      have hne' : ¬ (spec.objective.type = .runUntil ∧ (item spec.objective.parameters "direction").pyEq (.str "equal") = true) := by
        rw [hpyEq]
        exact hne
      simp only [evaluateResourceObjective, named, hne', if_false]
      exact evaluateNumeric_answer ho htype known named bound hne (.inr ⟨direction, accepted, given⟩)

/-! ## The whole specification -/

/-- The evaluation answers, and reports a task as blocked only for a stop condition that
is met. -/
def Evaluates (spec : TaskSpecification) (o : Observation) (history : List Observation) : Prop :=
  ∃ e, evaluate spec o history = .ok e ∧ (e.currentStatus = .blocked → e.stopConditionMet = true ∧
    ∃ condition ∈ spec.stopConditions, StopMet o condition ∧
      e.blockedReason = some s!"stop condition met: {condition.val}")

/-- The stop conditions are decided: none on a string resource is asked before one is met. -/
def StopsDecided (catalog : CompilerCapabilityCatalog) (o : Observation) (stops : List NonEmptyString) : Prop :=
  ∀ before condition after, stops = before ++ condition :: after → OnString catalog condition →
    ∃ earlier ∈ before, StopMet o earlier

/-- The stop conditions behind an objective that is not met. -/
theorem stops_iff {stops : List NonEmptyString} {answer : Option RuntimeEvaluation} (h : StopAnswer catalog o stops answer)
    {e : RuntimeEvaluation} (hflag : e.currentStatus = .blocked → e.stopConditionMet = false) :
    (∃ e', answer.getD e = e' ∧ (e'.currentStatus = .blocked → e'.stopConditionMet = true ∧
      ∃ condition ∈ stops, StopMet o condition ∧ e'.blockedReason = some s!"stop condition met: {condition.val}")) ↔
    StopsDecided catalog o stops ∧ (e.currentStatus ≠ .blocked ∨ ∃ condition ∈ stops, StopMet o condition) := by
  cases h with
  | none hall =>
    have hdecided : StopsDecided catalog o stops := by
      rintro before condition after rfl hstring
      exact ((hall condition (by simp)).2 hstring).elim
    constructor
    · rintro ⟨e', rfl, h⟩
      refine ⟨hdecided, .inl fun hblocked => ?_⟩
      rw [Option.getD_none] at h
      rw [(hflag hblocked)] at h
      exact Bool.false_ne_true (h hblocked).1
    · rintro ⟨-, hne | ⟨condition, hmem, hmet⟩⟩
      · exact ⟨e, rfl, fun hblocked => (hne hblocked).elim⟩
      · exact ((hall condition hmem).1 hmet).elim
  | met before after condition e' split quiet met number status flag reason =>
    subst split
    refine iff_of_true ⟨e', rfl, fun _ => ⟨flag, condition, by simp, met, reason⟩⟩ ⟨?_, .inr ⟨condition, by simp, met⟩⟩
    intro before' c after' heq hstring
    -- what is on a string resource comes behind the condition that is met
    rcases List.append_eq_append_iff.1 heq with ⟨mid, rfl, hmid⟩ | ⟨mid, rfl, hmid⟩
    · cases mid with
      | nil =>
        cases hmid
        exact (number hstring).elim
      | cons x mid =>
        cases hmid
        exact ⟨condition, by simp, met⟩
    · cases mid with
      | nil =>
        cases hmid
        exact (number hstring).elim
      | cons x mid =>
        cases hmid
        exact (quiet c (by simp) hstring).elim
  | undecided before after condition e' split quiet string status flag =>
    refine iff_of_false ?_ ?_
    · rintro ⟨_, rfl, h⟩
      rw [Option.getD_some, flag] at h
      exact Bool.false_ne_true (h status).1
    · rintro ⟨hdecided, -⟩
      obtain ⟨earlier, hmem, hmet⟩ := hdecided before condition after split string
      exact quiet earlier hmem hmet

/-- `REFERENCE_CAPABILITIES` (intent_compiler/prompt.py:35). -/
def referenceCapabilities : CompilerCapabilityCatalog where
  resources := ["tick", "cash", "debt", "population", "housing", "power_capacity", "power_usage", "infrastructure",
    "maintenance_level", "income_per_tick", "expense_per_tick"]
  actions := ["advance_time", "build_housing", "build_power", "repair", "set_maintenance", "take_loan", "repay_loan", "pause",
    "resume"]
  projectTypes := ["housing", "power"]

/-- A city with a thousand in cash, and its other resources. -/
def cityObservation : Observation where
  sequence := 1
  timestamp := 0
  tick := 0
  summary := ⟨"city", by decide, by decide⟩
  state := [("tick", .int 0), ("cash", .int 1000), ("debt", .int 0), ("population", .int 100), ("housing", .int 120),
    ("power_capacity", .int 150), ("power_usage", .int 100), ("infrastructure", .float 80), ("maintenance_level", .float (1 / 2)),
    ("income_per_tick", .float 200), ("expense_per_tick", .float 150), ("active_projects", .list [])]

theorem cityObservation_observed : Observed referenceCapabilities cityObservation where
  numbers := by
    intro name hmem _
    simp only [referenceCapabilities, List.mem_cons, List.not_mem_nil, or_false] at hmem
    rcases hmem with rfl | rfl | rfl | rfl | rfl | rfl | rfl | rfl | rfl | rfl | rfl <;> exact ⟨_, rfl⟩
  strings := by simp [referenceCapabilities]
  projects := ⟨_, rfl⟩

/-- To hold an amount of cash, exactly. -/
def maintainCash (direction : String) : TaskSpecification where
  objective := { type := .maintainResource
                 parameters := [("resource", .str "cash"), ("target", .int 1000), ("direction", .str direction)] }
  authority := {}

end ProgressEvaluator
end SimPilot
