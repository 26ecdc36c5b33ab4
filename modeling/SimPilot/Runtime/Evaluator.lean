import SimPilot.Domain.Text
import SimPilot.Runtime.Models
import SimPilot.Runtime.Errors
/-!
# `ProgressEvaluator` (runtime/evaluator.py)

A deterministic answer from a specification and an observation. The only exception it can
raise is Python's own: a `direction` that cannot be hashed.
-/

namespace SimPilot
namespace ProgressEvaluator

/-- `d.get(key)`, with `None` for a missing key. -/
def item (d : Dict) (key : String) : JsonValue := (d.get key).getD .null

/-- `resource_value`. -/
def resourceValue (o : Observation) (name : String) : JsonValue :=
  match item o.state name with
  | .null => match item o.state "resources" with
    | .dict resources => item resources name
    | _ => .null
  | v => v

/-- `numeric_resource`. -/
def numericResource (o : Observation) (name : String) : Option ℚ := (resourceValue o name).number?

def result (complete : Bool) (summary : String) : RuntimeEvaluation where
  currentStatus := if complete then .completed else .running
  complete
  progressSummary := summary

def blocked (reason : String) : RuntimeEvaluation where
  currentStatus := .blocked
  complete := false
  progressSummary := "Objective cannot be evaluated deterministically."
  blockedReason := some reason

/-- `isinstance(project, dict) and project.get("type") == project_type`. -/
def isProject (projectType : String) : JsonValue → Bool
  | .dict project => (item project "type").pyEq (.str projectType)
  | _ => false

/-- `_has_active_project`. -/
def hasActiveProject (o : Observation) (projectType : String) : Bool :=
  match item o.state "active_projects" with
  | .list projects => projects.any (isProject projectType)
  | _ => false

/-- The objective of a project (evaluator.py:51-75). -/
def evaluateProject (parameters : Dict) (o : Observation) (history : List Observation) : RuntimeEvaluation :=
  match item parameters "project_type", item o.state "active_projects" with
  | .str projectType, .list projects =>
    let active := projects.any (isProject projectType)
    let observedActive := active || history.any (hasActiveProject · projectType)
    if observedActive && !active then result true s!"Project type {projectType} is complete."
    else result false
      (if active then s!"Project type {projectType} is active." else s!"Project type {projectType} has not started.")
  | _, _ => blocked "project_type or active_projects is unavailable"

/-- `isinstance(target, (str, int, float)) and not isinstance(target, bool)`. -/
def isScalar : JsonValue → Bool
  | .int _ | .float _ => true
  | v => v.isStr

/-- `value in {"above", "below"}`: a list or a dictionary cannot be hashed. -/
def isDirection (v : JsonValue) : Except PyError Bool :=
  match v with
  | .list _ => .error (.other "TypeError" "unhashable type: 'list'")
  | .dict _ => .error (.other "TypeError" "unhashable type: 'dict'")
  | v => .ok (v.pyEq (.str "above") || v.pyEq (.str "below"))

/-- The numeric branch of `_evaluate_resource_objective` (evaluator.py:107-123). -/
def evaluateNumeric (objective : Objective) (resource : String) (o : Observation) :
    Except PyError RuntimeEvaluation :=
  match (item objective.parameters "target").number? with
  | none => .ok (blocked "objective requires numeric target and resource")
  | some target => match numericResource o resource with
    | none => .ok (blocked s!"resource is not numeric or missing: {resource}")
    | some value =>
      let valueText := formatG value
      let targetText := formatG target
      let summary := s!"{resource}={valueText}; target={targetText}."
      if objective.type = .reachResource then .ok (result (target ≤ value) summary)
      else do
        let direction := (objective.parameters.get "direction").getD (.str "above")
        if ← isDirection direction then
          return result (if direction.pyEq (.str "above") then target ≤ value else value ≤ target) summary
        else return blocked "direction must be above or below"

/-- `_evaluate_resource_objective`. -/
def evaluateResourceObjective (spec : TaskSpecification) (o : Observation) : Except PyError RuntimeEvaluation :=
  let parameters := spec.objective.parameters
  match item parameters "resource" with
  | .str resource =>
    if spec.objective.type = .runUntil ∧ (item parameters "direction").pyEq (.str "equal") then
      let target := item parameters "target"
      if isScalar target then
        let value := resourceValue o resource
        if value = .null then .ok (blocked s!"resource is missing: {resource}")
        else
          let valueText := value.repr
          let targetText := target.repr
          .ok (result (value.pyEq target) s!"{resource}={valueText}; target={targetText}.")
      else .ok (blocked "equal objective requires a scalar target")
    else evaluateNumeric spec.objective resource o
  | _ => .ok (blocked "objective requires a resource")

/-- `_evaluate_stop_conditions`. -/
def evaluateStopConditions (o : Observation) : List NonEmptyString → Option RuntimeEvaluation
  | [] => none
  | condition :: rest =>
    match Condition.fullmatch condition.val with
    | none => some (blocked s!"unsupported stop condition: {condition.val}")
    | some c => match numericResource o c.resource with
      | none => some (blocked s!"resource is not numeric or missing: {c.resource}")
      | some value =>
        if c.operator.compare value c.target then some
          { currentStatus := .blocked, complete := false
            progressSummary := s!"Stop condition met: {condition.val}."
            stopConditionMet := true, blockedReason := some s!"stop condition met: {condition.val}" }
        else evaluateStopConditions o rest

def evaluate (spec : TaskSpecification) (o : Observation) (history : List Observation) :
    Except PyError RuntimeEvaluation := do
  let objectiveResult ←
    if spec.objective.type = .completeProject then .ok (evaluateProject spec.objective.parameters o history)
    else evaluateResourceObjective spec o
  if objectiveResult.complete then return objectiveResult
  -- only one of two results that are not complete is returned: a stop result wins
  match evaluateStopConditions o spec.stopConditions with
  | none => return objectiveResult
  | some stopResult => return stopResult

/-! ### What it raises -/

theorem evaluateNumeric_error {objective : Objective} {resource : String} {o : Observation} {e : PyError}
    (h : evaluateNumeric objective resource o = .error e) : e.isException = true := by
  simp only [evaluateNumeric] at h
  split at h
  · cases h
  split at h
  · cases h
  split at h
  · cases h
  cases hd : isDirection ((objective.parameters.get "direction").getD (.str "above")) with
  | error e' =>
    rw [hd] at h
    cases h
    unfold isDirection at hd
    split at hd <;> cases hd <;> rfl
  | ok b =>
    rw [hd] at h
    simp only [bind, Except.bind] at h
    split at h <;> cases h

theorem evaluateResourceObjective_error {spec : TaskSpecification} {o : Observation} {e : PyError}
    (h : evaluateResourceObjective spec o = .error e) : e.isException = true := by
  simp only [evaluateResourceObjective] at h
  split at h
  · split at h
    · split at h
      · split at h <;> cases h
      · cases h
    · exact evaluateNumeric_error h
  · cases h

theorem evaluate_error {spec : TaskSpecification} {o : Observation} {history : List Observation} {e : PyError}
    (h : evaluate spec o history = .error e) : e.isException = true := by
  by_cases hp : spec.objective.type = .completeProject
  · simp only [evaluate, hp, if_true, bind, Except.bind] at h
    split at h
    · cases h
    · split at h <;> cases h
  · simp only [evaluate, hp, if_false] at h
    cases hr : evaluateResourceObjective spec o with
    | error e' =>
      rw [hr] at h
      cases h
      exact evaluateResourceObjective_error hr
    | ok result =>
      rw [hr] at h
      simp only [bind, Except.bind] at h
      split at h
      · cases h
      · split at h <;> cases h

end ProgressEvaluator

end SimPilot
