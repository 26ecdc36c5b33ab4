import SimPilot.Runtime.Models
import SimPilot.Domain.Text
import Mathlib.Data.List.Dedup
/-!
# The compiler's semantic validation (intent_compiler/validation.py)

`validateSpecification` is `validate_specification` of a present specification. The loop
of `_validate_constraints` returns four values; each is a definition over one constraint
(`constraintErrors`, `allowedSet`, `forbiddenSet`, `floor`).
-/

namespace SimPilot

/-- `CompilerCapabilityCatalog`, the names the validator reads. -/
structure CompilerCapabilityCatalog where
  resources : List String
  actions : List String
  stringResources : List String := []
  projectTypes : List String := []

structure CompilerValidationError where
  code : String
  message : String
  path : Option String
  deriving DecidableEq, Repr

namespace IntentCompiler

def error (code message path : String) : CompilerValidationError := ⟨code, message, some path⟩

def percentResources : List String := ["infrastructure"]

def unitIntervalResources : List String := ["maintenance_level"]

/-- `_numeric`. -/
def numeric (value : Option JsonValue) : Option ℚ := value.bind JsonValue.number?

/-- `repr` of a list of strings. -/
def listRepr (names : List String) : String := JsonValue.repr (.list (names.map .str))

/-- `sorted` of a set of strings. -/
def sorted (names : List String) : List String := names.dedup.insertionSort (· ≤ ·)

def unsupportedResource (resource : Option JsonValue) (path : String) : CompilerValidationError :=
  error "invalid_resource" s!"unsupported resource: {optionRepr resource}" s!"{path}.resource"

/-- `_validate_resource_threshold` (validation.py:42). -/
def resourceThresholdErrors (resource : Option JsonValue) (value : Option JsonValue) (path : String)
    (catalog : CompilerCapabilityCatalog) : List CompilerValidationError :=
  match resource.bind JsonValue.str? with
  | some name =>
    if name ∈ catalog.resources then
      match numeric value with
      | none => [error "invalid_threshold" "threshold must be numeric" s!"{path}.threshold"]
      | some threshold =>
        (if threshold < 0 then [error "invalid_threshold" "threshold must be non-negative" s!"{path}.threshold"] else [])
          ++ (if name ∈ percentResources ∧ 100 < threshold then
              [error "impossible_objective" s!"{name} cannot exceed 100" s!"{path}.threshold"] else [])
          ++ (if name ∈ unitIntervalResources ∧ 1 < threshold then
              [error "impossible_objective" s!"{name} cannot exceed 1" s!"{path}.threshold"] else [])
    else [unsupportedResource resource path]
  | none => [unsupportedResource resource path]

/-- `_extra_parameter_errors` (validation.py:84). -/
def extraParameterErrors (parameters : Dict) (expected : List String) (path : String) :
    List CompilerValidationError :=
  (sorted (expected.filter (· ∉ parameters.keys))).map (fun name =>
      error "missing_parameter" s!"missing parameter: {name}" s!"{path}.{name}")
    ++ (sorted (parameters.keys.filter (· ∉ expected))).map fun name =>
      error "unsupported_parameter" s!"unsupported parameter: {name}" s!"{path}.{name}"

/-- `_validate_objective` (validation.py:101). -/
def objectiveErrors (spec : TaskSpecification) (catalog : CompilerCapabilityCatalog) :
    List CompilerValidationError :=
  let objective := spec.objective
  let parameters := objective.parameters
  let path := "specification.objective.parameters"
  if objective.type = .completeProject then
    let known := listRepr (sorted catalog.projectTypes)
    let invalid := error "invalid_project_type" s!"project_type must be one of {known}" s!"{path}.project_type"
    extraParameterErrors parameters ["project_type"] path
      ++ match (parameters.get "project_type").bind JsonValue.str? with
        | some name => if name ∈ catalog.projectTypes then [] else [invalid]
        | none => [invalid]
  else
    let directed := objective.type = .maintainResource ∨ objective.type = .runUntil
    let extra := extraParameterErrors parameters
      (if directed then ["resource", "target", "direction"] else ["resource", "target"]) path
    match (parameters.get "resource").bind JsonValue.str? with
    | some resource =>
      if resource ∈ catalog.resources then
        let isStringEquality := resource ∈ catalog.stringResources ∧ objective.type = .runUntil ∧
          parameters.get "direction" = some (.str "equal") ∧ (parameters.get "target").any JsonValue.isStr
        extra
          ++ (if isStringEquality then []
            else resourceThresholdErrors (parameters.get "resource") (parameters.get "target") path catalog)
          ++ (if directed ∧ parameters.get "direction" ∉
                [some (.str "above"), some (.str "below"), some (.str "equal")] then
              [error "invalid_direction" "direction must be 'above', 'below', or 'equal'" s!"{path}.direction"]
            else [])
      else extra ++ [unsupportedResource (parameters.get "resource") path]
    | none => extra ++ [unsupportedResource (parameters.get "resource") path]

/-! ## Constraints (validation.py:152-222) -/

/-- `_action_values`: a string or a list of strings, as a set. -/
def actionValues (value : Option JsonValue) : Option (List String) :=
  match value with
  | some (.str s) => some [s]
  | some v => v.strings?.map List.dedup
  | none => none

/-- `_invalid_actions`, sorted. -/
def invalidActions (actions : List String) (catalog : CompilerCapabilityCatalog) : List String :=
  sorted (actions.filter (· ∉ catalog.actions))

/-- What one `forbidden_action` constraint adds to `forbidden`. -/
def forbiddenSet (c : Constraint) : List String :=
  if c.type = .forbiddenAction then
    match actionValues (c.parameters.get "action") with
    | some actions => if actions.length = 1 then actions else []
    | none => []
  else []

/-- The parameter an `allowed_action` constraint is read from. -/
def allowedKey (c : Constraint) : String := if c.parameters.contains "actions" then "actions" else "action"

/-- What one `allowed_action` constraint adds to `allowed_sets`. -/
def allowedSet (c : Constraint) : Option (List String) :=
  if c.type = .allowedAction then
    match actionValues (c.parameters.get (allowedKey c)) with
    | some actions => if actions = [] then none else some actions
    | none => none
  else none

/-- What one `resource_floor` constraint adds to `floors`. -/
def floor (c : Constraint) : Option (String × ℚ) :=
  if c.type = .resourceFloor then
    match (c.parameters.get "resource").bind JsonValue.str?, numeric (c.parameters.get "floor") with
    | some resource, some floor => some (resource, floor)
    | _, _ => none
  else none

def unsupportedActions (actions : List String) (catalog : CompilerCapabilityCatalog) (path : String) :
    List CompilerValidationError :=
  (invalidActions actions catalog).map fun action => error "invalid_action" s!"unsupported action: {action}" path

/-- The errors of the constraint at an index. -/
def constraintErrors (catalog : CompilerCapabilityCatalog) (c : Constraint) (index : Nat) :
    List CompilerValidationError :=
  let path := s!"specification.constraints.{index}.parameters"
  match c.type with
  | .forbiddenAction =>
    extraParameterErrors c.parameters ["action"] path
      ++ match actionValues (c.parameters.get "action") with
        | some actions =>
          if actions.length = 1 then unsupportedActions actions catalog s!"{path}.action"
          else [error "invalid_action" "forbidden_action requires one action" s!"{path}.action"]
        | none => [error "invalid_action" "forbidden_action requires one action" s!"{path}.action"]
  | .allowedAction =>
    extraParameterErrors c.parameters [allowedKey c] path
      ++ match allowedSet c with
        | some actions => unsupportedActions actions catalog s!"{path}.actions"
        | none => [error "invalid_action" "allowed_action requires actions" s!"{path}.actions"]
  | .maximumSpend | .minimumReserve =>
    extraParameterErrors c.parameters ["amount"] path
      ++ match numeric (c.parameters.get "amount") with
        | some amount =>
          if amount < 0 then [error "invalid_threshold" "amount must be non-negative" s!"{path}.amount"] else []
        | none => [error "invalid_threshold" "amount must be non-negative" s!"{path}.amount"]
  | .resourceFloor =>
    extraParameterErrors c.parameters ["resource", "floor"] path
      ++ resourceThresholdErrors (c.parameters.get "resource") (c.parameters.get "floor") path catalog

def forbidden (spec : TaskSpecification) : List String :=
  spec.authority.forbiddenActions.map (·.val) ++ spec.constraints.flatMap forbiddenSet

def allowedSets (spec : TaskSpecification) : List (List String) := spec.constraints.filterMap allowedSet

def floors (spec : TaskSpecification) : List (String × ℚ) := spec.constraints.filterMap floor

/-! ## The whole specification (validation.py:225-308) -/

def authorityErrors (spec : TaskSpecification) (catalog : CompilerCapabilityCatalog) :
    List CompilerValidationError :=
  let authority := spec.authority
  unsupportedActions (authority.forbiddenActions.map (·.val)) catalog "specification.authority.forbidden_actions"
    ++ unsupportedActions (authority.approvalActions.map (·.val)) catalog "specification.authority.approval_actions"
    ++ match sorted ((authority.approvalActions.map (·.val)).filter (· ∈ forbidden spec)) with
      | [] => []
      | both => [error "contradictory_authority"
          s!"actions cannot require approval and be forbidden: {listRepr both}"
          "specification.authority"]

def allowedErrors (spec : TaskSpecification) : List CompilerValidationError :=
  match allowedSets spec with
  | [] => []
  | first :: others =>
    let allowed := first.filter fun action => others.all (action ∈ ·)
    if allowed = [] then
      [error "contradictory_constraints" "allowed_action constraints have no action in common"
        "specification.constraints"]
    else if allowed.all (· ∈ forbidden spec) then
      [error "contradictory_constraints" "every allowed action is also forbidden" "specification.constraints"]
    else []

/-- A resource floor at or above the target of a `run_until … below` objective. -/
def floorErrors (spec : TaskSpecification) : List CompilerValidationError :=
  let parameters := spec.objective.parameters
  if spec.objective.type = .runUntil ∧ parameters.get "direction" = some (.str "below") then
    match (parameters.get "resource").bind JsonValue.str?, numeric (parameters.get "target") with
    | some resource, some target =>
      if (floors spec).any fun f => f.1 = resource && decide (target ≤ f.2) then
        [error "contradictory_constraints" s!"resource floor prevents running {resource} below {formatG target}"
          "specification.constraints"]
      else []
    | _, _ => []
  else []

def stopConditionErrors (catalog : CompilerCapabilityCatalog) (condition : String) (index : Nat) :
    List CompilerValidationError :=
  match Condition.fullmatch condition with
  | none => [error "invalid_stop_condition" s!"unsupported stop condition: {condition}"
      s!"specification.stop_conditions.{index}"]
  | some m => if m.resource ∈ catalog.resources then [] else
      [error "invalid_resource" s!"unsupported stop-condition resource: {m.resource}"
        s!"specification.stop_conditions.{index}"]

def validateSpecification (spec : TaskSpecification) (catalog : CompilerCapabilityCatalog) :
    List CompilerValidationError :=
  objectiveErrors spec catalog
    ++ (spec.constraints.zipIdx.flatMap fun (c, index) => constraintErrors catalog c index)
    ++ authorityErrors spec catalog ++ allowedErrors spec ++ floorErrors spec
    ++ spec.stopConditions.zipIdx.flatMap fun (condition, index) => stopConditionErrors catalog condition.val index

/-- Of an accepted specification every constraint is accepted. -/
theorem constraintErrors_of_valid {spec : TaskSpecification} {catalog : CompilerCapabilityCatalog}
    (h : validateSpecification spec catalog = []) {c : Constraint} (hc : c ∈ spec.constraints) :
    ∃ index, constraintErrors catalog c index = [] := by
  obtain ⟨index, hi⟩ := List.mem_iff_getElem?.1 hc
  have hi : (c, index) ∈ spec.constraints.zipIdx := List.mk_mem_zipIdx_iff_getElem?.2 hi
  simp only [validateSpecification, List.append_eq_nil_iff, List.flatMap_eq_nil_iff] at h
  exact ⟨index, h.1.1.1.1.2 (c, index) hi⟩

end IntentCompiler

end SimPilot
