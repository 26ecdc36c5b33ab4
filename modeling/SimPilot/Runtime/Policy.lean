import SimPilot.Runtime.Models
import SimPilot.Domain.Text
/-!
# `PolicyEngine.evaluate` (runtime/policy.py)

The loop over the constraints fills five accumulators, each from the constraints of one
type; each accumulator is a definition over one constraint. Every shape of `parameters`
the loop does not recognise adds nothing.
-/

namespace SimPilot

/-- `isinstance(amount, (int, float)) and not isinstance(amount, bool)`. -/
def Constraint.number (c : Constraint) (key : String) : Option ℚ := (c.parameters.get key).bind JsonValue.number?

def Constraint.string (c : Constraint) (key : String) : Option String := (c.parameters.get key).bind JsonValue.str?

namespace PolicyEngine

/-- What one `forbidden_action` constraint adds to `forbidden`. -/
def forbiddenAction (c : Constraint) : Option String :=
  if c.type = .forbiddenAction then c.string "action" else none

/-- What one `allowed_action` constraint adds to `allowed_sets`. -/
def allowedSet (c : Constraint) : Option (List String) :=
  if c.type = .allowedAction then
    match (c.parameters.get "actions").bind JsonValue.strings? with
    | some values => some values
    | none => (c.string "action").map ([·])
  else none

def minimumReserve (c : Constraint) : Option ℚ := if c.type = .minimumReserve then c.number "amount" else none

def resourceFloor (c : Constraint) : Option (String × ℚ) :=
  if c.type = .resourceFloor then
    match c.string "resource", c.number "floor" with
    | some resource, some floor => some (resource, floor)
    | _, _ => none
  else none

def hardMaximum (c : Constraint) : Option ℚ := if c.type = .maximumSpend then c.number "amount" else none

/-- The actions `evaluate` refuses by name. -/
def forbidden (spec : TaskSpecification) : List String :=
  spec.authority.forbiddenActions.map (·.val) ++ spec.constraints.filterMap forbiddenAction

def allowedSets (spec : TaskSpecification) : List (List String) := spec.constraints.filterMap allowedSet

/-- The part of `evaluate` that looks at the action's type alone. -/
def permits (spec : TaskSpecification) (type : String) : Bool :=
  type ∉ forbidden spec && (allowedSets spec).all (type ∈ ·)

def when (c : Prop) [Decidable c] (reason : String) : List String := if c then [reason] else []

/-- The reserve checks (policy.py:76-81). -/
def reserveReasons (spec : TaskSpecification) (observation : Observation) (cost : ℚ) : List String :=
  let reserves := spec.constraints.filterMap minimumReserve
  if reserves = [] then []
  else match (observation.state.get "cash").bind JsonValue.number? with
    | none => ["cash is unavailable for reserve enforcement"]
    | some cash => when (reserves.any (cash - cost < ·)) "action would violate minimum reserve"

/-- The check of one resource floor (policy.py:82-87). -/
def floorReasons (observation : Observation) : String × ℚ → List String
  | (resource, floor) => match (observation.state.get resource).bind JsonValue.number? with
    | none => [s!"resource floor cannot be evaluated: {resource}"]
    | some value => when (value < floor) s!"resource is below required floor: {resource}"

/-- The list `reasons`, in the order the checks append to it. -/
def reasons (spec : TaskSpecification) (action : Action) (observation : Observation) (totalSpend : ℚ)
    (validation : AdapterValidation) : List String :=
  let cost := validation.estimatedCost
  when (validation.valid = false) s!"adapter validation failed: {validation.message}"
    ++ when (action.type.val ∈ forbidden spec) s!"action is forbidden: {action.type.val}"
    ++ when ((allowedSets spec).any (action.type.val ∉ ·)) s!"action is not in the allowed set: {action.type.val}"
    ++ when (spec.authority.maximumTotalSpend.any (· < totalSpend + cost)) "action would exceed maximum total spend"
    ++ when ((spec.constraints.filterMap hardMaximum).any (· < totalSpend + cost))
      "action would exceed maximum spend constraint"
    ++ reserveReasons spec observation cost
    ++ (spec.constraints.filterMap resourceFloor).flatMap (floorReasons observation)

/-- `approval_required` before it is combined with the reasons (policy.py:89-91). -/
def approvalRequired (spec : TaskSpecification) (action : Action) (validation : AdapterValidation) : Bool :=
  spec.authority.approvalActions.any (·.val = action.type.val)
    || spec.authority.maximumSingleSpend.any (· < validation.estimatedCost)

def evaluate (spec : TaskSpecification) (action : Action) (observation : Observation) (totalSpend : ℚ)
    (validation : AdapterValidation) : PolicyDecision :=
  let reasons := reasons spec action observation totalSpend validation
  { allowed := reasons = []
    approvalRequired := approvalRequired spec action validation && decide (reasons = [])
    reasons }

/-! ## What an allowed action has passed -/

theorem when_eq_nil {c : Prop} [Decidable c] {r : String} : when c r = [] ↔ ¬ c := by
  unfold when; split <;> simp_all

theorem evaluate_allowed {spec : TaskSpecification} {action : Action} {observation : Observation} {totalSpend : ℚ}
    {validation : AdapterValidation} :
    (evaluate spec action observation totalSpend validation).allowed = true ↔
      validation.valid = true ∧ permits spec action.type.val = true ∧
      (∀ m ∈ spec.authority.maximumTotalSpend, totalSpend + validation.estimatedCost ≤ m) ∧
      (∀ m ∈ spec.constraints.filterMap hardMaximum, totalSpend + validation.estimatedCost ≤ m) ∧
      reserveReasons spec observation validation.estimatedCost = [] ∧
      ∀ f ∈ spec.constraints.filterMap resourceFloor, floorReasons observation f = [] := by
  simp only [evaluate, reasons, decide_eq_true_eq, List.append_eq_nil_iff, when_eq_nil, List.flatMap_eq_nil_iff,
    Bool.not_eq_false, permits, Bool.and_eq_true, List.any_eq_true, not_exists, not_and, not_lt, Option.any_eq_true,
    Option.mem_def, List.all_eq_true, decide_eq_true_eq, not_not]
  tauto

/-- An allowed action keeps to every spending limit at its validated cost. -/
theorem spend_le_of_allowed {spec : TaskSpecification} {action : Action} {observation : Observation}
    {totalSpend : ℚ} {validation : AdapterValidation}
    (h : (evaluate spec action observation totalSpend validation).allowed = true) :
    (∀ m ∈ spec.authority.maximumTotalSpend, totalSpend + validation.estimatedCost ≤ m) ∧
      ∀ m ∈ spec.constraints.filterMap hardMaximum, totalSpend + validation.estimatedCost ≤ m := by
  obtain ⟨-, -, ht, hm, -⟩ := evaluate_allowed.1 h
  exact ⟨ht, hm⟩

end PolicyEngine

end SimPilot
