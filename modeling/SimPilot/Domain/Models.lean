import SimPilot.Domain.Json
/-!
# The domain models (domain/types.py, domain/models.py)

A field constraint that every construction of a model checks and no `model_copy`
of the program can break is a field of the structure. `modelDump` is
`model_dump(mode="json")` and `modelValidate` is `model_validate_json` of a parsed
document; every model the journal carries reads back what it wrote.
-/

namespace SimPilot

/-! ## Enumerations (domain/types.py) -/

inductive TaskStatus where
  | pending | running | completed | blocked | waitingForApproval | failed | cancelled
  deriving DecidableEq, Repr, Inhabited

def TaskStatus.value : TaskStatus → String
  | .pending => "pending"
  | .running => "running"
  | .completed => "completed"
  | .blocked => "blocked"
  | .waitingForApproval => "waiting_for_approval"
  | .failed => "failed"
  | .cancelled => "cancelled"

inductive ObjectiveType where
  | reachResource | maintainResource | completeProject | runUntil
  deriving DecidableEq, Repr

inductive ConstraintType where
  | maximumSpend | minimumReserve | allowedAction | forbiddenAction | resourceFloor
  deriving DecidableEq, Repr

inductive DecisionType where
  | execute | wait | complete | approvalRequired | blocked
  deriving DecidableEq, Repr

def DecisionType.value : DecisionType → String
  | .execute => "execute"
  | .wait => "wait"
  | .complete => "complete"
  | .approvalRequired => "approval_required"
  | .blocked => "blocked"

/-! ## Specifications -/

structure Objective where
  type : ObjectiveType
  parameters : Dict := []
  deriving DecidableEq, Repr

structure Constraint where
  type : ConstraintType
  parameters : Dict := []
  deriving DecidableEq, Repr

/-- No limit is a limit that is kept. -/
theorem none_nonneg : ∀ m ∈ (none : Option ℚ), 0 ≤ m := by simp

theorem none_le_none : ∀ s ∈ (none : Option ℚ), ∀ t ∈ (none : Option ℚ), s ≤ t := by simp

theorem nothing_nonneg : (0 : ℚ) ≤ 0 := le_refl 0

/-- `AuthorityPolicy`: a single-action limit never exceeds the total limit. -/
structure AuthorityPolicy where
  maximumSingleSpend : Option ℚ := none
  maximumTotalSpend : Option ℚ := none
  approvalActions : List NonEmptyString := []
  forbiddenActions : List NonEmptyString := []
  single_nonneg : ∀ m ∈ maximumSingleSpend, 0 ≤ m := by first | exact none_nonneg | simp
  total_nonneg : ∀ m ∈ maximumTotalSpend, 0 ≤ m := by first | exact none_nonneg | simp
  single_le_total : ∀ s ∈ maximumSingleSpend, ∀ t ∈ maximumTotalSpend, s ≤ t := by first | exact none_le_none | simp
  deriving DecidableEq, Repr

structure TaskSpecification where
  objective : Objective
  constraints : List Constraint := []
  authority : AuthorityPolicy
  stopConditions : List NonEmptyString := []
  deriving DecidableEq, Repr

/-! ## Observations, actions, decisions, results -/

structure Observation where
  sequence : Nat
  timestamp : Timestamp
  tick : Nat
  summary : NonEmptyString
  state : Dict
  deriving DecidableEq, Repr

structure Action where
  type : NonEmptyString
  parameters : Dict := []
  expectedEffect : NonEmptyString
  estimatedCost : ℚ := 0
  cost_nonneg : 0 ≤ estimatedCost := by first | exact nothing_nonneg | decide
  deriving DecidableEq, Repr

/-- `left == right` on two actions: their parameters compare as dictionaries. -/
def Action.pyEq (left right : Action) : Bool :=
  left.type = right.type && Dict.pyEq left.parameters right.parameters
    && left.expectedEffect = right.expectedEffect && left.estimatedCost = right.estimatedCost

@[simp] theorem Action.pyEq_self (a : Action) : a.pyEq a = true := by simp [Action.pyEq]

/-- `Decision`: an action is present exactly in the two kinds that concern execution. -/
structure Decision where
  type : DecisionType
  reason : NonEmptyString
  action : Option Action := none
  action_presence : action.isSome = (type = .execute || type = .approvalRequired) := by decide
  deriving DecidableEq, Repr

structure ExecutionResult where
  success : Bool
  stateChanged : Bool
  cost : ℚ
  message : NonEmptyString
  cost_nonneg : 0 ≤ cost := by first | exact nothing_nonneg | decide
  deriving DecidableEq, Repr

/-- `Task`. `model_copy` keeps `total_spend` non-negative: only costs are added to it. -/
structure Task where
  id : UUID
  status : TaskStatus
  specification : TaskSpecification
  sequence : Nat := 0
  totalSpend : ℚ := 0
  createdAt : Timestamp
  updatedAt : Timestamp
  spend_nonneg : 0 ≤ totalSpend := by first | exact nothing_nonneg | decide
  deriving DecidableEq, Repr

/-- `task.model_copy(update={"total_spend": task.total_spend + Decimal(str(cost))})`. -/
def Task.charge (task : Task) (result : ExecutionResult) : Task :=
  { task with
    totalSpend := task.totalSpend + result.cost
    spend_nonneg := add_nonneg task.spend_nonneg result.cost_nonneg }

/-! ## JSON dumps and their validation -/

/-- A strict field of type `str`. -/
def JsonValue.str? : JsonValue → Option String
  | .str s => some s
  | _ => none

def JsonValue.bool? : JsonValue → Option Bool
  | .bool b => some b
  | _ => none

def JsonValue.nat? : JsonValue → Option Nat
  | .int (.ofNat n) => some n
  | _ => none

def JsonValue.dict? : JsonValue → Option Dict
  | .dict d => some d
  | _ => none

def JsonValue.datetime? : JsonValue → Option Timestamp
  | .datetime t => some t
  | _ => none

def JsonValue.uuid? : JsonValue → Option UUID
  | .uuid id => some id
  | _ => none

/-- A field of type `Decimal` with `ge=0` read from JSON. -/
def JsonValue.amount? : JsonValue → Option {q : ℚ // 0 ≤ q}
  | .decimal q | .float q => if h : 0 ≤ q then some ⟨q, h⟩ else none
  | .int i => if h : 0 ≤ (i : ℚ) then some ⟨i, h⟩ else none
  | _ => none

/-- A field of type `NonEmptyString` read from JSON. -/
def JsonValue.nonEmpty? (v : JsonValue) : Option NonEmptyString := v.str?.bind NonEmptyString.validate

/-- `extra="forbid"`. -/
def Dict.onlyKeys (d : Dict) (fields : List String) : Bool := d.keys.all (· ∈ fields)

@[simp] theorem JsonValue.nonEmpty?_str (s : NonEmptyString) : (JsonValue.str s.val).nonEmpty? = some s := by
  simp [nonEmpty?, str?]

@[simp] theorem JsonValue.nat?_natCast (n : Nat) : (JsonValue.int n).nat? = some n := rfl

@[simp] theorem JsonValue.dict?_dict (d : Dict) : (JsonValue.dict d).dict? = some d := rfl

@[simp] theorem JsonValue.bool?_bool (b : Bool) : (JsonValue.bool b).bool? = some b := rfl

@[simp] theorem JsonValue.datetime?_datetime (t : Timestamp) : (JsonValue.datetime t).datetime? = some t := rfl

@[simp] theorem JsonValue.uuid?_uuid (id : UUID) : (JsonValue.uuid id).uuid? = some id := rfl

theorem JsonValue.amount?_decimal {q : ℚ} (h : 0 ≤ q) : (JsonValue.decimal q).amount? = some ⟨q, h⟩ := by
  simp [amount?, h]

theorem JsonValue.amount?_float {q : ℚ} (h : 0 ≤ q) : (JsonValue.float q).amount? = some ⟨q, h⟩ := by
  simp [amount?, h]

def Observation.modelDump (o : Observation) : Dict :=
  [("schema_version", .int 1), ("sequence", .int o.sequence), ("timestamp", .datetime o.timestamp),
    ("tick", .int o.tick), ("summary", .str o.summary.val), ("state", .dict o.state)]

def Observation.modelValidate (d : Dict) : Option Observation := do
  guard (d.onlyKeys ["schema_version", "sequence", "timestamp", "tick", "summary", "state"])
  let sequence ← (← d.get "sequence").nat?
  let timestamp ← (← d.get "timestamp").datetime?
  let tick ← (← d.get "tick").nat?
  let summary ← (← d.get "summary").nonEmpty?
  let state ← (← d.get "state").dict?
  return { sequence, timestamp, tick, summary, state }

/-- An observation read back from the journal is the one recorded. -/
@[simp] theorem Observation.modelValidate_modelDump (o : Observation) : modelValidate o.modelDump = some o := by
  simp [modelValidate, modelDump, Dict.onlyKeys, Assoc.keys, guard]

def Action.modelDump (a : Action) : Dict :=
  [("schema_version", .int 1), ("type", .str a.type.val), ("parameters", .dict a.parameters),
    ("expected_effect", .str a.expectedEffect.val), ("estimated_cost", .decimal a.estimatedCost)]

def Action.modelValidate (d : Dict) : Option Action := do
  guard (d.onlyKeys ["schema_version", "type", "parameters", "expected_effect", "estimated_cost"])
  let type ← (← d.get "type").nonEmpty?
  let parameters ← ((d.get "parameters").getD (.dict [])).dict?
  let expectedEffect ← (← d.get "expected_effect").nonEmpty?
  let cost ← ((d.get "estimated_cost").getD (.int 0)).amount?
  return { type, parameters, expectedEffect, estimatedCost := cost.1, cost_nonneg := cost.2 }

/-- An action read back from the journal is the one prepared. -/
@[simp] theorem Action.modelValidate_modelDump (a : Action) : modelValidate a.modelDump = some a := by
  simp [modelValidate, modelDump, Dict.onlyKeys, Assoc.keys, guard, JsonValue.amount?_decimal a.cost_nonneg]

def Decision.modelDump (d : Decision) : Dict :=
  [("schema_version", .int 1), ("type", .str d.type.value), ("reason", .str d.reason.val),
    ("action", match d.action with
      | none => .null
      | some a => .dict a.modelDump)]

def ExecutionResult.modelDump (r : ExecutionResult) : Dict :=
  [("schema_version", .int 1), ("success", .bool r.success), ("state_changed", .bool r.stateChanged),
    ("cost", .float r.cost), ("message", .str r.message.val)]

def ExecutionResult.modelValidate (d : Dict) : Option ExecutionResult := do
  guard (d.onlyKeys ["schema_version", "success", "state_changed", "cost", "message"])
  let success ← (← d.get "success").bool?
  let stateChanged ← (← d.get "state_changed").bool?
  let cost ← (← d.get "cost").amount?
  let message ← (← d.get "message").nonEmpty?
  return { success, stateChanged, cost := cost.1, message, cost_nonneg := cost.2 }

/-- A result read back from the journal is the one reported. -/
@[simp] theorem ExecutionResult.modelValidate_modelDump (r : ExecutionResult) :
    modelValidate r.modelDump = some r := by
  simp [modelValidate, modelDump, Dict.onlyKeys, Assoc.keys, guard, JsonValue.amount?_float r.cost_nonneg]

end SimPilot
