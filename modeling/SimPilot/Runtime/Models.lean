import SimPilot.Domain.Models
/-!
# Runtime models (runtime/models.py, adapters/base.py) and durable records (persistence/models.py)

The records the engine exchanges with its store, its adapter and its operator.
-/

namespace SimPilot

/-! ## Evaluation, policy and verification -/

inductive EvaluationStatus where
  | running | completed | blocked
  deriving DecidableEq, Repr

def EvaluationStatus.value : EvaluationStatus → String
  | .running => "running"
  | .completed => "completed"
  | .blocked => "blocked"

structure RuntimeEvaluation where
  currentStatus : EvaluationStatus
  complete : Bool
  progressSummary : String
  stopConditionMet : Bool := false
  blockedReason : Option String := none
  deriving DecidableEq, Repr

structure PolicyDecision where
  allowed : Bool
  approvalRequired : Bool := false
  reasons : List String := []
  deriving DecidableEq, Repr

structure VerificationResult where
  verified : Bool
  reasons : List String := []
  deriving DecidableEq, Repr

def optionJson (f : α → JsonValue) : Option α → JsonValue
  | none => .null
  | some a => f a

def RuntimeEvaluation.modelDump (e : RuntimeEvaluation) : Dict :=
  [("schema_version", .int 1), ("current_status", .str e.currentStatus.value), ("complete", .bool e.complete),
    ("progress_summary", .str e.progressSummary), ("stop_condition_met", .bool e.stopConditionMet),
    ("blocked_reason", optionJson .str e.blockedReason)]

def PolicyDecision.modelDump (p : PolicyDecision) : Dict :=
  [("schema_version", .int 1), ("allowed", .bool p.allowed), ("approval_required", .bool p.approvalRequired),
    ("reasons", .list (p.reasons.map .str))]

def VerificationResult.modelDump (v : VerificationResult) : Dict :=
  [("schema_version", .int 1), ("verified", .bool v.verified), ("reasons", .list (v.reasons.map .str))]

def VerificationResult.modelValidate (d : Dict) : Option VerificationResult := do
  guard (d.onlyKeys ["schema_version", "verified", "reasons"])
  let verified ← (← d.get "verified").bool?
  let reasons ← ((d.get "reasons").getD (.list [])).strings?
  return { verified, reasons }

/-! ## Events -/

inductive RuntimeEventType where
  | taskCreated | taskStarted | observationRecorded | evaluationRecorded | decisionGenerated
  | decisionProviderFailed | policyValidated | actionPrepared | actionExecutionStarted
  | actionExecutionConfirmed | actionCheckpointCommitted | actionReconciliationRequired | actionReconciled
  | actionAttemptFailed | actionExecuted | actionRejected | verificationRecorded | approvalRequested
  | approvalGranted | approvalDenied | taskCompleted | taskBlocked | taskFailed | taskCancelled
  deriving DecidableEq, Repr

structure RuntimeEvent where
  taskId : UUID
  sequence : Nat
  eventType : RuntimeEventType
  timestamp : Timestamp
  payload : Dict := []
  deriving DecidableEq, Repr

/-! ## Approvals and safeguards -/

inductive ApprovalStatus where
  | pending | approved | denied
  deriving DecidableEq, Repr

structure ApprovalRequest where
  id : UUID
  taskId : UUID
  action : Action
  status : ApprovalStatus := .pending
  createdAt : Timestamp
  resolvedAt : Option Timestamp := none
  deriving DecidableEq, Repr

theorem hundred_pos : 0 < 100 := by decide

theorem three_pos : 0 < 3 := by decide

theorem one_lt_three : 1 < 3 := by decide

@[ext] structure RuntimeConfiguration where
  maxIterations : Nat := 100
  maxConsecutiveFailures : Nat := 3
  repeatedActionLimit : Nat := 3
  repeatedStateLimit : Nat := 3
  blockOnFalseCompletion : Bool := false
  decisionContextEventLimit : Nat := 20
  decisionContextMaxBytes : Nat := 65536
  maxIterations_pos : 0 < maxIterations := by first | exact hundred_pos | decide
  maxConsecutiveFailures_pos : 0 < maxConsecutiveFailures := by first | exact three_pos | decide
  repeatedActionLimit_gt : 1 < repeatedActionLimit := by first | exact one_lt_three | decide
  repeatedStateLimit_gt : 1 < repeatedStateLimit := by first | exact one_lt_three | decide
  deriving Repr

instance : DecidableEq RuntimeConfiguration := fun _ _ => decidable_of_iff _ RuntimeConfiguration.ext_iff.symm

/-- `RuntimeSafeguardState`. The two fingerprints are dumped documents. -/
structure RuntimeSafeguardState where
  iterations : Nat := 0
  consecutiveFailures : Nat := 0
  repeatedActionCount : Nat := 0
  repeatedStateCount : Nat := 0
  rejectedActionCount : Nat := 0
  lastActionFingerprint : Option JsonValue := none
  lastStateFingerprint : Option JsonValue := none
  approvedOnceAction : Option Action := none
  approvedApprovalId : Option UUID := none
  deriving DecidableEq, Repr

/-- `runtime_state.model_copy(update={"approved_once_action": None, "approved_approval_id": None})`. -/
def RuntimeSafeguardState.clearApproval (r : RuntimeSafeguardState) : RuntimeSafeguardState :=
  { r with approvedOnceAction := none, approvedApprovalId := none }

structure RuntimeOutcome where
  taskId : UUID
  status : TaskStatus
  totalSpend : ℚ
  iterations : Nat
  reason : Option String := none
  pendingApproval : Option ApprovalRequest := none
  deriving DecidableEq, Repr

/-! ## Adapters (adapters/base.py) -/

/-- `AdapterSnapshot`; its own `schema_version` is the literal 1. -/
structure AdapterSnapshot where
  adapterType : String
  simulationSchemaVersion : Nat
  observationSequence : Nat
  seed : String
  state : Dict
  schema_pos : 1 ≤ simulationSchemaVersion := by decide
  deriving DecidableEq, Repr

/-- `left == right` on two snapshots. -/
def AdapterSnapshot.pyEq (left right : AdapterSnapshot) : Bool :=
  left.adapterType = right.adapterType && left.simulationSchemaVersion = right.simulationSchemaVersion
    && left.observationSequence = right.observationSequence && left.seed = right.seed
    && Dict.pyEq left.state right.state

@[simp] theorem AdapterSnapshot.pyEq_self (s : AdapterSnapshot) : s.pyEq s = true := by simp [pyEq]

inductive ActionParameterType where
  | integer | number | string | boolean
  deriving DecidableEq, Repr

structure ActionParameterDefinition where
  name : String
  type : ActionParameterType
  required : Bool := true
  minimum : Option ℚ := none
  maximum : Option ℚ := none
  exclusiveMinimum : Bool := false
  allowedValues : List JsonValue := []
  deriving DecidableEq, Repr

structure ActionDefinition where
  type : String
  parameters : List ActionParameterDefinition := []
  description : String
  deriving DecidableEq, Repr

/-- `AdapterValidation`: what an adapter says about an action before it is executed. -/
@[ext] structure AdapterValidation where
  valid : Bool
  message : String
  estimatedCost : ℚ
  stateStale : Bool := false
  cost_nonneg : 0 ≤ estimatedCost := by first | exact nothing_nonneg | decide
  deriving Repr

instance : DecidableEq AdapterValidation := fun _ _ => decidable_of_iff _ AdapterValidation.ext_iff.symm

/-! ## Durable records (persistence/models.py) -/

structure TaskRecord where
  task : Task
  cancelRequested : Bool := false
  runtimeState : RuntimeSafeguardState := {}
  deriving DecidableEq, Repr

structure EventRecord where
  id : UUID
  event : RuntimeEvent
  deriving DecidableEq, Repr

/-- `ApprovalRecord`: an approval has a resolution time exactly when it is resolved. -/
structure ApprovalRecord where
  approval : ApprovalRequest
  reason : Option String := none
  resolution : approval.resolvedAt = none ↔ approval.status = .pending
  deriving DecidableEq, Repr

structure CheckpointMetadata where
  id : UUID
  taskId : UUID
  runtimeSequence : Nat
  simulationTick : Nat
  simulationSchemaVersion : Nat
  adapterType : String
  adapterSchemaVersion : Nat
  adapterObservationSequence : Nat
  adapterSeed : String
  createdAt : Timestamp
  schema_pos : 1 ≤ simulationSchemaVersion := by decide
  deriving DecidableEq, Repr

structure SimulationCheckpoint where
  metadata : CheckpointMetadata
  state : Dict
  deriving DecidableEq, Repr

end SimPilot
