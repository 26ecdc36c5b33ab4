import SimPilot.Runtime.Models
import SimPilot.Runtime.Errors
/-!
# Action attempts (runtime/action_attempts.py)

`action_attempts` replays the journal into the attempts it prepared, in the order of
their preparation; `attemptStep` is the body of its loop. The dictionary of the source
and its list of keys are one list here.
-/

namespace SimPilot

inductive ActionAttemptStatus where
  | prepared | executionStarted | executionConfirmed | checkpointCommitted | reconciliationRequired
  | reconciled | failed
  deriving DecidableEq, Repr

def ActionAttemptStatus.value : ActionAttemptStatus → String
  | .prepared => "prepared"
  | .executionStarted => "execution_started"
  | .executionConfirmed => "execution_confirmed"
  | .checkpointCommitted => "checkpoint_committed"
  | .reconciliationRequired => "reconciliation_required"
  | .reconciled => "reconciled"
  | .failed => "failed"

/-- The statuses `unresolved_action_attempt` counts as settled. -/
def ActionAttemptStatus.isFinal : ActionAttemptStatus → Bool
  | .checkpointCommitted | .reconciled | .failed => true
  | _ => false

/-- `ATTEMPT_TRANSITIONS`. -/
def ActionAttemptStatus.canBecome : ActionAttemptStatus → ActionAttemptStatus → Bool
  | .prepared, .executionStarted | .prepared, .reconciled | .prepared, .failed => true
  | .executionStarted, .executionConfirmed | .executionStarted, .reconciliationRequired
  | .executionStarted, .reconciled | .executionStarted, .failed => true
  | .executionConfirmed, .checkpointCommitted => true
  | .reconciliationRequired, .reconciled | .reconciliationRequired, .failed => true
  | _, _ => false

/-- `ATTEMPT_EVENT_STATUS`. -/
def RuntimeEventType.attemptStatus : RuntimeEventType → Option ActionAttemptStatus
  | .actionPrepared => some .prepared
  | .actionExecutionStarted => some .executionStarted
  | .actionExecutionConfirmed => some .executionConfirmed
  | .actionCheckpointCommitted => some .checkpointCommitted
  | .actionReconciliationRequired => some .reconciliationRequired
  | .actionReconciled => some .reconciled
  | .actionAttemptFailed => some .failed
  | _ => none

inductive ReconciliationClassification where
  | definitelyNotExecuted | definitelyExecuted | inferable | ambiguous | adapterUnavailable
  deriving DecidableEq, Repr

def ReconciliationClassification.value : ReconciliationClassification → String
  | .definitelyNotExecuted => "definitely_not_executed"
  | .definitelyExecuted => "definitely_executed"
  | .inferable => "inferable"
  | .ambiguous => "ambiguous"
  | .adapterUnavailable => "adapter_unavailable"

def ReconciliationClassification.all : List ReconciliationClassification :=
  [.definitelyNotExecuted, .definitelyExecuted, .inferable, .ambiguous, .adapterUnavailable]

/-- `ReconciliationClassification(str(value))`. -/
def ReconciliationClassification.parse (v : JsonValue) : Option ReconciliationClassification :=
  v.str?.bind fun s => all.find? (·.value = s)

@[simp] theorem ReconciliationClassification.parse_value (c : ReconciliationClassification) :
    parse (.str c.value) = some c := by
  cases c <;> decide

inductive RecoveryResolution where
  | acceptCurrent | markExecuted | markNotExecuted | abandon | restorePriorCheckpoint
  deriving DecidableEq, Repr

def RecoveryResolution.value : RecoveryResolution → String
  | .acceptCurrent => "accept_current"
  | .markExecuted => "mark_executed"
  | .markNotExecuted => "mark_not_executed"
  | .abandon => "abandon"
  | .restorePriorCheckpoint => "restore_prior_checkpoint"

/-- `ActionAttempt`. -/
@[ext] structure ActionAttempt where
  taskId : UUID
  runtimeSequence : Nat
  actionId : UUID
  actionFingerprint : JsonValue
  action : Action
  priorCheckpointId : Option UUID
  priorObservationFingerprint : JsonValue
  expectedEffect : String
  estimatedCost : ℚ
  status : ActionAttemptStatus
  preparedAt : Timestamp
  updatedAt : Timestamp
  classification : Option ReconciliationClassification := none
  reason : Option String := none
  cost_nonneg : 0 ≤ estimatedCost := by first | exact nothing_nonneg | decide
  deriving Repr

instance : DecidableEq ActionAttempt := fun _ _ => decidable_of_iff _ ActionAttempt.ext_iff.symm

/-- `action_fingerprint`. -/
def actionFingerprint (action : Action) : JsonValue := JsonValue.sha256 (.dict action.modelDump)

/-- `observation_fingerprint`. -/
def observationFingerprint (o : Observation) : JsonValue :=
  JsonValue.sha256 (.dict [("sequence", .int o.sequence), ("tick", .int o.tick), ("state", .dict o.state)])

/-- `payload["action_id"]` of an attempt event. -/
def attemptId (payload : Dict) : Except PyError UUID :=
  match payload.get "action_id" with
  | some (.uuid id) => .ok id
  | some v => .error (.reconstructionConsistency
      (if v.isStr then "action-attempt action_id is invalid" else "action-attempt event has no action_id"))
  | none => .error (.reconstructionConsistency "action-attempt event has no action_id")

/-- `payload["prior_checkpoint_id"]`. -/
def priorCheckpointId (payload : Dict) : Option (Option UUID) :=
  match payload.get "prior_checkpoint_id" with
  | none | some .null => some none
  | some v => v.uuid?.map some

/-- The attempt an `action_prepared` event starts (action_attempts.py:121-150). -/
def preparedAttempt (event : RuntimeEvent) (id : UUID) : Option ActionAttempt := do
  let action ← Action.modelValidate (← (← event.payload.get "action").dict?)
  let priorCheckpointId ← priorCheckpointId event.payload
  let cost ← (← event.payload.get "estimated_cost").number?
  let expectedEffect ← (← event.payload.get "expected_effect").str?
  if h : 0 ≤ cost then
    return {
      taskId := event.taskId
      runtimeSequence := event.sequence
      actionId := id
      actionFingerprint := ← event.payload.get "action_fingerprint"
      action
      priorCheckpointId
      priorObservationFingerprint := ← event.payload.get "prior_observation_fingerprint"
      expectedEffect
      estimatedCost := cost
      status := .prepared
      preparedAt := event.timestamp
      updatedAt := event.timestamp
      cost_nonneg := h }
  else none

/-- The classification an attempt carries after an event (action_attempts.py:160-170). -/
def nextClassification (payload : Dict) (attempt : ActionAttempt) :
    Except PyError (Option ReconciliationClassification) :=
  match payload.get "classification" with
  | none | some .null => .ok attempt.classification
  | some v => match ReconciliationClassification.parse v with
    | some c => .ok (some c)
    | none => .error (.reconstructionConsistency "action-attempt reconciliation classification is invalid")

/-- `attempts[identifier] = attempt.model_copy(update=…)` (action_attempts.py:172-181). -/
def ActionAttempt.advance (attempt : ActionAttempt) (event : RuntimeEvent) (status : ActionAttemptStatus)
    (classification : Option ReconciliationClassification) : ActionAttempt :=
  { attempt with
    status
    updatedAt := event.timestamp
    classification
    reason := match (event.payload.get "reason").bind JsonValue.str? with
      | some reason => some reason
      | none => attempt.reason }

/-- One event of `action_attempts`. -/
def attemptStep (attempts : List ActionAttempt) (event : RuntimeEvent) : Except PyError (List ActionAttempt) :=
  match event.eventType.attemptStatus with
  | none => .ok attempts
  | some status => do
    let id ← attemptId event.payload
    if status = .prepared then
      if attempts.any (·.actionId = id) then
        .error (.reconstructionConsistency "action attempt was prepared more than once")
      else match preparedAttempt event id with
        | none => .error (.reconstructionConsistency "invalid action-prepared payload")
        | some attempt => .ok (attempts ++ [attempt])
    else match attempts.find? (·.actionId = id) with
      | none => .error (.reconstructionConsistency "action-attempt event precedes preparation")
      | some attempt =>
        if attempt.status.canBecome status then do
          let classification ← nextClassification event.payload attempt
          .ok (attempts.map fun a => if a.actionId = id then attempt.advance event status classification else a)
        else .error (.reconstructionConsistency
          s!"invalid action-attempt transition: {attempt.status.value} -> {status.value}")

/-- `action_attempts`. -/
def actionAttempts (events : List RuntimeEvent) : Except PyError (List ActionAttempt) :=
  events.foldlM attemptStep []

/-- The latest attempt, unless it is settled. -/
def latestUnresolved (attempts : List ActionAttempt) : Option ActionAttempt :=
  attempts.getLast?.filter fun latest => ¬ latest.status.isFinal

/-- `unresolved_action_attempt`. -/
def unresolvedActionAttempt (events : List RuntimeEvent) : Except PyError (Option ActionAttempt) :=
  (actionAttempts events).map latestUnresolved

end SimPilot
