import SimPilot.Runtime.ActionAttempts
/-!
# `DecisionContextProjector` (runtime/decision_context.py)

What a decision provider is shown. The number of bytes of a context's canonical JSON is a
parameter (`size`): the projector only compares it with its limit.
-/

namespace SimPilot

/-- `DecisionEventSummary`. -/
structure DecisionEventSummary where
  sequence : Nat
  eventType : RuntimeEventType
  timestamp : Timestamp
  details : Dict
  deriving DecidableEq, Repr

structure AuthoritySummary where
  maximumSingleSpend : Option ℚ
  maximumTotalSpend : Option ℚ
  remainingTotalSpend : Option ℚ
  approvalActions : List NonEmptyString
  forbiddenActions : List NonEmptyString
  deriving DecidableEq, Repr

structure PendingRestrictions where
  forbiddenActions : List String
  allowedActions : List String
  rejectedActions : List String
  deniedActions : List String
  recentFailedStrategies : List String
  deriving DecidableEq, Repr

structure ExecutionSummary where
  action : Action
  result : Option ExecutionResult := none
  verification : Option VerificationResult := none
  deriving DecidableEq, Repr

structure SafeguardSummary where
  iterations : Nat
  consecutiveFailures : Nat
  repeatedActionCount : Nat
  repeatedStateCount : Nat
  rejectedActionCount : Nat
  lastActionFingerprint : Option JsonValue
  deriving DecidableEq, Repr

structure DecisionContext where
  taskId : UUID
  specification : TaskSpecification
  observation : Observation
  previousObservation : Option Observation
  availableActions : List ActionDefinition
  recentEvents : List DecisionEventSummary
  accumulatedSpend : ℚ
  remainingAuthority : AuthoritySummary
  pendingRestrictions : PendingRestrictions
  previousExecution : Option ExecutionSummary
  safeguards : SafeguardSummary
  progress : RuntimeEvaluation
  deriving DecidableEq, Repr

/-- `DecisionProviderResult`, its metadata as the document it dumps to. -/
structure DecisionProviderResult where
  decision : Decision
  metadata : Dict
  deriving DecidableEq, Repr

/-- `RELEVANT_EVENT_TYPES`. -/
def RuntimeEventType.isRelevant : RuntimeEventType → Bool
  | .decisionGenerated | .policyValidated | .actionPrepared | .actionExecuted | .actionRejected
  | .verificationRecorded | .approvalRequested | .approvalGranted | .approvalDenied | .actionAttemptFailed
  | .actionReconciliationRequired | .actionReconciled => true
  | _ => false

namespace DecisionContextProjector

/-- `values[-n:]`: all of them when `n` is zero. -/
def lastN {α : Type} (n : Nat) (values : List α) : List α := if n = 0 then values else values.drop (values.length - n)

/-- `tuple(sorted(set(values)))`. -/
def sortedSet (values : List String) : List String := values.dedup.insertionSort (· ≤ ·)

/-- `_previous_observation`. -/
def previousObservation (events : List RuntimeEvent) (currentSequence : Nat) : Option Observation :=
  (events.reverse.filter (·.eventType = .observationRecorded)).findSome? fun event =>
    (Observation.modelValidate event.payload).filter (·.sequence < currentSequence)

/-- What `_restrictions` collects from the events. -/
structure EventRestrictions where
  rejected : List String := []
  denied : List String := []
  failed : List String := []
  approvalActions : Assoc JsonValue String := []

/-- One event of the loop of `_restrictions`. -/
def restrictionStep (acc : EventRestrictions) (event : RuntimeEvent) : EventRestrictions :=
  let approvalId := event.payload.get "approval_id"
  let actionType := (event.payload.get "action_type").bind JsonValue.str?
  let reason := (event.payload.get "reason").bind JsonValue.str?
  match event.eventType with
  | .approvalRequested => match approvalId, actionType with
    | some id, some type =>
      if id.isStr then { acc with approvalActions := acc.approvalActions.set id type } else acc
    | _, _ => acc
  | .approvalDenied => match approvalId.bind acc.approvalActions.get with
    | some type => { acc with denied := acc.denied ++ [type] }
    | none => acc
  | .actionRejected => match actionType, reason with
    | some type, _ => { acc with rejected := acc.rejected ++ [type] }
    | none, some reason => { acc with rejected := acc.rejected ++ [reason] }
    | none, none => acc
  | .actionAttemptFailed => match reason with
    | some reason => { acc with failed := acc.failed ++ [reason] }
    | none => acc
  | _ => acc

/-- The types a constraint adds to `forbidden`. -/
def forbiddenOf (c : Constraint) : List String :=
  if c.type = .forbiddenAction then ((c.parameters.get "action").bind JsonValue.str?).toList else []

/-- The types a constraint adds to `allowed`. -/
def allowedOf (c : Constraint) : List String :=
  if c.type = .allowedAction then
    ((c.parameters.get "action").bind JsonValue.str?).toList ++
      match c.parameters.get "actions" with
      | some (.list values) => values.filterMap JsonValue.str?
      | _ => []
  else []

/-- `_restrictions`. -/
def restrictions (spec : TaskSpecification) (events : List RuntimeEvent) : PendingRestrictions :=
  let found := events.foldl restrictionStep {}
  { forbiddenActions := sortedSet (spec.authority.forbiddenActions.map (·.val) ++ spec.constraints.flatMap forbiddenOf)
    allowedActions := sortedSet (spec.constraints.flatMap allowedOf)
    rejectedActions := lastN 5 found.rejected
    deniedActions := lastN 5 found.denied
    recentFailedStrategies := lastN 5 found.failed }

/-- The loop of `_previous_execution`, newest event first. -/
def previousExecutionFrom : Option ExecutionResult → Option VerificationResult → List RuntimeEvent →
    Option ExecutionSummary
  | _, _, [] => none
  | result, verification, event :: rest =>
    if result = none ∧ event.eventType = .actionExecuted then
      previousExecutionFrom (ExecutionResult.modelValidate event.payload) verification rest
    else if verification = none ∧ event.eventType = .verificationRecorded then
      previousExecutionFrom result (VerificationResult.modelValidate event.payload) rest
    else if event.eventType = .actionPrepared then
      match event.payload.get "action" with
      | some (.dict raw) => (Action.modelValidate raw).map fun action => { action, result, verification }
      | _ => previousExecutionFrom result verification rest
    else previousExecutionFrom result verification rest

/-- `_previous_execution`. -/
def previousExecution (events : List RuntimeEvent) : Option ExecutionSummary :=
  previousExecutionFrom none none events.reverse

/-- The loop that drops the oldest summaries until the context fits. -/
def shrink (size : DecisionContext → Nat) (maxSerializedBytes : Nat) (context : DecisionContext) :
    List DecisionEventSummary → DecisionContext
  | [] => { context with recentEvents := [] }
  | summary :: summaries =>
    if maxSerializedBytes < size { context with recentEvents := summary :: summaries } then
      shrink size maxSerializedBytes context summaries
    else { context with recentEvents := summary :: summaries }

/-- `DecisionEventSummary` of an event. -/
def summarize (event : RuntimeEvent) : DecisionEventSummary :=
  ⟨event.sequence, event.eventType, event.timestamp, event.payload⟩

def project (size : DecisionContext → Nat) (config : RuntimeConfiguration) (task : Task) (observation : Observation)
    (availableActions : List ActionDefinition) (events : List RuntimeEvent) (runtimeState : RuntimeSafeguardState)
    (progress : RuntimeEvaluation) : Except PyError DecisionContext :=
  let relevant := events.filter (·.eventType.isRelevant)
  let authority := task.specification.authority
  let context := shrink size config.decisionContextMaxBytes
    { taskId := task.id
      specification := task.specification
      observation
      previousObservation := previousObservation events observation.sequence
      availableActions
      recentEvents := []
      accumulatedSpend := task.totalSpend
      remainingAuthority :=
        { maximumSingleSpend := authority.maximumSingleSpend
          maximumTotalSpend := authority.maximumTotalSpend
          remainingTotalSpend := authority.maximumTotalSpend.map fun limit => max 0 (limit - task.totalSpend)
          approvalActions := authority.approvalActions
          forbiddenActions := authority.forbiddenActions }
      pendingRestrictions := restrictions task.specification relevant
      previousExecution := previousExecution events
      safeguards :=
        { iterations := runtimeState.iterations
          consecutiveFailures := runtimeState.consecutiveFailures
          repeatedActionCount := runtimeState.repeatedActionCount
          repeatedStateCount := runtimeState.repeatedStateCount
          rejectedActionCount := runtimeState.rejectedActionCount
          lastActionFingerprint := runtimeState.lastActionFingerprint }
      progress }
    ((lastN config.decisionContextEventLimit relevant).map summarize)
  if config.decisionContextMaxBytes < size context then
    .error (.decisionProvider "DecisionContextTooLargeError"
      s!"decision context exceeds {config.decisionContextMaxBytes} bytes")
  else .ok context

theorem project_error {size : DecisionContext → Nat} {config : RuntimeConfiguration} {task : Task} {o : Observation}
    {actions : List ActionDefinition} {events : List RuntimeEvent} {runtimeState : RuntimeSafeguardState}
    {progress : RuntimeEvaluation} {e : PyError}
    (h : project size config task o actions events runtimeState progress = .error e) : e.isException = true := by
  simp only [project] at h
  split at h
  · cases h
    rfl
  · cases h

end DecisionContextProjector

end SimPilot
