import SimPilot.Runtime.Execution
/-!
# `RuntimeEngine` (runtime/engine.py)

The seven operations of the engine on one task. `EngineCall` names a call with its
arguments and `EngineCall.program` is what the call does.
-/

namespace SimPilot
open Effect

/-- An approval resolved now. -/
def ApprovalRequest.resolve (a : ApprovalRequest) (status : ApprovalStatus) (now : Timestamp) : ApprovalRequest :=
  { a with status, resolvedAt := some now }

/-- The record of a resolved approval. -/
def resolvedRecord (a : ApprovalRequest) (status : ApprovalStatus) (now : Timestamp) (reason : String)
    (h : status ≠ .pending) : ApprovalRecord where
  approval := a.resolve status now
  reason := some reason
  resolution := by simp [ApprovalRequest.resolve, h]

/-- The `action_reconciled` event of an operator's decision (engine.py:165-170). -/
def reconciledDraft (id : UUID) (report : ReconciliationReport) (resolution : RecoveryResolution) : EventDraft :=
  ⟨.actionReconciled,
    [("action_id", .uuid id), ("classification", .str report.classification.value),
      ("resolution", .str resolution.value), ("reason", .str report.reason)]⟩

/-- The observation a recovery records of the current snapshot (engine.py:184-197). -/
def recoveredObservation (attempt : ActionAttempt) (previous : Observation) (current : AdapterSnapshot)
    (now : Timestamp) : Except PyError Observation :=
  match (current.state.get "tick").bind JsonValue.int? with
  | none => .error (.valueError "current adapter snapshot has an invalid tick")
  | some (.negSucc _) =>
    .error (.validation "Observation" "tick" "Input should be greater than or equal to 0")
  | some (.ofNat tick) =>
    match NonEmptyString.validate s!"Recovered state after action {attempt.actionId.text}." with
    | none => .error (.validation "Observation" "summary" "String should have at least 1 character")
    | some summary => .ok { sequence := previous.sequence + 1, timestamp := now, tick, summary, state := current.state }

/-- `charge` when the result is a success. -/
def Task.chargeSuccess (task : Task) (result : ExecutionResult) : Task :=
  if result.success then task.charge result else task

namespace Engine
open Py

/-- `approve`. -/
def approve (id : UUID) : Engine σ ApprovalRequest := do
  let context ← reconstruct id
  match context.pendingApproval with
  | none => raise (.valueError "no pending approval exists for task")
  | some pending => do
    let now ← now
    let record := resolvedRecord pending.approval .approved now "approval granted" (by decide)
    let _ ← commitIteration
      { current := taskRecord context, task := context.task
        runtimeState := { context.runtimeState with
          approvedOnceAction := some record.approval.action, approvedApprovalId := some record.approval.id }
        eventDrafts := [⟨.approvalGranted, [("approval_id", .uuid record.approval.id)]⟩]
        approvalUpdate := some record }
    return record.approval

/-- `deny`. -/
def deny (id : UUID) : Engine σ ApprovalRequest := do
  let context ← reconstruct id
  match context.pendingApproval with
  | none => raise (.valueError "no pending approval exists for task")
  | some pending => do
    let now ← now
    let record := resolvedRecord pending.approval .denied now "approval denied" (by decide)
    let blocked ← lift (withStatus context.task .blocked)
    let _ ← commitIteration
      { current := taskRecord context, task := blocked, runtimeState := context.runtimeState
        eventDrafts :=
          [⟨.approvalDenied, [("approval_id", .uuid record.approval.id)]⟩, reasonDraft .taskBlocked "approval denied"]
        approvalUpdate := some record
        adapterSnapshot := copyCheckpointForTerminal context.checkpoint }
    return record.approval

/-- `cancel`. -/
def cancel (id : UUID) : Engine σ Unit := do
  let context ← reconstruct id
  if context.task.status.isTerminal then return ()
  else do
    let task ← lift (withStatus context.task .cancelled)
    let _ ← commitIteration
      { current := taskRecord context, task, runtimeState := context.runtimeState, cancelRequested := some true
        eventDrafts := [reasonDraft .taskCancelled "cancellation requested"]
        adapterSnapshot := copyCheckpointForTerminal context.checkpoint }
    return ()

/-- The commit of `resolve_recovery` for a resolution that takes over the current state
(engine.py:175-206). -/
def acceptCurrent (context : ReconstructedRuntimeContext) (attempt : ActionAttempt) (report : ReconciliationReport)
    (resolution : RecoveryResolution) (current : Option AdapterSnapshot) : Engine σ Unit :=
  match current, report.expectedResult with
  | some current, some result =>
    match context.observation with
    | none => raise (.valueError "recovery requires a prior observation")
    | some previous => do
      let observation ← lift (recoveredObservation attempt previous current (← now))
      let _ ← commitWithDrafts (taskRecord context) (context.task.chargeSuccess result)
        context.runtimeState.clearApproval
        [observationDraft observation, reconciledDraft attempt.actionId report resolution]
        (some { current with observationSequence := observation.sequence })
      return ()
  | _, _ => raise (.valueError "this resolution requires independently observed current state")

/-- `resolve_recovery`. -/
def resolveRecovery (services : Services) (id : UUID) (resolution : RecoveryResolution)
    (current : Option AdapterSnapshot) : Engine σ Unit := do
  let context ← reconstruct id
  match context.unresolvedAttempt with
  | none => raise (.valueError "task has no unresolved action attempt")
  | some attempt => do
    let prior ← lift context.adapterSnapshot
    let report ← reconcile services.reconcilers attempt prior current
    match resolution with
    | .acceptCurrent | .markExecuted => acceptCurrent context attempt report resolution current
    | .abandon => do
      let blocked ← lift (withStatus context.task .blocked)
      let _ ← commitWithDrafts (taskRecord context) blocked context.runtimeState.clearApproval
        [reconciledDraft attempt.actionId report resolution, reasonDraft .taskBlocked "recovery abandoned"]
        (copyCheckpointForTerminal context.checkpoint)
      return ()
    | .markNotExecuted | .restorePriorCheckpoint => do
      let _ ← commitWithDrafts (taskRecord context) context.task context.runtimeState.clearApproval
        [reconciledDraft attempt.actionId report resolution] none
      return ()

/-- `resume`. -/
def resume (services : Services) (id : UUID) (budget : Option Nat) : Engine σ RuntimeOutcome := do
  let context ← reconstruct id
  let context ← gateRecovery context
  if context.unresolvedAttempt.isSome then
    return runtimeOutcome context.task context.runtimeState (some "recovery intervention required") (some context)
  else if context.task.status.isTerminal ∨
      context.task.status = .waitingForApproval ∧ context.pendingApproval.isSome then
    return runtimeOutcome context.task context.runtimeState context.reason (some context)
  else do
    let adapter ← adapterFactory context
    runRuntime services context.task adapter budget

/-- `run`, and what its caller gets. -/
def run (services : Services) (task : Task) (adapter : AdapterInfo) (budget : Option Nat) : Engine σ Unit := do
  let outcome ← tryCatch ((fun _ => Except.ok ()) <$> runRuntime services task adapter budget)
    (fun error => pure (.error error))
  ask (.returned outcome)

end Engine

/-- A call of the engine with its arguments. -/
inductive EngineCall where
  | createTask (task : Task)
  | run (task : Task) (adapter : AdapterInfo) (iterationBudget : Option Nat)
  | resume (taskId : UUID) (iterationBudget : Option Nat)
  | approve (taskId : UUID)
  | deny (taskId : UUID)
  | cancel (taskId : UUID)
  | resolveRecovery (taskId : UUID) (resolution : RecoveryResolution) (currentSnapshot : Option AdapterSnapshot)

namespace EngineCall

/-- The task a call is about. -/
def taskId : EngineCall → UUID
  | createTask task | run task _ _ => task.id
  | resume id _ | approve id | deny id | cancel id | resolveRecovery id _ _ => id

/-- What a call does. -/
def program (services : Services) : EngineCall → Engine Unit Unit
  | createTask task => do
    let _ ← Engine.newTask task
  | run task adapter budget => Engine.run services task adapter budget
  | resume id budget => do
    let _ ← Engine.resume services id budget
  | approve id => do
    let _ ← Engine.approve id
  | deny id => do
    let _ ← Engine.deny id
  | cancel id => Engine.cancel id
  | resolveRecovery id resolution current => Engine.resolveRecovery services id resolution current

end EngineCall

end SimPilot
