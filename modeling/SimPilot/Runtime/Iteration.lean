import SimPilot.Runtime.ActionExecution
import SimPilot.Runtime.Evaluator
/-!
# The runtime loop (runtime/iteration.py)

One pass of `run_iterations` is `iteration`; the phases of its body call each other in
tail position, in the order of the source, and answer whether the loop goes on. The
loop is bounded by `max_iterations + 1` passes.
-/

namespace SimPilot
open Effect

/-- The locals of `run_iterations`. -/
structure LoopState where
  current : TaskRecord
  runtimeState : RuntimeSafeguardState
  observation : Observation
  reason : Option String := none
  activeActionId : Option UUID := none
  committedThisRun : Nat := 0

/-- How a pass of the loop ends: `break` or `continue`. -/
inductive Flow where
  | stop | again
  deriving DecidableEq, Repr

/-- The event of a decision, with the metadata of its provider (iteration.py:207-221). -/
def decisionDraft (result : DecisionProviderResult) : EventDraft :=
  ⟨.decisionGenerated, result.decision.modelDump ++ [("provider_metadata", .dict result.metadata)]⟩

def reasonDraft (type : RuntimeEventType) (reason : String) : EventDraft := ⟨type, [("reason", .str reason)]⟩

/-- The `action_rejected` event of a policy decision. -/
def rejectedDraft (action : Action) (reason : String) : EventDraft :=
  ⟨.actionRejected,
    [("reason", .str reason), ("action_type", .str action.type.val), ("action_fingerprint", actionFingerprint action)]⟩

/-- The approval requested for an action (iteration.py:385-393). -/
def approvalRequest (task : UUID) (sequence : Nat) (action : Action) (now : Timestamp) : ApprovalRequest :=
  { id := .uuid5 task "approval" sequence, taskId := task, action, createdAt := now }

def approvalRequestedDraft (request : ApprovalRequest) : EventDraft :=
  ⟨.approvalRequested, [("approval_id", .uuid request.id), ("action_type", .str request.action.type.val)]⟩

/-- The record of an approval just requested. -/
def pendingRecord (task : UUID) (sequence : Nat) (action : Action) (now : Timestamp) (reason : String) :
    ApprovalRecord where
  approval := approvalRequest task sequence action now
  reason := some reason
  resolution := by simp [approvalRequest]

/-- A rejected decision or action. -/
def RuntimeSafeguardState.reject (r : RuntimeSafeguardState) : RuntimeSafeguardState :=
  { r with consecutiveFailures := r.consecutiveFailures + 1, rejectedActionCount := r.rejectedActionCount + 1 }

/-- The safeguards after an action was chosen (iteration.py:299-312). An action picked up
from its approval does not count as a repetition. -/
def RuntimeSafeguardState.choose (r : RuntimeSafeguardState) (action : Action) (observation : Observation)
    (approved : Bool) : RuntimeSafeguardState :=
  let fingerprint := actionStateFingerprint action observation
  { r with
    lastActionFingerprint := some fingerprint
    repeatedActionCount :=
      if approved then r.repeatedActionCount
      else if some fingerprint = r.lastActionFingerprint then r.repeatedActionCount + 1
      else 1 }

/-- `observation_history`: the observations of the journal that can be read. -/
def observationHistory (events : List RuntimeEvent) : List Observation :=
  (events.filter (·.eventType = .observationRecorded)).filterMap (Observation.modelValidate ·.payload)

/-- The payload of a `task_failed` event written for an exception. -/
def failureDraft (error : PyError) (reason phase : String) : EventDraft :=
  ⟨.taskFailed, [("reason", .str reason), ("error_type", .str error.className), ("phase", .str phase)]⟩

namespace Engine
open Py

def setReason (reason : String) : Engine LoopState Unit := update fun st => { st with reason := some reason }

/-- Commit the task in its status, with a snapshot when `fresh`. -/
def commitSame (adapter : AdapterInfo) (fresh : Bool) (drafts : List EventDraft) : Engine LoopState Unit := do
  let st ← locals
  let snapshot ← snapshotIf fresh adapter st.observation
  let record ← commitWithDrafts st.current st.current.task st.runtimeState drafts snapshot
  update fun st => { st with current := record }

/-- Commit the task into a status, with a snapshot. -/
def commitStatus (adapter : AdapterInfo) (status : TaskStatus) (drafts : List EventDraft)
    (cancelRequested : Option Bool := none) : Engine LoopState Unit := do
  let st ← locals
  let task ← lift (withStatus st.current.task status)
  let snapshot ← adapterSnapshot adapter st.observation
  let commit ← commitIteration
    { current := st.current, task, runtimeState := st.runtimeState, eventDrafts := drafts, cancelRequested
      adapterSnapshot := some snapshot }
  update fun st => { st with current := commit.taskRecord }

/-- Commit the task into a terminal status for a reason and leave the loop. -/
def finish (adapter : AdapterInfo) (status : TaskStatus) (reason : String) (drafts : List EventDraft)
    (cancelRequested : Option Bool := none) : Engine LoopState Flow := do
  setReason reason
  commitStatus adapter status drafts cancelRequested
  return .stop

/-- A pass that committed, and how it ends. -/
def commitOnce (flow : Flow) : Engine LoopState Flow := do
  update fun st => { st with committedThisRun := st.committedThisRun + 1 }
  return flow

/-- Commit what a rejected or idle pass leaves: the task is blocked when the pass says
so, else it goes on (iteration.py:236-253, 279-292, 354-369). -/
def blockOrContinue (adapter : AdapterInfo) (block : Bool) (reason : String) (fresh : Bool)
    (drafts : List EventDraft) : Engine LoopState Flow :=
  if block then do
    commitStatus adapter .blocked (drafts ++ [reasonDraft .taskBlocked reason])
    commitOnce .stop
  else do
    commitSame adapter fresh drafts
    commitOnce .again

/-- Observe again when the caller asks for it, and record it behind its drafts. -/
def refresh (fresh : Bool) (drafts : List EventDraft) : Engine LoopState (List EventDraft) :=
  if fresh then do
    let observation ← observe (some (← locals).observation)
    update fun st => { st with observation }
    return drafts ++ [observationDraft observation]
  else return drafts

/-- The action goes to its transaction (iteration.py:416-443). -/
def runAction (services : Services) (adapter : AdapterInfo) (action : Action) (validation : AdapterValidation)
    (drafts : List EventDraft) : Engine LoopState Flow := do
  let terminalStatus ← zoom
    (fun st => ({ current := st.current, runtimeState := st.runtimeState, observation := st.observation
                  drafts } : ActionExecutionState))
    (fun inner st => { st with
      current := inner.current, runtimeState := inner.runtimeState, observation := inner.observation
      reason := inner.reason, activeActionId := inner.activeActionId })
    (do executeActionTransaction services adapter action validation
        return (← locals).terminalStatus)
  commitOnce (if terminalStatus.isSome then .stop else .again)

/-- The task waits for an approval (iteration.py:380-414). -/
def requestApproval (action : Action) (policy : PolicyDecision) (drafts : List EventDraft) :
    Engine LoopState Flow := do
  let st ← locals
  let reason := if policy.reasons = [] then "approval required" else joinReasons policy.reasons
  let record := pendingRecord st.current.task.id (st.current.task.sequence + drafts.length + 1) action (← now) reason
  let waiting ← lift (withStatus st.current.task .waitingForApproval)
  let commit ← commitIteration
    { current := st.current, task := waiting, runtimeState := st.runtimeState
      eventDrafts := drafts ++ [approvalRequestedDraft record.approval], approvalCreate := some record }
  update fun st => { st with current := commit.taskRecord, reason := some "approval required" }
  return .stop

/-- The policy refused the action (iteration.py:327-369). -/
def rejectAction (services : Services) (adapter : AdapterInfo) (action : Action) (validation : AdapterValidation)
    (policy : PolicyDecision) (drafts : List EventDraft) : Engine LoopState Flow := do
  let reason := joinReasons policy.reasons
  let drafts := drafts ++ [rejectedDraft action reason]
  update fun st => { st with reason := some reason, runtimeState := st.runtimeState.reject }
  let drafts ← refresh validation.stateStale drafts
  let st ← locals
  blockOrContinue adapter (services.configuration.maxConsecutiveFailures ≤ st.runtimeState.consecutiveFailures)
    reason validation.stateStale drafts

/-- An action was chosen, by a decision or (`none`) from its approval (iteration.py:297-443). -/
def act (services : Services) (adapter : AdapterInfo) (action : Action) (decision : Option Decision)
    (drafts : List EventDraft) : Engine LoopState Flow := do
  update fun st => { st with runtimeState := st.runtimeState.choose action st.observation decision.isNone }
  let st ← locals
  if decision.isSome ∧ services.configuration.repeatedActionLimit ≤ st.runtimeState.repeatedActionCount then
    finish adapter .blocked "repeated action detected" (drafts ++ [reasonDraft .taskBlocked "repeated action detected"])
  else do
    let validation ← validate action
    let policy := PolicyEngine.evaluate st.current.task.specification action st.observation
      st.current.task.totalSpend validation
    let drafts := drafts ++ [⟨.policyValidated, policy.modelDump⟩]
    if policy.allowed = false then rejectAction services adapter action validation policy drafts
    else if (policy.approvalRequired ∨ decision.any (·.type = .approvalRequired)) ∧ decision.isSome then
      requestApproval action policy drafts
    else runAction services adapter action validation drafts

/-- The provider waits (iteration.py:259-292). -/
def waitIteration (services : Services) (adapter : AdapterInfo) (drafts : List EventDraft) :
    Engine LoopState Flow := do
  let fresh := adapter.requiresFreshObservationOnResume
  let drafts ← refresh fresh drafts
  let st ← locals
  let repeated := repeatedState st.runtimeState st.observation
  let block := decide (services.configuration.repeatedStateLimit ≤ repeated)
  update fun st => { st with
    runtimeState := withStateFingerprint st.runtimeState st.observation
    reason := if block then some "repeated state detected" else st.reason }
  blockOrContinue adapter block "repeated state detected" fresh drafts

/-- The provider says the task is complete, and the evaluator did not (iteration.py:222-253). -/
def falseCompletion (services : Services) (adapter : AdapterInfo) (drafts : List EventDraft) :
    Engine LoopState Flow := do
  let reason := "decision provider claimed completion before evaluator confirmation"
  update fun st => { st with reason := some reason, runtimeState := st.runtimeState.reject }
  let st ← locals
  let config := services.configuration
  blockOrContinue adapter
    (config.blockOnFalseCompletion || config.maxConsecutiveFailures ≤ st.runtimeState.consecutiveFailures)
    reason false (drafts ++ [reasonDraft .actionRejected reason])

/-- What a decision of the provider leads to (iteration.py:207-295). -/
def onDecision (services : Services) (adapter : AdapterInfo) (result : DecisionProviderResult)
    (drafts : List EventDraft) : Engine LoopState Flow :=
  let decision := result.decision
  let drafts := drafts ++ [decisionDraft result]
  match decision.type with
  | .complete => falseCompletion services adapter drafts
  | .blocked =>
    finish adapter .blocked decision.reason.val (drafts ++ [reasonDraft .taskBlocked decision.reason.val])
  | .wait => waitIteration services adapter drafts
  | .execute | .approvalRequired =>
    match decision.action with
    | none =>
      let reason := "decision requiring execution did not contain an action"
      finish adapter .failed reason (drafts ++ [reasonDraft .taskFailed reason])
    | some action => act services adapter action (some decision) drafts

/-- Ask the provider (iteration.py:149-206). -/
def askProvider (services : Services) (adapter : AdapterInfo) (evaluation : RuntimeEvaluation)
    (drafts : List EventDraft) : Engine LoopState Flow := do
  let st ← locals
  let reply ← tryCatch
    (do
      let actions ← availableActions
      let events ← listEvents st.current.task.id
      let context ← lift (DecisionContextProjector.project services.contextSize services.configuration
        st.current.task st.observation actions events st.runtimeState evaluation)
      let result ← providerDecide context
      return Except.ok result)
    (fun error => pure (.error error))
  match reply with
  | .ok result => onDecision services adapter result drafts
  | .error (.scriptedDecisionExhausted message) =>
    finish adapter .blocked message (drafts ++ [reasonDraft .taskBlocked message])
  | .error (.decisionProvider cls message) =>
    finish adapter .failed message (drafts ++
      [⟨.decisionProviderFailed, [("error_type", .str cls), ("reason", .str message)]⟩, reasonDraft .taskFailed message])
  | .error error => raise error

/-- A pass of the loop that is neither cancelled nor out of iterations (iteration.py:93-145). -/
def evaluateIteration (services : Services) (adapter : AdapterInfo) : Engine LoopState Flow := do
  update fun st => { st with
    runtimeState := { st.runtimeState with iterations := st.runtimeState.iterations + 1 } }
  let st ← locals
  let events ← listEvents st.current.task.id
  let evaluation ← lift (ProgressEvaluator.evaluate st.current.task.specification st.observation
    (observationHistory events))
  let drafts : List EventDraft := [⟨.evaluationRecorded, evaluation.modelDump⟩]
  match evaluation.currentStatus with
  | .completed =>
    finish adapter .completed evaluation.progressSummary
      (drafts ++ [reasonDraft .taskCompleted evaluation.progressSummary])
  | .blocked =>
    let reason := match evaluation.blockedReason with
      | some reason => if reason = "" then evaluation.progressSummary else reason
      | none => evaluation.progressSummary
    finish adapter .blocked reason (drafts ++ [reasonDraft .taskBlocked reason])
  | .running => match st.runtimeState.approvedOnceAction with
    | some action => act services adapter action none drafts
    | none => askProvider services adapter evaluation drafts

/-- `current.cancel_requested or services.cancellation_check(current.task.id)`. -/
def cancelled (current : TaskRecord) : Engine LoopState Bool :=
  if current.cancelRequested then pure true else cancellationCheck current.task.id

/-- One pass of `while current.task.status is TaskStatus.RUNNING`. -/
def iteration (services : Services) (adapter : AdapterInfo) (budget : Option Nat) : Engine LoopState Flow := do
  let st ← locals
  if budget.any (· ≤ st.committedThisRun) then do
    setReason "execution slice complete"
    return .stop
  else do
    if ← cancelled st.current then
      finish adapter .cancelled "cancellation requested" [reasonDraft .taskCancelled "cancellation requested"]
        (some true)
    else if services.configuration.maxIterations ≤ st.runtimeState.iterations then
      finish adapter .blocked "maximum iterations reached"
        [⟨.evaluationRecorded, [("safeguard", .str "iterations")]⟩, reasonDraft .taskBlocked "maximum iterations reached"]
    else evaluateIteration services adapter

/-- The `while` loop. -/
def loop (services : Services) (adapter : AdapterInfo) (budget : Option Nat) : Nat → Engine LoopState Unit
  | 0 => raise .diverged
  | passes + 1 => do
    let st ← locals
    if st.current.task.status ≠ .running then return ()
    else match ← iteration services adapter budget with
      | .stop => return ()
      | .again => loop services adapter budget passes

/-- The exception path (iteration.py:446-484). -/
def iterationFailed (adapter : AdapterInfo) (error : PyError) : Engine LoopState Unit := do
  let reason := s!"runtime exception: {error.message}"
  setReason reason
  let st ← locals
  if st.current.task.status = .running then
    commitStatus adapter .failed
      ((st.activeActionId.map fun id =>
          (⟨.actionAttemptFailed, [("action_id", .uuid id), ("reason", .str reason)]⟩ : EventDraft)).toList
        ++ [failureDraft error reason "runtime_iteration"])
  else return ()

/-- `run_iterations`. -/
def runIterations (services : Services) (adapter : AdapterInfo) (budget : Option Nat) : Engine LoopState Unit :=
  tryExceptDurable (loop services adapter budget (services.configuration.maxIterations + 1)) (iterationFailed adapter)

end Engine

end SimPilot
