import SimPilot.Runtime.Signature
import SimPilot.Runtime.Policy
import SimPilot.Runtime.Verification
/-!
# One action, journaled, executed and verified (runtime/action_execution.py)

`executeActionTransaction` commits `action_prepared`, commits `action_execution_started`,
executes, observes, verifies, and commits the outcome with its checkpoint. What happens
between the observation and the last commit is pure (`settle`).
-/

namespace SimPilot
open Effect

/-- The engine's configuration and collaborators. -/
structure Services where
  configuration : RuntimeConfiguration := {}
  /-- The adapter types with a registered reconciler. -/
  reconcilers : List String := []
  /-- The number of bytes of a decision context's canonical JSON. -/
  contextSize : DecisionContext → Nat := fun _ => 0

/-- `ActionExecutionState`: it survives an exception between crash boundaries. -/
structure ActionExecutionState where
  current : TaskRecord
  runtimeState : RuntimeSafeguardState
  observation : Observation
  drafts : List EventDraft
  reason : Option String := none
  activeActionId : Option UUID := none
  terminalStatus : Option TaskStatus := none

/-- An event that only names its attempt. -/
def attemptDraft (type : RuntimeEventType) (id : UUID) : EventDraft := ⟨type, [("action_id", .uuid id)]⟩

/-- `uuid5(NAMESPACE_URL, f"sim-pilot:{task_id}:action-attempt:{sequence}")`. -/
def attemptIdAt (task : UUID) (sequence : Nat) : UUID := .uuid5 task "action-attempt" sequence

/-- The `action_prepared` event (action_execution.py:50-65). -/
def preparedDraft (id : UUID) (action : Action) (checkpoint : Option SimulationCheckpoint) (before : Observation)
    (estimatedCost : ℚ) : EventDraft :=
  ⟨.actionPrepared,
    [("action_id", .uuid id), ("action_fingerprint", actionFingerprint action), ("action", .dict action.modelDump),
      ("prior_checkpoint_id", optionJson (fun c => .uuid c.metadata.id) checkpoint),
      ("prior_observation_fingerprint", observationFingerprint before),
      ("expected_effect", .str action.expectedEffect.val), ("estimated_cost", .float estimatedCost)]⟩

/-- The event of a terminal status a task is put into, with its reason. -/
def terminalDraft (status : TaskStatus) (reason : String) : EventDraft :=
  ⟨if status = .failed then .taskFailed else .taskBlocked, [("reason", .str reason)]⟩

/-- What an executed action comes to: the next task and safeguards, and how the task ends. -/
structure Settlement where
  task : Task
  runtimeState : RuntimeSafeguardState
  /-- The terminal status with its reason. -/
  terminal : Option (TaskStatus × String) := none

/-- The task a settlement commits. -/
def Settlement.finalTask (settled : Settlement) : Except PyError Task :=
  match settled.terminal with
  | none => .ok settled.task
  | some (status, _) => withStatus settled.task status

/-- The result of the verified or failed action itself (action_execution.py:111-131). -/
def settleResult (config : RuntimeConfiguration) (task : Task) (runtimeState : RuntimeSafeguardState)
    (result : ExecutionResult) (verification : VerificationResult) : Settlement :=
  if verification.verified = false then
    { task, runtimeState, terminal := some (.failed, joinReasons verification.reasons) }
  else if result.success = false then
    let failures := runtimeState.consecutiveFailures + 1
    { task, runtimeState := { runtimeState with consecutiveFailures := failures }
      terminal := if config.maxConsecutiveFailures ≤ failures then some (.blocked, result.message.val) else none }
  else { task := task.charge result, runtimeState := { runtimeState with consecutiveFailures := 0 } }

/-- The number of times in a row the state of `observation` has been seen. -/
def repeatedState (runtimeState : RuntimeSafeguardState) (observation : Observation) : Nat :=
  if some (stateFingerprint observation) = runtimeState.lastStateFingerprint then runtimeState.repeatedStateCount + 1
  else 1

def withStateFingerprint (runtimeState : RuntimeSafeguardState) (observation : Observation) : RuntimeSafeguardState :=
  { runtimeState with
    lastStateFingerprint := some (stateFingerprint observation)
    repeatedStateCount := repeatedState runtimeState observation }

/-- The state after the action (action_execution.py:108-152). -/
def settle (config : RuntimeConfiguration) (task : Task) (runtimeState : RuntimeSafeguardState)
    (result : ExecutionResult) (verification : VerificationResult) (observation : Observation) : Settlement :=
  let settled := settleResult config task runtimeState.clearApproval result verification
  let repeated := repeatedState settled.runtimeState observation
  { settled with
    runtimeState := withStateFingerprint settled.runtimeState observation
    terminal := match settled.terminal with
      | some terminal => some terminal
      | none =>
        if config.repeatedStateLimit ≤ repeated then some (.blocked, "repeated state detected")
        else if observation.state.get "failed" = some (.bool true) then
          some (.failed, "simulation entered terminal failure")
        else none }

/-! ### What settling leaves -/

section
variable {config : RuntimeConfiguration} {task : Task} {rs : RuntimeSafeguardState} {result : ExecutionResult}
  {verification : VerificationResult} {observation : Observation}

/-- The task is the one before, or charged for a verified result. -/
theorem settleResult_task : (settleResult config task rs result verification).task = task ∨
    (settleResult config task rs result verification).task = task.charge result ∧ verification.verified = true := by
  unfold settleResult
  split
  · exact .inl rfl
  · rename_i hv
    split
    · exact .inl rfl
    · exact .inr ⟨rfl, by simpa using hv⟩

theorem settleResult_approval :
    (settleResult config task rs result verification).runtimeState.approvedOnceAction = rs.approvedOnceAction ∧
      (settleResult config task rs result verification).runtimeState.approvedApprovalId = rs.approvedApprovalId ∧
      (settleResult config task rs result verification).runtimeState.iterations = rs.iterations := by
  unfold settleResult
  split
  · exact ⟨rfl, rfl, rfl⟩
  · split <;> exact ⟨rfl, rfl, rfl⟩

/-- A result that did not verify fails its task. -/
theorem settleResult_terminal {t : TaskStatus × String} (h : (settleResult config task rs result verification).terminal = some t) :
    t.1 = .failed ∨ t.1 = .blocked := by
  unfold settleResult at h
  split at h
  · cases h
    exact .inl rfl
  · split at h
    · dsimp only at h
      split at h
      · cases h
        exact .inr rfl
      · cases h
    · cases h

theorem settleResult_verified (h : (settleResult config task rs result verification).terminal = none) :
    verification.verified = true := by
  unfold settleResult at h
  split at h
  · cases h
  · rename_i hv
    simpa using hv

theorem settle_task : (settle config task rs result verification observation).task = task ∨
    (settle config task rs result verification observation).task = task.charge result ∧ verification.verified = true :=
  settleResult_task

/-- Settling uses the approved-once action up. -/
theorem settle_approval (config : RuntimeConfiguration) (task : Task) (rs : RuntimeSafeguardState)
    (result : ExecutionResult) (verification : VerificationResult) (observation : Observation) :
    (settle config task rs result verification observation).runtimeState.approvedOnceAction = none ∧
      (settle config task rs result verification observation).runtimeState.approvedApprovalId = none ∧
      (settle config task rs result verification observation).runtimeState.iterations = rs.iterations :=
  settleResult_approval

theorem settle_terminal {t : TaskStatus × String}
    (h : (settle config task rs result verification observation).terminal = some t) : t.1 = .failed ∨ t.1 = .blocked := by
  simp only [settle] at h
  split at h
  · rename_i t' ht
    cases h
    exact settleResult_terminal ht
  · split at h
    · cases h
      exact .inr rfl
    · split at h
      · cases h
        exact .inl rfl
      · cases h

theorem settle_verified (h : (settle config task rs result verification observation).terminal = none) :
    verification.verified = true := by
  simp only [settle] at h
  split at h
  · cases h
  · rename_i ht
    exact settleResult_verified ht

end

/-- The `action_execution_confirmed` event. -/
def confirmedDraft (id : UUID) (result : ExecutionResult) (verification : VerificationResult) : EventDraft :=
  ⟨.actionExecutionConfirmed,
    [("action_id", .uuid id), ("success", .bool result.success), ("verified", .bool verification.verified)]⟩

/-- The events of an executed action (action_execution.py:82-178). -/
def settledDrafts (id : UUID) (result : ExecutionResult) (observation : Observation)
    (verification : VerificationResult) (terminal : Option (TaskStatus × String)) : List EventDraft :=
  [⟨.actionExecuted, result.modelDump⟩, observationDraft observation,
    ⟨.verificationRecorded, verification.modelDump⟩, confirmedDraft id result verification,
    attemptDraft .actionCheckpointCommitted id] ++
  (terminal.map fun t => terminalDraft t.1 t.2).toList

namespace Engine
open Py

/-- The two commits in front of the execution (action_execution.py:42-79). -/
def prepareAndStart (actionId : UUID) (action : Action) (estimatedCost : ℚ)
    (checkpoint : Option SimulationCheckpoint) : Engine ActionExecutionState Unit := do
  update fun st => { st with
    activeActionId := some actionId
    drafts := st.drafts ++ [preparedDraft actionId action checkpoint st.observation estimatedCost] }
  let st ← locals
  let record ← commitWithDrafts st.current st.current.task st.runtimeState st.drafts none
  update fun st => { st with current := record, drafts := [] }
  crash .afterPrepared
  let st ← locals
  let record ← commitWithDrafts st.current st.current.task st.runtimeState
    [attemptDraft .actionExecutionStarted actionId] none
  update fun st => { st with current := record }
  crash .beforeExecution

/-- The commit behind the execution (action_execution.py:101-190). -/
def commitSettled (services : Services) (adapter : AdapterInfo) (actionId : UUID) (action : Action)
    (before : Observation) (estimatedCost : ℚ) (result : ExecutionResult) : Engine ActionExecutionState Unit := do
  let st ← locals
  let verification := ActionVerifier.verify before action result st.observation estimatedCost
  crash .afterVerification
  let settled := settle services.configuration st.current.task st.runtimeState result verification st.observation
  let task ← lift settled.finalTask
  update fun st => { st with
    runtimeState := settled.runtimeState
    reason := match settled.terminal with
      | some (_, reason) => some reason
      | none => st.reason
    terminalStatus := settled.terminal.map (·.1)
    drafts := settledDrafts actionId result st.observation verification settled.terminal }
  let snapshot ← snapshotIf (result.stateChanged || settled.terminal.isSome) adapter st.observation
  let st ← locals
  let record ← commitWithDrafts st.current task st.runtimeState st.drafts snapshot
  update fun st => { st with current := record, activeActionId := none }
  crash .afterCommit

/-- `execute_action_transaction`. -/
def executeActionTransaction (services : Services) (adapter : AdapterInfo) (action : Action)
    (validation : AdapterValidation) : Engine ActionExecutionState Unit := do
  let st ← locals
  let before := st.observation
  let context ← reconstruct st.current.task.id
  let actionId := attemptIdAt st.current.task.id (st.current.task.sequence + st.drafts.length + 1)
  prepareAndStart actionId action validation.estimatedCost context.checkpoint
  let st ← locals
  let result ← execute actionId st.runtimeState.approvedApprovalId action
  crash .afterExecution
  let observation ← observe (some before)
  update fun st => { st with observation }
  crash .afterObservation
  commitSettled services adapter actionId action before validation.estimatedCost result

end Engine

end SimPilot
