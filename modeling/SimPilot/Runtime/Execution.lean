import SimPilot.Runtime.Iteration
/-!
# One run of a task (runtime/execution.py)

`runRuntime` opens a session with the adapter, starts or resumes the task, runs the loop
and shuts the adapter down whatever happened. Its locals are `RunState`; the `finally`
block sees them as they were when the loop raised.
-/

namespace SimPilot
open Effect

/-- The locals of `run_runtime` inside its `try`. -/
structure RunState where
  current : TaskRecord
  runtimeState : RuntimeSafeguardState
  observation : Option Observation
  reason : Option String := none

def startedDraft : EventDraft := ⟨.taskStarted, []⟩

namespace Engine
open Py
variable {σ : Type}

/-- `RuntimeEngine.create_task`. -/
def newTask (task : Task) : Engine σ TaskRecord := do
  if task.status ≠ .pending ∨ task.sequence ≠ 0 then
    raise (.valueError "new task must be pending with sequence zero")
  else createTask task

/-- `_load_or_create`. -/
def loadOrCreate (task : Task) : Engine σ ReconstructedRuntimeContext :=
  tryCatch (reconstruct task.id) fun error =>
    match error with
    | .persistence (.recordNotFound _) => do
      let _ ← newTask task
      reconstruct task.id
    | error => raise error

/-- The event `_gate_recovery` settles an attempt with that was never executed. -/
def retiredDraft (id : UUID) : EventDraft :=
  ⟨.actionReconciled,
    [("action_id", .uuid id), ("classification", .str "definitely_not_executed"),
      ("resolution", .str "mark_not_executed"), ("reason", .str "execution boundary was never entered")]⟩

/-- The event `_gate_recovery` flags an interrupted attempt with. -/
def reconciliationDraft (id : UUID) : EventDraft :=
  ⟨.actionReconciliationRequired,
    [("action_id", .uuid id), ("reason", .str "execution began without a committed checkpoint")]⟩

/-- `_gate_recovery`. -/
def gateRecovery (context : ReconstructedRuntimeContext) : Engine σ ReconstructedRuntimeContext :=
  match context.unresolvedAttempt with
  | none => pure context
  | some attempt =>
    if attempt.status = .reconciliationRequired then pure context
    else do
      let draft := if attempt.status = .prepared then retiredDraft attempt.actionId
        else reconciliationDraft attempt.actionId
      let _ ← commitWithDrafts (taskRecord context) context.task context.runtimeState [draft] none
      reconstruct context.task.id

/-- `validate_restored_adapter` (runtime/engine_support.py:83). -/
def validateRestoredAdapter (adapter : AdapterInfo) (context : ReconstructedRuntimeContext) : Engine σ Unit :=
  if adapter.checkpointable = false then pure ()
  else do
    let snapshot ← restored context.adapterSnapshot
    let durable ← lift context.adapterSnapshot
    if snapshot.pyEq durable = false then
      raise (.reconstructionConsistency "restored adapter does not match the latest durable checkpoint")
    else pure ()

/-- Commit an observation just taken, with a snapshot. -/
def commitObservation (adapter : AdapterInfo) (drafts : List EventDraft) (task : Task) : Engine RunState Unit := do
  let st ← locals
  let observation ← observe st.observation
  update fun st => { st with observation := some observation }
  let snapshot ← adapterSnapshot adapter observation
  let record ← commitWithDrafts st.current task st.runtimeState (drafts ++ [observationDraft observation])
    (some snapshot)
  update fun st => { st with current := record }

/-- Commit another observation, when the adapter wants one. -/
def reobserve (adapter : AdapterInfo) (task : Task) : Engine RunState Unit :=
  if adapter.requiresFreshObservationOnResume then commitObservation adapter [] task else pure ()

/-- The commits of the start or the resumption (execution.py:77-121). -/
def startTask (adapter : AdapterInfo) : Engine RunState Unit := do
  let st ← locals
  match st.current.task.status with
  | .pending => do
    let running ← lift (withStatus st.current.task .running)
    commitObservation adapter [startedDraft] running
  | .waitingForApproval => do
    let running ← lift (withStatus st.current.task .running)
    let record ← commitWithDrafts st.current running st.runtimeState [startedDraft] none
    update fun st => { st with current := record }
    reobserve adapter record.task
  | .running => reobserve adapter st.current.task
  | status => raise (.valueError s!"task cannot run from {status.value}")

/-- The start or the resumption of the task (execution.py:75-124). -/
def openSession (adapter : AdapterInfo) : Engine RunState Observation := do
  initializeAdapter
  startTask adapter
  match (← locals).observation with
  | none => raise (.valueError "running task has no reconstructed observation")
  | some observation => return observation

/-- The exception path of the start (execution.py:127-155). -/
def sessionFailed (error : PyError) : Engine RunState RuntimeOutcome := do
  let reason := s!"runtime exception: {error.message}"
  update fun st => { st with reason := some reason }
  let st ← locals
  let failed ← lift (forceFailed st.current.task)
  let record ← commitWithDrafts st.current failed st.runtimeState
    ((if st.current.task.status = .pending then [startedDraft] else [])
      ++ [failureDraft error reason "adapter_initialization"]) none
  update fun st => { st with current := record }
  return runtimeOutcome record.task st.runtimeState (some reason)

/-- The loop, its locals built from those of the run and assigned back when it returned. -/
def runLoop (services : Services) (adapter : AdapterInfo) (budget : Option Nat) (observation : Observation) :
    Engine RunState Unit := do
  let result ← zoom
    (fun st => ({ current := st.current, runtimeState := st.runtimeState, observation } : LoopState))
    (fun _ st => st)
    (do runIterations services adapter budget
        locals)
  setLocals
    { current := result.current, runtimeState := result.runtimeState, observation := some result.observation
      reason := result.reason }

/-- The body of the `try` (execution.py:74-169): an outcome when the start failed. -/
def session (services : Services) (adapter : AdapterInfo) (budget : Option Nat) :
    Engine RunState (Option RuntimeOutcome) := do
  let started ← tryExceptDurable (Except.ok <$> openSession adapter) fun error => Except.error <$> sessionFailed error
  match started with
  | .error outcome => return some outcome
  | .ok observation => do
    runLoop services adapter budget observation
    return none

/-- A snapshot, when there is an observation. -/
def snapshotOf (adapter : AdapterInfo) : Option Observation → Engine σ (Option AdapterSnapshot)
  | none => pure none
  | some observation => some <$> adapterSnapshot adapter observation

/-- `adapter.shutdown()` raised (execution.py:174-200). -/
def shutdownFailed (adapter : AdapterInfo) (error : PyError) : Engine RunState Unit := do
  let st ← locals
  if st.current.task.status = .running then do
    let reason := s!"adapter shutdown failed: {error.message}"
    update fun st => { st with reason := some reason }
    let failed ← lift (withStatus st.current.task .failed)
    let snapshot ← snapshotOf adapter st.observation
    let record ← commitWithDrafts st.current failed st.runtimeState
      [failureDraft error reason "adapter_shutdown"] snapshot
    update fun st => { st with current := record }
  else pure ()

/-- The `finally` block. -/
def closeSession (adapter : AdapterInfo) : Engine RunState Unit :=
  tryCatch shutdown fun error => if error.isException then shutdownFailed adapter error else raise error

/-- A session from its start to the last load (execution.py:69-204). -/
def runSession (services : Services) (adapter : AdapterInfo) (budget : Option Nat) : Engine RunState RuntimeOutcome := do
  match ← tryFinally (session services adapter budget) (closeSession adapter) with
  | some outcome => return outcome
  | none => do
    let st ← locals
    let context ← reconstruct st.current.task.id
    return runtimeOutcome st.current.task st.runtimeState st.reason (some context)

/-- A task that was started is restored to the state of its checkpoint (execution.py:62-66). -/
def checkRestored (adapter : AdapterInfo) (context : ReconstructedRuntimeContext) : Engine σ Unit :=
  if context.task.status = .running ∨ context.task.status = .waitingForApproval then
    validateRestoredAdapter adapter context
  else pure ()

/-- Enter a session with the records of a context. -/
def runContext (services : Services) (adapter : AdapterInfo) (budget : Option Nat)
    (context : ReconstructedRuntimeContext) : Engine σ RuntimeOutcome := do
  checkRestored adapter context
  zoom
    (fun _ => ({ current := taskRecord context, runtimeState := context.runtimeState
                 observation := context.observation } : RunState))
    (fun _ st => st) (runSession services adapter budget)

/-- `run_runtime`. -/
def runRuntime (services : Services) (task : Task) (adapter : AdapterInfo) (budget : Option Nat) :
    Engine σ RuntimeOutcome := do
  let context ← loadOrCreate task
  let context ← gateRecovery context
  if context.unresolvedAttempt.isSome then
    return runtimeOutcome context.task context.runtimeState (some "recovery intervention required") (some context)
  else if context.task.status.isTerminal then
    return runtimeOutcome context.task context.runtimeState context.reason (some context)
  else if context.task.status = .waitingForApproval ∧ context.pendingApproval.isSome then
    return runtimeOutcome context.task context.runtimeState (some "approval required") (some context)
  else runContext services adapter budget context

end Engine

end SimPilot
