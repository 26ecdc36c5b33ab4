import SimPilot.Runtime.CommittedView
import SimPilot.Runtime.Engine
import SimPilot.Effect.RelyGuarantee
/-!
# Engines that share a store

Any number of processes run calls of the engine on one task. `Step` is what an operation
does to the store and to the history, whatever adapters, providers, clocks and crash
hooks answer; the `Conditions` a run is assumed to meet restrict those answers.

`Allowed` is the design behind the engine: the commits it makes, each as a relation
between the records it finds and its request. The calls are shown to make no others
(`Walk.lean`), and everything said about whole runs is proved from `Allowed`.
-/

namespace SimPilot
open Effect Reconstruction

abbrev Process := Nat

/-- What is remembered of a run. -/
inductive TraceEvent where
  | created (p : Process) (task : Task)
  /-- A commit that returned, and the records it was made on. -/
  | committed (p : Process) (before : TaskView) (request : IterationRequest)
  /-- `adapter.execute(action)` for an attempt, on the authority of an approval. -/
  | executed (p : Process) (actionId : UUID) (authority : Option UUID) (action : Action)
  | returned (p : Process) (outcome : Except PyError Unit)

def TraceEvent.process : TraceEvent → Process
  | created p _ | committed p _ _ | executed p _ _ _ | returned p _ => p

/-- The store and the history of a run. -/
structure System where
  store : InMemoryPersistenceState := {}
  trace : List TraceEvent := []

/-- The latest event of a process. -/
def System.lastOf (s : System) (p : Process) : Option TraceEvent := (s.trace.filter (·.process = p)).getLast?

/-- What a run may be assumed to meet. -/
structure Conditions where
  /-- A task is cancelled only when it has no unresolved attempt. -/
  settledCancel : Prop := False
  /-- A task is cancelled only when it has no pending approval. -/
  answeredCancel : Prop := False
  /-- Adapters report the state they are in, what they report can be read back, and clocks
  do not run back. -/
  faithful : Prop := False
  /-- The adapter handed to a started task is in the state of its checkpoint. -/
  restored : Prop := False
  /-- A reconciler reports the validated cost of an attempt. -/
  honestReconciler : Prop := False
  /-- The configurations engines may run under. -/
  configured : RuntimeConfiguration → Prop := fun _ => True

/-! ## What an adapter should report -/

/-- The version of the state schema the store keeps. -/
def supportedVersion : Nat := 1

/-- The state's own schema version can be recorded. -/
def SchemaReadable (state : Dict) : Prop :=
  ∃ version, stateSchemaVersion state = .ok version ∧ version.1 = supportedVersion ∧
    disagrees (state.get "schema_version") version.1 = false

/-- The tick a checkpoint takes from a state. -/
def stateTick (state : Dict) : Option Int := ((state.get "tick").getD (.int 0)).int?

/-- An observation whose tick is the one of its state. -/
structure Readable (o : Observation) : Prop where
  tick : stateTick o.state = some (o.tick : Int)
  schema : SchemaReadable o.state

/-- A snapshot of the state an observation reports. -/
structure Agrees (o : Observation) (sn : AdapterSnapshot) : Prop where
  state : Dict.pyEq o.state sn.state = true
  tick : stateTick sn.state = some (o.tick : Int)
  schema : disagrees (sn.state.get "schema_version") sn.simulationSchemaVersion = false
  version : sn.simulationSchemaVersion = supportedVersion
  sequence : sn.observationSequence ≤ o.sequence

/-- A snapshot an operator provides: its schema versions agree. -/
structure Presentable (sn : AdapterSnapshot) : Prop where
  schema : disagrees (sn.state.get "schema_version") sn.simulationSchemaVersion = false
  version : sn.simulationSchemaVersion = supportedVersion
  readable : SchemaReadable sn.state

/-- The largest difference `ActionVerifier` accepts between two costs. -/
def costTolerance : ℚ := 1 / 1000000

/-! ## Operations -/

/-- What an adapter, a provider or another collaborator answers: a value or an `Exception`. -/
def Answers {α : Type} (r : Except PyError α) : Prop := ∀ e, r = .error e → e.isException = true

/-- A commit meets the conditions on cancellation. -/
def Meets (c : Conditions) (v : TaskView) (r : IterationRequest) : Prop :=
  r.cancelRequested = some true →
    (c.settledCancel → unresolvedActionAttempt v.events = .ok none) ∧
      (c.answeredCancel → pendingOf v.approvals = none)

/-- What an operation of process `p` does, with its reply. -/
def Step (c : Conditions) (p : Process) : (o : Op) → System → Ret o → System → Prop
  | .load id, s, r, s' => s' = s ∧ r = match viewOf id s.store with
    | some v => .ok v
    | none => .error (.recordNotFound s!"task {id.text} was not found")
  | .listEvents id, s, r, s' => s' = s ∧ r = (InMemory.stream s.store id).map (·.event)
  | .createTask task, s, r, s' => ∃ store, createTaskRecord task s.store = (r, store) ∧ match r with
    | .error _ => s' = { s with store }
    | .ok _ => s' = { store, trace := s.trace ++ [.created p task] }
  | .commitIteration request, s, r, s' => ∃ now store, commitIteration now request s.store = (r, store) ∧
    (c.faithful → ∀ v, viewOf request.task.id s.store = some v → v.record.task.updatedAt ≤ now) ∧ match r with
    | .error _ => s' = { s with store }
    | .ok _ => ∃ v, viewOf request.task.id s.store = some v ∧ Meets c v request ∧
      s' = { store, trace := s.trace ++ [.committed p v request] }
  | .now, s, _, s' => s' = s
  | .cancellationCheck _, s, r, s' => s' = s ∧ Answers r
  | .crash _, s, _, s' => s' = s
  | .initializeAdapter, s, r, s' | .shutdown, s, r, s' => s' = s ∧ Answers r
  | .observe held, s, r, s' => s' = s ∧ Answers r ∧
    (c.faithful → ∀ o, r = .ok o → Readable o ∧ ∀ h ∈ held, h.sequence ≤ o.sequence)
  | .availableActions, s, r, s' => s' = s ∧ Answers r
  | .validate _, s, r, s' => s' = s ∧ Answers r
  | .execute id authority action, s, r, s' =>
    s' = { s with trace := s.trace ++ [.executed p id authority action] } ∧ Answers r
  | .snapshot held, s, r, s' => s' = s ∧ Answers r ∧
    (c.faithful → ∃ sn, r = .ok sn ∧ Agrees held sn)
  | .restored durable, s, r, s' => s' = s ∧ Answers r ∧ (c.faithful → ∃ sn, r = .ok sn) ∧
    (c.restored → ∀ sn, r = .ok sn → ∀ d, durable = .ok d → sn.pyEq d = true)
  | .decide _, s, r, s' => s' = s ∧ Answers r
  | .adapterFactory _, s, r, s' => s' = s ∧ Answers r ∧
    (c.faithful → ∀ adapter, r = .ok adapter → adapter.adapterType ≠ "")
  | .reconcile attempt _ current, s, r, s' => s' = s ∧ Answers r ∧
    (c.honestReconciler → ∀ report, r = .ok report → ∀ result ∈ report.expectedResult,
      |result.cost - attempt.estimatedCost| ≤ costTolerance) ∧
    (c.faithful → ∀ sn ∈ current, Presentable sn)
  | .returned outcome, s, _, s' => s' = { s with trace := s.trace ++ [.returned p outcome] }

/-! ## The commits of the engine -/

/-- The approved-once action and its approval are those of before, and no iteration is
taken back. -/
structure SameApproval (a b : RuntimeSafeguardState) : Prop where
  action : a.approvedOnceAction = b.approvedOnceAction
  id : a.approvedApprovalId = b.approvedApprovalId
  iterations : b.iterations ≤ a.iterations

/-- An event that is neither about an attempt nor an observation, and ends no task. -/
def RuntimeEventType.isQuiet : RuntimeEventType → Bool
  | .taskStarted | .evaluationRecorded | .decisionGenerated | .decisionProviderFailed | .policyValidated
  | .actionRejected | .approvalRequested => true
  | _ => false

def Quiet (drafts : List EventDraft) : Prop := ∀ d ∈ drafts, d.eventType.isQuiet = true

/-- The event that ends a task with a terminal status, and none with another. -/
def Ends (status : TaskStatus) (drafts : List EventDraft) : Prop :=
  match status.terminalEvent with
  | some type => ∃ payload, drafts = [⟨type, payload⟩]
  | none => drafts = []

/-- The latest observation when `observed` is recorded behind the events. -/
def latestAfter (events : List RuntimeEvent) (observed : Option Observation) : Option Observation :=
  match observed with
  | some o => some o
  | none => (latestObservation events).toOption.join

/-- A snapshot of the live adapter: of a faithful one it agrees with the latest observation. -/
def LiveSnapshot (faithful : Prop) (events : List RuntimeEvent) (observed : Option Observation) (sn : AdapterSnapshot) :
    Prop := faithful → ∃ o, latestAfter events observed = some o ∧ Agrees o sn

/-- The spending limits of a specification. -/
def TaskSpecification.limits (spec : TaskSpecification) : List ℚ :=
  spec.authority.maximumTotalSpend.toList ++ spec.constraints.filterMap PolicyEngine.hardMaximum

/-- A batch that says its action needs an approval: the policy asked for one, or the
decision did. -/
def NeedsApproval (drafts : List EventDraft) : Prop :=
  ∃ d ∈ drafts,
    (d.eventType = .policyValidated ∧ d.payload.get "approval_required" = some (.bool true)) ∨
    (d.eventType = .decisionGenerated ∧ d.payload.get "type" = some (.str "approval_required"))

/-- A commit between attempts: the start, a pass of the loop without an action, or a failure. -/
structure Ordinary (faithful : Prop) (v : TaskView) (r : IterationRequest) (quiet : List EventDraft)
    (observed : Option Observation) (last : List EventDraft) : Prop where
  current : r.current = v.record
  resolved : unresolvedActionAttempt v.events = .ok none
  answered : pendingOf v.approvals = none
  live : v.record.task.status.isTerminal = false
  task : r.task = v.record.task.setStatus r.task.status
  started : r.task.status ≠ .pending
  approval : SameApproval r.runtimeState v.record.runtimeState
  cancelRequested : r.cancelRequested = if r.task.status = .cancelled then some true else none
  approvalUpdate : r.approvalUpdate = none
  approvalCreate : if r.task.status = .waitingForApproval then
      v.record.runtimeState.approvedOnceAction = none ∧ ∃ action now reason, r.approvalCreate =
        some (pendingRecord v.record.task.id (v.record.task.sequence + r.eventDrafts.length) action now reason)
    else r.approvalCreate = none
  drafts : r.eventDrafts = quiet ++ (observed.map observationDraft).toList ++ last
  isQuiet : Quiet quiet
  ends : Ends r.task.status last
  snapshot : ∀ sn ∈ r.adapterSnapshot, LiveSnapshot faithful v.events observed sn
  readable : faithful → ∀ o ∈ observed, Readable o
  recorded : observed.isSome → r.adapterSnapshot.isSome
  latest : r.adapterSnapshot.isSome → (latestAfter v.events observed).isSome
  opened : v.record.task.status = .pending → r.task.status = .failed ∨ observed.isSome

/-- The pass counts as an iteration, and is within the bound of the configuration. -/
structure Counted (c : Conditions) (v : TaskView) (rs : RuntimeSafeguardState) : Prop where
  fresh : v.record.runtimeState.iterations < rs.iterations
  bounded : ∃ config, c.configured config ∧ rs.iterations ≤ config.maxIterations

/-- The commit of an attempt's preparation. -/
structure Prepare (v : TaskView) (r : IterationRequest) (quiet : List EventDraft) (action : Action)
    (checkpoint : Option SimulationCheckpoint) (before : Observation) (cost : ℚ) : Prop where
  current : r.current = v.record
  resolved : unresolvedActionAttempt v.events = .ok none
  answered : pendingOf v.approvals = none
  running : v.record.task.status = .running
  task : r.task = v.record.task
  approval : SameApproval r.runtimeState v.record.runtimeState
  cancelRequested : r.cancelRequested = none
  approvalUpdate : r.approvalUpdate = none
  approvalCreate : r.approvalCreate = none
  snapshot : r.adapterSnapshot = none
  isQuiet : Quiet quiet
  drafts : r.eventDrafts = quiet ++
    [preparedDraft (attemptIdAt v.record.task.id (v.record.task.sequence + quiet.length + 1)) action checkpoint before cost]
  cost_nonneg : 0 ≤ cost
  limits : ∀ m ∈ v.record.task.specification.limits, v.record.task.totalSpend + cost ≤ m
  picked : ∀ a ∈ v.record.runtimeState.approvedOnceAction, a = action
  authorised : NeedsApproval quiet → v.record.runtimeState.approvedOnceAction = some action

/-- A commit about the unresolved attempt that neither ends the task nor touches its records. -/
structure Mark (v : TaskView) (r : IterationRequest) (attempt : ActionAttempt) : Prop where
  current : r.current = v.record
  unresolved : unresolvedActionAttempt v.events = .ok (some attempt)
  task : r.task = v.record.task
  approval : SameApproval r.runtimeState v.record.runtimeState
  cancelRequested : r.cancelRequested = none
  approvalUpdate : r.approvalUpdate = none
  approvalCreate : r.approvalCreate = none
  snapshot : r.adapterSnapshot = none

/-- The commit of an executed and verified action. -/
structure Confirm (faithful : Prop) (v : TaskView) (r : IterationRequest) (attempt : ActionAttempt)
    (result : ExecutionResult) (observed : Observation) (verification : VerificationResult)
    (terminal : Option (TaskStatus × String)) : Prop where
  current : r.current = v.record
  unresolved : unresolvedActionAttempt v.events = .ok (some attempt)
  executing : attempt.status = .executionStarted
  running : v.record.task.status = .running
  task : r.task = v.record.task.setStatus r.task.status ∨
    r.task = (v.record.task.charge result).setStatus r.task.status ∧ |result.cost - attempt.estimatedCost| ≤ costTolerance
  status : r.task.status = (terminal.map (·.1)).getD .running
  endsIn : ∀ t ∈ terminal, t.1 = .failed ∨ t.1 = .blocked
  approval : r.runtimeState.approvedOnceAction = none ∧ r.runtimeState.approvedApprovalId = none
  iterations : v.record.runtimeState.iterations ≤ r.runtimeState.iterations
  cancelRequested : r.cancelRequested = none
  approvalUpdate : r.approvalUpdate = none
  approvalCreate : r.approvalCreate = none
  drafts : r.eventDrafts = settledDrafts attempt.actionId result observed verification terminal
  snapshot : (∃ sn, r.adapterSnapshot = some sn ∧ LiveSnapshot faithful v.events (some observed) sn) ∨
    r.adapterSnapshot = none ∧ ∃ before, latestObservation v.events = .ok (some before) ∧
      Dict.pyEq before.state observed.state = true ∧ before.tick = observed.tick ∧
      (faithful → before.sequence ≤ observed.sequence)
  readable : faithful → Readable observed

/-- The commit of an exception after the execution of an action had started. -/
structure FailAttempt (faithful : Prop) (v : TaskView) (r : IterationRequest) (attempt : ActionAttempt) : Prop where
  current : r.current = v.record
  unresolved : unresolvedActionAttempt v.events = .ok (some attempt)
  executing : attempt.status = .executionStarted
  running : v.record.task.status = .running
  task : r.task = v.record.task.setStatus .failed
  approval : SameApproval r.runtimeState v.record.runtimeState ∨
    r.runtimeState.approvedOnceAction = none ∧ r.runtimeState.approvedApprovalId = none
  iterations : v.record.runtimeState.iterations ≤ r.runtimeState.iterations
  cancelRequested : r.cancelRequested = none
  approvalUpdate : r.approvalUpdate = none
  approvalCreate : r.approvalCreate = none
  drafts : ∃ reason payload, r.eventDrafts =
    [⟨.actionAttemptFailed, [("action_id", .uuid attempt.actionId), ("reason", .str reason)]⟩, ⟨.taskFailed, payload⟩]
  snapshot : ∃ sn, r.adapterSnapshot = some sn ∧ LiveSnapshot faithful v.events none sn

/-- The commit of an operator's decision about the unresolved attempt. -/
structure Resolve (v : TaskView) (r : IterationRequest) (attempt : ActionAttempt) : Prop where
  current : r.current = v.record
  unresolved : unresolvedActionAttempt v.events = .ok (some attempt)
  approval : r.runtimeState.approvedOnceAction = none ∧ r.runtimeState.approvedApprovalId = none
  iterations : v.record.runtimeState.iterations ≤ r.runtimeState.iterations
  cancelRequested : r.cancelRequested = none
  approvalUpdate : r.approvalUpdate = none
  approvalCreate : r.approvalCreate = none

/-- The commit of an operator's answer to the pending approval. -/
structure Answer (v : TaskView) (r : IterationRequest) (pending : ApprovalRecord) (status : ApprovalStatus) :
    Prop where
  current : r.current = v.record
  asked : pendingOf v.approvals = some pending
  waiting : v.record.task.status = .waitingForApproval
  cancelRequested : r.cancelRequested = none
  approvalUpdate : ∃ now reason, ∃ h : status ≠ .pending,
    r.approvalUpdate = some (resolvedRecord pending.approval status now reason h)
  approvalCreate : r.approvalCreate = none

/-- The commits the engine makes on the records `v` of its task. -/
inductive Allowed (c : Conditions) (v : TaskView) (r : IterationRequest) : Prop
  | ordinary (quiet : List EventDraft) (observed : Option Observation) (last : List EventDraft)
      (h : Ordinary c.faithful v r quiet observed last)
  | prepare (quiet : List EventDraft) (action : Action) (checkpoint : Option SimulationCheckpoint)
      (before : Observation) (cost : ℚ) (h : Prepare v r quiet action checkpoint before cost)
      (counted : Counted c v r.runtimeState)
  | start (attempt : ActionAttempt) (h : Mark v r attempt) (prepared : attempt.status = .prepared)
      (running : v.record.task.status = .running)
      (drafts : r.eventDrafts = [attemptDraft .actionExecutionStarted attempt.actionId])
  | confirm (attempt : ActionAttempt) (result : ExecutionResult) (observed : Observation)
      (verification : VerificationResult) (terminal : Option (TaskStatus × String))
      (h : Confirm c.faithful v r attempt result observed verification terminal)
  | failAttempt (attempt : ActionAttempt) (h : FailAttempt c.faithful v r attempt)
  | retire (attempt : ActionAttempt) (h : Mark v r attempt) (prepared : attempt.status = .prepared)
      (drafts : r.eventDrafts = [Engine.retiredDraft attempt.actionId])
  | requireReconciliation (attempt : ActionAttempt) (h : Mark v r attempt) (prepared : attempt.status ≠ .prepared)
      (flagged : attempt.status ≠ .reconciliationRequired)
      (drafts : r.eventDrafts = [Engine.reconciliationDraft attempt.actionId])
  | acceptCurrent (attempt : ActionAttempt) (report : ReconciliationReport) (resolution : RecoveryResolution)
      (result : ExecutionResult) (previous observed : Observation) (sn : AdapterSnapshot) (h : Resolve v r attempt)
      (task : r.task = v.record.task.chargeSuccess result)
      (cost : c.honestReconciler → |result.cost - attempt.estimatedCost| ≤ costTolerance)
      (drafts : r.eventDrafts = [observationDraft observed, reconciledDraft attempt.actionId report resolution])
      (snapshot : r.adapterSnapshot = some { sn with observationSequence := observed.sequence })
      (state : observed.state = sn.state) (tick : stateTick sn.state = some (observed.tick : Int))
      (presentable : c.faithful → Presentable sn)
  | dismiss (attempt : ActionAttempt) (report : ReconciliationReport) (resolution : RecoveryResolution)
      (h : Resolve v r attempt) (task : r.task = v.record.task)
      (drafts : r.eventDrafts = [reconciledDraft attempt.actionId report resolution]) (snapshot : r.adapterSnapshot = none)
  | abandon (attempt : ActionAttempt) (report : ReconciliationReport) (resolution : RecoveryResolution)
      (h : Resolve v r attempt) (status : v.record.task.status.canBecome .blocked = true)
      (task : r.task = v.record.task.setStatus .blocked)
      (drafts : r.eventDrafts =
        [reconciledDraft attempt.actionId report resolution, reasonDraft .taskBlocked "recovery abandoned"])
      (snapshot : r.adapterSnapshot = copyCheckpointForTerminal v.checkpoint)
  | approve (pending : ApprovalRecord) (h : Answer v r pending .approved) (task : r.task = v.record.task)
      (state : r.runtimeState = { v.record.runtimeState with
        approvedOnceAction := some pending.approval.action, approvedApprovalId := some pending.approval.id })
      (drafts : r.eventDrafts = [⟨.approvalGranted, [("approval_id", .uuid pending.approval.id)]⟩])
      (snapshot : r.adapterSnapshot = none)
  | deny (pending : ApprovalRecord) (h : Answer v r pending .denied) (task : r.task = v.record.task.setStatus .blocked)
      (state : r.runtimeState = v.record.runtimeState)
      (drafts : r.eventDrafts = [⟨.approvalDenied, [("approval_id", .uuid pending.approval.id)]⟩,
        reasonDraft .taskBlocked "approval denied"])
      (snapshot : r.adapterSnapshot = copyCheckpointForTerminal v.checkpoint)
  | cancel (current : r.current = v.record) (live : v.record.task.status.isTerminal = false)
      (task : r.task = v.record.task.setStatus .cancelled) (state : r.runtimeState = v.record.runtimeState)
      (cancelRequested : r.cancelRequested = some true) (approvalUpdate : r.approvalUpdate = none)
      (approvalCreate : r.approvalCreate = none)
      (drafts : r.eventDrafts = [reasonDraft .taskCancelled "cancellation requested"])
      (snapshot : r.adapterSnapshot = copyCheckpointForTerminal v.checkpoint)

/-- The batch that starts the execution of an attempt. -/
def StartsExecution (r : IterationRequest) (actionId : UUID) : Prop :=
  r.eventDrafts = [attemptDraft .actionExecutionStarted actionId]

/-- When process `p` is entitled to an operation on the task `id`: its commits are allowed
on the records they are made on, it executes right behind its own start of the attempt,
and what it raises to its caller is no inconsistency. -/
def Legal (c : Conditions) (id : UUID) (p : Process) : Op → System → Prop
  | .createTask task, _ => task.id = id ∧ task.status = .pending ∧ task.sequence = 0
  | .commitIteration request, s => request.task.id = id ∧
    ∀ v, viewOf id s.store = some v → request.current.task.sequence = v.record.task.sequence → Allowed c v request
  | .execute actionId authority action, s => ∃ v request attempt, s.lastOf p = some (.committed p v request) ∧
    StartsExecution request actionId ∧ unresolvedActionAttempt v.events = .ok (some attempt) ∧
    attempt.action = action ∧ authority = v.record.runtimeState.approvedApprovalId
  | .returned outcome, _ => outcome ≠ .error .diverged ∧
    (c.settledCancel → c.answeredCancel → c.faithful → c.restored → ∀ message,
      outcome ≠ .error (.reconstructionConsistency message))
  | _, _ => True

/-- The engines of one task as a protocol. -/
def protocol (c : Conditions) (id : UUID) : Protocol Op Ret Process System where
  step := Step c
  legal := Legal c id

/-- The program of a call, closed. -/
def EngineCall.main (services : Services) (call : EngineCall) : Prog Op Ret Unit :=
  (call.program services ()).bind fun _ => .ret ()

/-- The adapter of a `run` has a name when adapters are faithful. -/
def EngineCall.Named (c : Conditions) : EngineCall → Prop
  | .run _ adapter _ => c.faithful → adapter.adapterType ≠ ""
  | _ => True

/-- The programs that may be started: any call on the task, with any services. -/
def Started (c : Conditions) (id : UUID) (m : Prog Op Ret Unit) : Prop :=
  ∃ services call, m = EngineCall.main services call ∧ call.taskId = id ∧ call.Named c ∧
    c.configured services.configuration

/-- Any interleaving of calls on the task, from the empty store. -/
def Runs (c : Conditions) (id : UUID) (config : Config Op Ret Process System) : Prop :=
  Config.Steps (protocol c id) (Started c id) (Config.idle {}) config

end SimPilot
