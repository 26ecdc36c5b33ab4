import SimPilot.Persistence.InMemory
import SimPilot.Runtime.ActionAttempts
import SimPilot.Data.Except
/-!
# Reconstruction (runtime/reconstruction.py)

`RuntimeReconstructor.load` reads a task's records in one transaction (`TaskView`) and
turns them into a context, or refuses them: `validate` is the list of its checks, in
order.
-/

namespace SimPilot

/-- What `load` reads of a task. -/
structure TaskView where
  record : TaskRecord
  events : List RuntimeEvent
  approvals : List ApprovalRecord
  checkpoint : Option SimulationCheckpoint
  deriving DecidableEq, Repr

/-- `ReconstructedRuntimeContext`. -/
structure ReconstructedRuntimeContext where
  task : Task
  cancelRequested : Bool
  runtimeState : RuntimeSafeguardState
  events : List RuntimeEvent
  approvals : List ApprovalRecord
  checkpoint : Option SimulationCheckpoint
  observation : Option Observation
  reason : Option String := none
  unresolvedAttempt : Option ActionAttempt := none

/-- `pending_approval`: the first pending record. -/
def pendingOf (approvals : List ApprovalRecord) : Option ApprovalRecord :=
  approvals.find? (·.approval.status = .pending)

namespace ReconstructedRuntimeContext

def pendingApproval (c : ReconstructedRuntimeContext) : Option ApprovalRecord := pendingOf c.approvals

/-- `adapter_snapshot`. -/
def adapterSnapshot (c : ReconstructedRuntimeContext) : Except PyError AdapterSnapshot :=
  match c.checkpoint with
  | none => .error (.reconstructionConsistency "task has no simulation checkpoint")
  | some checkpoint => .ok
    { adapterType := checkpoint.metadata.adapterType
      simulationSchemaVersion := checkpoint.metadata.simulationSchemaVersion
      observationSequence := match c.observation with
        | none => checkpoint.metadata.adapterObservationSequence
        | some o => o.sequence
      seed := checkpoint.metadata.adapterSeed
      state := checkpoint.state
      schema_pos := checkpoint.metadata.schema_pos }

end ReconstructedRuntimeContext

/-- `copy_checkpoint_for_terminal` (runtime/persistence.py:122). -/
def copyCheckpointForTerminal (checkpoint : Option SimulationCheckpoint) : Option AdapterSnapshot :=
  checkpoint.map fun c =>
    { adapterType := c.metadata.adapterType
      simulationSchemaVersion := c.metadata.simulationSchemaVersion
      observationSequence := c.metadata.adapterObservationSequence
      seed := c.metadata.adapterSeed
      state := c.state
      schema_pos := c.metadata.schema_pos }

/-- `is_terminal` (runtime/engine_support.py:89). -/
def TaskStatus.isTerminal : TaskStatus → Bool
  | .completed | .blocked | .failed | .cancelled => true
  | _ => false

/-- `TERMINAL_EVENT`. -/
def TaskStatus.terminalEvent : TaskStatus → Option RuntimeEventType
  | .completed => some .taskCompleted
  | .blocked => some .taskBlocked
  | .failed => some .taskFailed
  | .cancelled => some .taskCancelled
  | _ => none

/-- `_latest_observation`. -/
def latestObservation (events : List RuntimeEvent) : Except PyError (Option Observation) :=
  match (events.filter (·.eventType = .observationRecorded)).getLast? with
  | none => .ok none
  | some event => match Observation.modelValidate event.payload with
    | some o => .ok (some o)
    | none => .error (.reconstructionConsistency "persisted observation is invalid")

namespace Reconstruction

/-- `if c: self._fail(message)`. -/
def failIf (c : Prop) [Decidable c] (message : String) : Except PyError Unit :=
  if c then .error (.reconstructionConsistency message) else .ok ()

/-- The statuses that need a checkpoint. -/
def requiresCheckpoint (status : TaskStatus) (observation : Option Observation) : Bool :=
  match status with
  | .running | .waitingForApproval | .completed | .blocked => true
  | .failed => observation.isSome
  | _ => false

/-- An approval that authorises the approved-once action. -/
def authorises (state : RuntimeSafeguardState) (record : ApprovalRecord) : Bool :=
  some record.approval.id = state.approvedApprovalId && record.approval.status = .approved
    && state.approvedOnceAction.any (record.approval.action.pyEq ·)

/-- `value is not None and value != expected`. -/
def disagrees (value : Option JsonValue) (expected : Nat) : Bool :=
  match value with
  | none | some .null => false
  | some v => ! v.pyEq (.int expected)

/-- The checks of the event history (reconstruction.py:129-144). -/
def validateEvents (r : TaskRecord) (events : List RuntimeEvent) : Except PyError Unit := do
  failIf (events.head?.map (·.eventType) ≠ some .taskCreated) "event history must begin with TaskCreated"
  failIf (events.any (·.taskId ≠ r.task.id)) "event history contains another task"
  failIf (events.map (·.sequence) ≠ List.range' 1 events.length) "event history is not contiguous"
  failIf (events.getLast?.map (·.sequence) ≠ some r.task.sequence)
    "task current sequence does not match latest event"
  failIf (r.task.status.isTerminal ∧ events.getLast?.map (·.eventType) ≠ r.task.status.terminalEvent)
    "terminal task status does not match latest event"
  failIf (r.cancelRequested ≠ decide (r.task.status = .cancelled)) "cancellation flag and task status disagree"

/-- The checks of the approvals (reconstruction.py:146-168). -/
def validateApprovals (r : TaskRecord) (approvals : List ApprovalRecord) : Except PyError Unit := do
  let pending := approvals.filter (·.approval.status = .pending)
  let state := r.runtimeState
  failIf (state.approvedApprovalId.isNone ≠ state.approvedOnceAction.isNone)
    "approved-once action identity is incomplete"
  failIf (pending ≠ [] ∧ r.task.status ≠ .waitingForApproval)
    "pending approval requires waiting_for_approval status"
  failIf (r.task.status = .waitingForApproval ∧ pending = [] ∧ state.approvedOnceAction = none)
    "waiting task has neither pending nor granted approval"
  failIf (r.task.status.isTerminal ∧ pending ≠ []) "terminal task cannot retain a pending approval"
  failIf (state.approvedOnceAction.isSome ∧ (approvals.filter (authorises state)).length ≠ 1)
    "approved-once authorization does not match approval history"

/-- The checks of the checkpoint (reconstruction.py:170-203). -/
def validateCheckpoint (r : TaskRecord) (checkpoint : Option SimulationCheckpoint)
    (observation : Option Observation) : Except PyError Unit := do
  failIf (requiresCheckpoint r.task.status observation ∧ checkpoint = none)
    "initialized task has no simulation checkpoint"
  match checkpoint with
  | none => .ok ()
  | some c =>
    failIf (c.metadata.taskId ≠ r.task.id) "checkpoint belongs to another task"
    failIf (r.task.sequence < c.metadata.runtimeSequence) "checkpoint is ahead of task sequence"
    failIf (c.metadata.adapterSchemaVersion ≠ 1) "adapter checkpoint schema version is unsupported"
    failIf (disagrees (c.state.get "schema_version") c.metadata.simulationSchemaVersion)
      "checkpoint simulation schema versions disagree"
    failIf (disagrees (c.state.get "tick") c.metadata.simulationTick)
      "checkpoint tick does not match serialized state"
    match observation with
    | none => .error (.reconstructionConsistency "checkpoint has no corresponding observation")
    | some o =>
      failIf (Dict.pyEq o.state c.state = false ∨ o.tick ≠ c.metadata.simulationTick)
        "latest observation and checkpoint state disagree"
      failIf (o.sequence < c.metadata.adapterObservationSequence)
        "adapter observation sequence is behind checkpoint"

/-- `_validate`. -/
def validate (v : TaskView) (observation : Option Observation) : Except PyError Unit := do
  validateEvents v.record v.events
  validateApprovals v.record v.approvals
  validateCheckpoint v.record v.checkpoint observation

end Reconstruction

/-- `load`, from the records read. -/
def reconstruct (v : TaskView) : Except PyError ReconstructedRuntimeContext := do
  let observation ← latestObservation v.events
  Reconstruction.validate v observation
  let unresolvedAttempt ← unresolvedActionAttempt v.events
  return {
    task := v.record.task
    cancelRequested := v.record.cancelRequested
    runtimeState := v.record.runtimeState
    events := v.events
    approvals := v.approvals
    checkpoint := v.checkpoint
    observation
    reason := v.events.getLast?.bind fun event => (event.payload.get "reason").bind JsonValue.str?
    unresolvedAttempt }

/-- `task_record` (runtime/engine_support.py:26). -/
def taskRecord (c : ReconstructedRuntimeContext) : TaskRecord :=
  { task := c.task, cancelRequested := c.cancelRequested, runtimeState := c.runtimeState }

/-! ## What the checks say -/

namespace Reconstruction

theorem failIf_eq_ok {c : Prop} [Decidable c] {m : String} {u : Unit} : failIf c m = .ok u ↔ ¬ c := by
  unfold failIf; split <;> simp_all

/-- A check in front of the rest: it did not fire and the rest passed. -/
theorem failIf_bind_eq_ok {c : Prop} [Decidable c] {m : String} {α : Type} {f : Unit → Except PyError α} {b : α} :
    (failIf c m >>= f) = .ok b ↔ ¬ c ∧ f () = .ok b := by
  unfold failIf; split <;> simp_all [bind, Except.bind]

/-- What raises `ReconstructionConsistencyError` or nothing. -/
def Consistency {α : Type} (x : Except PyError α) : Prop :=
  ∀ e, x = .error e → ∃ message, e = .reconstructionConsistency message

namespace Consistency
variable {α β : Type}

theorem ok (a : α) : Consistency (.ok a) := by rintro e ⟨⟩

theorem fail (m : String) : Consistency (.error (.reconstructionConsistency m) : Except PyError α) := by
  rintro e ⟨⟩
  exact ⟨m, rfl⟩

theorem bind {x : Except PyError α} {f : α → Except PyError β} (hx : Consistency x) (hf : ∀ a, Consistency (f a)) :
    Consistency (x >>= f) := by
  cases x with
  | error e =>
    rintro e' ⟨⟩
    exact hx e rfl
  | ok a => exact hf a

theorem failIf (c : Prop) [Decidable c] (m : String) : Consistency (Reconstruction.failIf c m) := by
  unfold Reconstruction.failIf
  split
  · exact .fail m
  · exact .ok ()

end Consistency

theorem consistency_validate (v : TaskView) (o : Option Observation) : Consistency (validate v o) := by
  have hevents : Consistency (validateEvents v.record v.events) := by
    unfold validateEvents
    exact .bind (.failIf _ _) fun _ => .bind (.failIf _ _) fun _ => .bind (.failIf _ _) fun _ => .bind (.failIf _ _) fun _ =>
      .bind (.failIf _ _) fun _ => .failIf _ _
  have happrovals : Consistency (validateApprovals v.record v.approvals) := by
    unfold validateApprovals
    exact .bind (.failIf _ _) fun _ => .bind (.failIf _ _) fun _ => .bind (.failIf _ _) fun _ => .bind (.failIf _ _) fun _ =>
      .failIf _ _
  have hcheckpoint : Consistency (validateCheckpoint v.record v.checkpoint o) := by
    unfold validateCheckpoint
    refine .bind (.failIf _ _) fun _ => ?_
    cases v.checkpoint with
    | none => exact .ok ()
    | some cp =>
      refine .bind (.failIf _ _) fun _ => .bind (.failIf _ _) fun _ => .bind (.failIf _ _) fun _ =>
        .bind (.failIf _ _) fun _ => .bind (.failIf _ _) fun _ => ?_
      cases o with
      | none => exact .fail _
      | some o => exact .bind (.failIf _ _) fun _ => .failIf _ _
  exact .bind hevents fun _ => .bind happrovals fun _ => hcheckpoint

theorem validateEvents_eq_ok {r : TaskRecord} {events : List RuntimeEvent} :
    validateEvents r events = .ok () ↔
      events.head?.map (·.eventType) = some .taskCreated ∧ (∀ e ∈ events, e.taskId = r.task.id) ∧
      events.map (·.sequence) = List.range' 1 events.length ∧
      events.getLast?.map (·.sequence) = some r.task.sequence ∧
      (r.task.status.isTerminal → events.getLast?.map (·.eventType) = r.task.status.terminalEvent) ∧
      r.cancelRequested = decide (r.task.status = .cancelled) := by
  simp only [validateEvents, failIf_bind_eq_ok, failIf_eq_ok, ne_eq, not_not, List.any_eq_true, decide_eq_true_eq,
    not_exists, not_and]

theorem validateApprovals_eq_ok {r : TaskRecord} {approvals : List ApprovalRecord} :
    validateApprovals r approvals = .ok () ↔
      (r.runtimeState.approvedApprovalId.isNone = r.runtimeState.approvedOnceAction.isNone) ∧
      (approvals.filter (·.approval.status = .pending) ≠ [] → r.task.status = .waitingForApproval) ∧
      (r.task.status = .waitingForApproval → approvals.filter (·.approval.status = .pending) = [] →
        r.runtimeState.approvedOnceAction ≠ none) ∧
      (r.task.status.isTerminal → approvals.filter (·.approval.status = .pending) = []) ∧
      (r.runtimeState.approvedOnceAction.isSome → (approvals.filter (authorises r.runtimeState)).length = 1) := by
  simp only [validateApprovals, failIf_bind_eq_ok, failIf_eq_ok, ne_eq, not_not, not_and]

/-- A checkpoint the checks accept next to an observation. -/
structure Coherent (c : SimulationCheckpoint) (o : Observation) : Prop where
  adapterSchema : c.metadata.adapterSchemaVersion = 1
  schema : disagrees (c.state.get "schema_version") c.metadata.simulationSchemaVersion = false
  stateTick : disagrees (c.state.get "tick") c.metadata.simulationTick = false
  state : Dict.pyEq o.state c.state = true
  tick : o.tick = c.metadata.simulationTick
  sequence : c.metadata.adapterObservationSequence ≤ o.sequence

theorem validateCheckpoint_eq_ok {r : TaskRecord} {checkpoint : Option SimulationCheckpoint}
    {observation : Option Observation} :
    validateCheckpoint r checkpoint observation = .ok () ↔
      (requiresCheckpoint r.task.status observation → checkpoint ≠ none) ∧
      ∀ c ∈ checkpoint, c.metadata.taskId = r.task.id ∧ c.metadata.runtimeSequence ≤ r.task.sequence ∧
        ∃ o, observation = some o ∧ Coherent c o := by
  cases checkpoint with
  | none => simp [validateCheckpoint, failIf_bind_eq_ok]
  | some c =>
    cases observation with
    | none => simp [validateCheckpoint, failIf_bind_eq_ok]
    | some o =>
      simp only [validateCheckpoint, failIf_bind_eq_ok, failIf_eq_ok, Option.mem_some_iff, forall_eq',
        Option.some.injEq, exists_eq_left', not_or, ne_eq, not_not, not_lt, Bool.not_eq_true, Bool.not_eq_false]
      constructor
      · rintro ⟨-, h1, h2, h3, h4, h5, ⟨h6, h7⟩, h8⟩
        exact ⟨fun _ => by simp, h1, h2, ⟨h3, h4, h5, h6, h7, h8⟩⟩
      · rintro ⟨-, h1, h2, h⟩
        exact ⟨by simp, h1, h2, h.adapterSchema, h.schema, h.stateTick, ⟨h.state, h.tick⟩, h.sequence⟩

/-- The checks pass when those of each record do. -/
theorem validate_eq_ok {v : TaskView} {observation : Option Observation} :
    validate v observation = .ok () ↔ validateEvents v.record v.events = .ok () ∧
      validateApprovals v.record v.approvals = .ok () ∧
      validateCheckpoint v.record v.checkpoint observation = .ok () := by
  simp only [validate, Except.bind_eq_ok]
  constructor
  · rintro ⟨_, h1, _, h2, h3⟩
    exact ⟨h1, h2, h3⟩
  · rintro ⟨h1, h2, h3⟩
    exact ⟨(), h1, (), h2, h3⟩

end Reconstruction

/-- A context that was reconstructed carries the records it was read from. -/
theorem reconstruct_eq_ok {v : TaskView} {c : ReconstructedRuntimeContext} :
    reconstruct v = .ok c ↔ ∃ observation attempts,
      latestObservation v.events = .ok observation ∧ Reconstruction.validate v observation = .ok () ∧
      actionAttempts v.events = .ok attempts ∧
      c = { task := v.record.task, cancelRequested := v.record.cancelRequested
            runtimeState := v.record.runtimeState, events := v.events, approvals := v.approvals
            checkpoint := v.checkpoint, observation
            reason := v.events.getLast?.bind fun event => (event.payload.get "reason").bind JsonValue.str?
            unresolvedAttempt := latestUnresolved attempts } := by
  simp only [reconstruct, Except.bind_eq_ok, unresolvedActionAttempt]
  constructor
  · rintro ⟨o, ho, _, hv, a, ha, hc⟩
    cases hat : actionAttempts v.events with
    | error e => simp [hat, Except.map] at ha
    | ok attempts =>
      simp only [hat, Except.map, Except.ok.injEq] at ha
      subst ha
      exact ⟨o, attempts, ho, hv, rfl, (Except.ok.inj hc).symm⟩
  · rintro ⟨o, attempts, ho, hv, hat, rfl⟩
    exact ⟨o, ho, (), hv, latestUnresolved attempts, by simp [hat, Except.map], rfl⟩

end SimPilot
