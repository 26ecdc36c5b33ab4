import SimPilot.Runtime.Reconstruction
import SimPilot.Runtime.Persistence
/-!
# Helpers of the runtime (runtime/engine_support.py, runtime/lifecycle.py)

What the engine knows of an adapter besides its calls is `AdapterInfo`: whether it is
`CheckpointableSimulationAdapter`, and the two attributes the runtime reads.
-/

namespace SimPilot

/-- What the runtime reads of an adapter object. -/
structure AdapterInfo where
  adapterType : String
  checkpointable : Bool
  requiresFreshObservationOnResume : Bool
  deriving DecidableEq, Repr

/-! ## Lifecycle -/

/-- `TRANSITIONS`. -/
def TaskStatus.canBecome : TaskStatus → TaskStatus → Bool
  | .pending, .running | .pending, .cancelled => true
  | .running, .completed | .running, .blocked | .running, .failed | .running, .waitingForApproval
  | .running, .cancelled => true
  | .waitingForApproval, .running | .waitingForApproval, .blocked | .waitingForApproval, .cancelled => true
  | _, _ => false

/-- `transition`. -/
def transition (current target : TaskStatus) : Except PyError TaskStatus :=
  if current.canBecome target then .ok target
  else .error (.valueError s!"invalid task transition: {current.value} -> {target.value}")

/-- `task.model_copy(update={"status": status})`. -/
def Task.setStatus (task : Task) (status : TaskStatus) : Task := { task with status }

@[simp] theorem Task.setStatus_status (task : Task) (status : TaskStatus) : (task.setStatus status).status = status := rfl
@[simp] theorem Task.setStatus_id (task : Task) (status : TaskStatus) : (task.setStatus status).id = task.id := rfl
@[simp] theorem Task.setStatus_totalSpend (task : Task) (status : TaskStatus) :
    (task.setStatus status).totalSpend = task.totalSpend := rfl

@[simp] theorem Task.setStatus_self (task : Task) : task.setStatus task.status = task := rfl

def withStatus (task : Task) (status : TaskStatus) : Except PyError Task :=
  (transition task.status status).map task.setStatus

def forceFailed (task : Task) : Except PyError Task :=
  if task.status = .pending then (transition task.status .running).map fun _ => task.setStatus .failed
  else .ok (task.setStatus .failed)

theorem withStatus_eq {task : Task} {status : TaskStatus} (h : task.status.canBecome status = true) :
    withStatus task status = .ok (task.setStatus status) := by
  simp [withStatus, transition, h, Except.map]

theorem withStatus_ok {task task' : Task} {status : TaskStatus} (h : withStatus task status = .ok task') :
    task.status.canBecome status = true ∧ task' = task.setStatus status := by
  by_cases hc : task.status.canBecome status = true
  · rw [withStatus_eq hc] at h
    exact ⟨hc, (Except.ok.inj h).symm⟩
  · simp [withStatus, transition, hc, Except.map] at h

@[simp] theorem forceFailed_eq (task : Task) : forceFailed task = .ok (task.setStatus .failed) := by
  unfold forceFailed
  split
  · rename_i h
    simp [transition, h, TaskStatus.canBecome, Except.map]
  · rfl

/-- A terminal status becomes nothing else. -/
theorem TaskStatus.canBecome_terminal {s t : TaskStatus} (h : s.canBecome t = true) : s.isTerminal = false := by
  cases s <;> cases t <;> simp_all [canBecome, isTerminal]

/-! ## Drafts and snapshots -/

def observationDraft (o : Observation) : EventDraft := ⟨.observationRecorded, o.modelDump⟩

/-- `isinstance(schema_version, int)` decides; a bool is an int, and pydantic refuses it. -/
def stateSchemaVersion (state : Dict) : Except PyError {n : Nat // 1 ≤ n} :=
  match state.get "schema_version" with
  | some (.int n) => if h : 1 ≤ n.toNat then .ok ⟨n.toNat, h⟩ else .error
      (.validation "AdapterSnapshot" "simulation_schema_version" "Input should be greater than or equal to 1")
  | some (.bool _) => .error
      (.validation "AdapterSnapshot" "simulation_schema_version" "Input should be a valid integer")
  | _ => .ok ⟨1, le_refl 1⟩

/-- The snapshot `adapter_snapshot` makes for an adapter that has none of its own. -/
def derivedSnapshot (adapterType : String) (o : Observation) : Except PyError AdapterSnapshot :=
  match stateSchemaVersion o.state with
  | .error e => .error e
  | .ok version =>
    if adapterType = "" then .error
      (.validation "AdapterSnapshot" "adapter_type" "String should have at least 1 character")
    else .ok
      { adapterType, simulationSchemaVersion := version.1, observationSequence := o.sequence, seed := "0"
        state := o.state, schema_pos := version.2 }

def actionStateFingerprint (action : Action) (o : Observation) : JsonValue :=
  JsonValue.dumps (.dict [("action", .dict action.modelDump), ("state", .dict o.state)])

/-- `json.dumps(observation.state, sort_keys=True, …)`. -/
def stateFingerprint (o : Observation) : JsonValue := JsonValue.dumps (.dict o.state)

def runtimeOutcome (task : Task) (runtimeState : RuntimeSafeguardState) (reason : Option String)
    (context : Option ReconstructedRuntimeContext := none) : RuntimeOutcome where
  taskId := task.id
  status := task.status
  totalSpend := task.totalSpend
  iterations := runtimeState.iterations
  reason
  pendingApproval := context.bind fun c => c.pendingApproval.map (·.approval)

end SimPilot
