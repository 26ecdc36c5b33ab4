import SimPilot.Effect.Program
import SimPilot.Runtime.DecisionContext
import SimPilot.Runtime.EngineSupport
/-!
# What the runtime asks of the world

The calls the engine makes outside its own code: to its store, to the clock, to its
adapter, its decision provider and its other collaborators. `Engine` is the program of
one call of the engine over these operations.

Four operations carry more than the call's own arguments, for the sake of what is said
about them: `execute` names the attempt it belongs to and the approval it is made on,
`observe` and `snapshot` name the observation the caller holds, and `restored` is the call
of `snapshot` whose answer is compared with a checkpoint.
-/

namespace SimPilot
open Effect

/-- `ReconciliationReport` (runtime/recovery.py:22), as far as the engine reads it. -/
structure ReconciliationReport where
  classification : ReconciliationClassification
  reason : String
  expectedResult : Option ExecutionResult := none
  deriving DecidableEq, Repr

inductive Op where
  /-- The reads of `RuntimeReconstructor.load`. -/
  | load (id : UUID)
  /-- `event_store.list_events`. -/
  | listEvents (id : UUID)
  /-- `persistence.create_task`. -/
  | createTask (task : Task)
  /-- `persistence.commit_iteration`. -/
  | commitIteration (request : IterationRequest)
  /-- `datetime.now(UTC)`. -/
  | now
  | cancellationCheck (id : UUID)
  /-- The crash hook; `true` is a `SimulatedCrash`. -/
  | crash (point : CrashPoint)
  /-- `adapter.initialize()`. -/
  | initializeAdapter
  | observe (held : Option Observation)
  | availableActions
  | validate (action : Action)
  | execute (actionId : UUID) (authority : Option UUID) (action : Action)
  | shutdown
  | snapshot (held : Observation)
  | restored (durable : Except PyError AdapterSnapshot)
  | decide (context : DecisionContext)
  | adapterFactory (context : ReconstructedRuntimeContext)
  /-- The reconciler registered for the snapshot's adapter type. -/
  | reconcile (attempt : ActionAttempt) (prior : AdapterSnapshot) (current : Option AdapterSnapshot)
  /-- `run` returns to its caller or raises. -/
  | returned (outcome : Except PyError Unit)

abbrev Ret : Op → Type
  | .load _ => Except PersistenceError TaskView
  | .listEvents _ => List RuntimeEvent
  | .createTask _ => Except PyError TaskRecord
  | .commitIteration _ => Except PyError IterationCommit
  | .now => Timestamp
  | .cancellationCheck _ => Except PyError Bool
  | .crash _ => Bool
  | .initializeAdapter | .shutdown => Except PyError Unit
  | .observe _ => Except PyError Observation
  | .availableActions => Except PyError (List ActionDefinition)
  | .validate _ => Except PyError AdapterValidation
  | .execute _ _ _ => Except PyError ExecutionResult
  | .snapshot _ | .restored _ => Except PyError AdapterSnapshot
  | .decide _ => Except PyError DecisionProviderResult
  | .adapterFactory _ => Except PyError AdapterInfo
  | .reconcile _ _ _ => Except PyError ReconciliationReport
  | .returned _ => Unit

/-- A computation of the engine with locals `σ`. -/
abbrev Engine (σ α : Type) : Type := Py Op Ret PyError σ α

namespace Engine
variable {σ α : Type}

/-- Perform an operation and take its reply. -/
def ask (o : Op) : Engine σ (Ret o) := Py.perform o

def now : Engine σ Timestamp := ask .now

def listEvents (id : UUID) : Engine σ (List RuntimeEvent) := ask (.listEvents id)

/-- `reconstruct`: `RuntimeReconstructor.load`. -/
def reconstruct (id : UUID) : Engine σ ReconstructedRuntimeContext := do
  match ← ask (.load id) with
  | .error e => Py.raise (.persistence e)
  | .ok view => Py.lift (SimPilot.reconstruct view)

def createTask (task : Task) : Engine σ TaskRecord := do Py.lift (← ask (.createTask task))

def commitIteration (request : IterationRequest) : Engine σ IterationCommit := do
  Py.lift (← ask (.commitIteration request))

def cancellationCheck (id : UUID) : Engine σ Bool := do Py.lift (← ask (.cancellationCheck id))

/-- `_crash`. -/
def crash (point : CrashPoint) : Engine σ Unit := do
  if ← ask (.crash point) then Py.raise (.simulatedCrash point) else pure ()

def initializeAdapter : Engine σ Unit := do Py.lift (← ask .initializeAdapter)

def observe (held : Option Observation) : Engine σ Observation := do Py.lift (← ask (.observe held))

def availableActions : Engine σ (List ActionDefinition) := do Py.lift (← ask .availableActions)

def validate (action : Action) : Engine σ AdapterValidation := do Py.lift (← ask (.validate action))

def execute (actionId : UUID) (authority : Option UUID) (action : Action) : Engine σ ExecutionResult := do
  Py.lift (← ask (.execute actionId authority action))

def shutdown : Engine σ Unit := do Py.lift (← ask .shutdown)

def snapshot (held : Observation) : Engine σ AdapterSnapshot := do Py.lift (← ask (.snapshot held))

def restored (durable : Except PyError AdapterSnapshot) : Engine σ AdapterSnapshot := do
  Py.lift (← ask (.restored durable))

/-- `decision_provider.decide`. -/
def providerDecide (context : DecisionContext) : Engine σ DecisionProviderResult := do
  Py.lift (← ask (.decide context))

def adapterFactory (context : ReconstructedRuntimeContext) : Engine σ AdapterInfo := do
  Py.lift (← ask (.adapterFactory context))

/-- `ReconciliationDispatcher.reconcile` (runtime/recovery.py:69). -/
def reconcile (registered : List String) (attempt : ActionAttempt) (prior : AdapterSnapshot)
    (current : Option AdapterSnapshot) : Engine σ ReconciliationReport := do
  if current.any (·.adapterType ≠ prior.adapterType) then
    Py.raise (.other "AdapterReconciliationMismatchError"
      "current adapter snapshot type does not match the persisted checkpoint")
  else if prior.adapterType ∉ registered then
    Py.raise (.other "UnsupportedAdapterReconciliationError"
      s!"no reconciler registered for adapter type '{prior.adapterType}'")
  else Py.lift (← ask (.reconcile attempt prior current))

/-- `adapter_snapshot` (runtime/engine_support.py:51). -/
def adapterSnapshot (adapter : AdapterInfo) (observation : Observation) : Engine σ AdapterSnapshot :=
  if adapter.checkpointable then snapshot observation
  else Py.lift (derivedSnapshot adapter.adapterType observation)

/-- A snapshot, when one is wanted. -/
def snapshotIf (wanted : Bool) (adapter : AdapterInfo) (observation : Observation) :
    Engine σ (Option AdapterSnapshot) :=
  if wanted then some <$> adapterSnapshot adapter observation else pure none

/-- `_commit_with_drafts` (runtime/engine.py:436). -/
def commitWithDrafts (current : TaskRecord) (task : Task) (runtimeState : RuntimeSafeguardState)
    (drafts : List EventDraft) (snapshot : Option AdapterSnapshot) : Engine σ TaskRecord := do
  let commit ← commitIteration
    { current, task, runtimeState, eventDrafts := drafts, adapterSnapshot := snapshot }
  return commit.taskRecord

/-- `try: m except Exception as error: handler`, with `DurablePersistenceError` raised again. -/
def tryExceptDurable (m : Engine σ α) (handler : PyError → Engine σ α) : Engine σ α :=
  Py.tryCatch m fun error =>
    match error with
    | .durablePersistence message => Py.raise (.durablePersistence message)
    | error => if error.isException then handler error else Py.raise error

end Engine

end SimPilot
