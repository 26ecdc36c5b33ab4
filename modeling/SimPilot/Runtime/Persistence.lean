import SimPilot.Persistence.UnitOfWork
/-!
# `RuntimePersistence` (runtime/persistence.py)

One runtime iteration is built from the record it starts from and written in one
transaction. The building is pure (`IterationRequest.build`); what the transaction
writes is `IterationCommit.write`.
-/

namespace SimPilot

/-- `EventDraft`. -/
structure EventDraft where
  eventType : RuntimeEventType
  payload : Dict := []
  deriving DecidableEq, Repr

/-- What `commit_iteration` hands to its transaction. -/
structure IterationCommit where
  taskRecord : TaskRecord
  events : List RuntimeEvent
  approvalCreate : Option ApprovalRecord := none
  approvalUpdate : Option ApprovalRecord := none
  checkpoint : Option SimulationCheckpoint := none
  deriving DecidableEq, Repr

/-- The arguments of `commit_iteration`. -/
structure IterationRequest where
  current : TaskRecord
  task : Task
  runtimeState : RuntimeSafeguardState
  eventDrafts : List EventDraft
  cancelRequested : Option Bool := none
  approvalCreate : Option ApprovalRecord := none
  approvalUpdate : Option ApprovalRecord := none
  adapterSnapshot : Option AdapterSnapshot := none

/-- `_event_record` (persistence.py:137). -/
def eventRecord (event : RuntimeEvent) : EventRecord :=
  ⟨.uuid5 event.taskId "event" event.sequence, event⟩

/-- The drafts as events numbered behind `sequence`. -/
def numberEvents (id : UUID) (now : Timestamp) : Nat → List EventDraft → List RuntimeEvent
  | _, [] => []
  | sequence, draft :: drafts =>
    { taskId := id, sequence := sequence + 1, eventType := draft.eventType, timestamp := now
      payload := draft.payload } :: numberEvents id now (sequence + 1) drafts

/-- `_checkpoint` (persistence.py:144). -/
def buildCheckpoint (id : UUID) (sequence : Nat) (now : Timestamp) (snapshot : AdapterSnapshot) :
    Except PyError SimulationCheckpoint :=
  match ((snapshot.state.get "tick").getD (.int 0)).int? with
  | some (.ofNat tick) => .ok
    { metadata :=
        { id := .uuid5 id "checkpoint" sequence, taskId := id, runtimeSequence := sequence
          simulationTick := tick, simulationSchemaVersion := snapshot.simulationSchemaVersion
          adapterType := snapshot.adapterType, adapterSchemaVersion := 1
          adapterObservationSequence := snapshot.observationSequence, adapterSeed := snapshot.seed
          createdAt := now, schema_pos := snapshot.schema_pos }
      state := snapshot.state }
  -- the metadata field `simulation_tick` is validated `ge=0`
  | some (.negSucc _) => .error
      (.validation "CheckpointMetadata" "simulation_tick" "Input should be greater than or equal to 0")
  | none => .error (.valueError "adapter snapshot tick must be an integer")

namespace IterationRequest

/-- The sequence of the last event of the iteration. -/
def lastSequence (r : IterationRequest) : Nat := r.current.task.sequence + r.eventDrafts.length

/-- `updated_record` (persistence.py:95). -/
def updatedRecord (now : Timestamp) (r : IterationRequest) : TaskRecord where
  task := { r.task with sequence := r.lastSequence, updatedAt := now }
  cancelRequested := r.cancelRequested.getD r.current.cancelRequested
  runtimeState := r.runtimeState

/-- `commit_iteration` up to its transaction (persistence.py:79-107). -/
def build (now : Timestamp) (r : IterationRequest) : Except PyError IterationCommit := do
  if r.eventDrafts = [] then
    .error (.valueError "an atomic runtime iteration must contain at least one event")
  let checkpoint ← match r.adapterSnapshot with
    | none => .ok none
    | some snapshot => (buildCheckpoint r.task.id r.lastSequence now snapshot).map some
  return {
    taskRecord := r.updatedRecord now
    events := numberEvents r.task.id now r.current.task.sequence r.eventDrafts
    approvalCreate := r.approvalCreate
    approvalUpdate := r.approvalUpdate
    checkpoint }

end IterationRequest

section Stores
variable {σ : Type} [UnitOfWork σ]
open UnitOfWork

/-- `for each present record: call`. -/
def forPresent {α : Type} (call : α → Transaction σ Unit) : Option α → Transaction σ Unit
  | none => pure ()
  | some a => call a

/-- The transaction of `commit_iteration` (persistence.py:109-116). -/
def IterationCommit.write (c : IterationCommit) : Transaction σ Unit := do
  updateTask c.taskRecord
  appendEvents (c.events.map eventRecord)
  forPresent createApproval c.approvalCreate
  forPresent updateApproval c.approvalUpdate
  forPresent saveCheckpoint c.checkpoint

/-- `commit_iteration`. -/
def commitIteration (now : Timestamp) (r : IterationRequest) (s : σ) : Except PyError IterationCommit × σ :=
  match r.build now with
  | .error e => (.error e, s)
  | .ok c => match UnitOfWork.run c.write s with
    | (.ok (), s') => (.ok c, s')
    | (.error e, s') => (.error (.durablePersistence s!"runtime iteration was not persisted: {e.message}"), s')

/-- The record and the event `create_task` writes (persistence.py:57-66). -/
def createdRecord (task : Task) : TaskRecord := { task := { task with sequence := 1 } }

def createdEvent (task : Task) : RuntimeEvent :=
  { taskId := task.id, sequence := 1, eventType := .taskCreated, timestamp := task.createdAt }

def writeTask (task : Task) : Transaction σ Unit := do
  createTask (createdRecord task)
  appendEvents [eventRecord (createdEvent task)]

/-- `RuntimePersistence.create_task`. -/
def createTaskRecord (task : Task) (s : σ) : Except PyError TaskRecord × σ :=
  match UnitOfWork.run (writeTask task) s with
  | (.ok (), s') => (.ok (createdRecord task), s')
  | (.error e, s') => (.error (.durablePersistence s!"task creation was not persisted: {e.message}"), s')

end Stores

/-! ## What `build` builds -/

@[simp] theorem length_numberEvents (id : UUID) (now : Timestamp) :
    ∀ (n : Nat) (ds : List EventDraft), (numberEvents id now n ds).length = ds.length
  | _, [] => rfl
  | n, d :: ds => by simp [numberEvents, length_numberEvents id now (n + 1) ds]

theorem sequence_numberEvents (id : UUID) (now : Timestamp) :
    ∀ (n : Nat) (ds : List EventDraft), (numberEvents id now n ds).map (·.sequence) = List.range' (n + 1) ds.length
  | _, [] => rfl
  | n, d :: ds => by simp [numberEvents, sequence_numberEvents id now (n + 1) ds, List.range'_succ]

theorem taskId_numberEvents {id : UUID} {now : Timestamp} :
    ∀ {n : Nat} {ds : List EventDraft}, ∀ e ∈ numberEvents id now n ds, e.taskId = id
  | _, [], _, h => by simp [numberEvents] at h
  | n, d :: ds, e, h => by
    rcases List.mem_cons.1 h with rfl | h
    · rfl
    · exact taskId_numberEvents e h

/-- The events carry the types and payloads of the drafts, in order. -/
theorem drafts_numberEvents (id : UUID) (now : Timestamp) :
    ∀ (n : Nat) (ds : List EventDraft),
      (numberEvents id now n ds).map (fun e => (⟨e.eventType, e.payload⟩ : EventDraft)) = ds
  | _, [] => rfl
  | n, d :: ds => by simp [numberEvents, drafts_numberEvents id now (n + 1) ds]

theorem numberEvents_append (id : UUID) (now : Timestamp) :
    ∀ (n : Nat) (ds es : List EventDraft),
      numberEvents id now n (ds ++ es) = numberEvents id now n ds ++ numberEvents id now (n + ds.length) es
  | _, [], es => rfl
  | n, d :: ds, es => by
    simp only [List.cons_append, numberEvents, List.length_cons, numberEvents_append id now (n + 1) ds es]
    rw [Nat.add_right_comm, Nat.add_assoc]

theorem buildCheckpoint_ok {id : UUID} {n : Nat} {now : Timestamp} {sn : AdapterSnapshot} {c : SimulationCheckpoint}
    (h : buildCheckpoint id n now sn = .ok c) :
    c.state = sn.state ∧ c.metadata.taskId = id ∧ c.metadata.runtimeSequence = n ∧
      c.metadata.id = .uuid5 id "checkpoint" n ∧ c.metadata.adapterSchemaVersion = 1 ∧
      c.metadata.simulationSchemaVersion = sn.simulationSchemaVersion ∧
      c.metadata.adapterType = sn.adapterType ∧ c.metadata.adapterSeed = sn.seed ∧
      c.metadata.adapterObservationSequence = sn.observationSequence ∧
      ((sn.state.get "tick").getD (.int 0)).int? = some (c.metadata.simulationTick : Int) := by
  unfold buildCheckpoint at h
  split at h
  · rename_i htick
    cases h
    exact ⟨rfl, rfl, rfl, rfl, rfl, rfl, rfl, rfl, rfl, htick⟩
  all_goals cases h

/-- A request that builds: its drafts are not empty and its commit is what the request says. -/
theorem IterationRequest.build_ok {now : Timestamp} {r : IterationRequest} {c : IterationCommit}
    (h : r.build now = .ok c) :
    r.eventDrafts ≠ [] ∧ c.taskRecord = r.updatedRecord now ∧
      c.events = numberEvents r.task.id now r.current.task.sequence r.eventDrafts ∧
      c.approvalCreate = r.approvalCreate ∧ c.approvalUpdate = r.approvalUpdate ∧
      (match r.adapterSnapshot with
        | none => c.checkpoint = none
        | some sn => ∃ cp, c.checkpoint = some cp ∧ buildCheckpoint r.task.id r.lastSequence now sn = .ok cp) := by
  unfold build at h
  by_cases hd : r.eventDrafts = []
  · simp [hd, bind, Except.bind] at h
  · simp only [hd, if_false] at h
    cases hs : r.adapterSnapshot with
    | none =>
      simp only [hs] at h
      cases h
      exact ⟨hd, rfl, rfl, rfl, rfl, rfl⟩
    | some sn =>
      simp only [hs] at h
      cases hc : buildCheckpoint r.task.id r.lastSequence now sn with
      | error e => simp [hc, bind, Except.bind, Except.map] at h
      | ok cp =>
        simp only [hc] at h
        cases h
        exact ⟨hd, rfl, rfl, rfl, rfl, cp, rfl, hc⟩

/-- A state with a non-negative integer tick, or none, is checkpointed. -/
theorem buildCheckpoint_isOk {id : UUID} {n : Nat} {now : Timestamp} {sn : AdapterSnapshot} {tick : Nat}
    (h : ((sn.state.get "tick").getD (.int 0)).int? = some (tick : Int)) :
    ∃ c, buildCheckpoint id n now sn = .ok c := by
  unfold buildCheckpoint
  rw [h]
  exact ⟨_, rfl⟩

/-- A request whose drafts are not empty and whose snapshot has a tick builds. -/
theorem IterationRequest.build_isOk {now : Timestamp} {r : IterationRequest} (hd : r.eventDrafts ≠ [])
    (hs : ∀ sn ∈ r.adapterSnapshot, ∃ tick : Nat, ((sn.state.get "tick").getD (.int 0)).int? = some (tick : Int)) :
    ∃ c, r.build now = .ok c := by
  unfold build
  simp only [hd, if_false]
  cases hsn : r.adapterSnapshot with
  | none => exact ⟨_, rfl⟩
  | some sn =>
    obtain ⟨tick, htick⟩ := hs sn hsn
    obtain ⟨cp, hcp⟩ : ∃ c, buildCheckpoint r.task.id r.lastSequence now sn = .ok c := buildCheckpoint_isOk htick
    simp only [hcp]
    exact ⟨_, rfl⟩

end SimPilot
