import SimPilot.Persistence.UnitOfWork
/-!
# The SQLite store (persistence/sqlite/repositories.py, persistence/sqlite/schema.py)

Four tables as the lists of their rows, with the constraints of schema.py: primary
keys, foreign keys to `tasks` (database.py switches them on), `uq_events_task_sequence`,
`uq_checkpoints_task_runtime_sequence` and the partial index `uq_approvals_pending_action`.
A column that holds JSON text holds the value the text denotes; the two columns `_json`
writes (payloads and states) come back with their keys sorted. Every row carries schema
version 1, the literal of `PersistenceRecord`.
-/

namespace SimPilot

structure TaskRow where
  id : UUID
  status : TaskStatus
  specificationJson : TaskSpecification
  currentSequence : Nat
  totalSpend : {q : ℚ // 0 ≤ q}
  cancelRequested : Bool
  runtimeStateJson : RuntimeSafeguardState
  createdAt : Timestamp
  updatedAt : Timestamp

structure EventRow where
  id : UUID
  taskId : UUID
  sequence : Nat
  eventType : RuntimeEventType
  timestamp : Timestamp
  payloadJson : Dict

structure ApprovalRow where
  id : UUID
  taskId : UUID
  status : ApprovalStatus
  actionJson : Action
  reason : Option String
  createdAt : Timestamp
  resolvedAt : Option Timestamp
  resolution : resolvedAt = none ↔ status = .pending

structure CheckpointRow where
  metadata : CheckpointMetadata
  stateJson : Dict

structure SqliteDatabase where
  tasks : List TaskRow := []
  events : List EventRow := []
  approvals : List ApprovalRow := []
  simulationCheckpoints : List CheckpointRow := []

namespace Sqlite
open Transaction

/-- `_json` of a dictionary, read back by `json.loads`. -/
def json (d : Dict) : Dict := ((JsonValue.dict d).sortKeys.dict?).getD d

/-! ## Rows (`_values` and `_record`) -/

def TaskRow.values (record : TaskRecord) : TaskRow where
  id := record.task.id
  status := record.task.status
  specificationJson := record.task.specification
  currentSequence := record.task.sequence
  totalSpend := ⟨record.task.totalSpend, record.task.spend_nonneg⟩
  cancelRequested := record.cancelRequested
  runtimeStateJson := record.runtimeState
  createdAt := record.task.createdAt
  updatedAt := record.task.updatedAt

def TaskRow.record (row : TaskRow) : TaskRecord where
  task :=
    { id := row.id, status := row.status, specification := row.specificationJson
      sequence := row.currentSequence, totalSpend := row.totalSpend.1, createdAt := row.createdAt
      updatedAt := row.updatedAt, spend_nonneg := row.totalSpend.2 }
  cancelRequested := row.cancelRequested
  runtimeState := row.runtimeStateJson

def EventRow.values (record : EventRecord) : EventRow where
  id := record.id
  taskId := record.event.taskId
  sequence := record.event.sequence
  eventType := record.event.eventType
  timestamp := record.event.timestamp
  payloadJson := json record.event.payload

def EventRow.record (row : EventRow) : EventRecord where
  id := row.id
  event :=
    { taskId := row.taskId, sequence := row.sequence, eventType := row.eventType
      timestamp := row.timestamp, payload := row.payloadJson }

def ApprovalRow.values (record : ApprovalRecord) : ApprovalRow where
  id := record.approval.id
  taskId := record.approval.taskId
  status := record.approval.status
  actionJson := record.approval.action
  reason := record.reason
  createdAt := record.approval.createdAt
  resolvedAt := record.approval.resolvedAt
  resolution := record.resolution

def ApprovalRow.record (row : ApprovalRow) : ApprovalRecord where
  approval :=
    { id := row.id, taskId := row.taskId, action := row.actionJson, status := row.status
      createdAt := row.createdAt, resolvedAt := row.resolvedAt }
  reason := row.reason
  resolution := row.resolution

def CheckpointRow.values (checkpoint : SimulationCheckpoint) : CheckpointRow where
  metadata := checkpoint.metadata
  stateJson := json checkpoint.state

def CheckpointRow.record (row : CheckpointRow) : SimulationCheckpoint where
  metadata := row.metadata
  state := row.stateJson

/-- A task read back is the task written. -/
@[simp] theorem TaskRow.record_values (r : TaskRecord) : TaskRow.record (TaskRow.values r) = r := rfl

/-- So is an approval. -/
@[simp] theorem ApprovalRow.record_values (r : ApprovalRecord) : ApprovalRow.record (ApprovalRow.values r) = r :=
  rfl

/-! ## Tasks (sqlite/repositories.py:86-171) -/

def createTask (record : TaskRecord) : Transaction SqliteDatabase Unit := fun db =>
  if db.tasks.any (·.id = record.task.id) then (.error (.duplicateRecord "duplicate task"), db)
  else (.ok (), { db with tasks := db.tasks ++ [TaskRow.values record] })

def getTask (id : UUID) : Transaction SqliteDatabase TaskRecord := fun db =>
  match db.tasks.find? (·.id = id) with
  | some row => (.ok (TaskRow.record row), db)
  | none => (.error (.recordNotFound s!"task {id.text} was not found"), db)

def updateTask (record : TaskRecord) : Transaction SqliteDatabase Unit := do
  let current ← getTask record.task.id
  raiseIf (record.task.sequence < current.task.sequence ∨ record.task.updatedAt < current.task.updatedAt)
    (.staleUpdate s!"task {record.task.id.text} update is stale")
  modify fun db =>
    { db with tasks := db.tasks.map fun row => if row.id = record.task.id then TaskRow.values record else row }

/-! ## Events (sqlite/repositories.py:174-262) -/

/-- `select(events).where(task_id = …).order_by(sequence)`. -/
def eventRows (db : SqliteDatabase) (id : UUID) : List EventRow :=
  (db.events.filter (·.taskId = id)).insertionSort fun a b => a.sequence ≤ b.sequence

def listEvents (db : SqliteDatabase) (id : UUID) : List EventRecord := (eventRows db id).map EventRow.record

/-- `1 if latest is None else latest.event.sequence + 1`. -/
def nextSequence (db : SqliteDatabase) (id : UUID) : Nat :=
  match (eventRows db id).getLast? with
  | none => 1
  | some latest => latest.sequence + 1

/-- The first loop of `append_many`. -/
def checkAppend (db : SqliteDatabase) :
    Assoc UUID Nat → List UUID → List EventRecord → Except PersistenceError Unit
  | _, _, [] => .ok ()
  | expectedByTask, pendingIds, record :: records =>
    let id := record.event.taskId
    let expected := (expectedByTask.get id).getD (nextSequence db id)
    if record.id ∈ pendingIds ∨ db.events.any (·.id = record.id) then
      .error (.duplicateRecord s!"event {record.id.text} already exists")
    else if record.event.sequence ≠ expected then
      .error (.sequenceConflict s!"expected event sequence {expected}, received {record.event.sequence}")
    else checkAppend db (expectedByTask.set id (expected + 1)) (record.id :: pendingIds) records

/-- `insert(events)` of one row: `uq_events_task_sequence`, then the foreign key. -/
def insertEvent (record : EventRecord) : Transaction SqliteDatabase Unit := fun db =>
  let row := EventRow.values record
  if db.events.any fun existing => existing.id = row.id ∨ existing.taskId = row.taskId ∧ existing.sequence = row.sequence
  then (.error (.duplicateRecord "duplicate event"), db)
  else if ¬ db.tasks.any (·.id = row.taskId) then
    (.error (.recordNotFound "associated task for event was not found"), db)
  else (.ok (), { db with events := db.events ++ [row] })

def insertEvents : List EventRecord → Transaction SqliteDatabase Unit
  | [] => pure ()
  | record :: records => do
    insertEvent record
    insertEvents records

def appendMany (records : List EventRecord) : Transaction SqliteDatabase Unit := fun db =>
  match checkAppend db [] [] records with
  | .error e => (.error e, db)
  | .ok () => insertEvents records db

/-- `events.latest`: ordered by `sequence desc`, limited to one row. -/
def latestEvent (db : SqliteDatabase) (id : UUID) : Option EventRecord :=
  (eventRows db id).getLast?.map EventRow.record

/-- `events.get_by_sequence`; `uq_events_task_sequence` leaves `one_or_none` at most one row. -/
def getEventBySequence (db : SqliteDatabase) (id : UUID) (sequence : Int) : Except PersistenceError EventRecord :=
  match db.events.find? fun row => row.taskId = id ∧ (row.sequence : Int) = sequence with
  | some row => .ok (EventRow.record row)
  | none => .error (.recordNotFound s!"event {id.text}/{sequence} was not found")

/-! ## Approvals (sqlite/repositories.py:265-369) -/

/-- A pending row of `uq_approvals_pending_action` other than the one with this id. -/
def pendingConflict (db : SqliteDatabase) (row : ApprovalRow) : Bool :=
  row.status = .pending && db.approvals.any fun existing =>
    existing.id ≠ row.id && existing.status = .pending && existing.taskId = row.taskId
      && existing.actionJson = row.actionJson

def createApproval (record : ApprovalRecord) : Transaction SqliteDatabase Unit := fun db =>
  let row := ApprovalRow.values record
  if db.approvals.any (·.id = row.id) ∨ pendingConflict db row then
    (.error (.duplicateRecord "duplicate approval"), db)
  else if ¬ db.tasks.any (·.id = row.taskId) then
    (.error (.recordNotFound "associated task for approval was not found"), db)
  else (.ok (), { db with approvals := db.approvals ++ [row] })

def getApproval (id : UUID) : Transaction SqliteDatabase ApprovalRecord := fun db =>
  match db.approvals.find? (·.id = id) with
  | some row => (.ok (ApprovalRow.record row), db)
  | none => (.error (.recordNotFound s!"approval {id.text} was not found"), db)

def updateApproval (record : ApprovalRecord) : Transaction SqliteDatabase Unit := do
  let current ← getApproval record.approval.id
  raiseIf (current.approval.status ≠ .pending)
    (.staleUpdate s!"approval {record.approval.id.text} is already resolved")
  raiseIf (record.approval.taskId ≠ current.approval.taskId ∨
      record.approval.action.pyEq current.approval.action = false ∨
      record.approval.createdAt ≠ current.approval.createdAt)
    (.staleUpdate s!"approval {record.approval.id.text} immutable data changed")
  fun db =>
    if pendingConflict db (ApprovalRow.values record) then
      (.error (.duplicateRecord "duplicate approval"), db)
    else (.ok (), { db with approvals := db.approvals.map fun row =>
      if row.id = record.approval.id then ApprovalRow.values record else row })

/-! ## Checkpoints (sqlite/repositories.py:372-480) -/

def checkpointRows (db : SqliteDatabase) (id : UUID) : List CheckpointRow :=
  (db.simulationCheckpoints.filter (·.metadata.taskId = id)).insertionSort fun a b =>
    a.metadata.runtimeSequence ≤ b.metadata.runtimeSequence

def listCheckpoints (db : SqliteDatabase) (id : UUID) : List SimulationCheckpoint :=
  (checkpointRows db id).map CheckpointRow.record

def saveCheckpoint (checkpoint : SimulationCheckpoint) : Transaction SqliteDatabase Unit := fun db =>
  let row := CheckpointRow.values checkpoint
  let id := row.metadata.taskId
  if checkpoint.metadata.simulationSchemaVersion ≠ 1 then
    (.error (.unsupportedSchemaVersion "simulation checkpoint schema version is unsupported"), db)
  else if (checkpointRows db id).getLast?.any fun latest =>
      checkpoint.metadata.runtimeSequence ≤ latest.metadata.runtimeSequence then
    (.error (.staleUpdate s!"checkpoint sequence {checkpoint.metadata.runtimeSequence} is not newer"), db)
  else if db.simulationCheckpoints.any fun existing => existing.metadata.id = row.metadata.id ∨
      existing.metadata.taskId = id ∧ existing.metadata.runtimeSequence = row.metadata.runtimeSequence then
    (.error (.duplicateRecord "duplicate simulation checkpoint"), db)
  else if ¬ db.tasks.any (·.id = id) then
    (.error (.recordNotFound "associated task for simulation checkpoint was not found"), db)
  else (.ok (), { db with simulationCheckpoints := db.simulationCheckpoints ++ [row] })

/-- `simulations.latest`. -/
def latestCheckpoint (db : SqliteDatabase) (id : UUID) : Option SimulationCheckpoint :=
  (checkpointRows db id).getLast?.map CheckpointRow.record

/-- `simulations.get_by_runtime_sequence`. -/
def getByRuntimeSequence (db : SqliteDatabase) (id : UUID) (runtimeSequence : Int) :
    Except PersistenceError SimulationCheckpoint :=
  match db.simulationCheckpoints.find? fun row =>
      row.metadata.taskId = id ∧ (row.metadata.runtimeSequence : Int) = runtimeSequence with
  | some row => .ok (CheckpointRow.record row)
  | none => .error (.recordNotFound s!"checkpoint {id.text}/{runtimeSequence} was not found")

instance : UnitOfWork SqliteDatabase where
  empty := {}
  createTask := createTask
  getTask := getTask
  updateTask := updateTask
  appendEvents := appendMany
  listEvents := listEvents
  createApproval := createApproval
  updateApproval := updateApproval
  saveCheckpoint := saveCheckpoint
  listCheckpoints := listCheckpoints

/-! ## Ordered selections

Rows appended behind all rows of a selection stay behind them in its order. -/

section Selections
variable {α : Type} (key : α → Nat)

theorem orderedInsert_append {a : α} : ∀ {l m : List α}, (∀ b ∈ m, key a ≤ key b) →
    (l ++ m).orderedInsert (fun a b => key a ≤ key b) a = l.orderedInsert (fun a b => key a ≤ key b) a ++ m
  | [], [], _ => rfl
  | [], b :: m, h => by simp [List.orderedInsert, h b (by simp)]
  | x :: l, m, h => by
    by_cases hx : key a ≤ key x
    · simp [List.orderedInsert, hx]
    · simp [List.orderedInsert, hx, orderedInsert_append h]

theorem insertionSort_append : ∀ {l m : List α}, m.Pairwise (fun a b => key a ≤ key b) →
    (∀ a ∈ l, ∀ b ∈ m, key a ≤ key b) →
    (l ++ m).insertionSort (fun a b => key a ≤ key b) = l.insertionSort (fun a b => key a ≤ key b) ++ m
  | [], m, hm, _ => by simpa using hm.insertionSort_eq
  | a :: l, m, hm, h => by
    rw [List.cons_append, List.insertionSort_cons, insertionSort_append hm fun a' ha' => h a' (by simp [ha']),
      orderedInsert_append key (h a (by simp)), List.insertionSort_cons]

end Selections

/-! ## What a call that returned did -/

theorem getTask_ok {id : UUID} {r : TaskRecord} {db db' : SqliteDatabase} (h : getTask id db = (.ok r, db')) :
    (db.tasks.find? (·.id = id)).map TaskRow.record = some r ∧ db' = db := by
  unfold getTask at h
  split at h <;> simp_all

theorem createTask_ok {r : TaskRecord} {db db' : SqliteDatabase} (h : createTask r db = (.ok (), db')) :
    db.tasks.find? (·.id = r.task.id) = none ∧ db' = { db with tasks := db.tasks ++ [TaskRow.values r] } := by
  unfold createTask at h
  split at h
  · simp at h
  · rename_i hc
    simp only [Prod.mk.injEq, true_and] at h
    exact ⟨by simpa using hc, h.symm⟩

theorem updateTask_ok {r : TaskRecord} {db db' : SqliteDatabase} (h : updateTask r db = (.ok (), db')) :
    ∃ old, (db.tasks.find? (·.id = r.task.id)).map TaskRow.record = some old ∧
      old.task.sequence ≤ r.task.sequence ∧ old.task.updatedAt ≤ r.task.updatedAt ∧
      db' = { db with tasks := db.tasks.map fun row => if row.id = r.task.id then TaskRow.values r else row } := by
  obtain ⟨old, s₁, hget, h₁⟩ := bind_ok h
  obtain ⟨hold, rfl⟩ := getTask_ok hget
  obtain ⟨_, s₂, hstale, h₂⟩ := bind_ok h₁
  obtain ⟨hc, rfl⟩ := raiseIf_ok hstale
  rw [not_or, not_lt, not_lt] at hc
  exact ⟨old, hold, hc.1, hc.2, modify_ok h₂⟩

theorem createApproval_ok {r : ApprovalRecord} {db db' : SqliteDatabase}
    (h : createApproval r db = (.ok (), db')) :
    db' = { db with approvals := db.approvals ++ [ApprovalRow.values r] } := by
  simp only [createApproval] at h
  split at h
  · simp at h
  split at h
  · simp at h
  simp only [Prod.mk.injEq, true_and] at h
  exact h.symm

theorem updateApproval_ok {r : ApprovalRecord} {db db' : SqliteDatabase}
    (h : updateApproval r db = (.ok (), db')) : ∃ approvals, db' = { db with approvals := approvals } := by
  obtain ⟨old, s₁, hget, h₁⟩ := bind_ok h
  have hs₁ : s₁ = db := by
    unfold getApproval at hget
    split at hget <;> simp_all
  obtain ⟨_, s₂, hresolved, h₂⟩ := bind_ok h₁
  obtain ⟨-, rfl⟩ := raiseIf_ok hresolved
  obtain ⟨_, s₃, himmutable, h₃⟩ := bind_ok h₂
  obtain ⟨-, rfl⟩ := raiseIf_ok himmutable
  split at h₃
  · simp at h₃
  · simp only [Prod.mk.injEq, true_and] at h₃
    exact ⟨_, by rw [← h₃, hs₁]⟩

theorem saveCheckpoint_ok {c : SimulationCheckpoint} {db db' : SqliteDatabase}
    (h : saveCheckpoint c db = (.ok (), db')) :
    (∀ latest ∈ (checkpointRows db c.metadata.taskId).getLast?,
      latest.metadata.runtimeSequence < c.metadata.runtimeSequence) ∧
      db' = { db with simulationCheckpoints := db.simulationCheckpoints ++ [CheckpointRow.values c] } := by
  simp only [saveCheckpoint] at h
  split at h
  · simp at h
  split at h
  · simp at h
  split at h
  · simp at h
  split at h
  · simp at h
  rename_i _ hl _ _
  simp only [Prod.mk.injEq, true_and] at h
  refine ⟨fun latest hm => ?_, h.symm⟩
  simp only [CheckpointRow.values, Option.mem_def] at hl hm
  simpa [hm] using hl

theorem insertEvents_ok : ∀ {rs : List EventRecord} {db db' : SqliteDatabase},
    insertEvents rs db = (.ok (), db') → db' = { db with events := db.events ++ rs.map EventRow.values }
  | [], db, db', h => by
    simp only [insertEvents, pure, Prod.mk.injEq, true_and] at h
    simp [← h]
  | r :: rs, db, db', h => by
    obtain ⟨_, db₁, hr, hrest⟩ := bind_ok h
    simp only [insertEvent] at hr
    split at hr
    · simp at hr
    split at hr
    · simp at hr
    simp only [Prod.mk.injEq, true_and] at hr
    rw [insertEvents_ok hrest, ← hr]
    simp

/-- The records of one task pass the checks exactly when they are numbered from the
expected sequence on. -/
theorem checkAppend_ok {db : SqliteDatabase} {id : UUID} :
    ∀ {rs : List EventRecord} {expectedByTask : Assoc UUID Nat} {pending : List UUID},
      (∀ r ∈ rs, r.event.taskId = id) → checkAppend db expectedByTask pending rs = .ok () →
      rs.map (·.event.sequence) = List.range' ((expectedByTask.get id).getD (nextSequence db id)) rs.length
  | [], _, _, _, _ => rfl
  | r :: rs, expectedByTask, pending, hid, h => by
    have hr : r.event.taskId = id := hid r (by simp)
    simp only [checkAppend, hr] at h
    split at h
    · simp at h
    split at h
    · simp at h
    rename_i _ hseq
    have ih := checkAppend_ok (fun r' h' => hid r' (List.mem_cons_of_mem _ h')) h
    simp only [Assoc.get_set_self, Option.getD_some] at ih
    simp only [List.map_cons, List.length_cons, List.range'_succ, ih]
    simpa using hseq

/-! ## The laws -/

open UnitOfWork

theorem taskOf_eq (db : SqliteDatabase) (id : UUID) :
    taskOf db id = (db.tasks.find? (·.id = id)).map TaskRow.record := by
  simp only [taskOf, UnitOfWork.getTask, getTask]
  cases db.tasks.find? (·.id = id) <;> rfl

theorem sameTasks_of_eq {db db' : SqliteDatabase} (h : db'.tasks = db.tasks) : SameTasks db db' :=
  ⟨fun id => by simp [taskOf_eq, h]⟩

theorem sameEvents_of_eq {db db' : SqliteDatabase} (h : db'.events = db.events) : SameEvents db db' :=
  ⟨fun id => by simp [UnitOfWork.listEvents, listEvents, eventRows, h]⟩

theorem sameCheckpoints_of_eq {db db' : SqliteDatabase} (h : db'.simulationCheckpoints = db.simulationCheckpoints) :
    SameCheckpoints db db' :=
  ⟨fun id => by simp [checkpointSequences, UnitOfWork.listCheckpoints, listCheckpoints, checkpointRows, h]⟩

theorem eventSequences_eq (db : SqliteDatabase) (id : UUID) :
    eventSequences db id = (eventRows db id).map (·.sequence) := by
  simp only [eventSequences, UnitOfWork.listEvents, listEvents, List.map_map]
  rfl

theorem checkpointSequences_eq (db : SqliteDatabase) (id : UUID) :
    checkpointSequences db id = (checkpointRows db id).map (·.metadata.runtimeSequence) := by
  simp only [checkpointSequences, UnitOfWork.listCheckpoints, listCheckpoints, List.map_map]
  rfl

/-- Rows of a task appended behind its journal come out behind it; another task's do not. -/
theorem eventRows_append {db : SqliteDatabase} {id : UUID} {rows : List EventRow}
    (hid : ∀ r ∈ rows, r.taskId = id) (hs : (rows.map (·.sequence)).Pairwise (· ≤ ·))
    (hle : ∀ a ∈ eventRows db id, ∀ b ∈ rows, a.sequence ≤ b.sequence) (id' : UUID) :
    eventRows { db with events := db.events ++ rows } id' =
      if id = id' then eventRows db id ++ rows else eventRows db id' := by
  by_cases h : id = id'
  · subst h
    have hf : rows.filter (·.taskId = id) = rows := List.filter_eq_self.2 fun r hr => by simp [hid r hr]
    simp only [eventRows, List.filter_append, hf, if_true]
    refine insertionSort_append _ (by simpa [List.pairwise_map] using hs) fun a ha b hb => ?_
    exact hle a (by simpa [eventRows] using ha) b hb
  · have hf : rows.filter (·.taskId = id') = [] := List.filter_eq_nil_iff.2 fun r hr => by simp [hid r hr, h]
    simp [eventRows, hf, h]

theorem checkpointRows_append {db : SqliteDatabase} {row : CheckpointRow}
    (hle : ∀ a ∈ checkpointRows db row.metadata.taskId, a.metadata.runtimeSequence ≤ row.metadata.runtimeSequence)
    (id : UUID) :
    checkpointRows { db with simulationCheckpoints := db.simulationCheckpoints ++ [row] } id =
      if row.metadata.taskId = id then checkpointRows db id ++ [row] else checkpointRows db id := by
  by_cases h : row.metadata.taskId = id
  · subst h
    simp only [checkpointRows, List.filter_append, List.filter_cons, decide_true, if_true, List.filter_nil]
    refine insertionSort_append (fun r : CheckpointRow => r.metadata.runtimeSequence) (by simp) fun a ha b hb => ?_
    obtain rfl := List.mem_singleton.1 hb
    exact hle a (by simpa [checkpointRows] using ha)
  · simp [checkpointRows, List.filter_append, h]

/-- The next sequence a numbered journal expects. -/
theorem nextSequence_of_numbered {db : SqliteDatabase} {id : UUID}
    (h : eventSequences db id = List.range' 1 (listEvents db id).length) :
    nextSequence db id = (listEvents db id).length + 1 := by
  rw [eventSequences_eq] at h
  unfold nextSequence
  have hlen : (listEvents db id).length = (eventRows db id).length := by simp [listEvents]
  rw [hlen] at h ⊢
  rcases List.eq_nil_or_concat (eventRows db id) with hnil | ⟨init, last, hl⟩
  · simp [hnil]
  · rw [hl] at h ⊢
    simp only [List.concat_eq_append, List.map_append, List.map_cons, List.map_nil, List.length_append,
      List.length_cons, List.length_nil, Nat.zero_add, List.range'_concat, Nat.one_mul] at h
    have := (List.append_inj_right' h (by simp))
    simp only [List.cons.injEq, and_true] at this
    simp [this, Nat.add_comm]

theorem json_pyEq (d : Dict) : Dict.pyEq (json d) d = true := JsonValue.pyEq_sortKeys (.dict d)

instance : LawfulUnitOfWork SqliteDatabase where
  stored r := EventRow.record (EventRow.values r)
  stored_sequence _ := rfl
  stored_payload r := json_pyEq r.event.payload
  stored_other _ := rfl
  empty_tasks _ := rfl
  empty_events _ := rfl
  empty_checkpoints _ := rfl
  createTask_ok {r s s'} h := by
    obtain ⟨hnone, rfl⟩ := createTask_ok h
    refine ⟨by simp [taskOf_eq, hnone], fun id => ?_, sameEvents_of_eq rfl, sameCheckpoints_of_eq rfl⟩
    simp only [taskOf_eq, List.find?_append]
    by_cases hid : r.task.id = id
    · subst hid
      simp [hnone, TaskRow.values, TaskRow.record]
    · cases hf : s.tasks.find? (·.id = id) <;> simp [hid, TaskRow.values]
  updateTask_ok {r s s'} h := by
    obtain ⟨old, hold, hle, -, rfl⟩ := updateTask_ok h
    refine ⟨⟨old, by simpa [taskOf_eq] using hold, hle⟩, fun id => ?_, sameEvents_of_eq rfl,
      sameCheckpoints_of_eq rfl⟩
    have hkeep : ((fun row : TaskRow => decide (row.id = id)) ∘ fun row =>
        if row.id = r.task.id then TaskRow.values r else row) = fun row => decide (row.id = id) := by
      funext row
      simp only [Function.comp]
      split
      · rename_i hrow; rw [hrow]; rfl
      · rfl
    simp only [taskOf_eq, List.find?_map, hkeep]
    cases hf : s.tasks.find? (·.id = id) with
    | none =>
      by_cases hid : r.task.id = id
      · simp [hid ▸ hf] at hold
      · simp [hid]
    | some row =>
      have hrow : row.id = id := by simpa using List.find?_some hf
      by_cases hid : r.task.id = id
      · simp [hid, hrow]
      · simp [hid, hrow, Ne.symm hid]
  appendEvents_ok {id rs s s'} hid hnum h := by
    simp only [UnitOfWork.appendEvents, appendMany] at h
    split at h
    · simp at h
    rename_i hc
    obtain rfl := insertEvents_ok h
    have hseq := checkAppend_ok hid hc
    rw [Assoc.get_nil, Option.getD_none, nextSequence_of_numbered hnum] at hseq
    refine ⟨hseq, fun id' => ?_, sameTasks_of_eq rfl, sameCheckpoints_of_eq rfl⟩
    have hrows : ((rs.map EventRow.values).map (·.sequence)) = rs.map (·.event.sequence) := by
      simp [List.map_map, Function.comp_def, EventRow.values]
    have hrowIds : ∀ r ∈ rs.map EventRow.values, r.taskId = id := by simpa [EventRow.values] using hid
    have happ := @eventRows_append s _ _ hrowIds (by rw [hrows, hseq]; exact List.pairwise_le_range') ?_ id'
    · simp only [UnitOfWork.listEvents, listEvents, happ]
      split
      · rename_i he; simp [List.map_map, Function.comp_def]
      · rfl
    · intro a ha b hb
      have ha' : a.sequence ∈ eventSequences s id := by
        rw [eventSequences_eq]; exact List.mem_map_of_mem ha
      have hb' : b.sequence ∈ rs.map (·.event.sequence) := by
        rw [← hrows]; exact List.mem_map_of_mem hb
      rw [hnum, List.mem_range'_1] at ha'
      rw [hseq, List.mem_range'_1] at hb'
      have : (UnitOfWork.listEvents s id).length = (listEvents s id).length := rfl
      omega
  createApproval_ok h := by
    obtain rfl := createApproval_ok h
    exact ⟨sameTasks_of_eq rfl, sameEvents_of_eq rfl, sameCheckpoints_of_eq rfl⟩
  updateApproval_ok h := by
    obtain ⟨approvals, rfl⟩ := updateApproval_ok h
    exact ⟨sameTasks_of_eq rfl, sameEvents_of_eq rfl, sameCheckpoints_of_eq rfl⟩
  saveCheckpoint_ok {c s s'} hp h := by
    obtain ⟨hlast, rfl⟩ := saveCheckpoint_ok h
    have hlt : ∀ n ∈ checkpointSequences s c.metadata.taskId, n < c.metadata.runtimeSequence := by
      refine lt_of_lt_getLast hp fun m hm => ?_
      rw [checkpointSequences_eq, List.getLast?_map, Option.mem_def, Option.map_eq_some_iff] at hm
      obtain ⟨row, hrow, rfl⟩ := hm
      exact hlast row hrow
    refine ⟨hlt, fun id => ?_, sameTasks_of_eq rfl, sameEvents_of_eq rfl⟩
    rw [checkpointSequences_eq, checkpointRows_append, checkpointSequences_eq]
    · have hc : (CheckpointRow.values c).metadata = c.metadata := rfl
      rw [hc]
      split <;> simp [hc]
    · intro a ha
      refine le_of_lt (hlt _ ?_)
      rw [checkpointSequences_eq]
      exact List.mem_map_of_mem ha

end Sqlite

end SimPilot
