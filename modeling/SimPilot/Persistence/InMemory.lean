import SimPilot.Persistence.UnitOfWork
/-!
# The in-memory store (persistence/in_memory.py)

`deepcopy` on `begin` and `replace_with` on `rollback` are `UnitOfWork.run`; the
repositories below change the shared state in place.
-/

namespace SimPilot

/-- `InMemoryPersistenceState`. -/
structure InMemoryPersistenceState where
  tasks : Assoc UUID TaskRecord := []
  events : Assoc UUID (List EventRecord) := []
  approvals : Assoc UUID ApprovalRecord := []
  checkpoints : Assoc UUID (List SimulationCheckpoint) := []
  deriving DecidableEq, Repr

namespace InMemory
open Transaction

/-- `self._state.events.get(task_id, [])`. -/
def stream (s : InMemoryPersistenceState) (id : UUID) : List EventRecord := (s.events.get id).getD []

/-- `self._state.checkpoints.get(task_id, [])`. -/
def checkpointStream (s : InMemoryPersistenceState) (id : UUID) : List SimulationCheckpoint :=
  (s.checkpoints.get id).getD []

/-! ## Tasks (in_memory.py:47-82) -/

def createTask (record : TaskRecord) : Transaction InMemoryPersistenceState Unit := fun s =>
  if s.tasks.contains record.task.id then
    (.error (.duplicateRecord s!"task {record.task.id.text} already exists"), s)
  else (.ok (), { s with tasks := s.tasks.set record.task.id record })

def getTask (id : UUID) : Transaction InMemoryPersistenceState TaskRecord := fun s =>
  match s.tasks.get id with
  | some record => (.ok record, s)
  | none => (.error (.recordNotFound s!"task {id.text} was not found"), s)

def updateTask (record : TaskRecord) : Transaction InMemoryPersistenceState Unit := do
  let current ← getTask record.task.id
  raiseIf (record.task.sequence < current.task.sequence ∨ record.task.updatedAt < current.task.updatedAt)
    (.staleUpdate s!"task {record.task.id.text} update is stale")
  modify fun s => { s with tasks := s.tasks.set record.task.id record }

/-! ## Events (in_memory.py:85-125) -/

/-- The first loop of `append_many`: the checks, made before anything is appended. -/
def checkAppend (s : InMemoryPersistenceState) (identifiers : List UUID) :
    Assoc UUID Nat → List UUID → List EventRecord → Except PersistenceError Unit
  | _, _, [] => .ok ()
  | expectedByTask, pendingIdentifiers, record :: records =>
    let id := record.event.taskId
    let expected := (expectedByTask.get id).getD ((stream s id).length + 1)
    if ¬ s.tasks.contains id then .error (.recordNotFound s!"task {id.text} was not found")
    else if record.id ∈ identifiers ∨ record.id ∈ pendingIdentifiers then
      .error (.duplicateRecord s!"event {record.id.text} already exists")
    else if record.event.sequence ≠ expected then
      .error (.sequenceConflict s!"expected event sequence {expected}, received {record.event.sequence}")
    else checkAppend s identifiers (expectedByTask.set id (expected + 1)) (record.id :: pendingIdentifiers) records

/-- `self._state.events.setdefault(task_id, []).append(record)`. -/
def push (s : InMemoryPersistenceState) (record : EventRecord) : InMemoryPersistenceState :=
  { s with events := s.events.set record.event.taskId (stream s record.event.taskId ++ [record]) }

def appendMany (records : List EventRecord) : Transaction InMemoryPersistenceState Unit := fun s =>
  match checkAppend s (s.events.values.flatten.map (·.id)) [] [] records with
  | .error e => (.error e, s)
  | .ok () => (.ok (), records.foldl push s)

/-- `events.latest`. -/
def latestEvent (s : InMemoryPersistenceState) (id : UUID) : Option EventRecord := (stream s id).getLast?

/-- `events.get_by_sequence`. -/
def getEventBySequence (s : InMemoryPersistenceState) (id : UUID) (sequence : Int) :
    Except PersistenceError EventRecord :=
  if h : sequence < 1 ∨ (stream s id).length < sequence then
    .error (.recordNotFound s!"event {id.text}/{sequence} was not found")
  else .ok ((stream s id).get ⟨(sequence - 1).toNat, by omega⟩)

/-! ## Approvals (in_memory.py:128-185) -/

/-- A pending approval of the same task for an action that dumps to the same document. -/
def duplicatePending (s : InMemoryPersistenceState) (approval : ApprovalRequest) : Bool :=
  s.approvals.values.any fun existing =>
    existing.approval.taskId = approval.taskId && existing.approval.status = .pending
      && existing.approval.action = approval.action

def createApproval (record : ApprovalRecord) : Transaction InMemoryPersistenceState Unit := fun s =>
  let approval := record.approval
  if ¬ s.tasks.contains approval.taskId then
    (.error (.recordNotFound s!"task {approval.taskId.text} was not found"), s)
  else if s.approvals.contains approval.id then
    (.error (.duplicateRecord s!"approval {approval.id.text} already exists"), s)
  else if approval.status = .pending ∧ duplicatePending s approval then
    (.error (.duplicateRecord "a pending approval already exists for this action"), s)
  else (.ok (), { s with approvals := s.approvals.set approval.id record })

def getApproval (id : UUID) : Transaction InMemoryPersistenceState ApprovalRecord := fun s =>
  match s.approvals.get id with
  | some record => (.ok record, s)
  | none => (.error (.recordNotFound s!"approval {id.text} was not found"), s)

def updateApproval (record : ApprovalRecord) : Transaction InMemoryPersistenceState Unit := do
  let current ← getApproval record.approval.id
  raiseIf (current.approval.status ≠ .pending)
    (.staleUpdate s!"approval {record.approval.id.text} is already resolved")
  raiseIf (record.approval.createdAt ≠ current.approval.createdAt)
    (.staleUpdate s!"approval {record.approval.id.text} creation data is immutable")
  modify fun s => { s with approvals := s.approvals.set record.approval.id record }

/-- `key=lambda record: (record.approval.created_at, str(record.approval.id))`. -/
def approvalKey (a b : ApprovalRecord) : Prop :=
  a.approval.createdAt < b.approval.createdAt ∨
    a.approval.createdAt = b.approval.createdAt ∧ a.approval.id.text ≤ b.approval.id.text

instance : DecidableRel approvalKey := fun _ _ => inferInstanceAs (Decidable (_ ∨ _))

def listApprovals (s : InMemoryPersistenceState) (id : UUID) : List ApprovalRecord :=
  (s.approvals.values.filter (·.approval.taskId = id)).insertionSort approvalKey

/-! ## Checkpoints (in_memory.py:188-226) -/

/-- `save`: `setdefault` leaves an empty stream behind when a later check raises. -/
def saveCheckpoint (checkpoint : SimulationCheckpoint) : Transaction InMemoryPersistenceState Unit := fun s =>
  let id := checkpoint.metadata.taskId
  let latest := (checkpointStream s id).getLast?
  if checkpoint.metadata.simulationSchemaVersion ≠ 1 then
    (.error (.unsupportedSchemaVersion "simulation checkpoint schema version is unsupported"), s)
  else if ¬ s.tasks.contains id then
    (.error (.recordNotFound s!"task {id.text} was not found"), s)
  else
    let s := { s with checkpoints := s.checkpoints.set id (checkpointStream s id) }
    if latest.any fun c => checkpoint.metadata.runtimeSequence ≤ c.metadata.runtimeSequence then
      (.error (.staleUpdate s!"checkpoint sequence {checkpoint.metadata.runtimeSequence} is not newer"), s)
    else if s.checkpoints.values.flatten.any fun c => c.metadata.id = checkpoint.metadata.id then
      (.error (.duplicateRecord s!"checkpoint {checkpoint.metadata.id.text} already exists"), s)
    else (.ok (), { s with checkpoints := s.checkpoints.set id (checkpointStream s id ++ [checkpoint]) })

/-- `simulations.latest`. -/
def latestCheckpoint (s : InMemoryPersistenceState) (id : UUID) : Option SimulationCheckpoint :=
  (checkpointStream s id).getLast?

/-- `simulations.get_by_runtime_sequence`. -/
def getByRuntimeSequence (s : InMemoryPersistenceState) (id : UUID) (runtimeSequence : Int) :
    Except PersistenceError SimulationCheckpoint :=
  match (checkpointStream s id).find? fun c => (c.metadata.runtimeSequence : Int) = runtimeSequence with
  | some checkpoint => .ok checkpoint
  | none => .error (.recordNotFound s!"checkpoint {id.text}/{runtimeSequence} was not found")

instance : UnitOfWork InMemoryPersistenceState where
  empty := {}
  createTask := createTask
  getTask := getTask
  updateTask := updateTask
  appendEvents := appendMany
  listEvents := stream
  createApproval := createApproval
  updateApproval := updateApproval
  saveCheckpoint := saveCheckpoint
  listCheckpoints := checkpointStream

/-! ## What a call that returned did -/

theorem getTask_ok {id : UUID} {r : TaskRecord} {s s' : InMemoryPersistenceState}
    (h : getTask id s = (.ok r, s')) : s.tasks.get id = some r ∧ s' = s := by
  unfold getTask at h
  split at h <;> simp_all

theorem createTask_ok {r : TaskRecord} {s s' : InMemoryPersistenceState} (h : createTask r s = (.ok (), s')) :
    s.tasks.get r.task.id = none ∧ s' = { s with tasks := s.tasks.set r.task.id r } := by
  unfold createTask at h
  split at h
  · simp at h
  · rename_i hc
    simp only [Prod.mk.injEq, true_and] at h
    exact ⟨by simpa [Assoc.contains] using hc, h.symm⟩

theorem updateTask_ok {r : TaskRecord} {s s' : InMemoryPersistenceState} (h : updateTask r s = (.ok (), s')) :
    ∃ old, s.tasks.get r.task.id = some old ∧ old.task.sequence ≤ r.task.sequence ∧
      old.task.updatedAt ≤ r.task.updatedAt ∧ s' = { s with tasks := s.tasks.set r.task.id r } := by
  obtain ⟨old, s₁, hget, h₁⟩ := bind_ok h
  obtain ⟨hold, rfl⟩ := getTask_ok hget
  obtain ⟨_, s₂, hstale, h₂⟩ := bind_ok h₁
  obtain ⟨hc, rfl⟩ := raiseIf_ok hstale
  rw [not_or, not_lt, not_lt] at hc
  exact ⟨old, hold, hc.1, hc.2, modify_ok h₂⟩

theorem createApproval_ok {r : ApprovalRecord} {s s' : InMemoryPersistenceState}
    (h : createApproval r s = (.ok (), s')) :
    s.approvals.get r.approval.id = none ∧ (r.approval.status = .pending → duplicatePending s r.approval = false) ∧
      s' = { s with approvals := s.approvals.set r.approval.id r } := by
  simp only [createApproval] at h
  split at h
  · simp at h
  split at h
  · simp at h
  split at h
  · simp at h
  rename_i _ hc hd
  simp only [Prod.mk.injEq, true_and] at h
  exact ⟨by simpa [Assoc.contains] using hc, by simpa using hd, h.symm⟩

theorem getApproval_ok {id : UUID} {r : ApprovalRecord} {s s' : InMemoryPersistenceState}
    (h : getApproval id s = (.ok r, s')) : s.approvals.get id = some r ∧ s' = s := by
  unfold getApproval at h
  split at h <;> simp_all

theorem updateApproval_ok {r : ApprovalRecord} {s s' : InMemoryPersistenceState}
    (h : updateApproval r s = (.ok (), s')) :
    ∃ old, s.approvals.get r.approval.id = some old ∧ old.approval.status = .pending ∧
      old.approval.createdAt = r.approval.createdAt ∧
      s' = { s with approvals := s.approvals.set r.approval.id r } := by
  obtain ⟨old, s₁, hget, h₁⟩ := bind_ok h
  obtain ⟨hold, rfl⟩ := getApproval_ok hget
  obtain ⟨_, s₂, hresolved, h₂⟩ := bind_ok h₁
  obtain ⟨hp, rfl⟩ := raiseIf_ok hresolved
  obtain ⟨_, s₃, hcreated, h₃⟩ := bind_ok h₂
  obtain ⟨hc, rfl⟩ := raiseIf_ok hcreated
  exact ⟨old, hold, not_not.1 hp, (not_not.1 hc).symm, modify_ok h₃⟩

theorem saveCheckpoint_ok {c : SimulationCheckpoint} {s s' : InMemoryPersistenceState}
    (h : saveCheckpoint c s = (.ok (), s')) :
    c.metadata.simulationSchemaVersion = 1 ∧
      (∀ c' ∈ (checkpointStream s c.metadata.taskId).getLast?,
        c'.metadata.runtimeSequence < c.metadata.runtimeSequence) ∧
      ∃ checkpoints, s' = { s with checkpoints := checkpoints } ∧
        (∀ id, checkpointStream s' id = if c.metadata.taskId = id then checkpointStream s id ++ [c]
          else checkpointStream s id) := by
  simp only [saveCheckpoint] at h
  split at h
  · simp at h
  split at h
  · simp at h
  split at h
  · simp at h
  split at h
  · simp at h
  rename_i hs _ hl _
  simp only [Prod.mk.injEq, true_and] at h
  subst h
  refine ⟨by simpa using hs, ?_, _, rfl, fun id => ?_⟩
  · intro c' hc'
    simp only [Option.mem_def] at hc'
    simpa [hc'] using hl
  · by_cases hid : c.metadata.taskId = id
    · subst hid; simp [checkpointStream]
    · simp [checkpointStream, Assoc.get_set, hid]

/-! ## Appending events -/

/-- The records of one task pass the checks exactly when they are numbered from the
expected sequence on. -/
theorem checkAppend_ok {s : InMemoryPersistenceState} {identifiers : List UUID} {id : UUID} :
    ∀ {rs : List EventRecord} {expectedByTask : Assoc UUID Nat} {pending : List UUID},
      (∀ r ∈ rs, r.event.taskId = id) → checkAppend s identifiers expectedByTask pending rs = .ok () →
      rs.map (·.event.sequence) =
        List.range' ((expectedByTask.get id).getD ((stream s id).length + 1)) rs.length
  | [], _, _, _, _ => rfl
  | r :: rs, expectedByTask, pending, hid, h => by
    have hr : r.event.taskId = id := hid r (by simp)
    simp only [checkAppend, hr] at h
    split at h
    · simp at h
    split at h
    · simp at h
    split at h
    · simp at h
    rename_i _ _ hseq
    have ih := checkAppend_ok (fun r' h' => hid r' (List.mem_cons_of_mem _ h')) h
    simp only [Assoc.get_set_self, Option.getD_some] at ih
    simp only [List.map_cons, List.length_cons, List.range'_succ, ih]
    simpa using hseq

@[simp] theorem push_tasks (s : InMemoryPersistenceState) (r : EventRecord) : (push s r).tasks = s.tasks := rfl
@[simp] theorem push_approvals (s : InMemoryPersistenceState) (r : EventRecord) :
    (push s r).approvals = s.approvals := rfl
@[simp] theorem push_checkpoints (s : InMemoryPersistenceState) (r : EventRecord) :
    (push s r).checkpoints = s.checkpoints := rfl

theorem stream_push (s : InMemoryPersistenceState) (r : EventRecord) (id : UUID) :
    stream (push s r) id = if r.event.taskId = id then stream s id ++ [r] else stream s id := by
  by_cases h : r.event.taskId = id
  · subst h; simp [stream, push]
  · simp [stream, push, Assoc.get_set, h]

/-- Appending the records of one task extends its stream by them and touches nothing else. -/
theorem foldl_push {id : UUID} :
    ∀ (rs : List EventRecord) (s : InMemoryPersistenceState), (∀ r ∈ rs, r.event.taskId = id) →
      (rs.foldl push s).tasks = s.tasks ∧ (rs.foldl push s).approvals = s.approvals ∧
      (rs.foldl push s).checkpoints = s.checkpoints ∧
      ∀ id', stream (rs.foldl push s) id' = if id = id' then stream s id ++ rs else stream s id'
  | [], s, _ => by
    refine ⟨rfl, rfl, rfl, fun id' => ?_⟩
    split
    · simp_all
    · rfl
  | r :: rs, s, hid => by
    obtain ⟨ht, ha, hc, hst⟩ := foldl_push rs (push s r) (fun r' h' => hid r' (List.mem_cons_of_mem _ h'))
    have hr : r.event.taskId = id := hid r (by simp)
    refine ⟨ht, ha, hc, fun id' => ?_⟩
    rw [List.foldl_cons, hst id']
    by_cases h : id = id'
    · simp [h, stream_push, hr]
    · simp [h, stream_push, hr]

theorem appendMany_ok {id : UUID} {rs : List EventRecord} {s s' : InMemoryPersistenceState}
    (hid : ∀ r ∈ rs, r.event.taskId = id) (h : appendMany rs s = (.ok (), s')) :
    rs.map (·.event.sequence) = List.range' ((stream s id).length + 1) rs.length ∧
      s'.tasks = s.tasks ∧ s'.approvals = s.approvals ∧ s'.checkpoints = s.checkpoints ∧
      ∀ id', stream s' id' = if id = id' then stream s id ++ rs else stream s id' := by
  unfold appendMany at h
  split at h
  · simp at h
  · rename_i hc
    simp only [Prod.mk.injEq, true_and] at h
    subst h
    exact ⟨by simpa using checkAppend_ok hid hc, foldl_push rs s hid⟩

/-! ## The laws -/

open UnitOfWork

theorem taskOf_eq (s : InMemoryPersistenceState) (id : UUID) : taskOf s id = s.tasks.get id := by
  simp only [taskOf, UnitOfWork.getTask, getTask]
  cases s.tasks.get id <;> rfl

theorem sameTasks_of_eq {s s' : InMemoryPersistenceState} (h : s'.tasks = s.tasks) : SameTasks s s' :=
  ⟨fun id => by simp [taskOf_eq, h]⟩

theorem sameEvents_of_eq {s s' : InMemoryPersistenceState} (h : s'.events = s.events) : SameEvents s s' :=
  ⟨fun id => by simp [UnitOfWork.listEvents, stream, h]⟩

theorem sameCheckpoints_of_eq {s s' : InMemoryPersistenceState} (h : s'.checkpoints = s.checkpoints) :
    SameCheckpoints s s' :=
  ⟨fun id => by simp [checkpointSequences, UnitOfWork.listCheckpoints, checkpointStream, h]⟩

instance : LawfulUnitOfWork InMemoryPersistenceState where
  stored r := r
  stored_sequence _ := rfl
  stored_payload _ := Dict.pyEq_self _
  stored_other _ := rfl
  empty_tasks _ := rfl
  empty_events _ := rfl
  empty_checkpoints _ := rfl
  createTask_ok h := by
    obtain ⟨hnone, rfl⟩ := createTask_ok h
    refine ⟨by simpa [taskOf_eq] using hnone, fun id => ?_, sameEvents_of_eq rfl, sameCheckpoints_of_eq rfl⟩
    simp only [taskOf_eq, Assoc.get_set]
  updateTask_ok h := by
    obtain ⟨old, hold, hle, -, rfl⟩ := updateTask_ok h
    refine ⟨⟨old, by simpa [taskOf_eq] using hold, hle⟩, fun id => ?_, sameEvents_of_eq rfl,
      sameCheckpoints_of_eq rfl⟩
    simp only [taskOf_eq, Assoc.get_set]
  appendEvents_ok hid _ h := by
    obtain ⟨hseq, ht, -, hc, hst⟩ := appendMany_ok hid h
    exact ⟨hseq, fun id' => by simpa [UnitOfWork.listEvents] using hst id', sameTasks_of_eq ht,
      sameCheckpoints_of_eq hc⟩
  createApproval_ok h := by
    obtain ⟨-, -, rfl⟩ := createApproval_ok h
    exact ⟨sameTasks_of_eq rfl, sameEvents_of_eq rfl, sameCheckpoints_of_eq rfl⟩
  updateApproval_ok h := by
    obtain ⟨old, -, -, -, rfl⟩ := updateApproval_ok h
    exact ⟨sameTasks_of_eq rfl, sameEvents_of_eq rfl, sameCheckpoints_of_eq rfl⟩
  saveCheckpoint_ok {c s s'} hp h := by
    obtain ⟨-, hlast, cps, rfl, hst⟩ := saveCheckpoint_ok h
    refine ⟨lt_of_lt_getLast hp ?_, fun id => ?_, sameTasks_of_eq rfl, sameEvents_of_eq rfl⟩
    · intro m hm
      simp only [checkpointSequences, UnitOfWork.listCheckpoints, List.getLast?_map, Option.mem_def,
        Option.map_eq_some_iff] at hm
      obtain ⟨c', hc', rfl⟩ := hm
      exact hlast c' hc'
    · simp only [checkpointSequences, UnitOfWork.listCheckpoints, hst id]
      split <;> simp

end InMemory

end SimPilot
