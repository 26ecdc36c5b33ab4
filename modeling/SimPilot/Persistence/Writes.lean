import SimPilot.Persistence.InMemory
import SimPilot.Persistence.Sqlite
/-!
# The two stores side by side

Every write call runs in a unit of work of its own against both stores. `Agree` ties the
rows of the tables to the records of the dictionaries; while it holds, both stores answer
every read alike and accept the same writes, two kinds of call apart:

| call | in memory | SQLite |
|---|---|---|
| `approvals.update` with another task, another action | accepted (in_memory.py:160-167) | `StaleUpdateError` (repositories.py:302-308) |
| a call with an integer from `2 ^ 63` on | accepted | sqlite3 cannot bind it: `OverflowError` |

`Admissible` is what the rules of persistence/repositories.py admit, as a condition on the
records that are stored.
-/

namespace SimPilot
open Transaction

/-- One write call. -/
inductive Write where
  | createTask (record : TaskRecord)
  | updateTask (record : TaskRecord)
  | appendMany (records : List EventRecord)
  | createApproval (record : ApprovalRecord)
  | updateApproval (record : ApprovalRecord)
  | saveCheckpoint (checkpoint : SimulationCheckpoint)

namespace Write

def call {σ : Type} [UnitOfWork σ] : Write → Transaction σ Unit
  | createTask record => UnitOfWork.createTask record
  | updateTask record => UnitOfWork.updateTask record
  | appendMany records => UnitOfWork.appendEvents records
  | createApproval record => UnitOfWork.createApproval record
  | updateApproval record => UnitOfWork.updateApproval record
  | saveCheckpoint checkpoint => UnitOfWork.saveCheckpoint checkpoint

/-- What the call binds to `Integer` columns (`_values` of its repository). -/
def integers : Write → List Nat
  | createTask record | updateTask record => [record.task.sequence]
  | appendMany records => records.map (·.event.sequence)
  | createApproval _ | updateApproval _ => []
  | saveCheckpoint checkpoint =>
    [checkpoint.metadata.runtimeSequence, checkpoint.metadata.simulationTick,
      checkpoint.metadata.simulationSchemaVersion, checkpoint.metadata.adapterSchemaVersion,
      checkpoint.metadata.adapterObservationSequence]

/-- sqlite3 binds an integer as 64 bits with sign. -/
def Binds (w : Write) : Prop := ∀ n ∈ w.integers, n < 2 ^ 63

instance : DecidablePred Binds := fun _ => inferInstanceAs (Decidable (∀ n ∈ _, _))

/-- The call in a unit of work over the in-memory state. -/
def inMemory (w : Write) (s : InMemoryPersistenceState) : Except PersistenceError Unit × InMemoryPersistenceState :=
  UnitOfWork.run w.call s

/-- The statement a call ends with, raising when an integer does not bind. SQLAlchemy lets
the `OverflowError` through; the unit of work rolls back all the same. -/
def bound (w : Write) : Transaction SqliteDatabase Unit := do
  w.call
  raiseIf (¬ w.Binds) (.transaction "Python int too large to convert to SQLite INTEGER")

/-- The call in a unit of work over the database. -/
def sqlite (w : Write) (db : SqliteDatabase) : Except PersistenceError Unit × SqliteDatabase :=
  UnitOfWork.run w.bound db

end Write

/-- The call returned. -/
def accepted {α : Type} : Except PersistenceError α → Bool
  | .ok _ => true
  | .error _ => false

theorem accepted_eq_false {σ : Type} {x : Except PersistenceError Unit × σ} (h : ∀ s', x ≠ (.ok (), s')) :
    accepted x.1 = false := by
  match x, h with
  | (.ok (), s'), h => exact absurd rfl (h s')
  | (.error _, _), _ => rfl

theorem accepted_run {σ : Type} (body : Transaction σ Unit) (s : σ) :
    accepted (UnitOfWork.run body s).1 = accepted (body s).1 := by
  unfold UnitOfWork.run
  split <;> simp_all [accepted]

theorem run_rejected {σ : Type} {body : Transaction σ Unit} {s : σ}
    (h : accepted (UnitOfWork.run body s).1 = false) : (UnitOfWork.run body s).2 = s := by
  match hr : UnitOfWork.run body s with
  | (.ok (), _) => rw [hr] at h; simp [accepted] at h
  | (.error _, _) => exact UnitOfWork.run_error hr

/-! ## Reads -/

/-- `left == right` on event records: the order of the payload's keys does not count. -/
def EventRecord.pyEq (left right : EventRecord) : Bool :=
  left.id = right.id && left.event.taskId = right.event.taskId && left.event.sequence = right.event.sequence
    && left.event.eventType = right.event.eventType && left.event.timestamp = right.event.timestamp
    && Dict.pyEq left.event.payload right.event.payload

/-- `left == right` on checkpoints. -/
def SimulationCheckpoint.pyEq (left right : SimulationCheckpoint) : Bool :=
  left.metadata = right.metadata && Dict.pyEq left.state right.state

/-- Both reads return equal records, or both raise the same. -/
def SameAnswer {α : Type} (eq : α → α → Bool) :
    Except PersistenceError α → Except PersistenceError α → Prop
  | .ok a, .ok b => eq a b = true
  | .error e, .error e' => e = e'
  | _, _ => False

/-- Every `get`, `latest` and lookup by sequence answers alike. -/
structure SameReads (s : InMemoryPersistenceState) (db : SqliteDatabase) : Prop where
  task : ∀ id, (Sqlite.getTask id db).1 = (InMemory.getTask id s).1
  approval : ∀ id, (Sqlite.getApproval id db).1 = (InMemory.getApproval id s).1
  latestEvent : ∀ id, Option.Rel (fun a b => EventRecord.pyEq a b = true)
    (Sqlite.latestEvent db id) (InMemory.latestEvent s id)
  eventBySequence : ∀ id n, SameAnswer EventRecord.pyEq
    (Sqlite.getEventBySequence db id n) (InMemory.getEventBySequence s id n)
  latestCheckpoint : ∀ id, Option.Rel (fun a b => SimulationCheckpoint.pyEq a b = true)
    (Sqlite.latestCheckpoint db id) (InMemory.latestCheckpoint s id)
  checkpointBySequence : ∀ id n, SameAnswer SimulationCheckpoint.pyEq
    (Sqlite.getByRuntimeSequence db id n) (InMemory.getByRuntimeSequence s id n)

/-- From two stores on, every call is accepted by both or rejected by both, and the reads
in between and after the last call answer alike. -/
def Indistinguishable (s : InMemoryPersistenceState) (db : SqliteDatabase) : List Write → Prop
  | [] => SameReads s db
  | w :: ws => SameReads s db ∧ accepted (w.sqlite db).1 = accepted (w.inMemory s).1 ∧
      Indistinguishable (w.inMemory s).2 (w.sqlite db).2 ws

/-! ## What the rules admit -/

open InMemory

/-- Each record goes to a stored task, under a new identifier and the next sequence. -/
def Appendable (s : InMemoryPersistenceState) : List EventRecord → Prop
  | [] => True
  | r :: rs => s.tasks.contains r.event.taskId ∧ (∀ id, ∀ stored ∈ stream s id, stored.id ≠ r.id) ∧
      r.event.sequence = (stream s r.event.taskId).length + 1 ∧ Appendable (push s r) rs

/-- A call the rules of the repositories admit over what is stored. -/
def Admissible (s : InMemoryPersistenceState) : Write → Prop
  | .createTask r => s.tasks.contains r.task.id = false
  | .updateTask r => ∃ current, s.tasks.get r.task.id = some current ∧
      current.task.sequence ≤ r.task.sequence ∧ current.task.updatedAt ≤ r.task.updatedAt
  | .appendMany rs => Appendable s rs
  | .createApproval r => s.tasks.contains r.approval.taskId ∧ s.approvals.contains r.approval.id = false ∧
      (r.approval.status = .pending → duplicatePending s r.approval = false)
  | .updateApproval r => ∃ current, s.approvals.get r.approval.id = some current ∧
      current.approval.status = .pending ∧ r.approval.createdAt = current.approval.createdAt
  | .saveCheckpoint c => c.metadata.simulationSchemaVersion = 1 ∧ s.tasks.contains c.metadata.taskId ∧
      (∀ latest ∈ (checkpointStream s c.metadata.taskId).getLast?,
        latest.metadata.runtimeSequence < c.metadata.runtimeSequence) ∧
      ∀ id, ∀ stored ∈ checkpointStream s id, stored.metadata.id ≠ c.metadata.id

/-- The update keeps the task and the action of the stored approval and, left pending, has
the action of no other pending approval of its task. -/
def KeepsRequest (s : InMemoryPersistenceState) (r : ApprovalRecord) : Prop :=
  ∀ current, s.approvals.get r.approval.id = some current →
    r.approval.taskId = current.approval.taskId ∧ r.approval.action.pyEq current.approval.action = true ∧
    (r.approval.status = .pending → ∀ other ∈ s.approvals.values, other.approval.id ≠ r.approval.id →
      other.approval.status = .pending → other.approval.taskId = r.approval.taskId →
      other.approval.action ≠ r.approval.action)

/-- What SQLite asks of a call beyond the rules. -/
def Keeps (s : InMemoryPersistenceState) : Write → Prop
  | .updateApproval r => KeepsRequest s r
  | _ => True

/-- Where the rules admit the call, SQLite takes it as well. -/
def Portable (s : InMemoryPersistenceState) (w : Write) : Prop := Admissible s w → Keeps s w ∧ w.Binds

/-- Every call of the run is portable over what the calls before it stored. -/
def AllPortable (s : InMemoryPersistenceState) : List Write → Prop
  | [] => True
  | w :: ws => Portable s w ∧ AllPortable (w.inMemory s).2 ws

end SimPilot
