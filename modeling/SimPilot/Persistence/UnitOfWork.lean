import SimPilot.Runtime.Errors
import SimPilot.Runtime.Models
/-!
# Repositories and the unit of work (persistence/repositories.py, persistence/unit_of_work.py)

A repository call runs inside a transaction: it reads and changes the state it works
on and may raise, leaving the change half made. `UnitOfWork.run` is the `with` block:
it commits what the body did or, when the body raised, restores the state of `begin`.

`LawfulUnitOfWork` is what the protocols of persistence/repositories.py promise and the
runtime relies on. `NoLostUpdate.lean` is proved from it; the in-memory and the SQLite
stores satisfy it.
-/

namespace SimPilot

/-- The last of a strictly increasing list bounds it. -/
theorem lt_of_lt_getLast {l : List Nat} {n : Nat} (hl : l.Pairwise (· < ·)) (h : ∀ m ∈ l.getLast?, m < n) :
    ∀ m ∈ l, m < n := by
  intro m hm
  rcases List.eq_nil_or_concat l with rfl | ⟨init, last, rfl⟩
  · simp at hm
  · have hlast : last < n := h last (by simp)
    simp only [List.concat_eq_append, List.pairwise_append, List.mem_singleton, forall_eq] at hl
    simp only [List.concat_eq_append, List.mem_append, List.mem_singleton] at hm
    rcases hm with hm | rfl
    · exact (hl.2.2 m hm).trans hlast
    · exact hlast

/-- A computation inside a transaction over `σ`. -/
def Transaction (σ α : Type) : Type := σ → Except PersistenceError α × σ

namespace Transaction
variable {σ α β : Type}

instance : Monad (Transaction σ) where
  pure a := fun s => (.ok a, s)
  bind m f := fun s => match m s with
    | (.ok a, s') => f a s'
    | (.error e, s') => (.error e, s')

/-- `if c: raise e`. -/
def raiseIf (c : Prop) [Decidable c] (e : PersistenceError) : Transaction σ Unit :=
  fun s => if c then (.error e, s) else (.ok (), s)

def modify (f : σ → σ) : Transaction σ Unit := fun s => (.ok (), f s)

theorem raiseIf_ok {c : Prop} [Decidable c] {e : PersistenceError} {s s' : σ} {u : Unit}
    (h : raiseIf c e s = (.ok u, s')) : ¬ c ∧ s' = s := by
  unfold raiseIf at h
  split at h <;> simp_all

theorem raiseIf_not {c : Prop} [Decidable c] {e : PersistenceError} {s : σ} (h : ¬ c) : raiseIf c e s = (.ok (), s) :=
  if_neg h

theorem modify_ok {f : σ → σ} {s s' : σ} {u : Unit} (h : modify f s = (.ok u, s')) : s' = f s := by
  simp only [modify, Prod.mk.injEq] at h
  exact h.2.symm

/-- A sequence that returned: both parts did. -/
theorem bind_ok {m : Transaction σ α} {f : α → Transaction σ β} {s s'' : σ} {b : β}
    (h : (m >>= f) s = (.ok b, s'')) : ∃ a s', m s = (.ok a, s') ∧ f a s' = (.ok b, s'') := by
  change (match m s with | (.ok a, s') => f a s' | (.error e, s') => (.error e, s')) = _ at h
  match hm : m s with
  | (.ok a, s') => rw [hm] at h; exact ⟨a, s', rfl, h⟩
  | (.error e, s') => rw [hm] at h; simp at h

/-- A sequence whose first part returns goes on with the second. -/
theorem bind_of_ok {m : Transaction σ α} {f : α → Transaction σ β} {s s' : σ} {a : α} (h : m s = (.ok a, s')) :
    (m >>= f) s = f a s' := by
  change (match m s with | (.ok a, s') => f a s' | (.error e, s') => (.error e, s')) = _
  rw [h]

end Transaction

/-- The four repositories over one state. -/
class UnitOfWork (σ : Type) where
  /-- The store before anything was written. -/
  empty : σ
  createTask : TaskRecord → Transaction σ Unit
  getTask : UUID → Transaction σ TaskRecord
  updateTask : TaskRecord → Transaction σ Unit
  appendEvents : List EventRecord → Transaction σ Unit
  listEvents : σ → UUID → List EventRecord
  createApproval : ApprovalRecord → Transaction σ Unit
  updateApproval : ApprovalRecord → Transaction σ Unit
  saveCheckpoint : SimulationCheckpoint → Transaction σ Unit
  listCheckpoints : σ → UUID → List SimulationCheckpoint

/-- `with unit_of_work_factory() as uow: body`. -/
def UnitOfWork.run {σ α : Type} (body : Transaction σ α) (s : σ) : Except PersistenceError α × σ :=
  match body s with
  | (.ok a, s') => (.ok a, s')
  | (.error e, _) => (.error e, s)

/-- A transaction that raised left nothing behind. -/
theorem UnitOfWork.run_error {σ α : Type} {body : Transaction σ α} {s s' : σ} {e : PersistenceError}
    (h : run body s = (.error e, s')) : s' = s := by
  unfold run at h
  split at h <;> simp_all

theorem UnitOfWork.run_ok {σ α : Type} {body : Transaction σ α} {s s' : σ} {a : α}
    (h : run body s = (.ok a, s')) : body s = (.ok a, s') := by
  unfold run at h
  split at h <;> simp_all

theorem UnitOfWork.run_of_ok {σ α : Type} {body : Transaction σ α} {s s' : σ} {a : α}
    (h : body s = (.ok a, s')) : run body s = (.ok a, s') := by
  rw [run, h]

namespace UnitOfWork
variable {σ : Type} [UnitOfWork σ]

/-- The stored record of a task. -/
def taskOf (s : σ) (id : UUID) : Option TaskRecord := (getTask id s).1.toOption

/-- The sequences of a task's checkpoints, oldest first. -/
def checkpointSequences (s : σ) (id : UUID) : List Nat :=
  (listCheckpoints s id).map (·.metadata.runtimeSequence)

/-- The sequences of a task's events. -/
def eventSequences (s : σ) (id : UUID) : List Nat := (listEvents s id).map (·.event.sequence)

structure SameTasks (s s' : σ) : Prop where
  tasks : ∀ id, taskOf s' id = taskOf s id

structure SameEvents (s s' : σ) : Prop where
  events : ∀ id, listEvents s' id = listEvents s id

structure SameCheckpoints (s s' : σ) : Prop where
  checkpoints : ∀ id, checkpointSequences s' id = checkpointSequences s id

end UnitOfWork

open UnitOfWork in
/-- What the protocol docstrings promise of the four repositories. `stored` is the event
record a reader gets back: its payload went through JSON. -/
class LawfulUnitOfWork (σ : Type) extends UnitOfWork σ where
  stored : EventRecord → EventRecord
  stored_sequence : ∀ r, (stored r).event.sequence = r.event.sequence
  stored_payload : ∀ r, Dict.pyEq (stored r).event.payload r.event.payload = true
  stored_other : ∀ r, { stored r with event := { (stored r).event with payload := r.event.payload } } = r
  empty_tasks : ∀ id, taskOf (empty : σ) id = none
  empty_events : ∀ id, listEvents (empty : σ) id = []
  empty_checkpoints : ∀ id, checkpointSequences (empty : σ) id = []
  createTask_ok : ∀ {r : TaskRecord} {s s' : σ}, createTask r s = (.ok (), s') →
    taskOf s r.task.id = none ∧ (∀ id, taskOf s' id = if r.task.id = id then some r else taskOf s id) ∧
      SameEvents s s' ∧ SameCheckpoints s s'
  updateTask_ok : ∀ {r : TaskRecord} {s s' : σ}, updateTask r s = (.ok (), s') →
    (∃ old, taskOf s r.task.id = some old ∧ old.task.sequence ≤ r.task.sequence) ∧
      (∀ id, taskOf s' id = if r.task.id = id then some r else taskOf s id) ∧
      SameEvents s s' ∧ SameCheckpoints s s'
  appendEvents_ok : ∀ {id : UUID} {rs : List EventRecord} {s s' : σ}, (∀ r ∈ rs, r.event.taskId = id) →
    eventSequences s id = List.range' 1 (listEvents s id).length → appendEvents rs s = (.ok (), s') →
      rs.map (·.event.sequence) = List.range' ((listEvents s id).length + 1) rs.length ∧
      (∀ id', listEvents s' id' = if id = id' then listEvents s id ++ rs.map stored else listEvents s id') ∧
      SameTasks s s' ∧ SameCheckpoints s s'
  createApproval_ok : ∀ {r : ApprovalRecord} {s s' : σ}, createApproval r s = (.ok (), s') →
    SameTasks s s' ∧ SameEvents s s' ∧ SameCheckpoints s s'
  updateApproval_ok : ∀ {r : ApprovalRecord} {s s' : σ}, updateApproval r s = (.ok (), s') →
    SameTasks s s' ∧ SameEvents s s' ∧ SameCheckpoints s s'
  saveCheckpoint_ok : ∀ {c : SimulationCheckpoint} {s s' : σ},
    (checkpointSequences s c.metadata.taskId).Pairwise (· < ·) → saveCheckpoint c s = (.ok (), s') →
      (∀ n ∈ checkpointSequences s c.metadata.taskId, n < c.metadata.runtimeSequence) ∧
      (∀ id, checkpointSequences s' id = if c.metadata.taskId = id then
        checkpointSequences s id ++ [c.metadata.runtimeSequence] else checkpointSequences s id) ∧
      SameTasks s s' ∧ SameEvents s s'

end SimPilot
