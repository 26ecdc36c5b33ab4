import SimPilot.Persistence.InMemory
import SimPilot.Persistence.Sqlite
import SimPilot.Runtime.Persistence
/-!
# Optimistic commits lose no update (runtime/persistence.py:67-120)

`commit_iteration` compares no sequence itself. The task row only refuses an older
sequence, so a stale writer with a longer batch passes it; the event stream refuses
every batch that does not start right behind it. From the laws of the repositories:
a store reached by any calls of any writers is numbered (`Reached.numbered`), a commit
that starts from another sequence than the stored one raises and leaves the store as it
was, and a commit that returns extends the journal by its drafts.
-/

namespace SimPilot
open UnitOfWork LawfulUnitOfWork

variable {σ : Type} [LawfulUnitOfWork σ]

/-- The journal of a stored task is numbered `1..n` with `n` its sequence, and its
checkpoints climb to at most `n`; a task that is not stored has neither. -/
def Numbered (s : σ) (id : UUID) : Prop :=
  match taskOf s id with
  | none => listEvents s id = [] ∧ checkpointSequences s id = []
  | some r => eventSequences s id = List.range' 1 r.task.sequence ∧
      (checkpointSequences s id).Pairwise (· < ·) ∧ ∀ n ∈ checkpointSequences s id, n ≤ r.task.sequence

theorem numbered_empty (id : UUID) : Numbered (empty : σ) id := by
  simp [Numbered, empty_tasks, empty_events, empty_checkpoints]

theorem Numbered.of_stored {s : σ} {id : UUID} {r : TaskRecord} (h : Numbered s id) (hr : taskOf s id = some r) :
    eventSequences s id = List.range' 1 r.task.sequence ∧ (checkpointSequences s id).Pairwise (· < ·) ∧
      ∀ n ∈ checkpointSequences s id, n ≤ r.task.sequence := by
  simpa [Numbered, hr] using h

/-- A numbered journal has as many events as the sequence says. -/
theorem Numbered.length {s : σ} {id : UUID} {r : TaskRecord} (h : Numbered s id) (hr : taskOf s id = some r) :
    (listEvents s id).length = r.task.sequence := by
  have := congrArg List.length (h.of_stored hr).1
  simpa [eventSequences] using this

/-- A task whose records are the same is numbered as before. -/
theorem Numbered.congr {s s' : σ} {id : UUID} (h : Numbered s id) (ht : taskOf s' id = taskOf s id)
    (he : listEvents s' id = listEvents s id) (hc : checkpointSequences s' id = checkpointSequences s id) :
    Numbered s' id := by
  simpa [Numbered, ht, he, hc, eventSequences] using h

/-! ## One transaction -/

omit [LawfulUnitOfWork σ] in
theorem forPresent_ok {α : Type} {call : α → Transaction σ Unit} {P : σ → σ → Prop} (hr : ∀ s, P s s)
    (hc : ∀ a s s', call a s = (.ok (), s') → P s s') {o : Option α} {s s' : σ}
    (h : forPresent call o s = (.ok (), s')) : P s s' := by
  cases o with
  | none =>
    simp only [forPresent, pure, Prod.mk.injEq, true_and] at h
    exact h ▸ hr s
  | some a => exact hc a s s' h

/-- What two approval calls leave alone. -/
structure SameRecords (s s' : σ) : Prop where
  tasks : ∀ id, taskOf s' id = taskOf s id
  events : ∀ id, listEvents s' id = listEvents s id
  checkpoints : ∀ id, checkpointSequences s' id = checkpointSequences s id

omit [LawfulUnitOfWork σ] in
theorem SameRecords.of [UnitOfWork σ] {s s' : σ} (h : SameTasks s s' ∧ SameEvents s s' ∧ SameCheckpoints s s') :
    (∀ id, taskOf s' id = taskOf s id) ∧ (∀ id, listEvents s' id = listEvents s id) ∧
      ∀ id, checkpointSequences s' id = checkpointSequences s id :=
  ⟨h.1.tasks, h.2.1.events, h.2.2.checkpoints⟩

theorem forPresent_createApproval {o : Option ApprovalRecord} {s s' : σ}
    (h : forPresent createApproval o s = (.ok (), s')) : SameRecords s s' :=
  forPresent_ok (fun _ => ⟨fun _ => rfl, fun _ => rfl, fun _ => rfl⟩)
    (fun _ _ _ hc => have ⟨ht, he, hcp⟩ := SameRecords.of (createApproval_ok hc); ⟨ht, he, hcp⟩) h

theorem forPresent_updateApproval {o : Option ApprovalRecord} {s s' : σ}
    (h : forPresent updateApproval o s = (.ok (), s')) : SameRecords s s' :=
  forPresent_ok (fun _ => ⟨fun _ => rfl, fun _ => rfl, fun _ => rfl⟩)
    (fun _ _ _ hc => have ⟨ht, he, hcp⟩ := SameRecords.of (updateApproval_ok hc); ⟨ht, he, hcp⟩) h

/-- The events a commit appended, as a reader gets them. -/
def storedEvents (σ : Type) [LawfulUnitOfWork σ] (c : IterationCommit) : List EventRecord :=
  c.events.map fun e => stored σ (eventRecord e)

/-- A transaction of `commit_iteration` that committed: it started from the stored
sequence, the journal grew by the commit's events, and the task stays numbered. -/
theorem IterationCommit.write_ok {s s' : σ} {now : Timestamp} {r : IterationRequest} {c : IterationCommit}
    (hs : ∀ id, Numbered s id) (hb : r.build now = .ok c) (h : c.write s = (.ok (), s')) :
    (∃ old, taskOf s r.task.id = some old ∧ r.current.task.sequence = old.task.sequence) ∧
      taskOf s' r.task.id = some c.taskRecord ∧
      listEvents s' r.task.id = listEvents s r.task.id ++ storedEvents σ c ∧
      (∀ id, id ≠ r.task.id → taskOf s' id = taskOf s id ∧ listEvents s' id = listEvents s id ∧
        checkpointSequences s' id = checkpointSequences s id) ∧
      ∀ id, Numbered s' id := by
  obtain ⟨hd, hrec, hev, hca, hua, hcp⟩ := IterationRequest.build_ok hb
  obtain ⟨_, s₁, h₁, h⟩ := Transaction.bind_ok h
  obtain ⟨_, s₂, h₂, h⟩ := Transaction.bind_ok h
  obtain ⟨_, s₃, h₃, h⟩ := Transaction.bind_ok h
  obtain ⟨_, s₄, h₄, h₅⟩ := Transaction.bind_ok h
  have hid : c.taskRecord.task.id = r.task.id := by rw [hrec]; rfl
  have hseq : c.taskRecord.task.sequence = r.current.task.sequence + r.eventDrafts.length := by rw [hrec]; rfl
  -- the task row
  obtain ⟨⟨old, hold, -⟩, ht₁, he₁, hc₁⟩ := updateTask_ok h₁
  rw [hid] at hold ht₁
  have hlen := (hs r.task.id).length hold
  obtain ⟨hnum, hinc, hle⟩ := (hs r.task.id).of_stored hold
  -- the event stream: the only numbering it takes is the one behind the stored events
  have hids : ∀ rec ∈ c.events.map eventRecord, rec.event.taskId = r.task.id := by
    intro rec hrec'
    obtain ⟨e, he, rfl⟩ := List.mem_map.1 hrec'
    exact taskId_numberEvents e (hev ▸ he)
  obtain ⟨hseqs, hev₂, ht₂, hc₂⟩ := appendEvents_ok hids (by
    rw [eventSequences, he₁.events, ← eventSequences, hnum, hlen]) h₂
  rw [he₁.events, hlen] at hseqs
  have hnumbers : (c.events.map eventRecord).map (·.event.sequence) =
      List.range' (r.current.task.sequence + 1) r.eventDrafts.length := by
    rw [hev, ← sequence_numberEvents r.task.id now]
    simp [List.map_map, Function.comp_def, eventRecord]
  have hbase : r.current.task.sequence = old.task.sequence := by
    rw [hnumbers] at hseqs
    cases hl : r.eventDrafts with
    | nil => exact absurd hl hd
    | cons d ds =>
      have hne : (c.events.map eventRecord).length = ds.length + 1 := by simp [hev, hl]
      rw [hl, hne, List.length_cons, List.range'_succ, List.range'_succ, List.cons.injEq] at hseqs
      omega
  have hr₃ := forPresent_createApproval h₃
  have hr₄ := forPresent_updateApproval h₄
  have hcs₄ : ∀ id, checkpointSequences s₄ id = checkpointSequences s id := fun id => by
    rw [hr₄.checkpoints, hr₃.checkpoints, hc₂.checkpoints, hc₁.checkpoints]
  have hev₄ : ∀ id, listEvents s₄ id =
      if r.task.id = id then listEvents s r.task.id ++ storedEvents σ c else listEvents s id := fun id => by
    rw [hr₄.events, hr₃.events, hev₂]
    split
    · rw [he₁.events]; simp [storedEvents, List.map_map, Function.comp_def]
    · rw [he₁.events]
  have ht₄ : ∀ id, taskOf s₄ id = if r.task.id = id then some c.taskRecord else taskOf s id := fun id => by
    rw [hr₄.tasks, hr₃.tasks, ht₂.tasks, ht₁]
  -- the checkpoint, when there is one, carries the new sequence
  have hsave : (∀ id, taskOf s' id = taskOf s₄ id) ∧ (∀ id, listEvents s' id = listEvents s₄ id) ∧
      (∀ id, id ≠ r.task.id → checkpointSequences s' id = checkpointSequences s id) ∧
      (checkpointSequences s' r.task.id).Pairwise (· < ·) ∧
      ∀ n ∈ checkpointSequences s' r.task.id, n ≤ c.taskRecord.task.sequence := by
    have hold_le : ∀ n ∈ checkpointSequences s r.task.id, n ≤ c.taskRecord.task.sequence := fun n hn => by
      have := hle n hn; omega
    cases hck : c.checkpoint with
    | none =>
      simp only [hck, forPresent, pure, Prod.mk.injEq, true_and] at h₅
      subst h₅
      exact ⟨fun _ => rfl, fun _ => rfl, fun id _ => hcs₄ id, by rw [hcs₄]; exact hinc, by rw [hcs₄]; exact hold_le⟩
    | some cp =>
      simp only [hck, forPresent] at h₅
      have hcp' : cp.metadata.taskId = r.task.id ∧ cp.metadata.runtimeSequence = c.taskRecord.task.sequence := by
        cases hsn : r.adapterSnapshot with
        | none => simp [hsn, hck] at hcp
        | some sn =>
          simp only [hsn, hck, Option.some.injEq, exists_eq_left'] at hcp
          obtain ⟨-, h1, h2, -⟩ := buildCheckpoint_ok hcp
          exact ⟨h1, by rw [h2, hseq]; rfl⟩
      obtain ⟨hlt, hcs₅, ht₅, he₅⟩ := saveCheckpoint_ok (by rw [hcp'.1, hcs₄]; exact hinc) h₅
      rw [hcp'.1, hcs₄] at hlt
      refine ⟨ht₅.tasks, he₅.events, fun id hne => ?_, ?_, ?_⟩
      · rw [hcs₅, hcp'.1, if_neg (Ne.symm hne), hcs₄]
      · rw [hcs₅, hcp'.1, if_pos rfl, hcs₄, List.pairwise_append]
        exact ⟨hinc, List.pairwise_singleton _ _, fun n hn m hm => by
          rw [List.mem_singleton] at hm; exact hm ▸ hlt n hn⟩
      · intro n hn
        rw [hcs₅, hcp'.1, if_pos rfl, hcs₄, List.mem_append, List.mem_singleton] at hn
        rcases hn with hn | rfl
        · exact hold_le n hn
        · exact le_of_eq hcp'.2
  obtain ⟨ht₅, he₅, hother, hinc', hle'⟩ := hsave
  refine ⟨⟨old, hold, hbase⟩, by rw [ht₅, ht₄, if_pos rfl], by rw [he₅, hev₄, if_pos rfl], ?_, fun id => ?_⟩
  · intro id hne
    exact ⟨by rw [ht₅, ht₄, if_neg (Ne.symm hne)], by rw [he₅, hev₄, if_neg (Ne.symm hne)], hother id hne⟩
  · by_cases hne : id = r.task.id
    · subst hne
      have hall : eventSequences s' r.task.id = List.range' 1 c.taskRecord.task.sequence := by
        rw [eventSequences, he₅, hev₄, if_pos rfl, List.map_append, ← eventSequences, hnum]
        have hst : (storedEvents σ c).map (·.event.sequence) =
            List.range' (r.current.task.sequence + 1) r.eventDrafts.length := by
          rw [← hnumbers]
          simp [storedEvents, List.map_map, Function.comp_def, stored_sequence]
        rw [hst, hseq, hbase, Nat.add_comm old.task.sequence 1, List.range'_append_1]
      simp only [Numbered, ht₅, ht₄, if_true]
      exact ⟨hall, hinc', hle'⟩
    · exact (hs id).congr (by rw [ht₅, ht₄, if_neg (Ne.symm hne)]) (by rw [he₅, hev₄, if_neg (Ne.symm hne)])
        (hother id hne)

/-- A transaction of `create_task` that committed leaves every task numbered. -/
theorem writeTask_ok {s s' : σ} {task : Task} (hs : ∀ id, Numbered s id) (h : writeTask task s = (.ok (), s')) :
    ∀ id, Numbered s' id := by
  obtain ⟨_, s₁, h₁, h₂⟩ := Transaction.bind_ok h
  obtain ⟨hnone, ht₁, he₁, hc₁⟩ := createTask_ok h₁
  have hid : (createdRecord task).task.id = task.id := rfl
  rw [hid] at hnone ht₁
  have hempty : listEvents s task.id = [] ∧ checkpointSequences s task.id = [] := by
    simpa [Numbered, hnone] using hs task.id
  have hids : ∀ r ∈ [eventRecord (createdEvent task)], r.event.taskId = task.id := by
    simp [eventRecord, createdEvent]
  obtain ⟨-, he₂, ht₂, hc₂⟩ := appendEvents_ok hids (by simp [eventSequences, he₁.events, hempty.1]) h₂
  intro id
  by_cases hne : task.id = id
  · subst hne
    simp only [Numbered, ht₂.tasks, ht₁, if_true, hc₂.checkpoints, hc₁.checkpoints, hempty.2]
    simp [eventSequences, he₂, he₁.events, hempty.1, stored_sequence, eventRecord, createdEvent, createdRecord]
  · exact (hs id).congr (by rw [ht₂.tasks, ht₁, if_neg hne]) (by rw [he₂, if_neg hne, he₁.events])
      (by rw [hc₂.checkpoints, hc₁.checkpoints])

/-! ## Any sequence of calls -/

/-- A store reached from the empty one by `create_task` and `commit_iteration` calls, with
any records, drafts and clock readings, in any order. -/
inductive Reached : σ → Prop
  | empty : Reached UnitOfWork.empty
  | create {s : σ} (task : Task) : Reached s → Reached (createTaskRecord task s).2
  | commit {s : σ} (now : Timestamp) (r : IterationRequest) : Reached s → Reached (commitIteration now r s).2

theorem commitIteration_cases {s : σ} (now : Timestamp) (r : IterationRequest) :
    (∃ e, commitIteration now r s = (.error e, s)) ∨
      ∃ c s', r.build now = .ok c ∧ c.write s = (.ok (), s') ∧ commitIteration now r s = (.ok c, s') := by
  unfold commitIteration
  cases hb : r.build now with
  | error e => exact .inl ⟨e, rfl⟩
  | ok c =>
    cases hw : UnitOfWork.run c.write s with
    | mk res s' =>
      cases res with
      | error e => exact .inl ⟨_, by simp only [hw]; rw [run_error hw]⟩
      | ok u => exact .inr ⟨c, s', rfl, run_ok hw, by simp only [hw]⟩

theorem Reached.numbered {s : σ} (h : Reached s) : ∀ id, Numbered s id := by
  induction h with
  | empty => exact numbered_empty
  | @create s task _ ih =>
    unfold createTaskRecord
    cases hw : UnitOfWork.run (writeTask task) s with
    | mk res s' =>
      cases res with
      | error e => rw [run_error hw]; exact ih
      | ok u => exact writeTask_ok ih (run_ok hw)
  | @commit s now r _ ih =>
    rcases commitIteration_cases now r (s := s) with ⟨e, he⟩ | ⟨c, s', hb, hw, hc⟩
    · rw [he]; exact ih
    · rw [hc]; exact (IterationCommit.write_ok ih hb hw).2.2.2.2

/-- What a commit of a stale record does: it raises and changes nothing. A request the
transaction is reached with raises `DurablePersistenceError`. -/
theorem Reached.stale {s : σ} (h : Reached s) (now : Timestamp) (r : IterationRequest) (old : TaskRecord)
    (hold : taskOf s r.task.id = some old) (hne : r.current.task.sequence ≠ old.task.sequence) :
    ∃ e, commitIteration now r s = (.error e, s) ∧
      ((∃ c, r.build now = .ok c) → ∃ message, e = .durablePersistence message) := by
  rcases commitIteration_cases now r (s := s) with ⟨e, he⟩ | ⟨c, s', hb, hw, -⟩
  · refine ⟨e, he, fun ⟨c, hc⟩ => ?_⟩
    simp only [commitIteration, hc] at he
    split at he
    · simp at he
    · simp only [Prod.mk.injEq, Except.error.injEq] at he
      exact ⟨_, he.1.symm⟩
  · obtain ⟨⟨old', hold', hseq⟩, -⟩ := IterationCommit.write_ok h.numbered hb hw
    rw [hold] at hold'
    exact absurd (by rw [hseq, Option.some.inj hold']) hne

/-- A commit that returned extends the journal of its task by its drafts: one event for
each draft, with its type and its payload, behind the events that were there. -/
theorem Reached.extends {s s' : σ} (h : Reached s) (now : Timestamp) (r : IterationRequest) (c : IterationCommit)
    (hc : commitIteration now r s = (.ok c, s')) :
    listEvents s' r.task.id = listEvents s r.task.id ++ storedEvents σ c ∧
      c.events.map (fun e => (⟨e.eventType, e.payload⟩ : EventDraft)) = r.eventDrafts ∧
      ∀ id, id ≠ r.task.id → listEvents s' id = listEvents s id := by
  rcases commitIteration_cases now r (s := s) with ⟨e, he⟩ | ⟨c', s'', hb, hw, hc'⟩
  · simp [he] at hc
  · rw [hc', Prod.mk.injEq, Except.ok.injEq] at hc
    obtain ⟨rfl, rfl⟩ := hc
    obtain ⟨-, -, hev, hother, -⟩ := IterationCommit.write_ok h.numbered hb hw
    refine ⟨hev, ?_, fun id hne => (hother id hne).2.1⟩
    rw [(IterationRequest.build_ok hb).2.2.1, drafts_numberEvents]

/-- No lost update over one kind of store. -/
def NoLostUpdate (σ : Type) [LawfulUnitOfWork σ] : Prop :=
  ∀ s : σ, Reached s →
    (∀ now (r : IterationRequest) old, taskOf s r.task.id = some old →
      r.current.task.sequence ≠ old.task.sequence → ∃ e, commitIteration now r s = (.error e, s) ∧
        (r.eventDrafts ≠ [] →
          (∀ sn ∈ r.adapterSnapshot, ∃ tick : Nat, ((sn.state.get "tick").getD (.int 0)).int? = some (tick : Int)) →
          ∃ message, e = .durablePersistence message)) ∧
    (∀ now (r : IterationRequest) c s', commitIteration now r s = (.ok c, s') →
      listEvents s' r.task.id = listEvents s r.task.id ++ storedEvents σ c ∧
      c.events.map (fun e => (⟨e.eventType, e.payload⟩ : EventDraft)) = r.eventDrafts ∧
      ∀ id, id ≠ r.task.id → listEvents s' id = listEvents s id) ∧
    ∀ id r, taskOf s id = some r → eventSequences s id = List.range' 1 r.task.sequence ∧
      (checkpointSequences s id).Pairwise (· < ·) ∧ ∀ n ∈ checkpointSequences s id, n ≤ r.task.sequence

/-- Neither store loses an update, whatever the writers hold. -/
theorem no_lost_update : NoLostUpdate InMemoryPersistenceState ∧ NoLostUpdate SqliteDatabase := by
  have key : ∀ (σ : Type) [LawfulUnitOfWork σ], NoLostUpdate σ := by
    intro σ _ s hs
    refine ⟨fun now r old hold hne => ?_, fun now r c s' hc => hs.extends now r c hc,
      fun id r hr => (hs.numbered id).of_stored hr⟩
    obtain ⟨e, he, hd⟩ := hs.stale now r old hold hne
    exact ⟨e, he, fun hdrafts htick => hd (IterationRequest.build_isOk hdrafts htick)⟩
  exact ⟨key _, key _⟩

/-- A task to run the store on. -/
def sampleTask : Task where
  id := .int 1
  status := .pending
  specification := { objective := { type := .reachResource }, authority := {} }
  createdAt := 0
  updatedAt := 0

/-- A commit without drafts is refused before its base is looked at: it raises
`ValueError`, also when the base is stale. -/
theorem stale_commit_without_drafts :
    ¬ ∀ (s : InMemoryPersistenceState), Reached s → ∀ now (r : IterationRequest) old, taskOf s r.task.id = some old →
      r.current.task.sequence ≠ old.task.sequence →
      ∃ message, commitIteration now r s = (.error (.durablePersistence message), s) := by
  intro h
  obtain ⟨message, hm⟩ := h (createTaskRecord sampleTask (empty : InMemoryPersistenceState)).2
    (.create sampleTask .empty) 0
    { current := { task := sampleTask }, task := sampleTask, runtimeState := {}, eventDrafts := [] }
    (createdRecord sampleTask) (by decide) (by decide)
  simp [commitIteration, IterationRequest.build, bind, Except.bind] at hm

end SimPilot
