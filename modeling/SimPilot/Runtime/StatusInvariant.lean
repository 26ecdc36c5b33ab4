import SimPilot.Runtime.AttemptJournal
/-!
# Journal and status of a task

Two invariants of the records of a task, each kept by every allowed commit: the journal
is numbered and its attempts are well formed (`JournalOk`), and the status fits the
attempts, the cancellation flag and the last event (`StatusOk`).
-/

namespace SimPilot

variable {c : Conditions} {id : UUID} {v v' : TaskView} {r : IterationRequest} {now : Timestamp}

/-! ## The records behind a commit -/

theorem After.status (ha : After v now r v') : v'.record.task.status = r.task.status := by rw [ha.record]; rfl

theorem After.runtimeState (ha : After v now r v') : v'.record.runtimeState = r.runtimeState := by rw [ha.record]; rfl

theorem After.totalSpend (ha : After v now r v') : v'.record.task.totalSpend = r.task.totalSpend := by
  rw [ha.record]; rfl

theorem After.cancelRequested (ha : After v now r v') (h : Allowed c v r) :
    v'.record.cancelRequested = r.cancelRequested.getD v.record.cancelRequested := by
  rw [ha.record]
  simp only [IterationRequest.updatedRecord, h.current]

/-- The last event behind a commit is that of its last draft. -/
theorem After.lastEvent (ha : After v now r v') (drafts : List EventDraft) {d : EventDraft}
    (hd : r.eventDrafts = drafts ++ [d]) : v'.events.getLast?.map (·.eventType) = some d.eventType := by
  rw [ha.events, hd, numberEvents_append]
  simp [numberEvents]

/-! ## The journal -/

/-- A journal of one task, numbered from its creation on, with well-formed attempts. -/
structure JournalOk (id : UUID) (v : TaskView) : Prop where
  task : v.record.task.id = id
  head : v.events.head?.map (·.eventType) = some .taskCreated
  owner : ∀ e ∈ v.events, e.taskId = id
  numbered : v.events.map (·.sequence) = List.range' 1 v.record.task.sequence
  attempts : WellFormed id v

theorem JournalOk.length (h : JournalOk id v) : v.events.length = v.record.task.sequence := by
  simpa using congrArg List.length h.numbered

theorem JournalOk.step (h : JournalOk id v) (hr : Allowed c v r) (ha : After v now r v') : JournalOk id v' where
  task := by rw [ha.record]; exact hr.task_eq.1.trans h.task
  head := by
    obtain ⟨e, he⟩ : ∃ e, v.events.head? = some e := by
      cases hh : v.events.head? with
      | none => have := h.head; simp [hh] at this
      | some e => exact ⟨e, rfl⟩
    rw [ha.events, List.head?_append_of_ne_nil _ (by rintro h'; simp [h'] at he)]
    exact h.head
  owner e he := by
    rw [ha.events, List.mem_append] at he
    rcases he with he | he
    · exact h.owner e he
    · rw [taskId_numberEvents e he, hr.task_eq.1, h.task]
  numbered := by
    rw [ha.events, List.map_append, h.numbered, sequence_numberEvents, hr.sequence ha, Nat.add_comm _ 1,
      List.range'_append_1]
  attempts := (hr.attempts ha h.attempts h.task).1

/-! ## The status -/

/-- The status of a task fits its unresolved attempt, its cancellation flag and, when it
is terminal, its last event. -/
structure StatusOk (c : Conditions) (v : TaskView) : Prop where
  attempt : ∀ a, unresolvedActionAttempt v.events = .ok (some a) →
    v.record.task.status = .running ∨ v.record.task.status = .cancelled
  running : c.settledCancel → ∀ a, unresolvedActionAttempt v.events = .ok (some a) → v.record.task.status = .running
  terminal : c.settledCancel → v.record.task.status.isTerminal = true →
    v.events.getLast?.map (·.eventType) = v.record.task.status.terminalEvent
  cancelled : v.record.cancelRequested = decide (v.record.task.status = .cancelled)

theorem Ends.last {status : TaskStatus} {drafts : List EventDraft} (h : Ends status drafts)
    (ht : status.isTerminal = true) : ∃ d, drafts = [d] ∧ some d.eventType = status.terminalEvent := by
  unfold Ends at h
  cases status with
  | completed | blocked | failed | cancelled =>
    obtain ⟨payload, rfl⟩ := h
    exact ⟨_, rfl, rfl⟩
  | pending | running | waitingForApproval => simp [TaskStatus.isTerminal] at ht

/-- The draft a settled action ends its task with. -/
theorem terminalDraft_type {t : TaskStatus × String} (h : t.1 = .failed ∨ t.1 = .blocked) :
    some (terminalDraft t.1 t.2).eventType = t.1.terminalEvent := by
  rcases h with h | h <;> simp [terminalDraft, h, TaskStatus.terminalEvent]

/-- The last event of a task a commit has ended. -/
theorem Allowed.terminal_event (h : Allowed c v r) (ha : After v now r v')
    (hrun : ∀ a, unresolvedActionAttempt v.events = .ok (some a) → v.record.task.status = .running)
    (ht : v'.record.task.status.isTerminal = true) :
    v'.events.getLast?.map (·.eventType) = v'.record.task.status.terminalEvent := by
  have hs := ha.status
  -- a commit that keeps a running or waiting task as it is ends nothing
  have hkeep : v.record.task.status.isTerminal = false → r.task.status = v.record.task.status → False := by
    intro hl he
    rw [hs, he, hl] at ht
    cases ht
  have hlive : ∀ {a}, unresolvedActionAttempt v.events = .ok (some a) → v.record.task.status.isTerminal = false := by
    intro a hu; rw [hrun a hu]; rfl
  cases h with
  | ordinary quiet observed last h =>
    rw [hs] at ht ⊢
    obtain ⟨d, rfl, hd⟩ := h.ends.last ht
    rw [ha.lastEvent _ h.drafts, hd]
  | prepare _ _ _ _ _ h =>
    exact (hkeep (by rw [h.running]; rfl) (by rw [h.task])).elim
  | start _ h | retire _ h | requireReconciliation _ h =>
    exact (hkeep (hlive h.unresolved) (by rw [h.task])).elim
  | confirm a result observed verification terminal h =>
    cases terminal with
    | none => exact (hkeep (hlive h.unresolved) (by rw [h.status, hrun _ h.unresolved]; rfl)).elim
    | some t =>
      rw [hs, h.status, ha.lastEvent _ h.drafts]
      exact terminalDraft_type (h.endsIn t rfl)
  | failAttempt a h =>
    obtain ⟨reason, payload, hd⟩ := h.drafts
    rw [hs, h.task, ha.lastEvent [_] hd]
    rfl
  | acceptCurrent _ _ _ _ _ _ _ h task =>
    refine (hkeep (hlive h.unresolved) ?_).elim
    rw [task, Task.chargeSuccess]
    split <;> rfl
  | dismiss _ _ _ h task => exact (hkeep (hlive h.unresolved) (by rw [task])).elim
  | abandon _ _ _ h _ task drafts => rw [hs, task, ha.lastEvent [_] drafts]; rfl
  | approve _ h task => exact (hkeep (by rw [h.waiting]; rfl) (by rw [task])).elim
  | deny _ h task _ drafts => rw [hs, task, ha.lastEvent [_] drafts]; rfl
  | cancel _ _ task _ _ _ _ drafts => rw [hs, task, ha.lastEvent [] drafts]; rfl

/-- No commit is made on a task that has ended without an unresolved attempt. -/
theorem Allowed.live (h : Allowed c v r) (hu : unresolvedActionAttempt v.events = .ok none) :
    v.record.task.status.isTerminal = false := by
  have hnone : ∀ {a : ActionAttempt}, unresolvedActionAttempt v.events = .ok (some a) → v.record.task.status.isTerminal = false := by
    intro a ha
    rw [hu] at ha
    cases ha
  cases h with
  | ordinary _ _ _ h => exact h.live
  | prepare _ _ _ _ _ h => rw [h.running]; rfl
  | start _ h | retire _ h | requireReconciliation _ h => exact hnone h.unresolved
  | confirm _ _ _ _ _ h => exact hnone h.unresolved
  | failAttempt _ h => exact hnone h.unresolved
  | acceptCurrent _ _ _ _ _ _ _ h | dismiss _ _ _ h | abandon _ _ _ h => exact hnone h.unresolved
  | approve _ h | deny _ h => rw [h.waiting]; rfl
  | cancel _ live => exact live

/-- Where a commit leaves an unresolved attempt, the task keeps its status or is cancelled. -/
theorem Allowed.attempt_status (h : Allowed c v r) (ha : After v now r v') (hj : JournalOk id v)
    (hat : ∀ a, unresolvedActionAttempt v.events = .ok (some a) →
      v.record.task.status = .running ∨ v.record.task.status = .cancelled) (a' : ActionAttempt)
    (hu : unresolvedActionAttempt v'.events = .ok (some a')) :
    v'.record.task.status = .running ∧ v.record.task.status = .running ∨
      v'.record.task.status = .cancelled ∧ v.record.task.status = .cancelled ∨
      v'.record.task.status = .cancelled ∧ r.cancelRequested = some true ∧
        unresolvedActionAttempt v.events = .ok (some a') := by
  rw [ha.status]
  have hsame : ∀ a, unresolvedActionAttempt v.events = .ok (some a) → r.task = v.record.task →
      r.task.status = .running ∧ v.record.task.status = .running ∨
      r.task.status = .cancelled ∧ v.record.task.status = .cancelled := by
    intro a hua ht
    rw [ht]
    rcases hat a hua with hs | hs
    · exact .inl ⟨hs, hs⟩
    · exact .inr ⟨hs, hs⟩
  cases (h.attempts ha hj.attempts hj.task).2 with
  | idle _ _ _ _ hnow => rw [hu] at hnow; cases hnow
  | answered pending status h unchanged =>
    rw [unchanged] at hu
    rcases hat a' hu with hs | hs <;> (rw [h.waiting] at hs; cases hs)
  | cancelled task cancelRequested unchanged =>
    rw [unchanged] at hu
    exact .inr (.inr ⟨by rw [task]; rfl, cancelRequested, hu⟩)
  | prepared quiet action checkpoint before cost a h => exact .inl ⟨by rw [h.task]; exact h.running, h.running⟩
  | started a _ h running => exact .inl ⟨by rw [h.task]; exact running, running⟩
  | flagged a _ h =>
    rcases hsame a h.unresolved h.task with hs | hs
    · exact .inl hs
    · exact .inr (.inl hs)
  | settled a _ hnow => rw [hu] at hnow; cases hnow

theorem StatusOk.step (h : StatusOk c v) (hj : JournalOk id v) (hr : Allowed c v r) (hm : Meets c v r)
    (ha : After v now r v') : StatusOk c v' where
  attempt a hu := by
    rcases hr.attempt_status ha hj h.attempt a hu with ⟨hs, -⟩ | ⟨hs, -⟩ | ⟨hs, -⟩
    · exact .inl hs
    · exact .inr hs
    · exact .inr hs
  running hc a hu := by
    rcases hr.attempt_status ha hj h.attempt a hu with ⟨hs, -⟩ | ⟨-, hs⟩ | ⟨-, hcancel, hold⟩
    · exact hs
    · -- a cancelled task has no unresolved attempt
      exfalso
      cases (hr.attempts ha hj.attempts hj.task).2 with
      | idle _ _ _ h' => exact absurd h'.live (by rw [hs]; decide)
      | answered _ _ h' => rw [h'.waiting] at hs; cases hs
      | cancelled _ _ unchanged =>
        rw [unchanged] at hu
        rw [h.running hc a hu] at hs
        cases hs
      | prepared _ _ _ _ _ _ h' => rw [h'.running] at hs; cases hs
      | started _ _ _ running => rw [running] at hs; cases hs
      | flagged b _ h' => rw [h.running hc b h'.unresolved] at hs; cases hs
      | settled _ _ hnow => rw [hu] at hnow; cases hnow
    · have := (hm hcancel).1 hc
      rw [hold] at this
      cases this
  terminal hc ht := hr.terminal_event ha (h.running hc) ht
  cancelled := by
    rw [ha.cancelRequested hr, ha.status, h.cancelled]
    have hkeep : r.cancelRequested = none → r.task.status = v.record.task.status →
        r.cancelRequested.getD (decide (v.record.task.status = .cancelled)) = decide (r.task.status = .cancelled) := by
      intro hc ht
      rw [hc, ht]
      rfl
    have hother : r.cancelRequested = none → v.record.task.status ≠ .cancelled → r.task.status ≠ .cancelled →
        r.cancelRequested.getD (decide (v.record.task.status = .cancelled)) = decide (r.task.status = .cancelled) := by
      intro hc hv hr
      simp [hc, hv, hr]
    cases hr with
    | ordinary _ _ _ h' =>
      have hv : v.record.task.status ≠ .cancelled := by
        intro he
        have := h'.live
        rw [he] at this
        cases this
      rw [h'.cancelRequested]
      by_cases hs : r.task.status = .cancelled
      · simp [hs]
      · simp [hs, hv]
    | prepare _ _ _ _ _ h' => exact hkeep h'.cancelRequested (by rw [h'.task])
    | start _ h' | retire _ h' | requireReconciliation _ h' => exact hkeep h'.cancelRequested (by rw [h'.task])
    | confirm _ _ _ _ terminal h' =>
      refine hother h'.cancelRequested (by rw [h'.running]; decide) ?_
      rw [h'.status]
      cases terminal with
      | none => decide
      | some t => rcases h'.endsIn t rfl with ht | ht <;> simp [ht]
    | failAttempt _ h' => exact hother h'.cancelRequested (by rw [h'.running]; decide) (by simp [h'.task])
    | acceptCurrent _ _ _ _ _ _ _ h' task =>
      refine hkeep h'.cancelRequested ?_
      rw [task, Task.chargeSuccess]
      split <;> rfl
    | dismiss _ _ _ h' task => exact hkeep h'.cancelRequested (by rw [task])
    | abandon _ _ _ h' status task =>
      refine hother h'.cancelRequested ?_ (by simp [task])
      intro he
      rw [he] at status
      cases status
    | approve _ h' task => exact hkeep h'.cancelRequested (by rw [task])
    | deny _ h' task => exact hother h'.cancelRequested (by rw [h'.waiting]; decide) (by simp [task])
    | cancel _ _ task _ cancelRequested => rw [cancelRequested, task]; rfl

/-- With cancellation restricted to settled tasks, a terminal task has no unresolved attempt. -/
theorem StatusOk.resolved_of_terminal (h : StatusOk c v) (hj : JournalOk id v) (hc : c.settledCancel)
    (ht : v.record.task.status.isTerminal = true) : unresolvedActionAttempt v.events = .ok none := by
  obtain ⟨as, has, -⟩ := hj.attempts
  cases hu : latestUnresolved as with
  | none => rw [unresolved_of_attempts has, hu]
  | some a =>
    have := h.running hc a (by rw [unresolved_of_attempts has, hu])
    rw [this] at ht
    cases ht

end SimPilot
