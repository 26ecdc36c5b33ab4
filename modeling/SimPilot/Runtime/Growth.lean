import SimPilot.Runtime.Consistency
import SimPilot.Runtime.IterationBound
/-!
# What later records of a task keep

A commit of the engine adds to the records it is made on and takes nothing back (`Allowed.grows`):
the journal is extended, what was spent stays spent, an answered approval stays as it was
answered and a pending one is answered for the action it was asked for, and a status that
ends a task is not left again. So do all commits of a run, in any order (`records_grow`).
-/

namespace SimPilot
open Effect

variable {c : Conditions} {id : UUID} {s s' : System} {v v' w : TaskView} {r : IterationRequest} {now : Timestamp}

/-- An approval is kept as it was asked for, and once it is answered with its answer. -/
structure ApprovalRecord.Keeps (a b : ApprovalRecord) : Prop where
  request : b.approval.id = a.approval.id ∧ b.approval.taskId = a.approval.taskId ∧
    b.approval.action = a.approval.action ∧ b.approval.createdAt = a.approval.createdAt
  answer : a.approval.status ≠ .pending → b = a

/-- What the records `w` of a task keep of its records `v`. -/
structure TaskView.Grows (v w : TaskView) : Prop where
  id : w.record.task.id = v.record.task.id
  specification : w.record.task.specification = v.record.task.specification
  createdAt : w.record.task.createdAt = v.record.task.createdAt
  events : v.events <+: w.events
  totalSpend : v.record.task.totalSpend ≤ w.record.task.totalSpend
  iterations : v.record.runtimeState.iterations ≤ w.record.runtimeState.iterations
  cancelRequested : v.record.cancelRequested = true → w.record.cancelRequested = true
  status : w.record.task.status = v.record.task.status ∨
    v.record.task.status.isTerminal = false ∧ w.record.task.status ≠ .pending
  approvals : ∀ a ∈ v.approvals, ∃ b ∈ w.approvals, a.Keeps b

theorem ApprovalRecord.Keeps.refl (a : ApprovalRecord) : a.Keeps a := ⟨⟨rfl, rfl, rfl, rfl⟩, fun _ => rfl⟩

theorem ApprovalRecord.Keeps.trans {a b d : ApprovalRecord} (h : a.Keeps b) (h' : b.Keeps d) : a.Keeps d where
  request := by
    obtain ⟨hid, htask, haction, hat⟩ := h.request
    obtain ⟨hid', htask', haction', hat'⟩ := h'.request
    exact ⟨hid'.trans hid, htask'.trans htask, haction'.trans haction, hat'.trans hat⟩
  answer hs := by
    have hb := h.answer hs
    rw [← hb] at hs
    exact (h'.answer hs).trans hb

namespace TaskView.Grows

theorem refl (v : TaskView) : v.Grows v where
  id := rfl
  specification := rfl
  createdAt := rfl
  events := List.prefix_refl _
  totalSpend := le_refl _
  iterations := le_refl _
  cancelRequested := fun h => h
  status := .inl rfl
  approvals a ha := ⟨a, ha, .refl a⟩

theorem trans (h : v.Grows v') (h' : v'.Grows w) : v.Grows w where
  id := h'.id.trans h.id
  specification := h'.specification.trans h.specification
  createdAt := h'.createdAt.trans h.createdAt
  events := h.events.trans h'.events
  totalSpend := h.totalSpend.trans h'.totalSpend
  iterations := h.iterations.trans h'.iterations
  cancelRequested hc := h'.cancelRequested (h.cancelRequested hc)
  status := by
    rcases h.status, h'.status with ⟨hs | ⟨hlive, hp⟩, hs' | ⟨hlive', hp'⟩⟩
    · exact .inl (hs'.trans hs)
    · exact .inr ⟨hs ▸ hlive', hp'⟩
    · exact .inr ⟨hlive, hs'.symm ▸ hp⟩
    · exact .inr ⟨hlive, hp'⟩
  approvals a ha := by
    obtain ⟨b, hb, hab⟩ := h.approvals a ha
    obtain ⟨d, hd, hbd⟩ := h'.approvals b hb
    exact ⟨d, hd, hab.trans hbd⟩

end TaskView.Grows

/-! ## One commit -/

theorem totalSpend_le_chargeSuccess (task : Task) (result : ExecutionResult) :
    task.totalSpend ≤ (task.chargeSuccess result).totalSpend := by
  unfold Task.chargeSuccess
  split
  · exact le_add_of_nonneg_right result.cost_nonneg
  · exact le_refl _

/-- A commit keeps the time of the task's creation, and what was spent. -/
theorem Allowed.task_grows (h : Allowed c v r) :
    r.task.createdAt = v.record.task.createdAt ∧ v.record.task.totalSpend ≤ r.task.totalSpend := by
  have hsame : ∀ status : TaskStatus, r.task = v.record.task.setStatus status →
      r.task.createdAt = v.record.task.createdAt ∧ v.record.task.totalSpend ≤ r.task.totalSpend := by
    intro status ht
    rw [ht]
    exact ⟨rfl, le_refl _⟩
  cases h with
  | ordinary _ _ _ h => exact hsame _ h.task
  | prepare _ _ _ _ _ h => exact hsame v.record.task.status h.task
  | start _ h | retire _ h | requireReconciliation _ h => exact hsame v.record.task.status h.task
  | confirm _ result _ _ _ h =>
    rcases h.task with ht | ⟨ht, -⟩
    · exact hsame _ ht
    · rw [ht]
      exact ⟨rfl, le_add_of_nonneg_right result.cost_nonneg⟩
  | failAttempt _ h => exact hsame _ h.task
  | acceptCurrent _ _ _ result _ _ _ _ task =>
    rw [task]
    refine ⟨?_, totalSpend_le_chargeSuccess _ _⟩
    unfold Task.chargeSuccess
    split <;> rfl
  | dismiss _ _ _ _ task => exact hsame v.record.task.status task
  | abandon _ _ _ _ _ task => exact hsame _ task
  | approve _ _ task => exact hsame v.record.task.status task
  | deny _ _ task => exact hsame _ task
  | cancel _ _ task => exact hsame _ task

/-- No commit takes back that a task is to be cancelled. -/
theorem Allowed.cancelRequested_eq (h : Allowed c v r) : r.cancelRequested = none ∨ r.cancelRequested = some true := by
  cases h with
  | ordinary _ _ _ h =>
    rw [h.cancelRequested]
    split
    · exact .inr rfl
    · exact .inl rfl
  | prepare _ _ _ _ _ h => exact .inl h.cancelRequested
  | start _ h | retire _ h | requireReconciliation _ h => exact .inl h.cancelRequested
  | confirm _ _ _ _ _ h => exact .inl h.cancelRequested
  | failAttempt _ h => exact .inl h.cancelRequested
  | acceptCurrent _ _ _ _ _ _ _ h | dismiss _ _ _ h | abandon _ _ _ h => exact .inl h.cancelRequested
  | approve _ h | deny _ h => exact .inl h.cancelRequested
  | cancel _ _ _ _ requested => exact .inr requested

/-- A commit leaves the status, or moves it on from one that has not ended the task. -/
theorem Allowed.status_moves (h : Allowed c v r) : r.task.status = v.record.task.status ∨
    v.record.task.status.isTerminal = false ∧ r.task.status ≠ .pending := by
  cases h with
  | ordinary _ _ _ h => exact .inr ⟨h.live, h.started⟩
  | prepare _ _ _ _ _ h => exact .inl (by rw [h.task])
  | start _ h | retire _ h | requireReconciliation _ h => exact .inl (by rw [h.task])
  | confirm _ _ _ _ terminal h =>
    refine .inr ⟨by rw [h.running]; rfl, ?_⟩
    rw [h.status]
    cases terminal with
    | none => decide
    | some t => rcases h.endsIn t rfl with ht | ht <;> simp [ht]
  | failAttempt _ h => exact .inr ⟨by rw [h.running]; rfl, by simp [h.task]⟩
  | acceptCurrent _ _ _ _ _ _ _ _ task =>
    left
    rw [task, Task.chargeSuccess]
    split <;> rfl
  | dismiss _ _ _ _ task => exact .inl (by rw [task])
  | abandon _ _ _ _ status task => exact .inr ⟨TaskStatus.canBecome_terminal status, by simp [task]⟩
  | approve _ _ task => exact .inl (by rw [task])
  | deny _ h task => exact .inr ⟨by rw [h.waiting]; rfl, by simp [task]⟩
  | cancel _ live task => exact .inr ⟨live, by simp [task]⟩

/-- A commit that asks for an approval or asks for none leaves the others as they are. -/
theorem After.approvals_kept (ha : After v now r v') (hu : r.approvalUpdate = none) :
    ∀ a ∈ v.approvals, ∃ b ∈ v'.approvals, a.Keeps b := by
  intro a hmem
  refine ⟨a, ?_, .refl a⟩
  rw [ha.approvals.mem_iff]
  simp only [IterationRequest.approvals, approvalsAfter, hu]
  exact List.mem_append_left _ hmem

/-- An answer replaces the pending approval only. -/
theorem After.approvals_answered {pending : ApprovalRecord} {status : ApprovalStatus}
    (hids : (v.approvals.map (·.approval.id)).Nodup) (hr : Answer v r pending status) (ha : After v now r v') :
    ∀ a ∈ v.approvals, ∃ b ∈ v'.approvals, a.Keeps b := by
  intro a hmem
  obtain ⟨at', reason, hs, hu⟩ := hr.approvalUpdate
  obtain ⟨hpending, hstatus⟩ := mem_of_pendingOf hr.asked
  have hmap : ∀ b, b ∈ v'.approvals ↔ ∃ a ∈ v.approvals,
      (if a.approval.id = pending.approval.id then resolvedRecord pending.approval status at' reason hs else a) = b := by
    intro b
    rw [ha.approvals.mem_iff]
    simp only [IterationRequest.approvals, approvalsAfter, hu, hr.approvalCreate, Option.toList_none, List.append_nil,
      List.mem_map]
    rfl
  by_cases hid : a.approval.id = pending.approval.id
  · have heq : a = pending := List.inj_on_of_nodup_map hids hmem hpending hid
    refine ⟨resolvedRecord pending.approval status at' reason hs, (hmap _).2 ⟨a, hmem, if_pos hid⟩, ?_⟩
    rw [heq]
    exact ⟨⟨rfl, rfl, rfl, rfl⟩, fun hne => absurd hstatus hne⟩
  · exact ⟨a, (hmap a).2 ⟨a, hmem, if_neg hid⟩, .refl a⟩

theorem Allowed.approvals_grow (h : Allowed c v r) (hids : (v.approvals.map (·.approval.id)).Nodup)
    (ha : After v now r v') : ∀ a ∈ v.approvals, ∃ b ∈ v'.approvals, a.Keeps b := by
  cases h with
  | ordinary _ _ _ h => exact ha.approvals_kept h.approvalUpdate
  | prepare _ _ _ _ _ h => exact ha.approvals_kept h.approvalUpdate
  | start _ h | retire _ h | requireReconciliation _ h => exact ha.approvals_kept h.approvalUpdate
  | confirm _ _ _ _ _ h => exact ha.approvals_kept h.approvalUpdate
  | failAttempt _ h => exact ha.approvals_kept h.approvalUpdate
  | acceptCurrent _ _ _ _ _ _ _ h | dismiss _ _ _ h | abandon _ _ _ h => exact ha.approvals_kept h.approvalUpdate
  | approve _ h | deny _ h => exact ha.approvals_answered hids h
  | cancel _ _ _ _ _ update => exact ha.approvals_kept update

theorem Allowed.grows (h : Allowed c v r) (hids : (v.approvals.map (·.approval.id)).Nodup) (ha : After v now r v') :
    v.Grows v' where
  id := by rw [ha.record]; exact h.task_eq.1
  specification := by rw [ha.record]; exact h.task_eq.2
  createdAt := by rw [ha.record]; exact h.task_grows.1
  events := by rw [ha.events]; exact List.prefix_append _ _
  totalSpend := by rw [ha.totalSpend]; exact h.task_grows.2
  iterations := by rw [ha.runtimeState]; exact h.iterations_le
  cancelRequested hc := by
    rw [ha.cancelRequested h]
    rcases h.cancelRequested_eq with hn | ht
    · rw [hn]; exact hc
    · rw [ht]; rfl
  status := by rw [ha.status]; exact h.status_moves
  approvals := h.approvals_grow hids ha

/-! ## A run -/

/-- A change of a reached state lets the records of the task grow. -/
theorem Change.grows {p : Process} (hs : SystemOk c id s) (hc : Change c id p s s') (hv : viewOf id s.store = some v) :
    ∃ w, viewOf id s'.store = some w ∧ v.Grows w := by
  cases hc with
  | silent h => exact ⟨v, h ▸ hv, .refl v⟩
  | created _ _ _ _ before => rw [hv] at before; cases before
  | committed u u' now r before allowed _ commit after =>
    rw [hv] at before
    cases before
    exact ⟨u', after, allowed.grows (hs.task v hv).approvals.ids commit⟩
  | executed _ _ _ _ h => exact ⟨v, by rw [h]; exact hv, .refl v⟩
  | returned _ _ h => exact ⟨v, by rw [h]; exact hv, .refl v⟩

/-- **What is committed stays.** Whatever the processes do later, in any interleaving and with any crash, the
records of a task keep the earlier ones. -/
theorem records_grow {config config' : Config Op Ret Process System} (h : Runs c id config)
    (hv : viewOf id config.shared.store = some v)
    (hlater : Config.Steps (protocol c id) (Started c id) config config') :
    ∃ w, viewOf id config'.shared.store = some w ∧ v.Grows w := by
  have hkept : Reach c id config'.shared ∧ ∃ w, viewOf id config'.shared.store = some w ∧ v.Grows w :=
    (h.moves hlater).preserves (I := fun s => Reach c id s ∧ ∃ w, viewOf id s.store = some w ∧ v.Grows w)
      (fun p s s' hs hm => by
        obtain ⟨hreach, w, hw, hgrows⟩ := hs
        obtain ⟨u, hu, hgrows'⟩ := (hreach.system.change hm).grows hreach.system hw
        exact ⟨hreach.move hm, u, hu, hgrows.trans hgrows'⟩) ⟨h.reach, v, hv, .refl v⟩
  exact hkept.2

theorem records_grow_till : ∃ w, viewOf (.int 1) Till.completedResumedConfig.shared.store = some w ∧
    Till.approvedView.Grows w :=
  records_grow Till.approvedConfig_runs Till.approvedView_eq Till.completedResumedConfig_later

end SimPilot
