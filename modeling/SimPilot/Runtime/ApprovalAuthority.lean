import SimPilot.Runtime.AttemptHistory
/-!
# The authority of an approval

| here | there |
| --- | --- |
| `NeedsApproval` | `approval_needed` (`runtime/iteration.py:373-379`), read back from the batch that prepared the action |
| `Granted` | `RuntimeEngine.approve` (`runtime/engine.py:225-253`) |
| `Spent` | the approved-once action of an attempt that was started is picked up by no further attempt |

An approved-once action is put down by `approve`, picked up by the preparation of an
attempt, and cleared by the commit or the recovery that settles that attempt. What happens
in between is what keeps an approval from being used twice.
-/

namespace SimPilot
open Effect

variable {c : Conditions} {id : UUID} {s s' : System} {v v' : TaskView} {r : IterationRequest} {now : Timestamp}

/-- An operator granted the approval `x` for the action, with `approve`. -/
def Granted (x : UUID) (action : Action) (trace : List TraceEvent) : Prop :=
  ∃ p v r record, .committed p v r ∈ trace ∧ r.eventDrafts = [⟨.approvalGranted, [("approval_id", .uuid x)]⟩] ∧
    r.approvalUpdate = some record ∧ record.approval.id = x ∧ record.approval.status = .approved ∧
    record.approval.action = action

theorem Granted.append {x : UUID} {action : Action} {trace : List TraceEvent} (h : Granted x action trace)
    (more : List TraceEvent) : Granted x action (trace ++ more) := by
  obtain ⟨p, v, r, record, hmem, hrest⟩ := h
  exact ⟨p, v, r, record, List.mem_append_left _ hmem, hrest⟩

/-- The batch prepares the attempt. -/
def PreparesAttempt (r : IterationRequest) (actionId : UUID) : Prop :=
  ∃ d ∈ r.eventDrafts, d.eventType = .actionPrepared ∧ d.payload.get "action_id" = some (.uuid actionId)

/-- An attempt was started on the authority of the approval `x`. -/
def StartedOn (x : UUID) (trace : List TraceEvent) : Prop :=
  ∃ p v r actionId, .committed p v r ∈ trace ∧ StartsExecution r actionId ∧
    v.record.runtimeState.approvedApprovalId = some x

/-! ## What a commit does to the approved-once action -/

inductive ApprovalChange (v : TaskView) (r : IterationRequest) : Prop
  | same (h : SameApproval r.runtimeState v.record.runtimeState)
  | used (action : r.runtimeState.approvedOnceAction = none) (id : r.runtimeState.approvedApprovalId = none)
  | granted (pending : ApprovalRecord) (h : Answer v r pending .approved)
      (action : r.runtimeState.approvedOnceAction = some pending.approval.action)
      (id : r.runtimeState.approvedApprovalId = some pending.approval.id)
      (drafts : r.eventDrafts = [⟨.approvalGranted, [("approval_id", .uuid pending.approval.id)]⟩])

theorem Allowed.approval_change (h : Allowed c v r) : ApprovalChange v r := by
  have hrefl : r.runtimeState = v.record.runtimeState → ApprovalChange v r := by
    intro he
    exact .same ⟨by rw [he], by rw [he], by rw [he]⟩
  cases h with
  | ordinary _ _ _ h => exact .same h.approval
  | prepare _ _ _ _ _ h => exact .same h.approval
  | start _ h | retire _ h | requireReconciliation _ h => exact .same h.approval
  | confirm _ _ _ _ _ h => exact .used h.approval.1 h.approval.2
  | failAttempt _ h =>
    rcases h.approval with hs | ⟨haction, hid⟩
    · exact .same hs
    · exact .used haction hid
  | acceptCurrent _ _ _ _ _ _ _ h | dismiss _ _ _ h | abandon _ _ _ h => exact .used h.approval.1 h.approval.2
  | approve pending h _ state drafts => exact .granted pending h (by rw [state]) (by rw [state]) drafts
  | deny _ _ _ state => exact hrefl state
  | cancel _ _ _ state => exact hrefl state

/-- What is resolved stays as it is. -/
theorem Allowed.approved_stays (h : Allowed c v r) (ha : After v now r v')
    (hok : ApprovalsAgree c v.approvals v.record.task.status v.record.runtimeState) {a : ApprovalRecord}
    (hmem : a ∈ v.approvals) (hs : a.approval.status = .approved) : a ∈ v'.approvals := by
  have hkeep : r.approvalUpdate = none → a ∈ v'.approvals := by
    intro hu
    rw [ha.approvals.mem_iff]
    simp only [IterationRequest.approvals, approvalsAfter, hu]
    exact List.mem_append_left _ hmem
  have hanswer : ∀ {pending : ApprovalRecord} {status : ApprovalStatus}, Answer v r pending status → a ∈ v'.approvals := by
    intro pending status h
    obtain ⟨at', reason, hne, hu⟩ := h.approvalUpdate
    obtain ⟨hp, hps⟩ := mem_of_pendingOf h.asked
    rw [ha.approvals.mem_iff]
    simp only [IterationRequest.approvals, approvalsAfter, hu, h.approvalCreate, Option.toList_none, List.append_nil]
    refine List.mem_map.2 ⟨a, hmem, if_neg fun heq => ?_⟩
    -- the record that was answered was pending
    have hsame : a = pending := List.inj_on_of_nodup_map hok.ids hmem hp heq
    rw [hsame, hps] at hs
    cases hs
  cases h with
  | ordinary _ _ _ h => exact hkeep h.approvalUpdate
  | prepare _ _ _ _ _ h => exact hkeep h.approvalUpdate
  | start _ h | retire _ h | requireReconciliation _ h => exact hkeep h.approvalUpdate
  | confirm _ _ _ _ _ h => exact hkeep h.approvalUpdate
  | failAttempt _ h => exact hkeep h.approvalUpdate
  | acceptCurrent _ _ _ _ _ _ _ h | dismiss _ _ _ h | abandon _ _ _ h => exact hkeep h.approvalUpdate
  | approve _ h | deny _ h => exact hanswer h
  | cancel _ _ _ _ _ hu => exact hkeep hu

/-! ## Approved-once actions that are not picked up again -/

/-- Nothing is prepared on these records before the approved-once action is cleared: its
attempt was started, or the task has ended. -/
def Spent (v : TaskView) : Prop :=
  (∃ a, unresolvedActionAttempt v.events = .ok (some a) ∧ a.status ≠ .prepared) ∨
    unresolvedActionAttempt v.events = .ok none ∧ v.record.task.status.isTerminal = true

/-- A commit on such records leaves such records, or clears the action. -/
theorem Spent.step (h : Spent v) (hr : Allowed c v r) (ha : After v now r v') (hj : JournalOk id v) :
    Spent v' ∨ r.runtimeState.approvedOnceAction = none ∧ r.runtimeState.approvedApprovalId = none := by
  rcases h with ⟨a, hu, hs⟩ | ⟨hu, ht⟩
  swap
  · rw [hr.live hu] at ht
    cases ht
  have hsame : ∀ {b : ActionAttempt}, unresolvedActionAttempt v.events = .ok (some b) → b.status ≠ .prepared := by
    intro b hb
    rw [hu] at hb
    cases hb
    exact hs
  have hn : v.record.task.sequence ≤ v'.record.task.sequence := by
    have := hr.sequence ha
    omega
  cases (hr.attempts ha hj.attempts hj.task).2 with
  | idle _ _ _ h => rw [h.resolved] at hu; cases hu
  | prepared _ _ _ _ _ _ h => rw [h.resolved] at hu; cases hu
  | answered _ _ _ unchanged => exact .inl (.inl ⟨a, unchanged.trans hu, hs⟩)
  | cancelled _ _ unchanged => exact .inl (.inl ⟨a, unchanged.trans hu, hs⟩)
  | started b _ h _ _ prepared => exact (hsame h.unresolved prepared).elim
  | flagged b b' _ _ _ _ status now => exact .inl (.inl ⟨b', now, by rw [status]; decide⟩)
  | settled b before now =>
    -- a settled attempt was confirmed, failed with its task, or resolved by an operator
    have hquiet : ¬ NoAttempt r.eventDrafts := by
      intro hno
      have := (ha.attempts_same hj.attempts hno hn).2
      rw [now, hu] at this
      cases this
    cases hr with
    | ordinary _ _ _ h => rw [h.resolved] at hu; cases hu
    | prepare _ _ _ _ _ h => rw [h.resolved] at hu; cases hu
    | start b h prepared => exact (hsame h.unresolved prepared).elim
    | retire b h prepared => exact (hsame h.unresolved prepared).elim
    | confirm _ _ _ _ _ h => exact .inr h.approval
    | failAttempt _ h =>
      refine .inl (.inr ⟨now, ?_⟩)
      rw [ha.status, h.task]
      rfl
    | acceptCurrent _ _ _ _ _ _ _ h | dismiss _ _ _ h | abandon _ _ _ h => exact .inr h.approval
    | requireReconciliation b h prepared flagged drafts =>
      -- the attempt that is flagged stays unresolved
      obtain ⟨hf, hc⟩ := hj.attempts.unresolved_status h.unresolved
      have hstarted : b.status = .executionStarted := by
        cases hst : b.status <;> simp_all [ActionAttemptStatus.isFinal]
      obtain ⟨-, b', -, -, hb'⟩ := ha.attempts_mark hj.attempts h.unresolved [] [] .reconciliationRequired drafts
        (by simp [NoAttempt]) (by simp [NoAttempt]) ⟨rfl, by decide, rfl, .inl rfl⟩ (by rw [hstarted]; rfl) (by decide) hn
      rw [now] at hb'
      cases hb'
    | approve _ _ _ _ drafts => exact (hquiet (by rw [drafts]; simp [NoAttempt, RuntimeEventType.attemptStatus])).elim
    | deny _ _ _ _ drafts =>
      exact (hquiet (by rw [drafts]; simp [NoAttempt, reasonDraft, RuntimeEventType.attemptStatus])).elim
    | cancel _ _ _ _ _ _ _ drafts =>
      exact (hquiet (by rw [drafts]; simp [NoAttempt, reasonDraft, RuntimeEventType.attemptStatus])).elim

/-! ## Prepared attempts -/

/-- A batch prepares at most one attempt, under a new id. -/
theorem Reach.prepares_new (h : Reach c id s) (hv : viewOf id s.store = some v) (hr : Allowed c v r) {actionId : UUID}
    (hp : PreparesAttempt r actionId) : ∀ p w r', .committed p w r' ∈ s.trace →
      ¬ PreparesAttempt r' actionId ∧ ¬ StartsExecution r' actionId := by
  obtain ⟨d, hd, ht, hi⟩ := hp
  rcases hr.noPreparation with hno | ⟨quiet, action, checkpoint, before, cost, hprep, -⟩
  · exact (hno d hd ht).elim
  have hj := (h.system.task v hv).journal
  have hid : actionId = attemptIdAt id (v.record.task.sequence + quiet.length + 1) := by
    rw [hprep.drafts] at hd
    rcases List.mem_append.1 hd with hd | hd
    · exact (hprep.isQuiet.noAttempt.noPreparation d hd ht).elim
    · rw [List.mem_singleton] at hd
      rw [hd] at hi
      rw [← hj.task]
      simpa [preparedDraft] using hi.symm
  obtain ⟨as, has, hok⟩ := hj.attempts
  -- an event about this attempt would be about one of the journal
  have hnone : ∀ d' ∈ SimPilot.journal s.trace, ∀ status, d'.eventType.attemptStatus = some status →
      d'.payload.get "action_id" ≠ some (.uuid actionId) := by
    intro d' hd' status ht' hi'
    obtain ⟨e, he, hte, hpe⟩ := h.event_of_draft hv hd'
    have hide : attemptId e.payload = .ok actionId := by rw [hpe]; simp [attemptId, hi']
    obtain ⟨a, ha, hida, -⟩ := attempt_of_event has e he (hte ▸ ht') hide
    obtain ⟨k, hk, hka⟩ := hok.ids a ha
    rw [hida, hid] at hka
    have := AttemptsOk.attemptIdAt_injective id hka
    omega
  intro p w r' hmem
  constructor
  · rintro ⟨d', hd', ht', hi'⟩
    exact hnone d' (mem_journal.2 ⟨_, hmem, hd'⟩) .prepared (by rw [ht']; rfl) hi'
  · intro hs
    refine hnone (startDraft actionId) (mem_journal.2 ⟨_, hmem, ?_⟩) .executionStarted rfl rfl
    change startDraft actionId ∈ r'.eventDrafts
    rw [show r'.eventDrafts = [startDraft actionId] from hs]
    simp

/-- Behind a commit a prepared attempt is one prepared now, or one of before, whose
approved-once action stays. -/
theorem Allowed.prepared_attempt (h : Allowed c v r) (ha : After v now r v') (hok : TaskOk c id v) {a : ActionAttempt}
    (hu : unresolvedActionAttempt v'.events = .ok (some a)) (hs : a.status = .prepared) :
    (∃ quiet action checkpoint before cost, Prepare v r quiet action checkpoint before cost ∧ a.action = action ∧
        PreparesAttempt r a.actionId) ∨
      unresolvedActionAttempt v.events = .ok (some a) ∧ NoPreparation r.eventDrafts ∧
        r.runtimeState.approvedOnceAction = v.record.runtimeState.approvedOnceAction := by
  have hopen : ∀ {b}, unresolvedActionAttempt v.events = .ok (some b) → v.record.task.status ≠ .waitingForApproval := by
    intro b hb hw
    rcases hok.status.attempt b hb with he | he <;> (rw [hw] at he; cases he)
  cases (h.attempts ha hok.journal.attempts hok.journal.task).2 with
  | idle _ _ _ _ now => rw [now] at hu; cases hu
  | settled _ _ now => rw [now] at hu; cases hu
  | answered _ _ answer unchanged => exact (hopen (unchanged ▸ hu) answer.waiting).elim
  | cancelled _ requested unchanged =>
    rw [unchanged] at hu
    rcases h.noPreparation with hno | ⟨_, _, _, _, _, hp, -⟩
    · refine .inr ⟨hu, hno, ?_⟩
      cases h.approval_change with
      | same h => exact h.action
      | granted _ answer => exact (hopen hu answer.waiting).elim
      | used =>
        -- the action is cleared by commits that cancel nothing
        cases h with
        | ordinary _ _ _ h => rw [h.resolved] at hu; cases hu
        | prepare _ _ _ _ _ h => rw [h.cancelRequested] at requested; cases requested
        | start _ h | retire _ h | requireReconciliation _ h => rw [h.cancelRequested] at requested; cases requested
        | confirm _ _ _ _ _ h => rw [h.cancelRequested] at requested; cases requested
        | failAttempt _ h => rw [h.cancelRequested] at requested; cases requested
        | acceptCurrent _ _ _ _ _ _ _ h | dismiss _ _ _ h | abandon _ _ _ h =>
          rw [h.cancelRequested] at requested
          cases requested
        | approve _ h | deny _ h => rw [h.cancelRequested] at requested; cases requested
        | cancel _ _ _ state => rw [state]
    · rw [hp.resolved] at hu; cases hu
  | prepared quiet action checkpoint before cost b hp now as =>
    rw [now] at hu
    cases hu
    refine .inl ⟨quiet, action, checkpoint, before, cost, hp, as.action, ?_⟩
    rw [as.id]
    exact ⟨_, by rw [hp.drafts]; exact List.mem_append_right _ (List.mem_singleton_self _), rfl, rfl⟩
  | started b b' _ _ _ _ _ status now =>
    rw [now] at hu
    cases hu
    rw [status] at hs
    cases hs
  | flagged b b' _ _ _ _ status now =>
    rw [now] at hu
    cases hu
    rw [status] at hs
    cases hs

/-! ## Authority along a run -/

/-- What the approved-once action of a task says of the history. -/
structure AuthorityOk (s : System) (v : TaskView) : Prop where
  granted : ∀ x ∈ v.record.runtimeState.approvedApprovalId, ∃ action,
    v.record.runtimeState.approvedOnceAction = some action ∧ Granted x action s.trace
  /-- An attempt is prepared for the approved-once action, and for another only where no
  approval was needed. -/
  prepared : ∀ a, unresolvedActionAttempt v.events = .ok (some a) → a.status = .prepared →
    (∀ action ∈ v.record.runtimeState.approvedOnceAction, action = a.action) ∧
      ∀ p w r, .committed p w r ∈ s.trace → PreparesAttempt r a.actionId → NeedsApproval r.eventDrafts →
        v.record.runtimeState.approvedOnceAction.isSome = true
  started : ∀ x, StartedOn x s.trace → ∃ a ∈ v.approvals, a.approval.id = x ∧ a.approval.status = .approved
  spent : ∀ x, StartedOn x s.trace → v.record.runtimeState.approvedApprovalId = some x → Spent v

theorem NeedsApproval.of_prepared {quiet : List EventDraft} {actionId : UUID} {action : Action}
    {checkpoint : Option SimulationCheckpoint} {before : Observation} {cost : ℚ}
    (h : NeedsApproval (quiet ++ [preparedDraft actionId action checkpoint before cost])) : NeedsApproval quiet := by
  obtain ⟨d, hd, h⟩ := h
  rcases List.mem_append.1 hd with hd | hd
  · exact ⟨d, hd, h⟩
  · rw [List.mem_singleton] at hd
    subst hd
    rcases h with ⟨ht, -⟩ | ⟨ht, -⟩ <;> cases ht

theorem AuthorityOk.step {s' : System} {p : Process} (h : AuthorityOk s v) (hs : Reach c id s)
    (hv : viewOf id s.store = some v) (hr : Allowed c v r) (ha : After v now r v')
    (ht : s'.trace = s.trace ++ [.committed p v r]) : AuthorityOk s' v' := by
  have hok := hs.system.task v hv
  have happrovals := hok.approvals
  -- a start of the history is one of before, or the commit of now
  have hstarted : ∀ {x}, StartedOn x s'.trace → StartedOn x s.trace ∨
      ∃ actionId, StartsExecution r actionId ∧ v.record.runtimeState.approvedApprovalId = some x := by
    rintro x ⟨q, w, r', actionId, hmem, hstart, hx⟩
    rw [ht] at hmem
    rcases List.mem_append.1 hmem with hmem | hmem
    · exact .inl ⟨q, w, r', actionId, hmem, hstart, hx⟩
    · rw [List.mem_singleton] at hmem
      cases hmem
      exact .inr ⟨actionId, hstart, hx⟩
  have happroved : ∀ {x}, StartedOn x s'.trace → ∃ a ∈ v.approvals, a.approval.id = x ∧ a.approval.status = .approved := by
    intro x hx
    rcases hstarted hx with hx | ⟨-, -, hx⟩
    · exact h.started x hx
    · obtain ⟨action, haction, -⟩ := h.granted x hx
      obtain ⟨a, hmem, hid, hst, -⟩ := happrovals.granted action haction
      rw [hx, Option.some.injEq] at hid
      exact ⟨a, hmem, hid, hst⟩
  refine ⟨?_, ?_, ?_, ?_⟩
  · intro x hx
    rw [ha.runtimeState] at hx ⊢
    cases hr.approval_change with
    | same hsame =>
      rw [hsame.id] at hx
      obtain ⟨action, haction, hg⟩ := h.granted x hx
      exact ⟨action, hsame.action.trans haction, ht ▸ hg.append _⟩
    | used _ hid =>
      rw [hid] at hx
      cases hx
    | granted pending answer haction hid drafts =>
      rw [hid] at hx
      cases hx
      obtain ⟨at', reason, hne, hu⟩ := answer.approvalUpdate
      exact ⟨_, haction, p, v, r, _, by rw [ht]; simp, drafts, hu, rfl, rfl, rfl⟩
  · intro a hu hst
    rw [ha.runtimeState]
    rcases hr.prepared_attempt ha hok hu hst with ⟨quiet, action, checkpoint, before, cost, hp, haction, hnew⟩ | ⟨hu', hno, hsame⟩
    · constructor
      · intro b hb
        rw [hp.approval.action] at hb
        rw [hp.picked b hb, haction]
      · intro q w r' hmem hprep hneeds
        rw [ht] at hmem
        rcases List.mem_append.1 hmem with hmem | hmem
        · exact ((hs.prepares_new hv hr hnew q w r' hmem).1 hprep).elim
        · rw [List.mem_singleton] at hmem
          cases hmem
          rw [hp.drafts] at hneeds
          rw [hp.approval.action, hp.authorised hneeds.of_prepared]
          rfl
    · obtain ⟨hpicked, hneeded⟩ := h.prepared a hu' hst
      rw [hsame]
      refine ⟨hpicked, fun q w r' hmem hprep hneeds => ?_⟩
      rw [ht] at hmem
      rcases List.mem_append.1 hmem with hmem | hmem
      · exact hneeded q w r' hmem hprep hneeds
      · rw [List.mem_singleton] at hmem
        cases hmem
        obtain ⟨d, hd, htype, -⟩ := hprep
        exact (hno d hd htype).elim
  · intro x hx
    obtain ⟨a, hmem, hid, hst⟩ := happroved hx
    exact ⟨a, hr.approved_stays ha happrovals hmem hst, hid, hst⟩
  · intro x hx hnow
    rw [ha.runtimeState] at hnow
    cases hr.approval_change with
    | used _ hid => rw [hid] at hnow; cases hnow
    | granted pending answer haction hid drafts =>
      -- what is approved now was pending, and what was started on was approved
      exfalso
      rw [hid, Option.some.injEq] at hnow
      obtain ⟨a, hmem, haid, hast⟩ := happroved hx
      obtain ⟨hpmem, hpst⟩ := mem_of_pendingOf answer.asked
      have hsame : a = pending := List.inj_on_of_nodup_map happrovals.ids hmem hpmem (haid.trans hnow.symm)
      rw [hsame, hpst] at hast
      cases hast
    | same hsame =>
      rw [hsame.id] at hnow
      rcases hstarted hx with hx | ⟨actionId, hstart, -⟩
      · rcases (h.spent x hx hnow).step hr ha hok.journal with hspent | ⟨-, hnone⟩
        · exact hspent
        · rw [hsame.id, hnow] at hnone
          cases hnone
      · obtain ⟨a, hu, haid, hprep, -⟩ := hr.starts hstart
        obtain ⟨-, a', -, hst, hu'⟩ := ha.attempts_mark hok.journal.attempts hu [] [] (d := startDraft a.actionId)
          .executionStarted (by rw [haid]; exact hstart) (by simp [NoAttempt]) (by simp [NoAttempt]) ⟨rfl, by decide, rfl, .inl rfl⟩
          (by rw [hprep]; rfl) (by decide) (by have := hr.sequence ha; omega)
        exact .inl ⟨a', hu', by rw [hst]; decide⟩

theorem Reach.authority (h : Reach c id s) (hv : viewOf id s.store = some v) : AuthorityOk s v := by
  have hall : (viewOf id s.store = none → ∀ x, ¬ StartedOn x s.trace) ∧ ∀ v, viewOf id s.store = some v → AuthorityOk s v := by
    refine Reach.induct (I := fun s => (viewOf id s.store = none → ∀ x, ¬ StartedOn x s.trace) ∧
      ∀ v, viewOf id s.store = some v → AuthorityOk s v) ?_ ?_ h
    · refine ⟨?_, ?_⟩
      · rintro - x ⟨_, _, _, _, hmem, -⟩
        cases hmem
      · rintro v ⟨⟩
    · rintro p s s' hs ⟨hunborn, ih⟩ hc
      -- an event that is no commit changes neither the records nor what was granted and started
      have hother : ∀ {e : TraceEvent}, s'.store = s.store → s'.trace = s.trace ++ [e] →
          (∀ q w r, e ≠ .committed q w r) → (viewOf id s'.store = none → ∀ x, ¬ StartedOn x s'.trace) ∧
            ∀ v, viewOf id s'.store = some v → AuthorityOk s' v := by
        intro e hstore ht he
        have hold : ∀ {q w r}, .committed q w r ∈ s'.trace → .committed q w r ∈ s.trace := by
          intro q w r hmem
          rw [ht] at hmem
          rcases List.mem_append.1 hmem with hmem | hmem
          · exact hmem
          · rw [List.mem_singleton] at hmem
            exact (he q w r hmem.symm).elim
        have hstarted : ∀ {x}, StartedOn x s'.trace → StartedOn x s.trace := by
          rintro x ⟨q, w, r, actionId, hmem, hrest⟩
          exact ⟨q, w, r, actionId, hold hmem, hrest⟩
        rw [hstore]
        refine ⟨fun hn x hx => hunborn hn x (hstarted hx), fun v hv => ?_⟩
        obtain ⟨hgranted, hprepared, hst, hspent⟩ := ih v hv
        refine ⟨fun x hx => ?_, fun a hu hs => ?_, fun x hx => hst x (hstarted hx), fun x hx => hspent x (hstarted hx)⟩
        · obtain ⟨action, haction, hg⟩ := hgranted x hx
          exact ⟨action, haction, ht ▸ hg.append _⟩
        · exact ⟨(hprepared a hu hs).1, fun q w r hmem => (hprepared a hu hs).2 q w r (hold hmem)⟩
      cases hc with
      | silent h => exact h ▸ ⟨hunborn, ih⟩
      | created task hid hst hq before after ok trace =>
        have hnone : ∀ x, ¬ StartedOn x s'.trace := by
          rintro x ⟨q, w, r, actionId, hmem, hrest⟩
          rw [trace] at hmem
          rcases List.mem_append.1 hmem with hmem | hmem
          · exact hunborn before x ⟨q, w, r, actionId, hmem, hrest⟩
          · rw [List.mem_singleton] at hmem
            cases hmem
        refine ⟨fun _ => hnone, fun v hv => ?_⟩
        rw [after] at hv
        cases hv
        refine ⟨?_, ?_, fun x hx => (hnone x hx).elim, fun x hx => (hnone x hx).elim⟩
        · rintro x ⟨⟩
        · intro a hu
          cases hu
      | committed w w' now r before allowed meets commit after ok trace =>
        refine ⟨fun hn => ?_, fun v hv => ?_⟩
        · rw [after] at hn
          cases hn
        · rw [after] at hv
          cases hv
          exact (ih w before).step hs before allowed commit trace
      | executed _ _ _ _ h => exact hother (by rw [h]) (by rw [h]) (by rintro q w r ⟨⟩)
      | returned _ _ h => exact hother (by rw [h]) (by rw [h]) (by rintro q w r ⟨⟩)
  exact hall.2 v hv

/-- No attempt is started on an approval that another was started on. -/
theorem Reach.starts_once (h : Reach c id s) {pre post : List TraceEvent} {p : Process} {x actionId : UUID}
    (ht : s.trace = pre ++ .committed p v r :: post) (hs : StartsExecution r actionId)
    (hx : v.record.runtimeState.approvedApprovalId = some x) : ¬ StartedOn x pre := by
  intro hstarted
  obtain ⟨s₀, hs₀, hv, rfl, hr⟩ := (h.before ht).committed
  obtain ⟨a, hu, -, hprep, -⟩ := hr.starts hs
  rcases (hs₀.authority hv).spent x hstarted hx with ⟨b, hb, hst⟩ | ⟨hnone, -⟩
  · rw [hu] at hb
    cases hb
    exact hst hprep
  · rw [hu] at hnone
    cases hnone

/-- Two attempts started on one approval are the same. -/
theorem Reach.started_same (h : Reach c id s) {x : UUID} {p p' : Process} {v' : TaskView} {r' : IterationRequest}
    {actionId actionId' : UUID} (hmem : .committed p v r ∈ s.trace) (hs : StartsExecution r actionId)
    (hx : v.record.runtimeState.approvedApprovalId = some x) (hmem' : .committed p' v' r' ∈ s.trace)
    (hs' : StartsExecution r' actionId') (hx' : v'.record.runtimeState.approvedApprovalId = some x) :
    actionId = actionId' := by
  obtain ⟨pre, post, ht⟩ := List.append_of_mem hmem
  rw [ht] at hmem'
  rcases List.mem_append.1 hmem' with hmem' | hmem'
  · exact (h.starts_once ht hs hx ⟨p', v', r', actionId', hmem', hs', hx'⟩).elim
  rcases List.mem_cons.1 hmem' with heq | hmem'
  · cases heq
    rw [StartsExecution, show r.eventDrafts = [startDraft actionId] from hs] at hs'
    simpa [startDraft, attemptDraft] using hs'
  · obtain ⟨mid, post', rfl⟩ := List.append_of_mem hmem'
    have ht' : s.trace = (pre ++ .committed p v r :: mid) ++ .committed p' v' r' :: post' := by
      rw [ht]
      simp
    exact (h.starts_once ht' hs' hx' ⟨p, v, r, actionId, by simp, hs, hx⟩).elim

/-- The attempts executed on the authority of an approval. -/
def executedOn (x : UUID) (trace : List TraceEvent) : List UUID :=
  (trace.filter fun e => match e with
    | .executed _ _ authority _ => decide (authority = some x)
    | _ => false).filterMap (·.executedId)

/-- The start behind an execution, and the records it was committed on. -/
theorem Reach.execution_start (h : Reach c id s) {pre post : List TraceEvent} {p : Process} {actionId : UUID}
    {authority : Option UUID} {action : Action} (ht : s.trace = pre ++ .executed p actionId authority action :: post) :
    ∃ before after v r attempt s₀, pre = before ++ .committed p v r :: after ∧ StartsExecution r actionId ∧
      Reach c id s₀ ∧ viewOf id s₀.store = some v ∧ s₀.trace = before ∧
      unresolvedActionAttempt v.events = .ok (some attempt) ∧ attempt.actionId = actionId ∧ attempt.status = .prepared ∧
      attempt.action = action ∧ authority = v.record.runtimeState.approvedApprovalId := by
  obtain ⟨s₁, hs₁, rfl, v, r, attempt, hlast, hstart, hu, haction, hauth⟩ := (h.before ht).executed
  obtain ⟨before, after, hsplit⟩ := List.append_of_mem (mem_of_lastOf hlast)
  obtain ⟨s₀, hs₀, hv, rfl, hr⟩ := (hs₁.before hsplit).committed
  obtain ⟨a, hu', haid, hprep, -⟩ := hr.starts hstart
  rw [hu] at hu'
  cases hu'
  exact ⟨_, after, v, r, attempt, s₀, hsplit, hstart, hs₀, hv, rfl, hu, haid, hprep, haction, hauth⟩

/-- **Approval authority is exact and one-shot**: what is executed on the authority of an
approval is the action an operator granted it for, an action that needed an approval is
executed on the authority of one, and no approval authorises two executions. -/
theorem approval_authority {config : Config Op Ret Process System} (h : Runs c id config) :
    (∀ pre post p actionId authority action,
      config.shared.trace = pre ++ .executed p actionId authority action :: post →
        (∀ x ∈ authority, Granted x action pre) ∧
          ∀ q w r, .committed q w r ∈ pre → PreparesAttempt r actionId → NeedsApproval r.eventDrafts →
            ∃ x, authority = some x ∧ Granted x action pre) ∧
      ∀ x, (executedOn x config.shared.trace).length ≤ 1 := by
  constructor
  · intro pre post p actionId authority action ht
    obtain ⟨before, after, v, r, attempt, s₀, hsplit, hstart, hs₀, hv, rfl, hu, haid, hprep, haction, hauth⟩ :=
      h.reach.execution_start ht
    obtain ⟨hgranted, hprepared, -, -⟩ := hs₀.authority hv
    obtain ⟨hpicked, hneeded⟩ := hprepared attempt hu hprep
    have hexact : ∀ x ∈ authority, Granted x action pre := by
      intro x hx
      rw [hauth] at hx
      obtain ⟨granted, hsome, hg⟩ := hgranted x hx
      rw [hpicked granted hsome, haction] at hg
      exact hsplit ▸ hg.append _
    refine ⟨hexact, fun q w r' hmem hnew hneeds => ?_⟩
    have hisSome : v.record.runtimeState.approvedOnceAction.isSome = true := by
      rw [hsplit] at hmem
      rcases List.mem_append.1 hmem with hmem | hmem
      · exact hneeded q w r' hmem (by rw [haid]; exact hnew) hneeds
      rcases List.mem_cons.1 hmem with heq | hmem
      · cases heq
        obtain ⟨d, hd, htype, -⟩ := hnew
        rw [StartsExecution] at hstart
        rw [hstart, List.mem_singleton] at hd
        rw [hd] at htype
        cases htype
      · -- an attempt is not prepared once it was started
        obtain ⟨mid, after', rfl⟩ := List.append_of_mem hmem
        have ht' : config.shared.trace = (s₀.trace ++ .committed p v r :: mid) ++ .committed q w r' ::
            (after' ++ .executed p actionId authority action :: post) := by
          rw [ht, hsplit]
          simp
        obtain ⟨s₂, hs₂, hw, htrace, hr'⟩ := (h.reach.before ht').committed
        exact ((hs₂.prepares_new hw hr' hnew p v r (by rw [htrace]; simp)).2 hstart).elim
    have hid := (hs₀.system.task v hv).approvals.identity
    rw [Option.isSome_iff_ne_none] at hisSome
    cases hx : v.record.runtimeState.approvedApprovalId with
    | none =>
      rw [hx] at hid
      exact (hisSome (by simpa using hid)).elim
    | some x => exact ⟨x, by rw [hauth, hx], hexact x (by rw [hauth, hx]; rfl)⟩
  · intro x
    have hsub : (executedOn x config.shared.trace).Sublist (executedIds config.shared.trace) :=
      List.Sublist.filterMap _ List.filter_sublist
    have hnodup := hsub.nodup h.reach.executions.nodup
    have hstart : ∀ actionId ∈ executedOn x config.shared.trace, ∃ p v r, .committed p v r ∈ config.shared.trace ∧
        StartsExecution r actionId ∧ v.record.runtimeState.approvedApprovalId = some x := by
      intro actionId hmem
      simp only [executedOn, List.mem_filterMap, List.mem_filter] at hmem
      obtain ⟨e, ⟨he, hauthority⟩, hid⟩ := hmem
      cases e <;> simp only [TraceEvent.executedId, Option.some.injEq, reduceCtorEq, decide_eq_true_eq] at hid hauthority
      rename_i p _ authority action
      obtain ⟨pre, post, ht⟩ := List.append_of_mem he
      obtain ⟨before, after, v, r, attempt, s₀, hsplit, hst, -, -, -, -, -, -, -, hauth⟩ := h.reach.execution_start ht
      refine ⟨p, v, r, by rw [ht, hsplit]; simp, hid ▸ hst, ?_⟩
      rw [← hauth, hauthority]
    rcases hon : executedOn x config.shared.trace with _ | ⟨a, _ | ⟨b, rest⟩⟩
    · simp
    · simp
    · rw [hon] at hnodup hstart
      obtain ⟨p, v, r, hmem, hs, hx⟩ := hstart a (by simp)
      obtain ⟨p', v', r', hmem', hs', hx'⟩ := hstart b (by simp)
      have hab := h.reach.started_same hmem hs hx hmem' hs' hx'
      simp [hab] at hnodup

theorem approval_authority_till :
    (∀ pre post p actionId authority action,
      Till.approvedConfig.shared.trace = pre ++ .executed p actionId authority action :: post →
        (∀ x ∈ authority, Granted x action pre) ∧
          ∀ q w r, .committed q w r ∈ pre → PreparesAttempt r actionId → NeedsApproval r.eventDrafts →
            ∃ x, authority = some x ∧ Granted x action pre) ∧
      ∀ x, (executedOn x Till.approvedConfig.shared.trace).length ≤ 1 :=
  approval_authority Till.approvedConfig_runs

end SimPilot
