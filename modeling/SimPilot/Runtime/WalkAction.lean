import SimPilot.Runtime.Walk
/-!
# Walking the action transaction

`executeActionTransaction` from the locals of a running task without an unresolved
attempt (`Ready`): it returns with the attempt settled, or it raises and leaves what the
exception handler of the loop relies on (`Interrupted`).
-/

namespace SimPilot
open Effect

variable {c : Conditions} {id : UUID} {p : Process} {σ α : Type} {s : System} {v v' : TaskView} {now : Timestamp}
  {r : IterationRequest}

/-! ## The locals of the loop over the records -/

/-- The locals between attempts; `observed` is an observation that is not recorded yet. -/
structure Ready (c : Conditions) (v : TaskView) (observed : Option Observation) (st : LoopState) : Prop where
  record : v.record = st.current
  running : v.record.task.status = .running
  resolved : unresolvedActionAttempt v.events = .ok none
  answered : pendingOf v.approvals = none
  approval : SameApproval st.runtimeState v.record.runtimeState
  latest : latestAfter v.events observed = some st.observation
  readable : c.faithful → Readable st.observation
  idle : st.activeActionId = none

/-- The locals where an exception was raised that the loop handles. -/
structure Interrupted (c : Conditions) (v : TaskView) (st : LoopState) : Prop where
  record : v.record = st.current
  running : v.record.task.status = .running
  iterations : v.record.runtimeState.iterations ≤ st.runtimeState.iterations
  live : c.faithful → latestAfter v.events none = some st.observation ∧ Readable st.observation
  attempt : (st.activeActionId = none ∧ unresolvedActionAttempt v.events = .ok none ∧ pendingOf v.approvals = none ∧
      SameApproval st.runtimeState v.record.runtimeState) ∨
    ∃ a, st.activeActionId = some a.actionId ∧ unresolvedActionAttempt v.events = .ok (some a) ∧
      a.status = .executionStarted ∧ (SameApproval st.runtimeState v.record.runtimeState ∨
        st.runtimeState.approvedOnceAction = none ∧ st.runtimeState.approvedApprovalId = none)

/-- Where a pass of the loop raised. -/
def Raised (c : Conditions) (id : UUID) (e : PyError) (st : LoopState) (s : System) : Prop :=
  e ≠ .diverged ∧ (Caught e → ∃ v, At c id v s ∧ Interrupted c v st)

/-- An error a commit leaves: the handlers see it of an adapter that is not faithful only. -/
def Blameless (c : Conditions) (e : PyError) : Prop := Escapes c e ∧ (Caught e → ¬ c.faithful)

theorem SameApproval.refl (a : RuntimeSafeguardState) : SameApproval a a := ⟨rfl, rfl, le_refl _⟩

theorem SameApproval.trans {a b d : RuntimeSafeguardState} (h : SameApproval a b) (h' : SameApproval b d) :
    SameApproval a d :=
  ⟨h.action.trans h'.action, h.id.trans h'.id, h'.iterations.trans h.iterations⟩

theorem not_caught_durable {message : String} : ¬ Caught (.durablePersistence message) := fun h => h.2 message rfl

theorem not_caught_crash {point : CrashPoint} : ¬ Caught (.simulatedCrash point) := fun h => by cases h.1

theorem raised_crash {st : LoopState} (point : CrashPoint) : Raised c id (.simulatedCrash point) st s :=
  ⟨(escapes_crash (c := c) point).1, fun h => (not_caught_crash h).elim⟩

/-- What a refused commit raises. -/
theorem Refused.blameless {e : PyError} (h : Refused c id v r e s) (hd : r.eventDrafts ≠ [])
    (hs : ∀ sn ∈ r.adapterSnapshot, c.faithful → ∃ n : Nat, stateTick sn.state = some (n : Int)) : Blameless c e := by
  cases h with
  | store message _ _ => exact ⟨escapes_durable message, fun h => (not_caught_durable h).elim⟩
  | build e s now hb =>
    obtain ⟨⟨sn, hsn, htick⟩, hcaught, hconsistent⟩ := IterationRequest.build_error hd hb
    have hf : ¬ c.faithful := by
      intro hf
      obtain ⟨n, hn⟩ := hs sn hsn hf
      exact htick n hn
    exact ⟨escapes_unfaithful hcaught.1 hf, fun _ => hf⟩

/-- With faithful adapters a commit the store could have accepted is refused because
somebody else committed. -/
theorem Refused.moved {e : PyError} (h : Refused c id v r e s) (hf : c.faithful)
    (hv : ∀ sn ∈ r.adapterSnapshot, sn.simulationSchemaVersion = supportedVersion) (hc : r.approvalCreate = none)
    (hu : r.approvalUpdate = none) (hd : r.eventDrafts ≠ []) (he : Caught e → False) : Moved id v s := by
  cases h with
  | store message _ moved => exact moved hf hv hc hu
  | build e s now hb => exact (he (IterationRequest.build_error hd hb).2.1).elim

/-- A commit without a snapshot raises what no handler catches. -/
theorem Refused.not_caught {e : PyError} (h : Refused c id v r e s) (hd : r.eventDrafts ≠ [])
    (hs : r.adapterSnapshot = none) : e ≠ .diverged ∧ ¬ Caught e := by
  cases h with
  | store message _ _ => exact ⟨(escapes_durable (c := c) message).1, not_caught_durable⟩
  | build e s now hb =>
    obtain ⟨⟨sn, hsn, -⟩, -⟩ := IterationRequest.build_error hd hb
    rw [hs] at hsn
    cases hsn

namespace Ready
variable {st : LoopState} {observed : Option Observation}

theorem interrupted (h : Ready c v observed st) (hl : c.faithful → observed = none) : Interrupted c v st where
  record := h.record
  running := h.running
  iterations := h.approval.iterations
  live hf := by
    have := h.latest
    rw [hl hf] at this
    exact ⟨this, h.readable hf⟩
  attempt := .inl ⟨h.idle, h.resolved, h.answered, h.approval⟩

/-- Raising an exception of a collaborator between attempts. -/
theorem raised (h : Ready c v none st) (hat : At c id v s) {e : PyError} (he : e.isException = true) :
    Raised c id e st s :=
  ⟨PyError.ne_diverged he, fun _ => ⟨v, hat, h.interrupted fun _ => rfl⟩⟩

theorem blameless (h : Ready c v observed st) (hat : At c id v s) {e : PyError} (he : Blameless c e) :
    Raised c id e st s :=
  ⟨he.1.1, fun hc => ⟨v, hat, h.interrupted fun hf => (he.2 hc hf).elim⟩⟩

theorem safeguards (h : Ready c v observed st) (rs : RuntimeSafeguardState) (hs : SameApproval rs st.runtimeState) :
    Ready c v observed { st with runtimeState := rs } :=
  { h with approval := hs.trans h.approval }

theorem observe (h : Ready c v none st) {o : Observation} (ho : c.faithful → Readable o) :
    Ready c v (some o) { st with observation := o } :=
  { h with latest := rfl, readable := ho }

theorem reason (h : Ready c v observed st) (reason : Option String) : Ready c v observed { st with reason } :=
  { h with }

theorem committed (h : Ready c v observed st) (n : Nat) : Ready c v observed { st with committedThisRun := n } :=
  { h with }

end Ready

/-! ## What a commit leaves of the records -/

theorem After.answered (ha : After v now r v') (hc : r.approvalCreate = none) (hu : r.approvalUpdate = none)
    (h : pendingOf v.approvals = none) : pendingOf v'.approvals = none := by
  rw [pendingOf_eq_none] at h ⊢
  have hp := (ha.approvals_same hc hu).filter (·.approval.status = .pending)
  rw [← pendings, ← pendings, h] at hp
  exact hp.eq_nil

theorem latestAfter_congr {es es' : List RuntimeEvent} (h : latestObservation es' = latestObservation es)
    (observed : Option Observation) : latestAfter es' observed = latestAfter es observed := by
  unfold latestAfter
  rw [h]

theorem latestAfter_of_ok {es : List RuntimeEvent} {o : Option Observation} (h : latestObservation es = .ok o) :
    latestAfter es none = o := by
  unfold latestAfter
  rw [h]
  rfl

theorem latestObservation_of_latestAfter {es : List RuntimeEvent} {o : Observation} (h : latestAfter es none = some o) :
    latestObservation es = .ok (some o) := by
  unfold latestAfter at h
  cases ho : latestObservation es with
  | error e => rw [ho] at h; cases h
  | ok o' =>
    rw [ho] at h
    rw [show o' = some o from h]

/-! ## The transaction -/

/-- The locals of the transaction as the loop will see them. -/
def ActionExecutionState.loop (st : ActionExecutionState) (committed : Nat) : LoopState :=
  { current := st.current, runtimeState := st.runtimeState, observation := st.observation, reason := st.reason
    activeActionId := st.activeActionId, committedThisRun := committed }

/-- The locals while an attempt is being executed. -/
structure Executing (v : TaskView) (a : ActionAttempt) (st : ActionExecutionState) : Prop where
  record : v.record = st.current
  running : v.record.task.status = .running
  unresolved : unresolvedActionAttempt v.events = .ok (some a)
  executing : a.status = .executionStarted
  answered : pendingOf v.approvals = none
  approval : SameApproval st.runtimeState v.record.runtimeState
  active : st.activeActionId = some a.actionId

theorem Executing.interrupted {a : ActionAttempt} {st st' : ActionExecutionState} {n : Nat} (h : Executing v a st)
    (hc : st'.current = st.current) (hi : st'.activeActionId = st.activeActionId)
    (hn : st.runtimeState.iterations ≤ st'.runtimeState.iterations)
    (hr : SameApproval st'.runtimeState st.runtimeState ∨
      st'.runtimeState.approvedOnceAction = none ∧ st'.runtimeState.approvedApprovalId = none)
    (hl : c.faithful → latestAfter v.events none = some st'.observation ∧ Readable st'.observation) :
    Interrupted c v (st'.loop n) where
  record := h.record.trans hc.symm
  running := h.running
  iterations := h.approval.iterations.trans hn
  live := hl
  attempt := .inr ⟨a, hi.trans h.active, h.unresolved, h.executing, hr.imp_left fun hs => hs.trans h.approval⟩

/-- What the policy said of an action that is about to be executed. -/
structure Cleared (v : TaskView) (quiet : List EventDraft) (action : Action) (cost : ℚ) : Prop where
  isQuiet : Quiet quiet
  limits : ∀ m ∈ v.record.task.specification.limits, v.record.task.totalSpend + cost ≤ m
  picked : ∀ a ∈ v.record.runtimeState.approvedOnceAction, a = action
  authorised : NeedsApproval quiet → v.record.runtimeState.approvedOnceAction = some action

/-- The preparation of an attempt on the records of a ready loop. -/
theorem Ready.prepare {st : LoopState} {quiet : List EventDraft} {action : Action} {cost : ℚ}
    (checkpoint : Option SimulationCheckpoint) (h : Ready c v none st) (hcl : Cleared v quiet action cost)
    (hcost : 0 ≤ cost) :
    Prepare v { current := st.current, task := st.current.task, runtimeState := st.runtimeState
                eventDrafts := quiet ++ [preparedDraft
                  (attemptIdAt v.record.task.id (v.record.task.sequence + quiet.length + 1)) action checkpoint
                  st.observation cost] } quiet action checkpoint st.observation cost where
  current := h.record.symm
  resolved := h.resolved
  answered := h.answered
  running := h.running
  task := by rw [← h.record]
  approval := h.approval
  cancelRequested := rfl
  approvalUpdate := rfl
  approvalCreate := rfl
  snapshot := rfl
  isQuiet := hcl.isQuiet
  drafts := rfl
  cost_nonneg := hcost
  limits := hcl.limits
  picked := hcl.picked
  authorised := hcl.authorised

/-- The records behind the preparation. -/
theorem Prepare.after {quiet : List EventDraft} {action : Action} {checkpoint : Option SimulationCheckpoint}
    {before : Observation} {cost : ℚ} (hp : Prepare v r quiet action checkpoint before cost)
    (hcount : Counted c v r.runtimeState) (hat : At c id v s) (ha : After v now r v') : ∃ a, PreparedAs a
      (attemptIdAt v.record.task.id (v.record.task.sequence + quiet.length + 1)) action cost ∧
      unresolvedActionAttempt v'.events = .ok (some a) ∧ v'.record.task.status = .running ∧
      pendingOf v'.approvals = none ∧ latestAfter v'.events none = latestAfter v.events none := by
  have hseq := (Allowed.prepare (c := c) quiet action checkpoint before cost hp hcount).sequence ha
  obtain ⟨-, a, hu, hpa⟩ := ha.attempts_prepare hat.ok.journal.attempts hat.ok.journal.task hp hseq
  rw [← hat.ok.journal.task] at hpa
  refine ⟨a, hpa, hu, ?_, ha.answered hp.approvalCreate hp.approvalUpdate hp.answered, latestAfter_congr ?_ none⟩
  · rw [ha.status, hp.task, hp.running]
  · refine ha.latest_same ?_
    rw [hp.drafts]
    exact hp.isQuiet.noObservation.append (by simp [NoObservation, preparedDraft])

/-- The records behind the start of a prepared attempt. -/
theorem Mark.after_start {a : ActionAttempt} (hm : Mark v r a) (hp : a.status = .prepared)
    (hrun : v.record.task.status = .running) (hd : StartsExecution r a.actionId) (hans : pendingOf v.approvals = none)
    (hat : At c id v s) (ha : After v now r v') : ∃ a', SameAttempt a a' ∧ a'.status = .executionStarted ∧
      unresolvedActionAttempt v'.events = .ok (some a') ∧ v'.record.task.status = .running ∧
      pendingOf v'.approvals = none ∧ latestAfter v'.events none = latestAfter v.events none := by
  have hseq := (Allowed.start (c := c) a hm hp hrun hd).sequence ha
  obtain ⟨-, a', hsame, hs', hu⟩ := ha.attempts_mark hat.ok.journal.attempts hm.unresolved [] [] .executionStarted hd
    (by simp [NoAttempt]) (by simp [NoAttempt]) ⟨rfl, by decide, rfl, .inl rfl⟩
    (by rw [hp]; rfl) (by decide) (by omega)
  refine ⟨a', hsame, hs', hu, ?_, ha.answered hm.approvalCreate hm.approvalUpdate hans, latestAfter_congr ?_ none⟩
  · rw [ha.status, hm.task, hrun]
  · refine ha.latest_same ?_
    rw [show r.eventDrafts = _ from hd]
    simp [NoObservation, attemptDraft]

/-- The latest event of a process stays while the others move. -/
theorem lastOf_kept {e : TraceEvent} (q : Process) (s s' : System) (hq : q ≠ p) (h : s.lastOf p = some e)
    (hr : Reach c id s) (hm : (protocol c id).Move q s s') : s'.lastOf p = some e := by
  have happend : ∀ e' : TraceEvent, e'.process = q → s'.trace = s.trace ++ [e'] → s'.lastOf p = some e := by
    intro e' hp ht
    have hne : ¬ e'.process = p := by rw [hp]; exact hq
    simp only [System.lastOf, ht, List.filter_append, List.filter_cons, hne, decide_false, List.filter_nil]
    simpa [System.lastOf] using h
  cases hr.system.change hm with
  | silent hs => exact hs ▸ h
  | created task _ _ _ _ _ _ ht => exact happend _ rfl ht
  | committed _ _ _ _ _ _ _ _ _ _ ht => exact happend _ rfl ht
  | executed _ _ _ _ hs => exact happend _ rfl (by rw [hs])
  | returned _ _ hs => exact happend _ rfl (by rw [hs])

/-- The execution of an action by the process that started its attempt. -/
theorem execute_walk {st : σ} {actionId : UUID} {authority : Option UUID} {action : Action} (hat : At c id v s)
    (hl : Legal c id p (.execute actionId authority action) s) :
    Walk c id p (Engine.execute actionId authority action : Engine σ _) st (fun _ st' s' => st' = st ∧ At c id v s')
      (fun e st' s' => st' = st ∧ e.isException = true ∧ At c id v s') s := by
  obtain ⟨w, request, attempt, hlast, hrest⟩ := hl
  refine Py.wp_bind (Py.wp_perform fun s' hr => ?_)
  have hkept : At c id v s' ∧ s'.lastOf p = some (.committed p w request) :=
    hr.preserves (I := fun s => At c id v s ∧ s.lastOf p = some (.committed p w request))
      (fun q s s' hq ⟨ha, hl⟩ hm => ⟨At.kept q _ _ ha hm, lastOf_kept q _ _ hq hl ha.reach hm⟩) ⟨hat, hlast⟩
  have hlegal : Legal c id p (.execute actionId authority action) s' := ⟨w, request, attempt, hkept.2, hrest⟩
  refine ⟨hlegal, fun reply s'' hstep => ?_⟩
  have hat'' : At c id v s'' := At.kept p _ _ hkept.1 ⟨_, reply, hlegal, hstep⟩
  exact Py.wp_lift (fun a ha => ⟨rfl, hat''⟩) fun e he => ⟨rfl, hstep.2 e he, hat''⟩

/-- The commits in front of the execution: `p` has just started the attempt, which is
what entitles it to execute the action. -/
theorem prepareAndStart_walk {st : ActionExecutionState} {n : Nat} {action : Action} {cost : ℚ} {actionId : UUID}
    {checkpoint : Option SimulationCheckpoint} (hat : At c id v s) (h : Ready c v none (st.loop n))
    (hcl : Cleared v st.drafts action cost) (hcount : Counted c v st.runtimeState) (hcost : 0 ≤ cost)
    (hid : actionId = attemptIdAt v.record.task.id (v.record.task.sequence + st.drafts.length + 1)) :
    Walk c id p (Engine.prepareAndStart actionId action cost checkpoint) st
      (fun _ st' s' => (∃ v' a, At c id v' s' ∧ Executing v' a st' ∧ a.estimatedCost = cost ∧ a.actionId = actionId ∧
          latestAfter v'.events none = some st.observation) ∧
        Legal c id p (.execute actionId st'.runtimeState.approvedApprovalId action) s' ∧
        st'.observation = st.observation ∧ st'.runtimeState = st.runtimeState)
      (fun e st' s' => Raised c id e (st'.loop n) s') s := by
  unfold Engine.prepareAndStart
  subst hid
  refine Py.wp_bind (Py.wp_update ?_)
  refine Py.wp_bind (Py.wp_locals ?_)
  have hprepare := h.prepare checkpoint hcl hcost
  refine Py.wp_seq (commitWithDrafts_walk hat (.prepare _ _ _ _ _ hprepare hcount)) ?_ ?_
  rotate_left
  · rintro e st' s' ⟨rfl, -, href⟩
    obtain ⟨hdiv, hcaught⟩ := href.not_caught (by simp) rfl
    exact ⟨hdiv, fun hc => (hcaught hc).elim⟩
  rintro record st₁ s₁ ⟨rfl, now, v₁, rfl, hat₁, hafter₁, -⟩
  obtain ⟨a, hpa, hu₁, hrun₁, hans₁, hlatest₁⟩ := hprepare.after hcount hat hafter₁
  refine Py.wp_bind (Py.wp_update ?_)
  refine Py.wp_seq ((crash_walk .afterPrepared).at hat₁) ?_ ?_
  rotate_left
  · rintro e st' s' ⟨⟨-, rfl⟩, -⟩
    exact raised_crash _
  rintro _ st₂ s₂ ⟨rfl, hat₁⟩
  refine Py.wp_bind (Py.wp_locals ?_)
  -- the start of the attempt
  have hmark : Mark v₁ { current := v₁.record, task := v₁.record.task, runtimeState := st.runtimeState
                         eventDrafts := [attemptDraft .actionExecutionStarted a.actionId] } a :=
    { current := rfl
      unresolved := hu₁
      task := rfl
      approval := by rw [hafter₁.runtimeState]; exact .refl _
      cancelRequested := rfl
      approvalUpdate := rfl
      approvalCreate := rfl
      snapshot := rfl }
  rw [← hpa.id]
  refine Py.wp_seq (commitWithDrafts_walk hat₁ (.start a hmark hpa.status hrun₁ rfl)) ?_ ?_
  rotate_left
  · rintro e st' s' ⟨rfl, -, href⟩
    obtain ⟨hdiv, hcaught⟩ := href.not_caught (by simp) rfl
    exact ⟨hdiv, fun hc => (hcaught hc).elim⟩
  rintro record st₃ s₃ ⟨rfl, now', v₂, rfl, hat₂, hafter₂, hlast⟩
  obtain ⟨a', hsame, hs', hu₂, hrun₂, hans₂, hlatest₂⟩ := hmark.after_start hpa.status hrun₁ rfl hans₁ hat₁ hafter₂
  refine Py.wp_bind (Py.wp_update ?_)
  refine Py.wp_mono (crash_keeps (I := fun s => At c id v₂ s ∧ s.lastOf p = some _) ?_ ⟨hat₂, hlast⟩ .beforeExecution) ?_ ?_
  · rintro q s s' hq ⟨ha, hl⟩ hm
    exact ⟨At.kept q _ _ ha hm, lastOf_kept q _ _ hq hl ha.reach hm⟩
  · rintro _ st₄ s₄ ⟨rfl, hat₂, hlast⟩
    refine ⟨⟨v₂, a', hat₂, ?_, by rw [hsame.cost, hpa.cost], hsame.id, ?_⟩, ?_, rfl, rfl⟩
    · exact
        { record := rfl
          running := hrun₂
          unresolved := hu₂
          executing := hs'
          answered := hans₂
          approval := by rw [hafter₂.runtimeState]; exact .refl _
          active := by rw [hsame.id] }
    · rw [hlatest₂, hlatest₁]
      exact h.latest
    · exact ⟨v₁, _, a, hlast, rfl, hu₁, hpa.action, by rw [hafter₁.runtimeState]⟩
  · rintro e st' s' ⟨-, rfl⟩
    exact raised_crash _

theorem Settlement.finalTask_eq {settled : Settlement} (h : settled.task.status = .running)
    (ht : ∀ t ∈ settled.terminal, t.1 = .failed ∨ t.1 = .blocked) : ∃ task, settled.finalTask = .ok task ∧
      task.status = (settled.terminal.map (·.1)).getD .running ∧ task = settled.task.setStatus task.status := by
  unfold Settlement.finalTask
  cases hterm : settled.terminal with
  | none => exact ⟨settled.task, rfl, h, rfl⟩
  | some t =>
    have hb : settled.task.status.canBecome t.1 = true := by
      rw [h]
      rcases ht t hterm with ht | ht <;> rw [ht] <;> rfl
    exact ⟨settled.task.setStatus t.1, withStatus_eq hb, rfl, rfl⟩

/-- The commit of a settled action on the records of its attempt. -/
theorem Executing.confirm {a : ActionAttempt} {st : ActionExecutionState} {action : Action} {before : Observation}
    {result : ExecutionResult} (config : RuntimeConfiguration) {verification : VerificationResult}
    {settled : Settlement} (h : Executing v a st)
    (hver : verification = ActionVerifier.verify before action result st.observation a.estimatedCost)
    (hset : settled = settle config st.current.task st.runtimeState result verification st.observation)
    (hbefore : latestAfter v.events none = some before)
    (hobs : c.faithful → Readable st.observation ∧ before.sequence ≤ st.observation.sequence) :
    ∃ task, settled.finalTask = .ok task ∧ ∀ snapshot : Option AdapterSnapshot,
      snapshot.isSome = (result.stateChanged || settled.terminal.isSome) →
      (∀ sn ∈ snapshot, c.faithful → Agrees st.observation sn) →
      Confirm c.faithful v { current := st.current, task, runtimeState := settled.runtimeState
                             eventDrafts := settledDrafts a.actionId result st.observation verification settled.terminal
                             adapterSnapshot := snapshot } a result st.observation verification settled.terminal := by
  have hcurrent : st.current.task = v.record.task := by rw [← h.record]
  have htask : settled.task = v.record.task ∨ settled.task = v.record.task.charge result ∧ verification.verified = true := by
    rw [hset, ← hcurrent]
    exact settle_task
  have hstatus : settled.task.status = .running := by
    rcases htask with ht | ⟨ht, -⟩
    · rw [ht, h.running]
    · rw [ht]
      exact h.running
  have hends : ∀ t ∈ settled.terminal, t.1 = .failed ∨ t.1 = .blocked := fun t ht => settle_terminal (hset ▸ ht)
  obtain ⟨task, hfinal, hfstatus, hftask⟩ := settled.finalTask_eq hstatus hends
  have hcleared := settle_approval config st.current.task st.runtimeState result verification st.observation
  rw [← hset] at hcleared
  refine ⟨task, hfinal, fun snapshot hwanted hsn => ?_⟩
  exact
    { current := h.record.symm
      unresolved := h.unresolved
      executing := h.executing
      running := h.running
      task := by
        rcases htask with ht | ⟨ht, hv⟩
        · left
          rw [← ht]
          exact hftask
        · right
          rw [← ht]
          refine ⟨hftask, ?_⟩
          rw [hver] at hv
          exact (ActionVerifier.of_verified hv).2
      status := hfstatus
      endsIn := hends
      approval := ⟨hcleared.1, hcleared.2.1⟩
      iterations := by
        rw [hcleared.2.2]
        exact h.approval.iterations
      cancelRequested := rfl
      approvalUpdate := rfl
      approvalCreate := rfl
      drafts := rfl
      snapshot := by
        cases hs : snapshot with
        | some sn => exact .inl ⟨sn, rfl, fun hf => ⟨st.observation, rfl, hsn sn hs hf⟩⟩
        | none =>
          -- nothing was to be recorded: the result verified, so the state is the one before
          rw [hs] at hwanted
          have hwanted : result.stateChanged = false ∧ settled.terminal = none := by
            simpa using hwanted.symm
          have hv : verification.verified = true := settle_verified (hset ▸ hwanted.2)
          rw [hver] at hv
          have hchanged := (ActionVerifier.of_verified hv).1
          rw [hwanted.1] at hchanged
          have hsame : Dict.pyEq before.state st.observation.state = true ∧ before.tick = st.observation.tick := by
            simpa [ActionVerifier.stateChanged] using hchanged.symm
          exact .inr ⟨rfl, before, latestObservation_of_latestAfter hbefore, hsame.1, hsame.2, fun hf => (hobs hf).2⟩
      readable := fun hf => (hobs hf).1 }

/-- The records behind a settled action. -/
theorem Confirm.after {F : Prop} {a : ActionAttempt} {result : ExecutionResult} {observed : Observation}
    {verification : VerificationResult} {terminal : Option (TaskStatus × String)} (hF : F = c.faithful)
    (h : Confirm F v r a result observed verification terminal) (hat : At c id v s) (hans : pendingOf v.approvals = none)
    (ha : After v now r v') : unresolvedActionAttempt v'.events = .ok none ∧ pendingOf v'.approvals = none ∧
      latestAfter v'.events none = some observed := by
  subst hF
  have hseq := (Allowed.confirm (c := c) a result observed verification terminal h).sequence ha
  obtain ⟨-, hu⟩ := ha.attempts_settled hat.ok.journal.attempts h.unresolved h.executing h.drafts (by omega)
  refine ⟨hu, ha.answered h.approvalCreate h.approvalUpdate hans, ?_⟩
  have hrest : NoObservation ([⟨.verificationRecorded, verification.modelDump⟩, confirmedDraft a.actionId result verification,
      attemptDraft .actionCheckpointCommitted a.actionId] ++ (terminal.map fun t => terminalDraft t.1 t.2).toList) := by
    refine NoObservation.append (by simp [NoObservation, confirmedDraft, attemptDraft]) ?_
    intro d hd
    simp only [Option.mem_toList, Option.map_eq_some_iff] at hd
    obtain ⟨t, -, rfl⟩ := hd
    unfold terminalDraft
    split <;> simp
  exact latestAfter_of_ok (ha.latest_observed [⟨.actionExecuted, result.modelDump⟩] _ h.drafts hrest)

/-- How the transaction returns: settled, and ready for another pass unless the task ended. -/
structure Settled (c : Conditions) (id : UUID) (iterations n : Nat) (st : ActionExecutionState) (s : System) : Prop where
  after : ∃ v, At c id v s ∧ v.record = st.current ∧ (st.current.task.status = .running → Ready c v none (st.loop n))
  iterations : st.runtimeState.iterations = iterations

theorem commitSettled_walk {services : Services} {adapter : AdapterInfo} {st : ActionExecutionState} {n : Nat}
    {a : ActionAttempt} {action : Action} {before : Observation} {result : ExecutionResult}
    (hname : c.faithful → adapter.adapterType ≠ "") (hat : At c id v s) (h : Executing v a st)
    (hbefore : latestAfter v.events none = some before)
    (hobs : c.faithful → Readable st.observation ∧ before.sequence ≤ st.observation.sequence) :
    Walk c id p (Engine.commitSettled services adapter a.actionId action before a.estimatedCost result) st
      (fun _ st' s' => Settled c id st.runtimeState.iterations n st' s')
      (fun e st' s' => Raised c id e (st'.loop n) s') s := by
  unfold Engine.commitSettled
  refine Py.wp_bind (Py.wp_locals ?_)
  refine Py.wp_seq ((crash_walk .afterVerification).at hat) ?_ ?_
  rotate_left
  · rintro e st' s' ⟨⟨-, rfl⟩, -⟩
    exact raised_crash _
  rintro _ st₁ s₁ ⟨rfl, hat⟩
  obtain ⟨task, hfinal, hconfirm⟩ := h.confirm services.configuration rfl rfl hbefore hobs
  refine Py.wp_bind (Py.wp_lift (fun task' ht => ?_) fun e he => ?_)
  rotate_left
  · rw [hfinal] at he
    cases he
  rw [hfinal] at ht
  cases ht
  refine Py.wp_bind (Py.wp_update ?_)
  have hcleared := settle_approval services.configuration st₁.current.task st₁.runtimeState result
    (ActionVerifier.verify before action result st₁.observation a.estimatedCost) st₁.observation
  have hfailed : ∀ {e : PyError} {st' : ActionExecutionState} {s' : System}, At c id v s' → Blameless c e →
      st'.current = st₁.current → st'.activeActionId = st₁.activeActionId →
      st'.runtimeState.iterations = st₁.runtimeState.iterations →
      st'.runtimeState.approvedOnceAction = none ∧ st'.runtimeState.approvedApprovalId = none →
      Raised c id e (st'.loop n) s' := by
    intro e st' s' hat he hcur hact hn happ
    exact ⟨he.1.1, fun hc => ⟨v, hat, h.interrupted hcur hact hn.ge (.inr happ) fun hf => (he.2 hc hf).elim⟩⟩
  refine Py.wp_seq ((snapshotIf_walk _ hname fun hf => (hobs hf).1).at hat) ?_ ?_
  rotate_left
  · rintro e st' s' ⟨⟨rfl, he, hf⟩, hat⟩
    exact hfailed hat ⟨escapes_unfaithful he hf, fun _ => hf⟩ rfl rfl hcleared.2.2 ⟨hcleared.1, hcleared.2.1⟩
  rintro snapshot st₂ s₂ ⟨⟨rfl, hwanted, hsn⟩, hat⟩
  refine Py.wp_bind (Py.wp_locals ?_)
  have hc := hconfirm snapshot hwanted hsn
  refine Py.wp_seq (commitWithDrafts_walk hat (.confirm _ _ _ _ _ hc)) ?_ ?_
  rotate_left
  · rintro e st' s' ⟨rfl, hat, href⟩
    refine hfailed hat (href.blameless (by simp [settledDrafts]) fun sn hs hf => ?_) rfl rfl hcleared.2.2 ⟨hcleared.1, hcleared.2.1⟩
    exact ⟨_, (hsn sn hs hf).tick⟩
  rintro record st₃ s₃ ⟨rfl, now, v', rfl, hat', hafter, -⟩
  refine Py.wp_bind (Py.wp_update ?_)
  refine Py.wp_mono ((crash_walk .afterCommit).at hat') ?_ ?_
  rotate_left
  · rintro e st' s' ⟨⟨-, rfl⟩, -⟩
    exact raised_crash _
  rintro _ st₄ s₄ ⟨rfl, hat'⟩
  obtain ⟨hu, hans, hlatest⟩ := hc.after rfl hat h.answered hafter
  refine ⟨⟨v', hat', rfl, fun hrun => ?_⟩, hcleared.2.2⟩
  exact
    { record := rfl
      running := hrun
      resolved := hu
      answered := hans
      approval := by rw [hafter.runtimeState]; exact .refl _
      latest := hlatest
      readable := fun hf => (hobs hf).1
      idle := rfl }

/-- **The action transaction** returns with the attempt settled, or leaves what the
handler of the loop relies on. -/
theorem executeActionTransaction_walk {services : Services} {adapter : AdapterInfo} {st : ActionExecutionState} {n : Nat}
    {action : Action} {validation : AdapterValidation} (hname : c.faithful → adapter.adapterType ≠ "")
    (hat : At c id v s) (h : Ready c v none (st.loop n)) (hcl : Cleared v st.drafts action validation.estimatedCost)
    (hcount : Counted c v st.runtimeState) :
    Walk c id p (Engine.executeActionTransaction services adapter action validation) st
      (fun _ st' s' => Settled c id st.runtimeState.iterations n st' s')
      (fun e st' s' => Raised c id e (st'.loop n) s') s := by
  unfold Engine.executeActionTransaction
  refine Py.wp_bind (Py.wp_locals ?_)
  have hid : st.current.task.id = id := by
    rw [← hat.ok.journal.task, h.record]
    rfl
  have hact : attemptIdAt st.current.task.id (st.current.task.sequence + st.drafts.length + 1) =
      attemptIdAt v.record.task.id (v.record.task.sequence + st.drafts.length + 1) := by
    rw [h.record]
    rfl
  generalize attemptIdAt st.current.task.id (st.current.task.sequence + st.drafts.length + 1) = actionId at hact ⊢
  have hload : Walk c id p (Engine.reconstruct st.current.task.id : Engine ActionExecutionState _) st
      (fun _ st' s' => st' = st ∧ At c id v s') (fun e st' s' => st' = st ∧ e.isException = true ∧ At c id v s') s := by
    rw [hid]
    refine Py.wp_mono ((reconstruct_walk hat.reach).at hat) ?_ ?_
    · rintro _ _ _ ⟨⟨hst, -⟩, hat⟩
      exact ⟨hst, hat⟩
    · rintro _ _ _ ⟨⟨hst, -, he, -⟩, hat⟩
      exact ⟨hst, he, hat⟩
  refine Py.wp_seq hload ?_ ?_
  rotate_left
  · rintro e st' s' ⟨rfl, he, hat⟩
    exact h.raised hat he
  rintro context st₁ s₁ ⟨rfl, hat⟩
  refine Py.wp_seq (prepareAndStart_walk hat h hcl hcount validation.cost_nonneg hact) ?_ fun _ _ _ h => h
  rintro _ st₂ s₂ ⟨⟨v₂, a, hat₂, hex, hcost, rfl, hlatest⟩, hlegal, hobs₂, hrs₂⟩
  refine Py.wp_bind (Py.wp_locals ?_)
  have hraised : ∀ {e : PyError} {st' : ActionExecutionState} {s' : System}, At c id v₂ s' → e.isException = true →
      st' = st₂ → Raised c id e (st'.loop n) s' := by
    rintro e st' s' hat he rfl
    refine ⟨PyError.ne_diverged he, fun _ => ⟨v₂, hat, hex.interrupted rfl rfl (le_refl _) (.inl (.refl _)) fun hf => ?_⟩⟩
    rw [hobs₂]
    exact ⟨hlatest, h.readable hf⟩
  refine Py.wp_seq (execute_walk hat₂ hlegal) ?_ ?_
  rotate_left
  · rintro e st' s' ⟨hst, he, hat⟩
    exact hraised hat he hst
  rintro result st₃ s₃ ⟨rfl, hat₃⟩
  refine Py.wp_seq ((crash_walk .afterExecution).at hat₃) ?_ ?_
  rotate_left
  · rintro e st' s' ⟨⟨-, rfl⟩, -⟩
    exact raised_crash _
  rintro _ st₄ s₄ ⟨rfl, hat₄⟩
  refine Py.wp_seq ((observe_walk _).at hat₄) ?_ ?_
  rotate_left
  · rintro e st' s' ⟨⟨hst, he⟩, hat⟩
    exact hraised hat he hst
  rintro observation st₅ s₅ ⟨⟨rfl, hread⟩, hat₅⟩
  refine Py.wp_bind (Py.wp_update ?_)
  refine Py.wp_seq ((crash_walk .afterObservation).at hat₅) ?_ ?_
  rotate_left
  · rintro e st' s' ⟨⟨-, rfl⟩, -⟩
    exact raised_crash _
  rintro _ st₆ s₆ ⟨rfl, hat₆⟩
  have hex₆ : Executing v₂ a { st₅ with observation } := { hex with }
  rw [← hcost]
  refine Py.wp_mono (commitSettled_walk hname hat₆ hex₆ hlatest fun hf => ⟨(hread hf).1, (hread hf).2 _ rfl⟩) ?_
    fun _ _ _ h => h
  rintro _ st' s' hsettled
  exact ⟨hsettled.after, by rw [hsettled.iterations, ← hrs₂]⟩

end SimPilot
