import SimPilot.Effect.Run
import SimPilot.Runtime.Scenario
/-!
# An action that succeeded, committed or recovered

One successful action is booked in two places. The transaction that executed it settles the
safeguards with the outcome; an operator who takes over the current state after a crash
charges the cost and leaves the safeguards of before the action.

| here | source |
|---|---|
| `ends_executeActionTransaction` | `execute_action_transaction`, to its last commit or to a crash in front of it |
| `ends_resolveRecovery` | `resolve_recovery` of `ACCEPT_CURRENT` and `MARK_EXECUTED` |
-/

namespace SimPilot
open Effect Engine

variable {c : Conditions} {p : Process} {σ : Type} {st : σ} {s : System}

/-! ## What is booked -/

/-- What the commit of an action leaves in the store. -/
structure Booked where
  status : TaskStatus
  totalSpend : ℚ
  consecutiveFailures : Nat
  repeatedStateCount : Nat
  lastStateFingerprint : Option JsonValue
  checkpointState : Option Dict
  deriving DecidableEq

def TaskView.booked (v : TaskView) : Booked where
  status := v.record.task.status
  totalSpend := v.record.task.totalSpend
  consecutiveFailures := v.record.runtimeState.consecutiveFailures
  repeatedStateCount := v.record.runtimeState.repeatedStateCount
  lastStateFingerprint := v.record.runtimeState.lastStateFingerprint
  checkpointState := v.checkpoint.map (·.state)

/-- What is booked for a stored task. -/
def System.booked (s : System) (id : UUID) : Option Booked := (viewOf id s.store).map TaskView.booked

/-- The stored task has these safeguards. -/
def Safeguarded (id : UUID) (rs : RuntimeSafeguardState) (s : System) : Prop :=
  ∃ record, s.store.tasks.get id = some record ∧ record.task.id = id ∧ record.runtimeState = rs

theorem Safeguarded.booked {id : UUID} {rs : RuntimeSafeguardState} (h : Safeguarded id rs s) :
    ∃ b, s.booked id = some b ∧ b.repeatedStateCount = rs.repeatedStateCount ∧
      b.lastStateFingerprint = rs.lastStateFingerprint := by
  obtain ⟨record, hrecord, -, rfl⟩ := h
  exact ⟨_, by rw [System.booked, viewOf, hrecord]; rfl, rfl, rfl⟩

/-! ## The commit -/

/-- A commit that returned stores its record. -/
theorem commitIteration_stores {now : Timestamp} {r : IterationRequest} {s s' : InMemoryPersistenceState}
    {commit : IterationCommit} (h : commitIteration now r s = (.ok commit, s')) :
    commit.taskRecord = r.updatedRecord now ∧ s'.tasks.get r.task.id = some (r.updatedRecord now) := by
  rcases commitIteration_cases now r (s := s) with ⟨e, he⟩ | ⟨c', s'', hb, hw, hcc⟩
  · rw [he] at h
    cases h
  rw [hcc] at h
  cases h
  obtain ⟨-, hrecord, hevents, -, -, -⟩ := IterationRequest.build_ok hb
  refine ⟨hrecord, ?_⟩
  -- only the first of the five calls writes the task
  obtain ⟨_, s₁, h₁, hw⟩ := Transaction.bind_ok hw
  obtain ⟨_, s₂, h₂, hw⟩ := Transaction.bind_ok hw
  obtain ⟨_, s₃, h₃, hw⟩ := Transaction.bind_ok hw
  obtain ⟨_, s₄, h₄, h₅⟩ := Transaction.bind_ok hw
  obtain ⟨_, -, -, -, rfl⟩ := InMemory.updateTask_ok h₁
  have hids : ∀ rec ∈ commit.events.map eventRecord, rec.event.taskId = r.task.id := by
    intro rec hrec
    obtain ⟨e, he, rfl⟩ := List.mem_map.1 hrec
    exact taskId_numberEvents e (hevents ▸ he)
  obtain ⟨-, ht₂, -, -, -⟩ := InMemory.appendMany_ok hids h₂
  have ht₄ := ((forPresent_updateApproval h₄).tasks r.task.id).trans ((forPresent_createApproval h₃).tasks r.task.id)
  rw [InMemory.taskOf_eq, InMemory.taskOf_eq] at ht₄
  have ht₅ : s'.tasks = s₄.tasks := by
    cases hcheckpoint : commit.checkpoint with
    | none =>
      rw [hcheckpoint] at h₅
      simp only [forPresent, pure, Prod.mk.injEq, true_and] at h₅
      rw [h₅]
    | some checkpoint =>
      rw [hcheckpoint] at h₅
      obtain ⟨-, -, checkpoints, rfl, -⟩ := InMemory.saveCheckpoint_ok h₅
      rfl
  rw [ht₅, ht₄, ht₂, hrecord]
  exact Assoc.get_set_self ..

/-- A commit raises no crash of the hook. -/
theorem commitIteration_raises {now : Timestamp} {r : IterationRequest} {s s' : InMemoryPersistenceState}
    {e : PyError} (h : commitIteration now r s = (.error e, s')) : e.isException = true := by
  unfold commitIteration at h
  cases hb : r.build now with
  | ok commit =>
    rw [hb] at h
    dsimp only at h
    split at h <;> cases h
    rfl
  | error e' =>
    rw [hb] at h
    cases h
    unfold IterationRequest.build at hb
    by_cases hd : r.eventDrafts = []
    · simp only [hd, if_true, bind, Except.bind] at hb
      cases hb
      rfl
    · simp only [hd, if_false, bind, Except.bind, pure, Except.pure] at hb
      cases hs : r.adapterSnapshot with
      | none => simp [hs] at hb
      | some snapshot =>
        simp only [hs, buildCheckpoint] at hb
        cases ht : ((snapshot.state.get "tick").getD (.int 0)).int? with
        | none =>
          simp only [ht, Except.map] at hb
          cases hb
          rfl
        | some tick =>
          cases tick with
          | ofNat n => simp [ht, Except.map] at hb
          | negSucc n =>
            simp only [ht, Except.map] at hb
            cases hb
            rfl

theorem ends_commitWithDrafts {current : TaskRecord} {task : Task} {rs : RuntimeSafeguardState} {drafts : List EventDraft}
    {snapshot : Option AdapterSnapshot} {ok : TaskRecord → σ → System → Prop} {er : PyError → σ → System → Prop}
    (h : ∀ record s', record.task.id = task.id → Safeguarded task.id rs s' → ok record st s')
    (he : ∀ e s', e.isException = true → er e st s') :
    Py.Ends (Step c p) (commitWithDrafts current task rs drafts snapshot) st s ok er := by
  apply Py.Ends.bind
  apply Py.Ends.bind
  apply Py.Ends.perform
  rintro (e | commit) s' ⟨now, store, hcommit, -, hs'⟩
  · exact Py.Ends.lift (fun _ hr => nomatch hr) fun e' hr => by
      cases hr
      exact he e s' (commitIteration_raises hcommit)
  · obtain ⟨hrecord, hstored⟩ := commitIteration_stores hcommit
    obtain ⟨v, -, -, rfl⟩ := hs'
    refine Py.Ends.lift (fun commit' hr => ?_) fun _ hr => nomatch hr
    cases hr
    apply Py.Ends.pure
    exact h _ _ (by rw [hrecord]; rfl) ⟨_, hstored, rfl, rfl⟩

/-! ## Calls of collaborators -/

theorem ends_asked {o : Op} {α : Type} {f : Ret o → Except PyError α} {ok : α → σ → System → Prop}
    {er : PyError → σ → System → Prop} (h : ∀ r s' a, Step c p o s r s' → f r = .ok a → ok a st s')
    (he : ∀ r s' e, Step c p o s r s' → f r = .error e → er e st s') :
    Py.Ends (Step c p) (do Py.lift (f (← ask o))) st s ok er := by
  apply Py.Ends.bind
  apply Py.Ends.perform
  intro r s' hstep
  exact Py.Ends.lift (fun a hr => h r s' a hstep hr) fun e hr => he r s' e hstep hr

theorem ends_crash {point : CrashPoint} {ok : Unit → σ → System → Prop} {er : PyError → σ → System → Prop}
    (h : ok () st s) (he : er (.simulatedCrash point) st s) : Py.Ends (Step c p) (crash point) st s ok er := by
  apply Py.Ends.bind
  apply Py.Ends.perform
  rintro r s' rfl
  apply Py.Ends.ite
  · intro _
    exact Py.Ends.raise he
  · intro _
    exact Py.Ends.pure h

/-! ### Reconstruction raises its own error -/

section
open Reconstruction

theorem consistency_attemptStep (attempts : List ActionAttempt) (event : RuntimeEvent) :
    Consistency (attemptStep attempts event) := by
  unfold attemptStep
  cases event.eventType.attemptStatus with
  | none => exact .ok _
  | some status =>
    refine .bind ?_ fun id => ?_
    · unfold attemptId
      split
      · exact .ok _
      · exact .fail _
      · exact .fail _
    · split
      · split
        · exact .fail _
        · cases preparedAttempt event id with
          | none => exact .fail _
          | some attempt => exact .ok _
      · cases attempts.find? (·.actionId = id) with
        | none => exact .fail _
        | some attempt =>
          dsimp only
          split
          · refine .bind ?_ fun _ => .ok _
            unfold nextClassification
            split
            · exact .ok _
            · exact .ok _
            · split
              · exact .ok _
              · exact .fail _
          · exact .fail _

theorem consistency_actionAttempts : ∀ (events : List RuntimeEvent) (attempts : List ActionAttempt),
    Consistency (events.foldlM attemptStep attempts)
  | [], _ => .ok _
  | event :: events, attempts => by
    rw [List.foldlM_cons]
    exact .bind (consistency_attemptStep attempts event) fun _ => consistency_actionAttempts events _

theorem consistency_reconstruct (v : TaskView) : Consistency (SimPilot.reconstruct v) := by
  unfold SimPilot.reconstruct
  refine .bind ?_ fun observation => .bind (consistency_validate v observation) fun _ => .bind ?_ fun _ => .ok _
  · unfold latestObservation
    split
    · exact .ok _
    · split
      · exact .ok _
      · exact .fail _
  · unfold unresolvedActionAttempt actionAttempts
    intro e he
    cases hattempts : v.events.foldlM attemptStep [] with
    | ok attempts =>
      rw [hattempts] at he
      cases he
    | error e' =>
      rw [hattempts] at he
      cases he
      exact consistency_actionAttempts v.events [] e hattempts

end

theorem ends_reconstruct {id : UUID} {ok : ReconstructedRuntimeContext → σ → System → Prop}
    {er : PyError → σ → System → Prop}
    (h : ∀ v context, viewOf id s.store = some v → SimPilot.reconstruct v = .ok context → ok context st s)
    (he : ∀ e, e.isException = true → er e st s) : Py.Ends (Step c p) (Engine.reconstruct id) st s ok er := by
  apply Py.Ends.bind
  apply Py.Ends.perform
  rintro r s' ⟨rfl, rfl⟩
  cases hv : viewOf id s'.store with
  | none => exact Py.Ends.raise (he _ rfl)
  | some v =>
    refine Py.Ends.lift (fun context hc => h v context hv hc) fun e hc => he e ?_
    obtain ⟨message, rfl⟩ := consistency_reconstruct v e hc
    rfl

theorem derivedSnapshot_raises {adapterType : String} {o : Observation} {e : PyError}
    (h : derivedSnapshot adapterType o = .error e) : e.isException = true := by
  unfold derivedSnapshot at h
  cases hv : stateSchemaVersion o.state with
  | ok version =>
    rw [hv] at h
    dsimp only at h
    split at h <;> cases h
    rfl
  | error e' =>
    rw [hv] at h
    cases h
    unfold stateSchemaVersion at hv
    split at hv
    · split at hv <;> cases hv
      rfl
    · cases hv
      rfl
    · cases hv

theorem ends_snapshotIf {wanted : Bool} {adapter : AdapterInfo} {observation : Observation}
    {ok : Option AdapterSnapshot → σ → System → Prop} {er : PyError → σ → System → Prop} (h : ∀ sn, ok sn st s)
    (he : ∀ e, e.isException = true → er e st s) :
    Py.Ends (Step c p) (snapshotIf wanted adapter observation) st s ok er := by
  unfold snapshotIf adapterSnapshot
  apply Py.Ends.ite
  · intro _
    apply Py.Ends.map
    apply Py.Ends.ite
    · intro _
      refine ends_asked (fun _ _ sn hstep _ => hstep.1 ▸ h (some sn)) fun r _ e hstep hr => ?_
      obtain ⟨rfl, hanswers, -⟩ := hstep
      exact he e (hanswers e hr)
    · intro _
      exact Py.Ends.lift (fun sn _ => h (some sn)) fun e hr => he e (derivedSnapshot_raises hr)
  · intro _
    exact Py.Ends.pure (h none)

/-! ## The transaction -/

/-- The crash points between the execution and the commit. -/
def uncommitted : List CrashPoint := [.afterExecution, .afterObservation, .afterVerification]

/-- Crashed there, the task still has the safeguards of before the action. -/
def Escaped (id : UUID) (rs : RuntimeSafeguardState) (e : PyError) (s : System) : Prop :=
  ∀ point ∈ uncommitted, e = .simulatedCrash point → Safeguarded id rs s

theorem Escaped.of_exception {id : UUID} {rs : RuntimeSafeguardState} {e : PyError} (h : e.isException = true) :
    Escaped id rs e s := by
  rintro point - rfl
  cases h

theorem Escaped.of_point {id : UUID} {rs : RuntimeSafeguardState} {point : CrashPoint} (h : point ∉ uncommitted) :
    Escaped id rs (.simulatedCrash point) s := by
  rintro point' hpoint heq
  cases heq
  exact absurd hpoint h

theorem Escaped.of_safeguarded {id : UUID} {rs : RuntimeSafeguardState} {e : PyError} (h : Safeguarded id rs s) :
    Escaped id rs e s := fun _ _ _ => h

/-- The safeguards have counted a state. -/
def CountsState (rs rs' : RuntimeSafeguardState) : Prop :=
  ∃ o : Observation, rs'.lastStateFingerprint = some (stateFingerprint o) ∧ rs'.repeatedStateCount = repeatedState rs o

/-- A state that was counted shows in the fingerprint or in the count. -/
theorem CountsState.changed {rs rs' : RuntimeSafeguardState} (h : CountsState rs rs')
    (hfingerprint : rs'.lastStateFingerprint = rs.lastStateFingerprint) :
    rs'.repeatedStateCount = rs.repeatedStateCount + 1 := by
  obtain ⟨o, hlast, hcount⟩ := h
  rw [hcount, repeatedState, if_pos (hlast.symm.trans hfingerprint)]

theorem settle_countsState (config : RuntimeConfiguration) (task : Task) (rs : RuntimeSafeguardState)
    (result : ExecutionResult) (verification : VerificationResult) (observation : Observation) :
    CountsState rs (settle config task rs result verification observation).runtimeState := by
  refine ⟨observation, rfl, ?_⟩
  show repeatedState (settleResult config task rs.clearApproval result verification).runtimeState observation = _
  unfold settleResult
  split
  · rfl
  · split <;> rfl

section
variable {st : ActionExecutionState}

theorem ends_prepareAndStart {actionId : UUID} {action : Action} {cost : ℚ} {checkpoint : Option SimulationCheckpoint} :
    Py.Ends (Step c p) (prepareAndStart actionId action cost checkpoint) st s
      (fun _ st' s' => st'.runtimeState = st.runtimeState ∧ st'.current.task.id = st.current.task.id ∧
        Safeguarded st.current.task.id st.runtimeState s')
      (fun e _ s' => Escaped st.current.task.id st.runtimeState e s') := by
  unfold prepareAndStart
  refine Py.Ends.bind (Py.Ends.update (Py.Ends.bind (Py.Ends.locals (Py.Ends.bind ?_))))
  refine ends_commitWithDrafts (fun record s₁ hid _ => ?_) fun e s₁ he => .of_exception he
  refine Py.Ends.bind (Py.Ends.update (Py.Ends.bind ?_))
  refine ends_crash ?_ (.of_point (by decide))
  refine Py.Ends.bind (Py.Ends.locals (Py.Ends.bind ?_))
  refine ends_commitWithDrafts (fun record' s₂ hid' hsafe => ?_) fun e s₂ he => .of_exception he
  dsimp only at hid hid' hsafe
  rw [hid] at hid' hsafe
  refine Py.Ends.bind (Py.Ends.update ?_)
  refine ends_crash ⟨rfl, hid', hsafe⟩ (.of_point (by decide))

theorem settle_finalTask_id {config : RuntimeConfiguration} {task task' : Task} {rs : RuntimeSafeguardState}
    {result : ExecutionResult} {verification : VerificationResult} {observation : Observation}
    (h : (settle config task rs result verification observation).finalTask = .ok task') : task'.id = task.id := by
  have hid : (settle config task rs result verification observation).task.id = task.id := by
    have hcases : (settle config task rs result verification observation).task = task ∨
        (settle config task rs result verification observation).task = task.charge result ∧
          verification.verified = true := settle_task
    rcases hcases with hsame | ⟨hcharged, -⟩
    · rw [hsame]
    · rw [hcharged]
      rfl
  unfold Settlement.finalTask at h
  split at h
  · cases h
    exact hid
  · obtain ⟨-, rfl⟩ := withStatus_ok h
    exact hid

theorem ends_commitSettled {services : Services} {adapter : AdapterInfo} {actionId : UUID} {action : Action}
    {before : Observation} {cost : ℚ} {result : ExecutionResult}
    (hsafe : Safeguarded st.current.task.id st.runtimeState s) :
    Py.Ends (Step c p) (commitSettled services adapter actionId action before cost result) st s
      (fun _ _ s' => ∃ rs, CountsState st.runtimeState rs ∧ Safeguarded st.current.task.id rs s')
      (fun e _ s' => Escaped st.current.task.id st.runtimeState e s') := by
  unfold commitSettled
  refine Py.Ends.bind (Py.Ends.locals (Py.Ends.bind ?_))
  refine ends_crash ?_ (.of_safeguarded hsafe)
  refine Py.Ends.bind (Py.Ends.lift (fun task htask => ?_) fun e _ => .of_safeguarded hsafe)
  have hid : task.id = st.current.task.id := settle_finalTask_id htask
  refine Py.Ends.bind (Py.Ends.update (Py.Ends.bind ?_))
  refine ends_snapshotIf (fun sn => ?_) fun e he => .of_exception he
  refine Py.Ends.bind (Py.Ends.locals (Py.Ends.bind ?_))
  refine ends_commitWithDrafts (fun record s₁ _ hstored => ?_) fun e s₁ he => .of_exception he
  rw [hid] at hstored
  have hbooked := And.intro (settle_countsState services.configuration st.current.task st.runtimeState result
    (ActionVerifier.verify before action result st.observation cost) st.observation) hstored
  refine Py.Ends.bind (Py.Ends.update ?_)
  exact ends_crash ⟨_, hbooked⟩ (.of_point (by decide))

/-- The transaction counts the state it observed; a crash in front of its commit leaves the
safeguards it started with. -/
theorem ends_executeActionTransaction {services : Services} {adapter : AdapterInfo} {action : Action}
    {validation : AdapterValidation} :
    Py.Ends (Step c p) (executeActionTransaction services adapter action validation) st s
      (fun _ _ s' => ∃ rs, CountsState st.runtimeState rs ∧ Safeguarded st.current.task.id rs s')
      (fun e _ s' => Escaped st.current.task.id st.runtimeState e s') := by
  unfold executeActionTransaction
  refine Py.Ends.bind (Py.Ends.locals (Py.Ends.bind ?_))
  refine ends_reconstruct (fun v context _ _ => ?_) fun e he => .of_exception he
  refine Py.Ends.bind (ends_prepareAndStart.mono ?_ fun e st₁ s₁ h => h)
  rintro _ st₁ s₁ ⟨hrs, hid, hsafe⟩
  refine Py.Ends.bind (Py.Ends.locals (Py.Ends.bind ?_))
  refine ends_asked (fun r s₂ result hstep _ => ?_) fun r s₂ e hstep hr => .of_exception (hstep.2 e hr)
  obtain ⟨rfl, -⟩ := hstep
  have hsafe₂ : Safeguarded st.current.task.id st.runtimeState { s₁ with trace := _ } := hsafe
  refine Py.Ends.bind (ends_crash ?_ (.of_safeguarded hsafe₂))
  refine Py.Ends.bind (ends_asked (fun r s₃ observation hstep _ => ?_) fun r s₃ e hstep hr =>
    .of_exception (hstep.2.1 e hr))
  obtain ⟨rfl, -⟩ := hstep
  refine Py.Ends.bind (Py.Ends.update (Py.Ends.bind (ends_crash ?_ (.of_safeguarded hsafe₂))))
  rw [← hrs, ← hid]
  refine ends_commitSettled ?_
  dsimp only
  rw [hrs, hid]
  exact hsafe₂

end

/-! ## The recovery -/

theorem ends_reconcile {registered : List String} {attempt : ActionAttempt} {prior : AdapterSnapshot}
    {current : Option AdapterSnapshot} {ok : ReconciliationReport → σ → System → Prop} (h : ∀ report, ok report st s) :
    Py.Ends (Step c p) (reconcile registered attempt prior current) st s ok fun _ _ _ => True := by
  unfold reconcile
  refine Py.Ends.ite (fun _ => Py.Ends.raise trivial) fun _ => Py.Ends.ite (fun _ => Py.Ends.raise trivial) fun _ => ?_
  exact ends_asked (fun _ _ report hstep _ => hstep.1 ▸ h report) fun _ _ _ _ _ => trivial

theorem recoveredTask_id (task : Task) (result : ExecutionResult) : (task.chargeSuccess result).id = task.id := by
  unfold Task.chargeSuccess
  split <;> rfl

theorem ends_acceptCurrent {context : ReconstructedRuntimeContext} {attempt : ActionAttempt}
    {report : ReconciliationReport} {resolution : RecoveryResolution} {current : Option AdapterSnapshot} :
    Py.Ends (Step c p) (acceptCurrent context attempt report resolution current) st s
      (fun _ _ s' => Safeguarded context.task.id context.runtimeState.clearApproval s') (fun _ _ _ => True) := by
  unfold acceptCurrent
  split
  · split
    · exact Py.Ends.raise trivial
    · refine Py.Ends.bind (Py.Ends.perform fun now s₁ _ => ?_)
      refine Py.Ends.bind (Py.Ends.lift (fun observation _ => ?_) fun _ _ => trivial)
      refine Py.Ends.bind (ends_commitWithDrafts (fun record s₂ _ hsafe => ?_) fun _ _ _ => trivial)
      rw [recoveredTask_id] at hsafe
      exact Py.Ends.pure hsafe
  · exact Py.Ends.raise trivial

/-- Taking over the current state leaves the counters of the safeguards. -/
theorem ends_resolveRecovery {services : Services} {id : UUID} {rs : RuntimeSafeguardState}
    {resolution : RecoveryResolution} {current : Option AdapterSnapshot}
    (hresolution : resolution = .acceptCurrent ∨ resolution = .markExecuted) (hsafe : Safeguarded id rs s) :
    Py.Ends (Step c p) (resolveRecovery services id resolution current) st s
      (fun _ _ s' => Safeguarded id rs.clearApproval s') (fun _ _ _ => True) := by
  unfold resolveRecovery
  refine Py.Ends.bind (ends_reconstruct (fun v context hv hc => ?_) fun _ _ => trivial)
  obtain ⟨record, hrecord, hid, rfl⟩ := hsafe
  obtain ⟨hstored, -⟩ := viewOf_eq_some hv
  rw [hrecord] at hstored
  cases hstored
  obtain ⟨o, attempts, -, -, -, rfl⟩ := reconstruct_eq_ok.1 hc
  split
  · exact Py.Ends.raise trivial
  · refine Py.Ends.bind (Py.Ends.lift (fun prior _ => ?_) fun _ _ => trivial)
    refine Py.Ends.bind (ends_reconcile fun report => ?_)
    rw [← hid]
    rcases hresolution with rfl | rfl
    · exact ends_acceptCurrent
    · exact ends_acceptCurrent

/-! ## The two bookings -/

/-- **The recovery of a success never books what its commit would have booked.** Wherever
the transaction would have returned, and the same transaction crashed between its execution
and its commit, the operator's commit differs: the state behind the action is missing from
the repetitions. -/
theorem recovered_success_differs {c : Conditions} {p q : Process} {services services' : Services}
    {adapter : AdapterInfo} {action : Action} {validation : AdapterValidation} {st st₁ st₂ : ActionExecutionState}
    {s s₁ s₂ s₃ : System} {point : CrashPoint} {resolution : RecoveryResolution} {current : Option AdapterSnapshot}
    (hcommit : (executeActionTransaction services adapter action validation st).Run (Step c p) s (.ok (), st₁) s₁)
    (hcrash : (executeActionTransaction services adapter action validation st).Run (Step c p) s
      (.error (.simulatedCrash point), st₂) s₂)
    (hpoint : point ∈ uncommitted) (hresolution : resolution = .acceptCurrent ∨ resolution = .markExecuted)
    (hrecovery : (resolveRecovery services' st.current.task.id resolution current ()).Run (Step c q) s₂ (.ok (), ()) s₃) :
    s₁.booked st.current.task.id ≠ s₃.booked st.current.task.id := by
  obtain ⟨rs, hcounts, hsafe₁⟩ := ends_executeActionTransaction.returns hcommit
  have hsafe₂ := ends_executeActionTransaction.raises hcrash point hpoint rfl
  have hsafe₃ := (ends_resolveRecovery hresolution hsafe₂).returns hrecovery
  obtain ⟨b₁, hb₁, hcount₁, hlast₁⟩ := hsafe₁.booked
  obtain ⟨b₃, hb₃, hcount₃, hlast₃⟩ := hsafe₃.booked
  rw [hb₁, hb₃]
  intro heq
  cases heq
  have hchanged := hcounts.changed (hlast₁.symm.trans hlast₃)
  rw [← hcount₁, hcount₃] at hchanged
  exact absurd hchanged (Nat.ne_of_lt (Nat.lt_succ_self _))

/-! ## One action, committed and recovered -/

/-- A run of a computation against a handler, as a run under the conditions it meets. -/
theorem run_of_playedEngine {ω : Type} {W : World ω} {f : Switches} {α : Type} :
    ∀ {m : Prog Op Ret α} {s s' : System} {w w' : ω} {a : α},
      m.play (fun o (sw : System × ω) => engineHandler W f p o sw.1 sw.2) (s, w) = some (a, s', w') →
        m.Run (Step f.conditions p) s a s'
  | .ret _, _, _, _, _, _, h => by
    cases h
    exact ⟨rfl, rfl⟩
  | .op o k, s, s', w, w', a, h => by
    simp only [Prog.play] at h
    cases hanswer : engineHandler W f p o s w with
    | none =>
      rw [hanswer] at h
      cases h
    | some answer =>
      obtain ⟨r, s₁, w₁⟩ := answer
      rw [hanswer] at h
      exact ⟨r, s₁, engineHandler_sound (.int 0) p o s w r s₁ w₁ hanswer, run_of_playedEngine h⟩

namespace Till

/-- The till, and an operator who knows that the action was executed. -/
def knownReply (p : Process) : (o : Op) → Till → Ret o × Till
  | .reconcile attempt _ _, t =>
    (.ok { classification := .definitelyExecuted, reason := "the till has advanced"
           expectedResult := some
             { success := true, stateChanged := true, cost := attempt.estimatedCost
               message := ⟨"done", stripped_done, done_nonempty⟩, cost_nonneg := attempt.cost_nonneg } }, t)
  | o, t => reply p o t

def knownWorld : World Till := { clock := fun _ => 0, reply := knownReply }

/-- Playing a computation of an engine at the till. -/
def playTill {α σ : Type} (m : Engine σ α) (st : σ) (start : System × Till) :
    Option ((Except PyError α × σ) × System × Till) :=
  (m st).play (fun o (sw : System × Till) => engineHandler knownWorld {} 0 o sw.1 sw.2) start

/-- The system a play leaves. -/
def systemOf {α σ : Type} (played : Option ((Except PyError α × σ) × System × Till)) : System :=
  (played.map (·.2.1)).getD {}

theorem run_of_playTill {α σ : Type} {m : Engine σ α} {st : σ} {s : System} {t : Till} {r : Except PyError α}
    (h : (playTill m st (s, t)).map (·.1.1) = some r) :
    ∃ st', (m st).Run (Step ({} : Switches).conditions 0) s (r, st') (systemOf (playTill m st (s, t))) := by
  cases hplay : playTill m st (s, t) with
  | none =>
    rw [hplay] at h
    cases h
  | some result =>
    obtain ⟨⟨r', st'⟩, s', t'⟩ := result
    rw [hplay] at h
    cases h
    exact ⟨st', run_of_playedEngine hplay⟩

/-- The store with the task just started. -/
def startedPlay : Option (Config Op Ret Process System × Till) :=
  playEngines knownWorld {} (.int 1) {} [.call 0 {} (.run (task 1000 []) info none), .run 0 7]

theorem startedPlay_isSome : startedPlay.isSome = true := by decide +kernel

def startedSystem : System := (startedPlay.get startedPlay_isSome).1.shared

theorem startedView_isSome : (viewOf (.int 1) startedSystem.store).isSome = true := by decide +kernel

def startedRecord : TaskRecord := ((viewOf (.int 1) startedSystem.store).get startedView_isSome).record

/-- The locals in front of the action. -/
def startedState : ActionExecutionState where
  current := startedRecord
  runtimeState := startedRecord.runtimeState
  observation := observation {}
  drafts := []

def validation : AdapterValidation where
  valid := true
  message := ""
  estimatedCost := 1
  cost_nonneg := advance.cost_nonneg

def transaction : Engine ActionExecutionState Unit := executeActionTransaction {} info advance validation

/-- The action as it is committed. -/
def committedPlay : Option ((Except PyError Unit × ActionExecutionState) × System × Till) :=
  playTill transaction startedState (startedSystem, {})

/-- The action with a crash behind its execution. -/
def crashedPlay : Option ((Except PyError Unit × ActionExecutionState) × System × Till) :=
  playTill transaction startedState (startedSystem, { crash := some .afterExecution })

/-- The operator takes over the till as it is after the action. -/
def recoveredPlay : Option ((Except PyError Unit × Unit) × System × Till) :=
  playTill (resolveRecovery { reconcilers := ["till"] } (.int 1) .markExecuted (some (snapshot { tick := 1 }))) ()
    (systemOf crashedPlay, {})

theorem startedState_id : startedState.current.task.id = .int 1 := rfl

/-- How the three plays end. -/
theorem plays_end : committedPlay.map (·.1.1) = some (.ok ()) ∧
    crashedPlay.map (·.1.1) = some (.error (.simulatedCrash .afterExecution)) ∧
    recoveredPlay.map (·.1.1) = some (.ok ()) ∧
    (systemOf committedPlay).booked (.int 1) ≠ (systemOf recoveredPlay).booked (.int 1) := by
  decide +kernel

/-- The two bookings of the action at the till. -/
theorem recovered_advance_differs : (systemOf committedPlay).booked (.int 1) ≠ (systemOf recoveredPlay).booked (.int 1) := by
  obtain ⟨hcommitted, hcrashed, hrecovered, -⟩ := plays_end
  obtain ⟨st₁, hcommit⟩ := run_of_playTill hcommitted
  obtain ⟨st₂, hcrash⟩ := run_of_playTill hcrashed
  obtain ⟨_, hrecovery⟩ := run_of_playTill hrecovered
  rw [← startedState_id] at hrecovery ⊢
  exact recovered_success_differs hcommit hcrash (by decide) (.inr rfl) hrecovery

/-- The action succeeds and is verified, and its recovery charges the cost, but the state
behind it is not counted. -/
theorem recovered_success_not_equal :
    ¬ ∀ (c : Conditions) (p q : Process) (services services' : Services) (adapter : AdapterInfo) (action : Action)
      (validation : AdapterValidation) (st st₁ st₂ : ActionExecutionState) (s s₁ s₂ s₃ : System) (point : CrashPoint)
      (resolution : RecoveryResolution) (current : Option AdapterSnapshot),
      (executeActionTransaction services adapter action validation st).Run (Step c p) s (.ok (), st₁) s₁ →
      (executeActionTransaction services adapter action validation st).Run (Step c p) s
        (.error (.simulatedCrash point), st₂) s₂ →
      point ∈ uncommitted → resolution = .acceptCurrent ∨ resolution = .markExecuted →
      (resolveRecovery services' st.current.task.id resolution current ()).Run (Step c q) s₂ (.ok (), ()) s₃ →
      s₁.booked st.current.task.id = s₃.booked st.current.task.id := by
  intro hall
  obtain ⟨hcommitted, hcrashed, hrecovered, hdiffer⟩ := plays_end
  obtain ⟨st₁, hcommit⟩ := run_of_playTill hcommitted
  obtain ⟨st₂, hcrash⟩ := run_of_playTill hcrashed
  obtain ⟨_, hrecovery⟩ := run_of_playTill hrecovered
  rw [← startedState_id] at hrecovery
  have hequal := hall _ _ _ _ _ _ _ _ _ _ _ _ _ _ _ _ _ _ hcommit hcrash (by decide) (.inr rfl) hrecovery
  rw [startedState_id] at hequal
  exact hdiffer hequal

end Till

end SimPilot
