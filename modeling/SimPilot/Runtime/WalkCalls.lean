import SimPilot.Runtime.WalkSession
/-!
# Walking the calls

The seven calls of the engine, and what follows for any interleaving of them: every state
of a run is reached by legal operations.
-/

namespace SimPilot
open Effect

variable {c : Conditions} {id : UUID} {p : Process} {τ : Type} {t : τ} {s : System} {v : TaskView} {services : Services}

/-! ## An operator's answer -/

/-- An answer to the pending approval of loaded records. -/
theorem Loaded.answer {context : ReconstructedRuntimeContext} (h : Loaded v context) {pending : ApprovalRecord}
    (hp : context.pendingApproval = some pending) {status : ApprovalStatus} {now : Timestamp} {reason : String}
    (hs : status ≠ .pending) {r : IterationRequest} (hcur : r.current = taskRecord context)
    (hu : r.approvalUpdate = some (resolvedRecord pending.approval status now reason hs)) (hcreate : r.approvalCreate = none)
    (hcancel : r.cancelRequested = none) : Answer v r pending status where
  current := hcur.trans h.record
  asked := h.pending.symm.trans hp
  waiting := by
    by_contra hw
    have hnone := h.answered fun hwait => hw (h.task ▸ hwait.1)
    rw [← h.pending, hp] at hnone
    cases hnone
  cancelRequested := hcancel
  approvalUpdate := ⟨now, reason, hs, hu⟩
  approvalCreate := hcreate

theorem approve_walk (h : Reach c id s) : Walk c id p (Engine.approve id : Engine τ _) t (fun _ _ _ => True)
    (fun _ _ _ => True) s := by
  unfold Engine.approve
  refine Py.wp_seq (reconstruct_walk h) ?_ fun _ _ _ _ => trivial
  rintro context t₁ s₁ ⟨rfl, v, hat, hl⟩
  split
  · exact Py.wp_raise trivial
  rename_i pending hp
  refine Py.wp_seq (now_walk.at hat) ?_ fun _ _ _ _ => trivial
  rintro now t₂ s₂ ⟨rfl, hat⟩
  have hstate : { context.runtimeState with
        approvedOnceAction := some pending.approval.action, approvedApprovalId := some pending.approval.id } =
      { v.record.runtimeState with
        approvedOnceAction := some pending.approval.action, approvedApprovalId := some pending.approval.id } := by
    rw [hl.runtimeState]
  exact Py.wp_seq (commit_walk hat (.approve pending (hl.answer hp (by decide) rfl rfl rfl rfl) hl.task hstate rfl rfl))
    (fun _ _ _ _ => Py.wp_pure trivial) fun _ _ _ _ => trivial

theorem deny_walk (h : Reach c id s) : Walk c id p (Engine.deny id : Engine τ _) t (fun _ _ _ => True)
    (fun _ _ _ => True) s := by
  unfold Engine.deny
  refine Py.wp_seq (reconstruct_walk h) ?_ fun _ _ _ _ => trivial
  rintro context t₁ s₁ ⟨rfl, v, hat, hl⟩
  split
  · exact Py.wp_raise trivial
  rename_i pending hp
  refine Py.wp_seq (now_walk.at hat) ?_ fun _ _ _ _ => trivial
  rintro now t₂ s₂ ⟨rfl, hat⟩
  extract_lets record
  refine Py.wp_bind (Py.wp_lift (fun task ht => ?_) fun _ _ => trivial)
  obtain ⟨-, rfl⟩ := withStatus_ok ht
  refine Py.wp_seq (commit_walk hat (.deny pending (hl.answer hp (by decide) rfl rfl rfl rfl) ?_ hl.runtimeState rfl ?_))
    (fun _ _ _ _ => Py.wp_pure trivial) fun _ _ _ _ => trivial
  · exact congrArg (Task.setStatus · .blocked) hl.task
  · exact congrArg copyCheckpointForTerminal hl.checkpoint

theorem cancel_walk (h : Reach c id s) : Walk c id p (Engine.cancel id : Engine τ _) t (fun _ _ _ => True)
    (fun _ _ _ => True) s := by
  unfold Engine.cancel
  refine Py.wp_seq (reconstruct_walk h) ?_ fun _ _ _ _ => trivial
  rintro context t₁ s₁ ⟨rfl, v, hat, hl⟩
  split
  · exact Py.wp_pure trivial
  rename_i hlive
  refine Py.wp_bind (Py.wp_lift (fun task ht => ?_) fun _ _ => trivial)
  obtain ⟨-, rfl⟩ := withStatus_ok ht
  rw [hl.task] at hlive
  refine Py.wp_seq (commit_walk hat (.cancel hl.record (by simpa using hlive) ?_ hl.runtimeState rfl rfl rfl rfl ?_))
    (fun _ _ _ _ => Py.wp_pure trivial) fun _ _ _ _ => trivial
  · exact congrArg (Task.setStatus · .cancelled) hl.task
  · exact congrArg copyCheckpointForTerminal hl.checkpoint

/-! ## Recovery -/

/-- A decision about the unresolved attempt of loaded records. -/
theorem Loaded.resolve {context : ReconstructedRuntimeContext} (h : Loaded v context) {attempt : ActionAttempt}
    (hu : context.unresolvedAttempt = some attempt) (task : Task) (drafts : List EventDraft)
    (snapshot : Option AdapterSnapshot) :
    Resolve v { current := taskRecord context, task, runtimeState := context.runtimeState.clearApproval
                eventDrafts := drafts, adapterSnapshot := snapshot } attempt where
  current := h.record
  unresolved := by rw [h.unresolved, hu]
  approval := ⟨rfl, rfl⟩
  iterations := by
    rw [← h.runtimeState]
    exact le_refl _
  cancelRequested := rfl
  approvalUpdate := rfl
  approvalCreate := rfl

theorem reconcile_walk {registered : List String} {attempt : ActionAttempt} {prior : AdapterSnapshot}
    {current : Option AdapterSnapshot} : Walk c id p (Engine.reconcile registered attempt prior current : Engine τ _) t
      (fun report t' _ => t' = t ∧ (c.honestReconciler → ∀ result ∈ report.expectedResult,
        |result.cost - attempt.estimatedCost| ≤ costTolerance) ∧ (c.faithful → ∀ sn ∈ current, Presentable sn))
      (fun _ _ _ => True) s := by
  unfold Engine.reconcile
  split
  · exact Py.wp_raise trivial
  split
  · exact Py.wp_raise trivial
  refine Py.wp_mono (walk_reply (o := .reconcile attempt prior current) (fun r => r) (fun _ => trivial)
    (R := fun r => Answers r ∧ (c.honestReconciler → ∀ report, r = .ok report → ∀ result ∈ report.expectedResult,
      |result.cost - attempt.estimatedCost| ≤ costTolerance) ∧ (c.faithful → ∀ sn ∈ current, Presentable sn))
    fun _ _ _ h => h.2) ?_ fun _ _ _ _ => trivial
  rintro report t' s' ⟨rfl, -, hcost, hpresentable⟩
  exact ⟨rfl, fun hh => hcost hh report rfl, hpresentable⟩

/-- The observation recorded of a snapshot has its state and its tick. -/
theorem recoveredObservation_ok {attempt : ActionAttempt} {previous o : Observation} {current : AdapterSnapshot}
    {now : Timestamp} (h : recoveredObservation attempt previous current now = .ok o) :
    o.state = current.state ∧ stateTick current.state = some (o.tick : Int) := by
  unfold recoveredObservation at h
  split at h
  · cases h
  · cases h
  · rename_i tick htick
    split at h
    · cases h
    · cases h
      refine ⟨rfl, ?_⟩
      obtain ⟨value, hv, hint⟩ := Option.bind_eq_some_iff.1 htick
      simp only [stateTick, hv, Option.getD_some, hint]
      rfl

theorem acceptCurrent_walk {context : ReconstructedRuntimeContext} {attempt : ActionAttempt} {report : ReconciliationReport}
    {resolution : RecoveryResolution} {current : Option AdapterSnapshot} (hat : At c id v s) (hl : Loaded v context)
    (hu : context.unresolvedAttempt = some attempt) (hcost : c.honestReconciler → ∀ result ∈ report.expectedResult,
      |result.cost - attempt.estimatedCost| ≤ costTolerance) (hp : c.faithful → ∀ sn ∈ current, Presentable sn) :
    Walk c id p (Engine.acceptCurrent context attempt report resolution current : Engine τ _) t (fun _ _ _ => True)
      (fun _ _ _ => True) s := by
  unfold Engine.acceptCurrent
  split
  swap
  · exact Py.wp_raise trivial
  rename_i sn result hresult
  split
  · exact Py.wp_raise trivial
  rename_i previous hprevious
  refine Py.wp_seq (now_walk.at hat) ?_ fun _ _ _ _ => trivial
  rintro now t₁ s₁ ⟨rfl, hat⟩
  refine Py.wp_bind (Py.wp_lift (fun o ho => ?_) fun _ _ => trivial)
  obtain ⟨hstate, htick⟩ := recoveredObservation_ok ho
  refine Py.wp_seq (commitWithDrafts_walk hat (.acceptCurrent attempt report resolution result previous o sn
    (hl.resolve hu _ _ _) ?_ (fun hh => hcost hh result hresult) rfl rfl hstate htick fun hf => hp hf sn rfl))
    (fun _ _ _ _ => Py.wp_pure trivial) fun _ _ _ _ => trivial
  exact congrArg (Task.chargeSuccess · result) hl.task

theorem resolveRecovery_walk {resolution : RecoveryResolution} {current : Option AdapterSnapshot} (h : Reach c id s) :
    Walk c id p (Engine.resolveRecovery services id resolution current : Engine τ _) t (fun _ _ _ => True)
      (fun _ _ _ => True) s := by
  unfold Engine.resolveRecovery
  refine Py.wp_seq (reconstruct_walk h) ?_ fun _ _ _ _ => trivial
  rintro context t₁ s₁ ⟨rfl, v, hat, hl⟩
  split
  · exact Py.wp_raise trivial
  rename_i attempt hu
  refine Py.wp_bind (Py.wp_lift (fun prior _ => ?_) fun _ _ => trivial)
  refine Py.wp_seq (reconcile_walk.at hat) ?_ fun _ _ _ _ => trivial
  rintro report t₂ s₂ ⟨⟨rfl, hcost, hp⟩, hat⟩
  have hdismiss : Walk c id p (do
      let _ ← Engine.commitWithDrafts (taskRecord context) context.task context.runtimeState.clearApproval
        [reconciledDraft attempt.actionId report resolution] none
      return () : Engine τ Unit) t₂ (fun _ _ _ => True) (fun _ _ _ => True) s₂ :=
    Py.wp_seq (commitWithDrafts_walk hat (.dismiss attempt report resolution (hl.resolve hu _ _ _) hl.task rfl rfl))
      (fun _ _ _ _ => Py.wp_pure trivial) fun _ _ _ _ => trivial
  cases resolution with
  | acceptCurrent | markExecuted => exact acceptCurrent_walk hat hl hu hcost hp
  | markNotExecuted | restorePriorCheckpoint => exact hdismiss
  | abandon =>
    refine Py.wp_bind (Py.wp_lift (fun task ht => ?_) fun _ _ => trivial)
    obtain ⟨hstatus, rfl⟩ := withStatus_ok ht
    rw [hl.task] at hstatus
    refine Py.wp_seq (commitWithDrafts_walk hat (.abandon attempt report .abandon (hl.resolve hu _ _ _) hstatus ?_ rfl ?_))
      (fun _ _ _ _ => Py.wp_pure trivial) fun _ _ _ _ => trivial
    · exact congrArg (Task.setStatus · .blocked) hl.task
    · exact congrArg copyCheckpointForTerminal hl.checkpoint

/-! ## Runs -/

theorem resume_walk {budget : Option Nat} (hcfg : c.configured services.configuration) (h : Reach c id s) :
    Walk c id p (Engine.resume services id budget : Engine τ _) t (fun _ _ _ => True) (fun _ _ _ => True) s := by
  unfold Engine.resume
  refine Py.wp_seq (reconstruct_walk h) ?_ fun _ _ _ _ => trivial
  rintro context t₁ s₁ ⟨rfl, v, hat, hl⟩
  refine Py.wp_seq (gateRecovery_walk hat hl) ?_ fun _ _ _ _ => trivial
  rintro context t₂ s₂ ⟨v, hat, hl⟩
  split
  · exact Py.wp_pure trivial
  split
  · exact Py.wp_pure trivial
  refine Py.wp_seq ((adapterFactory_walk context).at hat) ?_ fun _ _ _ _ => trivial
  rintro adapter t₃ s₃ ⟨⟨rfl, hname⟩, hat⟩
  have hid : context.task.id = id := by
    rw [hl.task]
    exact hat.ok.journal.task
  exact Py.wp_mono (runRuntime_walk hcfg hname hat.reach hid) (fun _ _ _ _ => trivial) fun _ _ _ _ => trivial

/-- `run` returns or raises what may leave. -/
theorem run_walk {task : Task} {adapter : AdapterInfo} {budget : Option Nat} (hcfg : c.configured services.configuration)
    (hname : c.faithful → adapter.adapterType ≠ "") (h : Reach c id s) (hid : task.id = id) : Walk c id p (Engine.run services task adapter budget : Engine τ _) t
      (fun _ _ _ => True) (fun _ _ _ => True) s := by
  unfold Engine.run
  have hbody : Walk c id p (Py.tryCatch ((fun _ => Except.ok ()) <$> Engine.runRuntime services task adapter budget)
      fun error => pure (.error error)) t (fun outcome _ _ => ∀ e, outcome = .error e → Escapes c e)
      (fun _ _ _ => True) s := by
    refine Py.wp_tryCatch (Py.wp_map (Py.wp_mono (runRuntime_walk hcfg hname h hid) ?_ ?_))
    · rintro outcome t' s' - e ⟨⟩
    · rintro e t' s' he
      refine Py.wp_pure ?_
      rintro e' ⟨⟩
      exact he
  refine Py.wp_seq hbody ?_ fun _ _ _ h => h
  rintro outcome t' s' houtcome
  refine Py.wp_perform fun s'' _ => ⟨⟨?_, fun hs ha hf hr message he => ?_⟩, fun _ _ _ => trivial⟩
  · rintro rfl
    exact (houtcome _ rfl).1 rfl
  · exact (houtcome _ he).2 hs ha hf hr message rfl

/-- Every call passes its walk. -/
theorem program_walk {call : EngineCall} (hn : call.Named c) (hcfg : c.configured services.configuration)
    (h : Reach c call.taskId s) :
    Walk c call.taskId p (call.program services) () (fun _ _ _ => True) (fun _ _ _ => True) s := by
  cases call with
  | createTask task =>
    exact Py.wp_seq (newTask_walk h rfl) (fun _ _ _ _ => Py.wp_pure trivial) fun _ _ _ _ => trivial
  | run task adapter budget => exact run_walk hcfg hn h rfl
  | resume id budget => exact Py.wp_seq (resume_walk hcfg h) (fun _ _ _ _ => Py.wp_pure trivial) fun _ _ _ _ => trivial
  | approve id => exact Py.wp_seq (approve_walk h) (fun _ _ _ _ => Py.wp_pure trivial) fun _ _ _ _ => trivial
  | deny id => exact Py.wp_seq (deny_walk h) (fun _ _ _ _ => Py.wp_pure trivial) fun _ _ _ _ => trivial
  | cancel id => exact cancel_walk h
  | resolveRecovery id resolution current => exact resolveRecovery_walk h

theorem Started.walk {m : Prog Op Ret Unit} (hm : Started c id m) (h : Reach c id s) :
    (protocol c id).wp p m (fun _ _ => True) s := by
  obtain ⟨services, call, rfl, rfl, hn, hcfg⟩ := hm
  refine Protocol.wp_bind (Protocol.wp_mono (fun _ _ _ => trivial) (program_walk hn hcfg h))

/-- Between the steps of a run every process passes the walk of what it still has to do. -/
theorem Runs.walked {config : Config Op Ret Process System} (h : Runs c id config) :
    Reach c id config.shared ∧ Config.Walked (protocol c id) (fun _ s => Reach c id s) config := by
  have hstart : ∀ m p s, Started c id m → Reach c id s → (protocol c id).wp p m (fun _ _ => True) s :=
    fun m p s hm hs => hm.walk hs
  refine Config.sound hstart (fun p q s s' _ hs hm => hs.move hm) h ?_
  exact Config.walked_idle fun _ => .refl

/-- **Every state of a run is reached by legal operations.** -/
theorem Runs.reach {config : Config Op Ret Process System} (h : Runs c id config) : Reach c id config.shared :=
  h.walked.1

/-- What a run does later is legal operations too. -/
theorem Runs.moves {config config' : Config Op Ret Process System} (h : Runs c id config)
    (hl : Config.Steps (protocol c id) (Started c id) config config') : (protocol c id).Moves config.shared config'.shared :=
  (Config.sound (fun _ _ _ hm hs => hm.walk hs) (fun _ _ _ _ _ hs hm => hs.move hm) hl h.walked.2).1

end SimPilot
