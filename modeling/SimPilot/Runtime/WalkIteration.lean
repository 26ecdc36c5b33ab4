import SimPilot.Runtime.WalkAction
/-!
# Walking the loop

Every function of the loop, from the locals it is entered with (`Ready`) to how a pass
returns (`Returned`) or raises (`Raised`); then the loop itself, whose bound is never
reached, and its exception handler.
-/

namespace SimPilot
open Effect

variable {c : Conditions} {id : UUID} {p : Process} {s : System} {v v' : TaskView} {now : Timestamp}
  {r : IterationRequest} {st : LoopState} {observed : Option Observation} {adapter : AdapterInfo}
  {services : Services}

/-- How a pass of the loop returned. -/
structure Returned (c : Conditions) (id : UUID) (n : Nat) (flow : Flow) (st : LoopState) (s : System) : Prop where
  after : ∃ v, At c id v s ∧ v.record = st.current ∧ (st.current.task.status = .running → Ready c v none st)
  iterations : flow = .again → st.runtimeState.iterations = n

/-! ## The commits of a pass -/

theorem canBecome_of_terminal {status : TaskStatus} (h : status.isTerminal = true) :
    TaskStatus.running.canBecome status = true ∧ status ≠ .pending ∧ status ≠ .waitingForApproval := by
  cases status <;> simp_all [TaskStatus.isTerminal, TaskStatus.canBecome]

theorem Ready.ordinary (h : Ready c v observed st) {task : Task} {status : TaskStatus}
    {drafts quiet last : List EventDraft} {snapshot : Option AdapterSnapshot} {cancelRequested : Option Bool}
    (ht : task = st.current.task.setStatus status) (hd : drafts = quiet ++ (observed.map observationDraft).toList ++ last)
    (hq : Quiet quiet) (he : Ends status last) (hp : status ≠ .pending) (hw : status ≠ .waitingForApproval)
    (hs : ∀ sn ∈ snapshot, c.faithful → Agrees st.observation sn)
    (hrec : observed.isSome = true → snapshot.isSome = true)
    (hcr : cancelRequested = if status = .cancelled then some true else none) :
    Ordinary c.faithful v { current := st.current, task, runtimeState := st.runtimeState, eventDrafts := drafts
                            cancelRequested, adapterSnapshot := snapshot } quiet observed last := by
  have hstatus : task.status = status := by rw [ht]; rfl
  exact
    { current := h.record.symm
      resolved := h.resolved
      answered := h.answered
      live := by rw [h.running]; rfl
      task := by
        change task = v.record.task.setStatus task.status
        rw [hstatus, h.record, ht]
      started := by
        change task.status ≠ .pending
        rw [hstatus]
        exact hp
      approval := h.approval
      cancelRequested := by
        change cancelRequested = if task.status = .cancelled then some true else none
        rw [hstatus, hcr]
      approvalUpdate := rfl
      approvalCreate := by
        change if task.status = .waitingForApproval then _ else _
        rw [hstatus, if_neg hw]
      drafts := hd
      isQuiet := hq
      ends := by
        change Ends task.status last
        rw [hstatus]
        exact he
      snapshot := fun sn hsn hf => ⟨st.observation, h.latest, hs sn hsn hf⟩
      readable := by
        intro hf o ho
        have hlatest := h.latest
        rw [show observed = some o from ho] at hlatest
        rw [show o = st.observation from Option.some.inj hlatest]
        exact h.readable hf
      recorded := hrec
      latest := fun _ => by rw [h.latest]; rfl
      opened := fun hpending => by rw [h.running] at hpending; cases hpending }

/-- The records behind a commit between attempts. -/
theorem Ordinary.after {F : Prop} {quiet last : List EventDraft} (hF : F = c.faithful)
    (h : Ordinary F v r quiet observed last) (hat : At c id v s) (ha : After v now r v') :
    unresolvedActionAttempt v'.events = .ok none ∧ (r.approvalCreate = none → pendingOf v'.approvals = none) ∧
      latestAfter v'.events none = latestAfter v.events observed := by
  subst hF
  have hseq := (Allowed.ordinary (c := c) quiet observed last h).sequence ha
  obtain ⟨-, hu⟩ := ha.attempts_same hat.ok.journal.attempts h.noAttempt (by omega)
  refine ⟨hu.trans h.resolved, fun hcreate => ha.answered hcreate h.approvalUpdate h.answered, ?_⟩
  cases hobs : observed with
  | none =>
    refine latestAfter_congr (ha.latest_same ?_) none
    rw [h.drafts, hobs]
    simpa using h.isQuiet.noObservation.append h.ends.noObservation
  | some o =>
    refine latestAfter_of_ok (ha.latest_observed quiet last (o := o) ?_ h.ends.noObservation)
    rw [h.drafts, hobs]
    simp

/-- A commit of the task in a status, with a snapshot, where it is allowed. -/
theorem commitStatus_walk {status : TaskStatus} {drafts : List EventDraft} {cancelRequested : Option Bool}
    (hname : c.faithful → adapter.adapterType ≠ "") (hat : At c id v s)
    (hb : st.current.task.status.canBecome status = true) (hread : c.faithful → Readable st.observation)
    (hne : drafts ≠ []) (hall : ∀ sn, (c.faithful → Agrees st.observation sn) →
      Allowed c v { current := st.current, task := st.current.task.setStatus status, runtimeState := st.runtimeState
                    eventDrafts := drafts, cancelRequested, adapterSnapshot := some sn }) :
    Walk c id p (Engine.commitStatus adapter status drafts cancelRequested) st
      (fun _ st' s' => ∃ v', At c id v' s' ∧ v'.record.task.status = status ∧ st' = { st with current := v'.record })
      (fun e st' s' => st' = st ∧ At c id v s' ∧ Blameless c e) s := by
  unfold Engine.commitStatus
  refine Py.wp_bind (Py.wp_locals ?_)
  refine Py.wp_bind (Py.wp_lift (fun task ht => ?_) fun e he => ?_)
  rotate_left
  · rw [withStatus_eq hb] at he
    cases he
  obtain ⟨-, rfl⟩ := withStatus_ok ht
  refine Py.wp_seq ((adapterSnapshot_walk hname hread).at hat) ?_ ?_
  rotate_left
  · rintro e st' s' ⟨⟨hst, he, hf⟩, hat⟩
    exact ⟨hst, hat, escapes_unfaithful he hf, fun _ => hf⟩
  rintro sn st₁ s₁ ⟨⟨rfl, hag⟩, hat⟩
  refine Py.wp_seq (commit_walk hat (hall sn hag)) ?_ ?_
  rotate_left
  · rintro e st' s' ⟨hst, hat, href⟩
    refine ⟨hst, hat, href.blameless hne fun sn' hsn hf => ?_⟩
    rw [Option.mem_some_iff] at hsn
    exact ⟨_, hsn ▸ (hag hf).tick⟩
  rintro commit st₂ s₂ ⟨rfl, now, v', hafter, hrec, hat', -⟩
  refine Py.wp_update ⟨v', hat', ?_, by rw [hrec]⟩
  rw [hafter.status]
  rfl

/-- Ending the task from a pass. -/
theorem Ready.commitStatus_walk {status : TaskStatus} {drafts quiet last : List EventDraft} {cancelRequested : Option Bool}
    (h : Ready c v observed st) (hname : c.faithful → adapter.adapterType ≠ "") (hat : At c id v s)
    (ht : status.isTerminal = true) (hd : drafts = quiet ++ (observed.map observationDraft).toList ++ last)
    (hq : Quiet quiet) (he : Ends status last) (hcr : cancelRequested = if status = .cancelled then some true else none) :
    Walk c id p (Engine.commitStatus adapter status drafts cancelRequested) st
      (fun _ st' s' => ∃ v', At c id v' s' ∧ v'.record.task.status = status ∧ st' = { st with current := v'.record })
      (fun e st' s' => Raised c id e st' s') s := by
  obtain ⟨hb, hp, hw⟩ := canBecome_of_terminal ht
  have hne : drafts ≠ [] := by
    obtain ⟨d, rfl, -⟩ := he.last ht
    simp [hd]
  have hrun : st.current.task.status = .running := by rw [← h.record]; exact h.running
  refine Py.wp_mono (SimPilot.commitStatus_walk hname hat (by rw [hrun]; exact hb) h.readable hne fun sn hag =>
    .ordinary quiet observed last (h.ordinary rfl hd hq he hp hw ?_ (fun _ => rfl) hcr)) (fun _ _ _ h => h) ?_
  · intro sn' hsn hf
    rw [Option.mem_some_iff] at hsn
    exact hsn ▸ hag hf
  · rintro e st' s' ⟨rfl, hat, he⟩
    exact h.blameless hat he

/-- `finish` ends the task and the loop. -/
theorem finish_stops {status : TaskStatus} {reason : String} {drafts quiet last : List EventDraft} {n : Nat}
    {cancelRequested : Option Bool} (h : Ready c v none st) (hname : c.faithful → adapter.adapterType ≠ "")
    (hat : At c id v s) (ht : status.isTerminal = true) (hd : drafts = quiet ++ last) (hq : Quiet quiet)
    (he : Ends status last) (hcr : cancelRequested = if status = .cancelled then some true else none) :
    Walk c id p (Engine.finish adapter status reason drafts cancelRequested) st
      (fun flow st' s' => Returned c id n flow st' s' ∧ flow = .stop) (fun e st' s' => Raised c id e st' s') s := by
  unfold Engine.finish Engine.setReason
  refine Py.wp_bind (Py.wp_update ?_)
  refine Py.wp_seq ((h.reason (some reason)).commitStatus_walk hname hat ht (by simpa using hd) hq he hcr) ?_
    fun _ _ _ h => h
  rintro _ st' s' ⟨v', hat', hs', rfl⟩
  refine Py.wp_pure ⟨⟨⟨v', hat', rfl, fun hrun => ?_⟩, fun hf => by cases hf⟩, rfl⟩
  rw [show v'.record.task.status = .running from hrun] at hs'
  rw [← hs'] at ht
  cases ht

theorem finish_walk {status : TaskStatus} {reason : String} {drafts quiet last : List EventDraft} {n : Nat}
    {cancelRequested : Option Bool} (h : Ready c v none st) (hname : c.faithful → adapter.adapterType ≠ "")
    (hat : At c id v s) (ht : status.isTerminal = true) (hd : drafts = quiet ++ last) (hq : Quiet quiet)
    (he : Ends status last) (hcr : cancelRequested = if status = .cancelled then some true else none) :
    Walk c id p (Engine.finish adapter status reason drafts cancelRequested) st
      (fun flow st' s' => Returned c id n flow st' s') (fun e st' s' => Raised c id e st' s') s :=
  Py.wp_mono (finish_stops h hname hat ht hd hq he hcr) (fun _ _ _ h => h.1) fun _ _ _ h => h

/-- A commit that leaves the task running. -/
theorem commitSame_walk {drafts quiet : List EventDraft} (h : Ready c v observed st)
    (hname : c.faithful → adapter.adapterType ≠ "") (hat : At c id v s)
    (hd : drafts = quiet ++ (observed.map observationDraft).toList) (hq : Quiet quiet) (hne : quiet ≠ []) :
    Walk c id p (Engine.commitSame adapter observed.isSome drafts) st
      (fun _ st' s' => ∃ v', At c id v' s' ∧ Ready c v' none st' ∧ st'.runtimeState = st.runtimeState)
      (fun e st' s' => Raised c id e st' s') s := by
  unfold Engine.commitSame
  refine Py.wp_bind (Py.wp_locals ?_)
  refine Py.wp_seq ((snapshotIf_walk observed.isSome hname h.readable).at hat) ?_ ?_
  rotate_left
  · rintro e st' s' ⟨⟨rfl, he, hf⟩, hat⟩
    exact h.blameless hat ⟨escapes_unfaithful he hf, fun _ => hf⟩
  rintro snapshot st₁ s₁ ⟨⟨rfl, hwanted, hsn⟩, hat⟩
  have hrun : st₁.current.task.status = .running := by rw [← h.record]; exact h.running
  have hends : Ends .running [] := rfl
  have htask : st₁.current.task = st₁.current.task.setStatus .running := by
    rw [← hrun]
    rfl
  have hord : Ordinary c.faithful v
      { current := st₁.current, task := st₁.current.task, runtimeState := st₁.runtimeState, eventDrafts := drafts
        adapterSnapshot := snapshot } quiet observed [] :=
    h.ordinary htask (by simpa using hd) hq hends (by decide) (by decide) hsn (fun ho => hwanted.trans ho) rfl
  refine Py.wp_seq (commitWithDrafts_walk hat (.ordinary _ _ _ hord)) ?_ ?_
  rotate_left
  · rintro e st' s' ⟨rfl, hat, href⟩
    refine h.blameless hat (href.blameless (by rw [hd]; simp [hne]) fun sn hs hf => ⟨_, (hsn sn hs hf).tick⟩)
  rintro record st₂ s₂ ⟨rfl, now, v', rfl, hat', hafter, -⟩
  obtain ⟨hu, hans, hlatest⟩ := hord.after rfl hat hafter
  refine Py.wp_update ⟨v', hat', ?_, rfl⟩
  exact
    { record := rfl
      running := by rw [hafter.status]; exact hrun
      resolved := hu
      answered := hans rfl
      approval := by rw [hafter.runtimeState]; exact .refl _
      latest := hlatest.trans h.latest
      readable := h.readable
      idle := h.idle }

theorem commitOnce_walk {flow : Flow} {n : Nat} (h : Returned c id n flow st s) :
    Walk c id p (Engine.commitOnce flow) st (fun flow st' s' => Returned c id n flow st' s')
      (fun e st' s' => Raised c id e st' s') s := by
  unfold Engine.commitOnce
  refine Py.wp_bind (Py.wp_update (Py.wp_pure ⟨?_, h.iterations⟩))
  obtain ⟨v, hat, hrec, hready⟩ := h.after
  exact ⟨v, hat, hrec, fun hrun => (hready hrun).committed _⟩

theorem blockOrContinue_walk {block : Bool} {reason : String} {drafts quiet : List EventDraft}
    (h : Ready c v observed st) (hname : c.faithful → adapter.adapterType ≠ "") (hat : At c id v s)
    (hd : drafts = quiet ++ (observed.map observationDraft).toList) (hq : Quiet quiet) (hne : quiet ≠ []) :
    Walk c id p (Engine.blockOrContinue adapter block reason observed.isSome drafts) st
      (fun flow st' s' => Returned c id st.runtimeState.iterations flow st' s') (fun e st' s' => Raised c id e st' s') s := by
  unfold Engine.blockOrContinue
  cases block with
  | true =>
    have hends : Ends .blocked [reasonDraft .taskBlocked reason] := ⟨_, rfl⟩
    refine Py.wp_seq (h.commitStatus_walk hname hat rfl (by rw [hd]) hq hends rfl) ?_ fun _ _ _ h => h
    rintro _ st' s' ⟨v', hat', hs', rfl⟩
    refine commitOnce_walk ⟨⟨v', hat', rfl, fun hrun => ?_⟩, fun hf => by cases hf⟩
    rw [show v'.record.task.status = .running from hrun] at hs'
    cases hs'
  | false =>
    refine Py.wp_seq (commitSame_walk h hname hat hd hq hne) ?_ fun _ _ _ h => h
    rintro _ st' s' ⟨v', hat', hready, hrs⟩
    exact commitOnce_walk ⟨⟨v', hat', hready.record, fun _ => hready⟩, fun _ => by rw [hrs]⟩

theorem refresh_walk {fresh : Bool} {drafts : List EventDraft} (h : Ready c v none st) (hat : At c id v s) :
    Walk c id p (Engine.refresh fresh drafts) st
      (fun drafts' st' s' => At c id v s' ∧ st'.runtimeState = st.runtimeState ∧ ∃ observed : Option Observation,
        observed.isSome = fresh ∧ Ready c v observed st' ∧ drafts' = drafts ++ (observed.map observationDraft).toList)
      (fun e st' s' => Raised c id e st' s') s := by
  unfold Engine.refresh
  cases fresh with
  | false => exact Py.wp_pure ⟨hat, rfl, none, rfl, h, by simp⟩
  | true =>
    refine Py.wp_bind (Py.wp_locals ?_)
    refine Py.wp_seq ((observe_walk _).at hat) ?_ ?_
    rotate_left
    · rintro e st' s' ⟨⟨rfl, he⟩, hat⟩
      exact h.raised hat he
    rintro o st' s' ⟨⟨rfl, hread⟩, hat⟩
    refine Py.wp_bind (Py.wp_update (Py.wp_pure ⟨hat, rfl, some o, rfl, ?_, rfl⟩))
    exact h.observe fun hf => (hread hf).1

/-! ## What the drafts of a pass say -/

theorem quiet_append {ds es : List EventDraft} (hd : Quiet ds) (he : Quiet es) : Quiet (ds ++ es) := by
  intro d hmem
  rcases List.mem_append.1 hmem with h | h
  · exact hd d h
  · exact he d h

theorem quiet_singleton {d : EventDraft} (h : d.eventType.isQuiet = true) : Quiet [d] := by
  intro d' hd
  rw [List.mem_singleton] at hd
  exact hd ▸ h

theorem needsApproval_append {ds es : List EventDraft} (h : NeedsApproval (ds ++ es)) : NeedsApproval ds ∨ NeedsApproval es := by
  obtain ⟨d, hd, h⟩ := h
  rcases List.mem_append.1 hd with hd | hd
  · exact .inl ⟨d, hd, h⟩
  · exact .inr ⟨d, hd, h⟩

theorem needsApproval_policy {policy : PolicyDecision} (h : NeedsApproval [⟨.policyValidated, policy.modelDump⟩]) :
    policy.approvalRequired = true := by
  obtain ⟨d, hd, h⟩ := h
  rw [List.mem_singleton] at hd
  subst hd
  rcases h with ⟨-, h⟩ | ⟨h, -⟩
  · simpa [PolicyDecision.modelDump] using h
  · cases h

theorem needsApproval_decision {result : DecisionProviderResult} (h : NeedsApproval [decisionDraft result]) :
    result.decision.type = .approvalRequired := by
  obtain ⟨d, hd, h⟩ := h
  rw [List.mem_singleton] at hd
  subst hd
  rcases h with ⟨h, -⟩ | ⟨-, h⟩
  · cases h
  · have htype : (decisionDraft result).payload.get "type" = some (.str result.decision.type.value) := by
      simp [decisionDraft, Decision.modelDump]
    rw [htype] at h
    cases ht : result.decision.type <;> rw [ht] at h <;> simp [DecisionType.value] at h ⊢

theorem not_needsApproval_evaluation {payload : Dict} : ¬ NeedsApproval [⟨.evaluationRecorded, payload⟩] := by
  rintro ⟨d, hd, h⟩
  rw [List.mem_singleton] at hd
  subst hd
  rcases h with ⟨h, -⟩ | ⟨h, -⟩ <;> cases h

/-- Where the action of a pass comes from: from an approval, or from a decision that the
drafts of the pass record. -/
structure Chosen (v : TaskView) (drafts : List EventDraft) (action : Action) (decision : Option Decision) : Prop where
  isQuiet : Quiet drafts
  nonempty : drafts ≠ []
  approved : decision = none → v.record.runtimeState.approvedOnceAction = some action
  fresh : decision.isSome = true → v.record.runtimeState.approvedOnceAction = none
  needs : ∀ d ∈ decision, NeedsApproval drafts → d.type = .approvalRequired

/-! ## An action -/

theorem rejectAction_walk {action : Action} {validation : AdapterValidation} {policy : PolicyDecision}
    {drafts : List EventDraft} (h : Ready c v none st) (hname : c.faithful → adapter.adapterType ≠ "") (hat : At c id v s)
    (hq : Quiet drafts) : Walk c id p (Engine.rejectAction services adapter action validation policy drafts) st
      (fun flow st' s' => Returned c id st.runtimeState.iterations flow st' s') (fun e st' s' => Raised c id e st' s') s := by
  unfold Engine.rejectAction
  refine Py.wp_bind (Py.wp_update ?_)
  have hready : Ready c v none
      { st with reason := some (joinReasons policy.reasons), runtimeState := st.runtimeState.reject } :=
    (h.reason (some (joinReasons policy.reasons))).safeguards st.runtimeState.reject ⟨rfl, rfl, le_refl _⟩
  refine Py.wp_seq (refresh_walk hready hat) ?_ fun _ _ _ h => h
  rintro drafts' st' s' ⟨hat, hrs, observed, hfresh, hready, rfl⟩
  refine Py.wp_bind (Py.wp_locals ?_)
  rw [← hfresh]
  refine Py.wp_mono (blockOrContinue_walk hready hname hat rfl (quiet_append hq (quiet_singleton rfl)) (by simp)) ?_
    fun _ _ _ h => h
  intro flow st'' s'' hret
  rw [hrs] at hret
  exact hret

theorem requestApproval_walk {action : Action} {policy : PolicyDecision} {drafts : List EventDraft} {n : Nat}
    (h : Ready c v none st) (hat : At c id v s) (hq : Quiet drafts)
    (hfresh : v.record.runtimeState.approvedOnceAction = none) :
    Walk c id p (Engine.requestApproval action policy drafts) st
      (fun flow st' s' => Returned c id n flow st' s') (fun e st' s' => Raised c id e st' s') s := by
  unfold Engine.requestApproval
  refine Py.wp_bind (Py.wp_locals ?_)
  refine Py.wp_seq (now_walk.at hat) ?_ fun _ _ _ h => h.1.elim
  rintro at' st₁ s₁ ⟨rfl, hat⟩
  have hrun : st₁.current.task.status = .running := by rw [← h.record]; exact h.running
  refine Py.wp_bind (Py.wp_lift (fun waiting hw => ?_) fun e he => ?_)
  rotate_left
  · rw [withStatus_eq (by rw [hrun]; rfl)] at he
    cases he
  obtain ⟨-, rfl⟩ := withStatus_ok hw
  let reason := if policy.reasons = [] then "approval required" else joinReasons policy.reasons
  let record := pendingRecord st₁.current.task.id (st₁.current.task.sequence + drafts.length + 1) action at' reason
  have hord : Ordinary c.faithful v
      { current := st₁.current, task := st₁.current.task.setStatus .waitingForApproval
        runtimeState := st₁.runtimeState, eventDrafts := drafts ++ [approvalRequestedDraft record.approval]
        approvalCreate := some record } (drafts ++ [approvalRequestedDraft record.approval]) none [] :=
    { current := h.record.symm
      resolved := h.resolved
      answered := h.answered
      live := by rw [h.running]; rfl
      task := by rw [← h.record]; rfl
      started := by simp
      approval := h.approval
      cancelRequested := rfl
      approvalUpdate := rfl
      approvalCreate := by
        change _ ∧ _
        refine ⟨hfresh, action, at', reason, ?_⟩
        simp only [record, h.record, List.length_append, List.length_singleton, Nat.add_assoc]
      drafts := by simp
      isQuiet := quiet_append hq (quiet_singleton rfl)
      ends := rfl
      snapshot := by simp
      readable := by simp
      recorded := by simp
      latest := by simp
      opened := fun hp => by rw [h.running] at hp; cases hp }
  refine Py.wp_seq (commit_walk hat (.ordinary _ _ _ hord)) ?_ ?_
  rotate_left
  · rintro e st' s' ⟨rfl, hat, href⟩
    exact h.blameless hat (href.blameless (by simp) (by simp))
  rintro commit st₂ s₂ ⟨rfl, now, v', hafter, hrec, hat', -⟩
  refine Py.wp_bind (Py.wp_update (Py.wp_pure ⟨⟨v', hat', hrec.symm, fun hrun' => ?_⟩, fun hf => by cases hf⟩))
  rw [show commit.taskRecord.task.status = v'.record.task.status by rw [hrec], hafter.status] at hrun'
  cases hrun'

theorem runAction_walk {action : Action} {validation : AdapterValidation} {drafts : List EventDraft}
    (h : Ready c v none st) (hname : c.faithful → adapter.adapterType ≠ "") (hat : At c id v s)
    (hcl : Cleared v drafts action validation.estimatedCost) (hcount : Counted c v st.runtimeState) :
    Walk c id p (Engine.runAction services adapter action validation drafts) st
      (fun flow st' s' => Returned c id st.runtimeState.iterations flow st' s') (fun e st' s' => Raised c id e st' s') s := by
  unfold Engine.runAction
  have hready : Ready c v none (ActionExecutionState.loop
      { current := st.current, runtimeState := st.runtimeState, observation := st.observation, drafts }
      st.committedThisRun) := { h with idle := rfl }
  have htransaction : Walk c id p (Py.zoom
      (fun st => ({ current := st.current, runtimeState := st.runtimeState, observation := st.observation
                    drafts } : ActionExecutionState))
      (fun inner st => { st with
        current := inner.current, runtimeState := inner.runtimeState, observation := inner.observation
        reason := inner.reason, activeActionId := inner.activeActionId })
      (do Engine.executeActionTransaction services adapter action validation
          return (← Py.locals).terminalStatus)) st
      (fun _ st' s' => Returned c id st.runtimeState.iterations .again st' s')
      (fun e st' s' => Raised c id e st' s') s := by
    refine Py.wp_zoom (Py.wp_seq (executeActionTransaction_walk hname hat hready hcl hcount) ?_ ?_)
    · rintro _ inner s' hsettled
      exact Py.wp_bind (Py.wp_locals (Py.wp_pure ⟨hsettled.after, fun _ => hsettled.iterations⟩))
    · rintro e inner s' hraised
      exact hraised
  refine Py.wp_seq htransaction ?_ fun _ _ _ h => h
  rintro terminal st' s' hret
  exact commitOnce_walk ⟨hret.after, fun hf => hret.iterations rfl⟩

theorem act_walk {action : Action} {decision : Option Decision} {drafts : List EventDraft} (h : Ready c v none st)
    (hname : c.faithful → adapter.adapterType ≠ "") (hat : At c id v s) (hch : Chosen v drafts action decision)
    (hcount : Counted c v st.runtimeState) :
    Walk c id p (Engine.act services adapter action decision drafts) st
      (fun flow st' s' => Returned c id st.runtimeState.iterations flow st' s') (fun e st' s' => Raised c id e st' s') s := by
  unfold Engine.act
  refine Py.wp_bind (Py.wp_update ?_)
  refine Py.wp_bind (Py.wp_locals ?_)
  have hready : Ready c v none
      { st with runtimeState := st.runtimeState.choose action st.observation decision.isNone } :=
    h.safeguards _ ⟨rfl, rfl, le_refl _⟩
  split
  · exact finish_walk hready hname hat rfl rfl hch.isQuiet ⟨_, rfl⟩ rfl
  refine Py.wp_seq ((validate_walk action).at hat) ?_ ?_
  rotate_left
  · rintro e st' s' ⟨⟨rfl, he⟩, hat⟩
    exact hready.raised hat he
  rintro validation st' s' ⟨rfl, hat⟩
  extract_lets policy drafts'
  have hq' : Quiet drafts' := quiet_append hch.isQuiet (quiet_singleton rfl)
  split
  · exact rejectAction_walk hready hname hat hq'
  rename_i hallowed
  split
  · rename_i hneeds
    exact requestApproval_walk hready hat hq' (hch.fresh hneeds.2)
  rename_i hneeds
  refine runAction_walk hready hname hat ⟨hq', ?_, ?_, ?_⟩ ⟨hcount.fresh, hcount.bounded⟩
  · -- the policy checked the spending limits
    have hspend := PolicyEngine.spend_le_of_allowed (by simpa using hallowed)
    intro m hm
    rw [TaskSpecification.limits, List.mem_append] at hm
    rw [hready.record]
    rcases hm with hm | hm
    · exact hspend.1 m (by simpa [hready.record] using hm)
    · exact hspend.2 m (by simpa [hready.record] using hm)
  · intro a ha
    cases hd : decision with
    | none =>
      rw [Option.mem_def, hch.approved hd] at ha
      exact (Option.some.inj ha).symm
    | some d =>
      rw [Option.mem_def, hch.fresh (by rw [hd]; rfl)] at ha
      cases ha
  · -- a decision that needs an approval went the other way
    intro hn
    cases hd : decision with
    | none => exact hch.approved hd
    | some d =>
      exfalso
      refine hneeds ⟨?_, by rw [hd]; rfl⟩
      rcases needsApproval_append hn with hn | hn
      · right
        rw [hd]
        simpa using hch.needs d hd hn
      · exact .inl (needsApproval_policy hn)

/-! ## A decision -/

/-- A pass that has only recorded its evaluation and its decision so far. -/
structure Undecided (v : TaskView) (drafts : List EventDraft) : Prop where
  isQuiet : Quiet drafts
  unneeded : ¬ NeedsApproval drafts
  fresh : v.record.runtimeState.approvedOnceAction = none

theorem waitIteration_walk {drafts : List EventDraft} (h : Ready c v none st)
    (hname : c.faithful → adapter.adapterType ≠ "") (hat : At c id v s) (hq : Quiet drafts) (hne : drafts ≠ []) :
    Walk c id p (Engine.waitIteration services adapter drafts) st
      (fun flow st' s' => Returned c id st.runtimeState.iterations flow st' s') (fun e st' s' => Raised c id e st' s') s := by
  unfold Engine.waitIteration
  refine Py.wp_seq (refresh_walk h hat) ?_ fun _ _ _ h => h
  rintro drafts' st' s' ⟨hat, hrs, observed, hfresh, hready, rfl⟩
  refine Py.wp_bind (Py.wp_locals ?_)
  extract_lets repeated block
  refine Py.wp_bind (Py.wp_update ?_)
  rw [← hfresh]
  have hsame : SameApproval (withStateFingerprint st'.runtimeState st'.observation) st'.runtimeState := ⟨rfl, rfl, le_refl _⟩
  have hready' : Ready c v observed { st' with
      runtimeState := withStateFingerprint st'.runtimeState st'.observation
      reason := if block then some "repeated state detected" else st'.reason } :=
    { hready with approval := hsame.trans hready.approval }
  refine Py.wp_mono (blockOrContinue_walk hready' hname hat rfl hq hne) ?_ fun _ _ _ h => h
  intro flow st'' s'' hret
  rw [← hrs]
  exact hret

theorem falseCompletion_walk {drafts : List EventDraft} (h : Ready c v none st)
    (hname : c.faithful → adapter.adapterType ≠ "") (hat : At c id v s) (hq : Quiet drafts) :
    Walk c id p (Engine.falseCompletion services adapter drafts) st
      (fun flow st' s' => Returned c id st.runtimeState.iterations flow st' s') (fun e st' s' => Raised c id e st' s') s := by
  unfold Engine.falseCompletion
  extract_lets reason
  refine Py.wp_bind (Py.wp_update ?_)
  refine Py.wp_bind (Py.wp_locals ?_)
  have hready : Ready c v none { st with reason := some reason, runtimeState := st.runtimeState.reject } :=
    (h.reason (some reason)).safeguards st.runtimeState.reject ⟨rfl, rfl, le_refl _⟩
  have hq' : Quiet (drafts ++ [reasonDraft .actionRejected reason]) := quiet_append hq (quiet_singleton rfl)
  exact blockOrContinue_walk hready hname hat (by simp) hq' (by simp)

theorem onDecision_walk {result : DecisionProviderResult} {drafts : List EventDraft} (h : Ready c v none st)
    (hname : c.faithful → adapter.adapterType ≠ "") (hat : At c id v s) (hu : Undecided v drafts)
    (hcount : Counted c v st.runtimeState) :
    Walk c id p (Engine.onDecision services adapter result drafts) st
      (fun flow st' s' => Returned c id st.runtimeState.iterations flow st' s') (fun e st' s' => Raised c id e st' s') s := by
  unfold Engine.onDecision
  extract_lets decision drafts'
  have hq : Quiet drafts' := quiet_append hu.isQuiet (quiet_singleton rfl)
  have hne : drafts' ≠ [] := by simp [drafts']
  cases decision.type with
  | complete => exact falseCompletion_walk h hname hat hq
  | blocked => exact finish_walk h hname hat rfl rfl hq ⟨_, rfl⟩ rfl
  | wait => exact waitIteration_walk h hname hat hq hne
  | execute | approvalRequired =>
    cases decision.action with
    | none => exact finish_walk h hname hat rfl rfl hq ⟨_, rfl⟩ rfl
    | some action =>
      refine act_walk h hname hat
        { isQuiet := hq
          nonempty := hne
          approved := fun hd => by cases hd
          fresh := fun _ => hu.fresh
          needs := ?_ } hcount
      rintro d ⟨⟩ hn
      rcases needsApproval_append hn with hn | hn
      · exact (hu.unneeded hn).elim
      · exact needsApproval_decision hn

/-- The question to the provider, its error as a value. -/
theorem askProvider_walk {evaluation : RuntimeEvaluation} {drafts : List EventDraft} (h : Ready c v none st)
    (hname : c.faithful → adapter.adapterType ≠ "") (hat : At c id v s) (hu : Undecided v drafts)
    (hcount : Counted c v st.runtimeState) :
    Walk c id p (Engine.askProvider services adapter evaluation drafts) st
      (fun flow st' s' => Returned c id st.runtimeState.iterations flow st' s') (fun e st' s' => Raised c id e st' s') s := by
  unfold Engine.askProvider
  refine Py.wp_bind (Py.wp_locals ?_)
  have hask : Walk c id p (Py.tryCatch
      (do
        let actions ← Engine.availableActions
        let events ← Engine.listEvents st.current.task.id
        let context ← Py.lift (DecisionContextProjector.project services.contextSize services.configuration
          st.current.task st.observation actions events st.runtimeState evaluation)
        let result ← Engine.providerDecide context
        return Except.ok result)
      (fun error => pure (.error error))) st
      (fun reply st' s' => (st' = st ∧ ∀ e, reply = .error e → e.isException = true) ∧ At c id v s')
      (fun e st' s' => Raised c id e st' s') s := by
    -- every error of the body becomes a value
    have herror : ∀ (e : PyError) (st' : LoopState) (s' : System), (st' = st ∧ e.isException = true) ∧ At c id v s' →
        Walk c id p (pure (.error e) : Engine LoopState (Except PyError DecisionProviderResult)) st'
          (fun reply st' s' => (st' = st ∧ ∀ e, reply = .error e → e.isException = true) ∧ At c id v s')
          (fun e st' s' => Raised c id e st' s') s' := by
      rintro e st' s' ⟨⟨hst, he⟩, hat⟩
      refine Py.wp_pure ⟨⟨hst, ?_⟩, hat⟩
      rintro e' ⟨⟩
      exact he
    refine Py.wp_tryCatch (Py.wp_seq (availableActions_walk.at hat) ?_ herror)
    rintro actions st₁ s₁ ⟨rfl, hat⟩
    refine Py.wp_seq ((listEvents_walk _).at hat) ?_ fun _ _ _ h => h.1
    rintro events st₂ s₂ ⟨rfl, hat⟩
    refine Py.wp_bind (Py.wp_lift (fun context hctx => ?_) fun e he => ?_)
    rotate_left
    · exact herror e _ _ ⟨⟨rfl, DecisionContextProjector.project_error he⟩, hat⟩
    refine Py.wp_seq ((providerDecide_walk context).at hat) ?_ herror
    rintro result st₃ s₃ ⟨rfl, hat⟩
    exact Py.wp_pure ⟨⟨rfl, by rintro e ⟨⟩⟩, hat⟩
  refine Py.wp_seq hask ?_ fun _ _ _ h => h
  rintro reply st' s' ⟨⟨rfl, he⟩, hat⟩
  match reply with
  | .ok result => exact onDecision_walk h hname hat hu hcount
  | .error (.scriptedDecisionExhausted message) => exact finish_walk h hname hat rfl rfl hu.isQuiet ⟨_, rfl⟩ rfl
  | .error (.decisionProvider cls message) =>
    have hq : Quiet (drafts ++ [⟨.decisionProviderFailed, [("error_type", .str cls), ("reason", .str message)]⟩]) :=
      quiet_append hu.isQuiet (quiet_singleton rfl)
    have hends : Ends .failed [reasonDraft .taskFailed message] := ⟨_, rfl⟩
    exact finish_walk h hname hat rfl (by simp) hq hends rfl
  | .error (.durablePersistence m) | .error (.reconstructionConsistency m) | .error (.valueError m)
    | .error (.persistence m) | .error (.other _ m) => exact Py.wp_raise (h.raised hat (he _ rfl))
  | .error (.simulatedCrash m) => exact Py.wp_raise (h.raised hat (he _ rfl))
  | .error .diverged => exact Py.wp_raise (h.raised hat (he _ rfl))

/-! ## A pass -/

theorem evaluateIteration_walk (hcfg : c.configured services.configuration) (h : Ready c v none st)
    (hname : c.faithful → adapter.adapterType ≠ "") (hat : At c id v s)
    (hlt : st.runtimeState.iterations < services.configuration.maxIterations) : Walk c id p (Engine.evaluateIteration services adapter) st
      (fun flow st' s' => Returned c id (st.runtimeState.iterations + 1) flow st' s')
      (fun e st' s' => Raised c id e st' s') s := by
  unfold Engine.evaluateIteration
  refine Py.wp_bind (Py.wp_update ?_)
  refine Py.wp_bind (Py.wp_locals ?_)
  have hready : Ready c v none
      { st with runtimeState := { st.runtimeState with iterations := st.runtimeState.iterations + 1 } } :=
    h.safeguards _ ⟨rfl, rfl, Nat.le_succ _⟩
  have hcount : Counted c v { st.runtimeState with iterations := st.runtimeState.iterations + 1 } :=
    ⟨Nat.lt_succ_of_le h.approval.iterations, services.configuration, hcfg, hlt⟩
  refine Py.wp_seq ((listEvents_walk _).at hat) ?_ fun _ _ _ h => h.1
  rintro events st' s' ⟨rfl, hat⟩
  refine Py.wp_bind (Py.wp_lift (fun evaluation _ => ?_) fun e he => ?_)
  rotate_left
  · exact hready.raised hat (ProgressEvaluator.evaluate_error he)
  extract_lets drafts
  have hq : Quiet drafts := quiet_singleton rfl
  cases evaluation.currentStatus with
  | completed => exact finish_walk hready hname hat rfl rfl hq ⟨_, rfl⟩ rfl
  | blocked => exact finish_walk hready hname hat rfl rfl hq ⟨_, rfl⟩ rfl
  | running =>
    have happ : st.runtimeState.approvedOnceAction = v.record.runtimeState.approvedOnceAction := h.approval.action
    dsimp only
    split
    · rename_i action honce
      exact act_walk hready hname hat
        { isQuiet := hq
          nonempty := by simp [drafts]
          approved := fun _ => happ.symm.trans honce
          fresh := fun hd => by cases hd
          needs := by rintro d ⟨⟩ } hcount
    · rename_i honce
      exact askProvider_walk hready hname hat ⟨hq, not_needsApproval_evaluation, happ.symm.trans honce⟩ hcount

theorem iteration_walk {budget : Option Nat} (hcfg : c.configured services.configuration) (h : Ready c v none st)
    (hname : c.faithful → adapter.adapterType ≠ "")
    (hat : At c id v s) : Walk c id p (Engine.iteration services adapter budget) st
      (fun flow st' s' => Returned c id (st.runtimeState.iterations + 1) flow st' s' ∧
        (flow = .again → st.runtimeState.iterations < services.configuration.maxIterations))
      (fun e st' s' => Raised c id e st' s') s := by
  unfold Engine.iteration
  refine Py.wp_bind (Py.wp_locals ?_)
  split
  · refine Py.wp_bind (Py.wp_update (Py.wp_pure ⟨⟨⟨v, hat, h.record, fun _ => h.reason _⟩, ?_⟩, ?_⟩))
    · rintro ⟨⟩
    · rintro ⟨⟩
  have hcancelled : Walk c id p (Engine.cancelled st.current) st (fun _ st' s' => st' = st ∧ At c id v s')
      (fun e st' s' => Raised c id e st' s') s := by
    unfold Engine.cancelled
    split
    · exact Py.wp_pure ⟨rfl, hat⟩
    · refine Py.wp_mono ((cancellationCheck_walk _).at hat) (fun _ _ _ h => h) ?_
      rintro e st' s' ⟨⟨rfl, he⟩, hat⟩
      exact h.raised hat he
  refine Py.wp_seq hcancelled ?_ fun _ _ _ h => h
  rintro cancelled st' s' ⟨rfl, hat⟩
  have hstop : ∀ {m : Engine LoopState Flow},
      Walk c id p m st' (fun flow st'' s' => Returned c id (st'.runtimeState.iterations + 1) flow st'' s' ∧ flow = .stop)
        (fun e st'' s' => Raised c id e st'' s') s' →
      Walk c id p m st' (fun flow st'' s' => Returned c id (st'.runtimeState.iterations + 1) flow st'' s' ∧
        (flow = .again → st'.runtimeState.iterations < services.configuration.maxIterations))
        (fun e st'' s' => Raised c id e st'' s') s' := by
    intro m hm
    refine Py.wp_mono hm ?_ fun _ _ _ h => h
    rintro flow st'' s'' ⟨hret, rfl⟩
    exact ⟨hret, by rintro ⟨⟩⟩
  split
  · have hnone : Quiet [] := by simp [Quiet]
    exact hstop (finish_stops h hname hat rfl rfl hnone ⟨_, rfl⟩ rfl)
  split
  · have hq : Quiet [⟨.evaluationRecorded, [("safeguard", .str "iterations")]⟩] := quiet_singleton rfl
    have hends : Ends .blocked [reasonDraft .taskBlocked "maximum iterations reached"] := ⟨_, rfl⟩
    exact hstop (finish_stops h hname hat rfl rfl hq hends rfl)
  rename_i hlt
  refine Py.wp_mono (evaluateIteration_walk hcfg h hname hat (by omega)) ?_ fun _ _ _ h => h
  intro flow st'' s'' hret
  exact ⟨hret, fun _ => by omega⟩

/-! ## The loop -/

/-- Where the loop is left. -/
def Left (c : Conditions) (id : UUID) (st : LoopState) (s : System) : Prop :=
  ∃ v, At c id v s ∧ v.record = st.current ∧ (st.current.task.status = .running → Ready c v none st)

/-- The loop ends before its bound: a pass that goes on counts an iteration. -/
theorem loop_walk {budget : Option Nat} (hcfg : c.configured services.configuration)
    (hname : c.faithful → adapter.adapterType ≠ "") :
    ∀ {passes : Nat} {st : LoopState} {s : System}, 0 < passes →
      services.configuration.maxIterations < st.runtimeState.iterations + passes → Left c id st s →
      Walk c id p (Engine.loop services adapter budget passes) st (fun _ st' s' => Left c id st' s')
        (fun e st' s' => Raised c id e st' s') s
  | 0, _, _, hpos, _, _ => by omega
  | passes + 1, st, s, _, hbound, ⟨v, hat, hrec, hready⟩ => by
    unfold Engine.loop
    refine Py.wp_bind (Py.wp_locals ?_)
    split
    · exact Py.wp_pure ⟨v, hat, hrec, hready⟩
    rename_i hrun
    refine Py.wp_seq (iteration_walk hcfg (hready (by simpa using hrun)) hname hat) ?_ fun _ _ _ h => h
    rintro flow st' s' ⟨hret, hlt⟩
    cases flow with
    | stop => exact Py.wp_pure hret.after
    | again =>
      have hcount := hret.iterations rfl
      have hmax := hlt rfl
      exact loop_walk hcfg hname (by omega) (by omega) hret.after

/-- The handler fails the task, and its unresolved attempt with it. -/
theorem iterationFailed_walk {e : PyError} (hname : c.faithful → adapter.adapterType ≠ "") (hat : At c id v s)
    (h : Interrupted c v st) : Walk c id p (Engine.iterationFailed adapter e) st (fun _ st' s' => Left c id st' s')
      (fun e _ _ => Escapes c e) s := by
  unfold Engine.iterationFailed Engine.setReason
  extract_lets reason
  refine Py.wp_bind (Py.wp_update ?_)
  refine Py.wp_bind (Py.wp_locals ?_)
  have hrun : st.current.task.status = .running := by rw [← h.record]; exact h.running
  rw [if_pos hrun]
  obtain ⟨o, cp, ho, -, hread⟩ := hat.reconstructible (by rw [h.running]; rfl)
  refine Py.wp_mono (commitStatus_walk hname hat (by rw [hrun]; rfl) (fun hf => (h.live hf).2) (by simp) fun sn hag => ?_)
    ?_ fun _ _ _ h => h.2.2.1
  · have hlive : LiveSnapshot c.faithful v.events none sn := fun hf => ⟨_, (h.live hf).1, hag hf⟩
    rcases h.attempt with ⟨hidle, hres, hans, happ⟩ | ⟨a, hact, hu, hs, happ⟩
    · refine .ordinary [] none [failureDraft e reason "runtime_iteration"]
        { current := h.record.symm
          resolved := hres
          answered := hans
          live := by rw [h.running]; rfl
          task := by rw [← h.record]; rfl
          started := by simp
          approval := happ
          cancelRequested := rfl
          approvalUpdate := rfl
          approvalCreate := by simp
          drafts := by simp [hidle]
          isQuiet := by simp [Quiet]
          ends := ⟨_, rfl⟩
          snapshot := ?_
          readable := by simp
          recorded := by simp
          latest := fun _ => by rw [latestAfter_of_ok ho]; rfl
          opened := fun hp => by rw [h.running] at hp; cases hp }
      rintro sn' ⟨⟩
      exact hlive
    · refine .failAttempt a
        { current := h.record.symm
          unresolved := hu
          executing := hs
          running := h.running
          task := by rw [← h.record]
          approval := happ
          cancelRequested := rfl
          approvalUpdate := rfl
          approvalCreate := rfl
          drafts := ⟨reason, _, by simp only [hact]; rfl⟩
          iterations := h.iterations
          snapshot := ⟨sn, rfl, hlive⟩ }
  · rintro _ st' s' ⟨v', hat', hs', rfl⟩
    refine ⟨v', hat', rfl, fun hrun' => ?_⟩
    rw [show v'.record.task.status = .running from hrun'] at hs'
    cases hs'

/-- What is not caught may leave. -/
theorem escapes_of_not_caught {e : PyError} (hd : e ≠ .diverged) (h : ¬ Caught e) : Escapes c e := by
  refine ⟨hd, fun _ _ _ _ message he => h ?_⟩
  rw [he]
  refine ⟨rfl, ?_⟩
  rintro m ⟨⟩

/-- A `try` whose handler is the engine's. -/
theorem tryExceptDurable_walk {σ α : Type} {m : Engine σ α} {handler : PyError → Engine σ α} {st : σ}
    {ok : α → σ → System → Prop} {er er' : PyError → σ → System → Prop} (h : Walk c id p m st ok er s)
    (hpass : ∀ e st s, er e st s → ¬ Caught e → er' e st s)
    (hcaught : ∀ e st s, er e st s → Caught e → Walk c id p (handler e) st ok er' s) :
    Walk c id p (Engine.tryExceptDurable m handler) st ok er' s := by
  refine Py.wp_tryCatch (Py.wp_mono h (fun _ _ _ h => h) ?_)
  intro e st' s' he
  have hexc : (∀ message, e ≠ .durablePersistence message) → Walk c id p
      (if e.isException then handler e else Py.raise e) st' ok er' s' := by
    intro hne
    split
    · rename_i hx
      exact hcaught e st' s' he ⟨hx, hne⟩
    · rename_i hx
      exact Py.wp_raise (hpass e st' s' he fun hc => hx hc.1)
  cases e with
  | durablePersistence message => exact Py.wp_raise (hpass _ st' s' he not_caught_durable)
  | _ => exact hexc (by rintro m ⟨⟩)

/-- **The loop with its handler** leaves the records it committed last. -/
theorem runIterations_walk {budget : Option Nat} (hcfg : c.configured services.configuration)
    (hname : c.faithful → adapter.adapterType ≠ "") (h : Left c id st s) : Walk c id p (Engine.runIterations services adapter budget) st
      (fun _ st' s' => Left c id st' s') (fun e _ _ => Escapes c e) s := by
  unfold Engine.runIterations
  refine tryExceptDurable_walk (loop_walk hcfg hname (Nat.succ_pos _) (by omega) h) ?_ ?_
  · intro e st' s' he hc
    exact escapes_of_not_caught he.1 hc
  · intro e st' s' he hc
    obtain ⟨v, hat, hint⟩ := he.2 hc
    exact iterationFailed_walk hname hat hint

end SimPilot
