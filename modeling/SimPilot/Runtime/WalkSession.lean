import SimPilot.Runtime.WalkIteration
/-!
# Walking a run

A session from its first commit to its `finally` block, and `runRuntime` around it. The
`finally` block sees the locals of wherever the body returned or raised; `Standing` is
what it relies on while the task is running.
-/

namespace SimPilot
open Effect

variable {c : Conditions} {id : UUID} {p : Process} {σ : Type} {s : System} {v v' : TaskView} {st : RunState}
  {adapter : AdapterInfo} {services : Services} {budget : Option Nat}

/-! ## The locals of a run -/

/-- The locals of a run between attempts, over the records. -/
structure Standing (c : Conditions) (v : TaskView) (st : RunState) : Prop where
  record : v.record = st.current
  live : v.record.task.status.isTerminal = false
  resolved : unresolvedActionAttempt v.events = .ok none
  answered : pendingOf v.approvals = none
  approval : SameApproval st.runtimeState v.record.runtimeState
  readable : c.faithful → ∀ o ∈ st.observation, Readable o

/-- Where the locals stand. An observation that was not recorded is one a stale commit
carried. -/
structure Stands (c : Conditions) (id : UUID) (v : TaskView) (st : RunState) (s : System) : Prop where
  locals : Standing c v st
  view : At c id v s
  recorded : c.faithful → latestAfter v.events none = st.observation ∨ Moved id v s

theorem Stands.kept (q : Process) (s s' : System) (h : Stands c id v st s) (hm : (protocol c id).Move q s s') :
    Stands c id v st s' where
  locals := h.locals
  view := At.kept q _ _ h.view hm
  recorded hf := (h.recorded hf).imp_right fun hmoved => h.view.reach.moved hm hmoved

/-- A walk that says nothing of the shared state leaves the locals standing. -/
theorem Stands.frame {τ α : Type} {m : Engine τ α} {t : τ} {ok : α → τ → System → Prop} {er : PyError → τ → System → Prop}
    (h : Stands c id v st s) (hw : Walk c id p m t ok er s) :
    Walk c id p m t (fun a t' s' => ok a t' s' ∧ Stands c id v st s')
      (fun e t' s' => er e t' s' ∧ Stands c id v st s') s :=
  Py.wp_frame Stands.kept hw h

namespace Standing

theorem reason (h : Standing c v st) (reason : Option String) : Standing c v { st with reason } := { h with }

/-- A commit between attempts on standing locals. -/
theorem ordinary (h : Standing c v st) {status : TaskStatus} {drafts quiet last : List EventDraft}
    {observed : Option Observation} {snapshot : Option AdapterSnapshot}
    (hd : drafts = quiet ++ (observed.map observationDraft).toList ++ last) (hq : Quiet quiet) (he : Ends status last)
    (hp : status ≠ .pending) (hw : status ≠ .waitingForApproval) (hcancel : status ≠ .cancelled)
    (hs : ∀ sn ∈ snapshot, LiveSnapshot c.faithful v.events observed sn) (hread : c.faithful → ∀ o ∈ observed, Readable o)
    (hrec : observed.isSome = true → snapshot.isSome = true)
    (hlatest : snapshot.isSome = true → (latestAfter v.events observed).isSome = true)
    (hopen : v.record.task.status = .pending → status = .failed ∨ observed.isSome = true) :
    Ordinary c.faithful v { current := st.current, task := st.current.task.setStatus status
                            runtimeState := st.runtimeState, eventDrafts := drafts, adapterSnapshot := snapshot }
      quiet observed last where
  current := h.record.symm
  resolved := h.resolved
  answered := h.answered
  live := h.live
  task := by rw [h.record]; rfl
  started := hp
  approval := h.approval
  cancelRequested := by
    change none = if status = .cancelled then some true else none
    rw [if_neg hcancel]
  approvalUpdate := rfl
  approvalCreate := by
    change if status = .waitingForApproval then _ else _
    rw [if_neg hw]
  drafts := hd
  isQuiet := hq
  ends := he
  snapshot := hs
  readable := hread
  recorded := hrec
  latest := hlatest
  opened := hopen

end Standing

/-- What the `finally` block is entered with. -/
def Closing (c : Conditions) (id : UUID) (st : RunState) (s : System) : Prop :=
  ∃ v, At c id v s ∧ v.record = st.current ∧ (st.current.task.status = .running → Stands c id v st s)

theorem Stands.closing (h : Stands c id v st s) : Closing c id st s := ⟨v, h.view, h.locals.record, fun _ => h⟩

theorem Closing.task_id (h : Closing c id st s) : st.current.task.id = id := by
  obtain ⟨v, hat, hrec, -⟩ := h
  rw [← hrec]
  exact hat.ok.journal.task

theorem Closing.reach (h : Closing c id st s) : Reach c id s := by
  obtain ⟨v, hat, -⟩ := h
  exact hat.reach

/-- Where the start raised. -/
def Stalled (c : Conditions) (id : UUID) (e : PyError) (st : RunState) (s : System) : Prop :=
  e ≠ .diverged ∧ ∃ v, Stands c id v st s

/-- Where the start returned. -/
def Opened (c : Conditions) (id : UUID) (st : RunState) (s : System) : Prop :=
  ∃ v, At c id v s ∧ Standing c v st ∧ v.record.task.status = .running ∧ latestAfter v.events none = st.observation

/-- The records behind a commit of the running task. -/
theorem Ordinary.leaves_opened {quiet last : List EventDraft} {observed : Option Observation} {now : Timestamp}
    {r : IterationRequest} (ho : Ordinary c.faithful v r quiet observed last) (hat : At c id v s) {s' : System}
    (hat' : At c id v' s') (ha : After v now r v') (hrun : r.task.status = .running) (hcur : v'.record = st.current)
    (hrs : st.runtimeState = r.runtimeState) (hobs : latestAfter v.events observed = st.observation)
    (hread : c.faithful → ∀ o ∈ st.observation, Readable o) : Opened c id st s' := by
  obtain ⟨hres, hans, hlatest⟩ := ho.after rfl hat ha
  have hcreate : r.approvalCreate = none := by
    have := ho.approvalCreate
    rwa [hrun, if_neg (by decide)] at this
  have hstatus : v'.record.task.status = .running := ha.status.trans hrun
  refine ⟨v', hat', ?_, hstatus, hlatest.trans hobs⟩
  exact
    { record := hcur
      live := by rw [hstatus]; rfl
      resolved := hres
      answered := hans hcreate
      approval := by rw [hrs, ha.runtimeState]; exact .refl _
      readable := hread }

/-! ## The start -/

theorem commitObservation_walk {drafts : List EventDraft} {task : Task} (hname : c.faithful → adapter.adapterType ≠ "")
    (h : Stands c id v st s) (hq : Quiet drafts) (ht : task = st.current.task.setStatus .running) :
    Walk c id p (Engine.commitObservation adapter drafts task) st (fun _ st' s' => Opened c id st' s')
      (fun e st' s' => Stalled c id e st' s') s := by
  subst ht
  unfold Engine.commitObservation
  refine Py.wp_bind (Py.wp_locals ?_)
  refine Py.wp_seq (h.frame (observe_walk st.observation)) ?_ ?_
  rotate_left
  · rintro e st' s' ⟨⟨rfl, he⟩, h⟩
    exact ⟨PyError.ne_diverged he, v, h⟩
  rintro o st' s' ⟨⟨rfl, hread⟩, h⟩
  refine Py.wp_bind (Py.wp_update ?_)
  have hread : c.faithful → ∀ o' ∈ some o, Readable o' := by
    rintro hf o' ⟨⟩
    exact (hread hf).1
  have hstand : Standing c v { st' with observation := some o } := { h.locals with readable := hread }
  -- an observation that was not recorded is one of an unfaithful adapter, or somebody committed
  have hstalled : ∀ {e : PyError} {s' : System}, e ≠ .diverged → At c id v s' → (c.faithful → Moved id v s') →
      Stalled c id e { st' with observation := some o } s' := fun hd hat hm =>
    ⟨hd, v, hstand, hat, fun hf => .inr (hm hf)⟩
  refine Py.wp_seq ((adapterSnapshot_walk hname fun hf => hread hf o rfl).at h.view) ?_ ?_
  rotate_left
  · rintro e st₁ s₁ ⟨⟨rfl, he, hf⟩, hat⟩
    exact hstalled (PyError.ne_diverged he) hat fun hf' => absurd hf' hf
  rintro sn st₁ s₁ ⟨⟨rfl, hag⟩, hat⟩
  have hag : ∀ sn' ∈ some sn, c.faithful → Agrees o sn' := by
    rintro sn' ⟨⟩ hf
    exact hag hf
  have hordinary : Ordinary c.faithful v
      { current := st'.current, task := st'.current.task.setStatus .running, runtimeState := st'.runtimeState
        eventDrafts := drafts ++ [observationDraft o], adapterSnapshot := some sn } drafts (some o) [] :=
    hstand.ordinary (by simp) hq rfl (by decide) (by decide) (by decide) (fun sn' hsn hf => ⟨o, rfl, hag sn' hsn hf⟩)
      hread (fun _ => rfl) (fun _ => rfl) fun _ => .inr rfl
  refine Py.wp_seq (commitWithDrafts_walk hat (.ordinary _ _ _ hordinary)) ?_ ?_
  rotate_left
  · rintro e st₂ s₂ ⟨rfl, hat, href⟩
    have hblame := href.blameless (by simp) fun sn' hsn hf => ⟨_, (hag sn' hsn hf).tick⟩
    refine hstalled hblame.1.1 hat fun hf => href.moved hf ?_ rfl rfl (by simp) fun hc => hblame.2 hc hf
    exact fun sn' hsn => (hag sn' hsn hf).version
  rintro record st₂ s₂ ⟨rfl, now, v', rfl, hat', hafter, -⟩
  exact Py.wp_update (hordinary.leaves_opened hat hat' hafter rfl rfl rfl rfl hread)

theorem reobserve_walk {task : Task} (hname : c.faithful → adapter.adapterType ≠ "") (hat : At c id v s)
    (h : Standing c v st) (hrun : v.record.task.status = .running) (hlatest : latestAfter v.events none = st.observation)
    (ht : task = st.current.task) : Walk c id p (Engine.reobserve adapter task) st (fun _ st' s' => Opened c id st' s')
      (fun e st' s' => Stalled c id e st' s') s := by
  subst ht
  have hquiet : Quiet [] := by simp [Quiet]
  have hself : st.current.task = st.current.task.setStatus .running := by
    rw [← hrun, h.record, Task.setStatus_self]
  unfold Engine.reobserve
  split
  · exact commitObservation_walk hname ⟨h, hat, fun _ => .inl hlatest⟩ hquiet hself
  · exact Py.wp_pure ⟨v, hat, h, hrun, hlatest⟩

theorem startTask_walk (hname : c.faithful → adapter.adapterType ≠ "") (hat : At c id v s) (h : Standing c v st)
    (hlatest : latestAfter v.events none = st.observation) :
    Walk c id p (Engine.startTask adapter) st (fun _ st' s' => Opened c id st' s')
      (fun e st' s' => Stalled c id e st' s') s := by
  have hstands : Stands c id v st s := ⟨h, hat, fun _ => .inl hlatest⟩
  have hquiet : Quiet [startedDraft] := quiet_singleton rfl
  have hstatus : st.current.task.status = v.record.task.status := by rw [h.record]
  have hraised : ∀ {e : PyError}, e.isException = true → Stalled c id e st s := fun he =>
    ⟨PyError.ne_diverged he, v, hstands⟩
  unfold Engine.startTask
  refine Py.wp_bind (Py.wp_locals ?_)
  cases hs : st.current.task.status with
  | pending =>
    refine Py.wp_bind (Py.wp_lift (fun task ht => ?_) fun e he => ?_)
    · exact commitObservation_walk hname hstands hquiet (withStatus_ok ht).2
    · rw [withStatus_eq (by rw [hs]; rfl)] at he
      cases he
  | waitingForApproval =>
    refine Py.wp_bind (Py.wp_lift (fun task ht => ?_) fun e he => ?_)
    rotate_left
    · rw [withStatus_eq (by rw [hs]; rfl)] at he
      cases he
    obtain ⟨-, rfl⟩ := withStatus_ok ht
    have hordinary : Ordinary c.faithful v
        { current := st.current, task := st.current.task.setStatus .running, runtimeState := st.runtimeState
          eventDrafts := [startedDraft], adapterSnapshot := none } [startedDraft] none [] :=
      h.ordinary rfl hquiet rfl (by decide) (by decide) (by decide) (by simp) (by simp) (by simp) (by simp)
        (fun hp => by rw [← hstatus, hs] at hp; cases hp)
    refine Py.wp_seq (commitWithDrafts_walk hat (.ordinary _ _ _ hordinary)) ?_ ?_
    rotate_left
    · rintro e st' s' ⟨rfl, hat, href⟩
      exact ⟨(href.not_caught (by simp) rfl).1, v, h, hat, fun _ => .inl hlatest⟩
    rintro record st' s' ⟨rfl, now, v', rfl, hat', hafter, -⟩
    refine Py.wp_bind (Py.wp_update ?_)
    obtain ⟨v'', hat'', hst'', hrun'', hlatest''⟩ : Opened c id { st' with current := v'.record } s' :=
      hordinary.leaves_opened hat hat' hafter rfl rfl rfl hlatest h.readable
    exact reobserve_walk hname hat'' hst'' hrun'' hlatest'' rfl
  | running => exact reobserve_walk hname hat h (hstatus ▸ hs) hlatest rfl
  | completed | blocked | failed | cancelled => exact Py.wp_raise (hraised rfl)

theorem openSession_walk (hname : c.faithful → adapter.adapterType ≠ "") (hat : At c id v s) (h : Standing c v st)
    (hlatest : latestAfter v.events none = st.observation) :
    Walk c id p (Engine.openSession adapter) st (fun o st' s' => Opened c id st' s' ∧ st'.observation = some o)
      (fun e st' s' => Stalled c id e st' s') s := by
  unfold Engine.openSession
  refine Py.wp_seq (initializeAdapter_walk.at hat) ?_ ?_
  rotate_left
  · rintro e st' s' ⟨⟨rfl, he⟩, hat⟩
    exact ⟨PyError.ne_diverged he, v, h, hat, fun _ => .inl hlatest⟩
  rintro _ st' s' ⟨rfl, hat⟩
  refine Py.wp_seq (startTask_walk hname hat h hlatest) ?_ fun _ _ _ h => h
  rintro _ st₁ s₁ hopen
  refine Py.wp_bind (Py.wp_locals ?_)
  cases ho : st₁.observation with
  | none =>
    obtain ⟨v', hat', hst', -, hlatest'⟩ := hopen
    exact Py.wp_raise ⟨PyError.ne_diverged rfl, v', hst', hat', fun _ => .inl hlatest'⟩
  | some o => exact Py.wp_pure ⟨hopen, ho⟩

/-- The handler of the start fails the task, with no snapshot. -/
theorem sessionFailed_walk {e : PyError} (h : Stands c id v st s) :
    Walk c id p (Engine.sessionFailed e) st (fun _ st' s' => Closing c id st' s')
      (fun e st' s' => Escapes c e ∧ Closing c id st' s') s := by
  unfold Engine.sessionFailed
  extract_lets reason
  refine Py.wp_bind (Py.wp_update ?_)
  refine Py.wp_bind (Py.wp_locals ?_)
  refine Py.wp_bind (Py.wp_lift (fun task ht => ?_) fun e he => ?_)
  rotate_left
  · rw [forceFailed_eq] at he
    cases he
  rw [forceFailed_eq] at ht
  cases ht
  have hquiet : Quiet (if st.current.task.status = .pending then [startedDraft] else []) := by
    split
    · exact quiet_singleton rfl
    · simp [Quiet]
  have hordinary : Ordinary c.faithful v
      { current := st.current, task := st.current.task.setStatus .failed, runtimeState := st.runtimeState
        eventDrafts := (if st.current.task.status = .pending then [startedDraft] else []) ++
          [failureDraft e reason "adapter_initialization"], adapterSnapshot := none }
      (if st.current.task.status = .pending then [startedDraft] else []) none
      [failureDraft e reason "adapter_initialization"] :=
    h.locals.ordinary (by simp) hquiet ⟨_, rfl⟩ (by decide) (by decide) (by decide) (by simp) (by simp) (by simp)
      (by simp) fun _ => .inl rfl
  have hreason := h.locals.reason (some reason)
  refine Py.wp_seq (h.frame (commitWithDrafts_walk h.view (.ordinary _ _ _ hordinary))) ?_ ?_
  rotate_left
  · rintro e st' s' ⟨⟨rfl, -, href⟩, h⟩
    obtain ⟨hdiv, hcaught⟩ := href.not_caught (by simp) rfl
    exact ⟨escapes_of_not_caught hdiv hcaught, v, h.view, h.locals.record, fun _ => ⟨hreason, h.view, h.recorded⟩⟩
  rintro record st' s' ⟨⟨rfl, now, v', rfl, hat', hafter, -⟩, -⟩
  refine Py.wp_bind (Py.wp_update (Py.wp_pure ⟨v', hat', rfl, fun hrun => ?_⟩))
  rw [show v'.record.task.status = .failed from hafter.status] at hrun
  cases hrun

/-! ## The body of the session -/

theorem runLoop_walk {observation : Observation} (hcfg : c.configured services.configuration)
    (hname : c.faithful → adapter.adapterType ≠ "") (h : Opened c id st s) (ho : st.observation = some observation) :
    Walk c id p (Engine.runLoop services adapter budget observation) st (fun _ st' s' => Closing c id st' s')
      (fun e st' s' => Escapes c e ∧ Closing c id st' s') s := by
  obtain ⟨v, hat, hst, hrun, hlatest⟩ := h
  have hstands : Stands c id v st s := ⟨hst, hat, fun _ => .inl hlatest⟩
  have hready : Ready c v none { current := st.current, runtimeState := st.runtimeState, observation } :=
    { record := hst.record
      running := hrun
      resolved := hst.resolved
      answered := hst.answered
      approval := hst.approval
      latest := hlatest.trans ho
      readable := fun hf => hst.readable hf _ ho
      idle := rfl }
  unfold Engine.runLoop
  -- the locals of the run are those of before the loop when it raises
  have hloop : Walk c id p (do
        Engine.runIterations services adapter budget
        Py.locals) { current := st.current, runtimeState := st.runtimeState, observation }
      (fun a st' s' => a = st' ∧ Left c id st' s') (fun e _ _ => Escapes c e) s :=
    Py.wp_seq (runIterations_walk hcfg hname ⟨v, hat, hst.record, fun _ => hready⟩) (fun _ _ _ h => Py.wp_locals ⟨rfl, h⟩)
      fun _ _ _ h => h
  refine Py.wp_bind (Py.wp_zoom (Py.wp_mono (hstands.frame hloop) ?_ ?_))
  · rintro _ lst s' ⟨⟨rfl, v', hat', hrec', hready'⟩, -⟩
    refine Py.wp_setLocals ⟨v', hat', hrec', fun hrun' => ?_⟩
    have hr := hready' hrun'
    refine ⟨?_, hat', fun _ => .inl hr.latest⟩
    exact
      { record := hrec'
        live := by rw [hr.running]; rfl
        resolved := hr.resolved
        answered := hr.answered
        approval := hr.approval
        readable := by
          rintro hf o ⟨⟩
          exact hr.readable hf }
  · rintro e lst s' ⟨he, hstands⟩
    exact ⟨he, hstands.closing⟩

theorem session_walk (hcfg : c.configured services.configuration) (hname : c.faithful → adapter.adapterType ≠ "")
    (hat : At c id v s) (h : Standing c v st)
    (hlatest : latestAfter v.events none = st.observation) :
    Walk c id p (Engine.session services adapter budget) st (fun _ st' s' => Closing c id st' s')
      (fun e st' s' => Escapes c e ∧ Closing c id st' s') s := by
  unfold Engine.session
  have hstart : Walk c id p (Engine.tryExceptDurable (Except.ok <$> Engine.openSession adapter) fun error =>
        Except.error <$> Engine.sessionFailed error) st
      (fun started st' s' => match started with
        | .ok o => Opened c id st' s' ∧ st'.observation = some o
        | .error _ => Closing c id st' s')
      (fun e st' s' => Escapes c e ∧ Closing c id st' s') s := by
    refine tryExceptDurable_walk (Py.wp_map (Py.wp_mono (openSession_walk hname hat h hlatest) (fun _ _ _ h => h)
      fun _ _ _ h => h)) ?_ ?_
    · rintro e st' s' ⟨hdiv, v', hstands⟩ hc
      exact ⟨escapes_of_not_caught hdiv hc, hstands.closing⟩
    · rintro e st' s' ⟨-, v', hstands⟩ -
      exact Py.wp_map (sessionFailed_walk hstands)
  refine Py.wp_seq hstart ?_ fun _ _ _ h => h
  rintro started st' s' hstarted
  cases started with
  | error outcome => exact Py.wp_pure hstarted
  | ok o => exact Py.wp_seq (runLoop_walk hcfg hname hstarted.1 hstarted.2) (fun _ _ _ h => Py.wp_pure h) fun _ _ _ h => h

/-! ## The `finally` block -/

theorem snapshotOf_walk {held : Option Observation} (hname : c.faithful → adapter.adapterType ≠ "")
    (hread : c.faithful → ∀ o ∈ held, Readable o) : Walk c id p (Engine.snapshotOf adapter held : Engine σ _) st'
      (fun snapshot st'' _ => st'' = st' ∧ ∀ sn ∈ snapshot, c.faithful → ∃ o, held = some o ∧ Agrees o sn)
      (fun e st'' _ => st'' = st' ∧ e.isException = true ∧ ¬ c.faithful) s := by
  cases held with
  | none => exact Py.wp_pure ⟨rfl, by simp⟩
  | some o =>
    refine Py.wp_map (Py.wp_mono (adapterSnapshot_walk hname fun hf => hread hf o rfl) ?_ fun _ _ _ h => h)
    rintro sn _ s' ⟨hst, hag⟩
    refine ⟨hst, ?_⟩
    rintro sn' ⟨⟩ hf
    exact ⟨o, rfl, hag hf⟩

/-- A commit on records that somebody has committed on since is refused. -/
theorem commit_stale_walk {τ : Type} {t : τ} {r : IterationRequest} (hat : At c id v s) (hm : Moved id v s)
    (hid : r.task.id = id) (hc : r.current = v.record) : Walk c id p (Engine.commitIteration r : Engine τ _) t
      (fun _ _ _ => False) (fun e t' s' => t' = t ∧ Refused c id v r e s') s := by
  refine Py.wp_bind (Py.wp_perform fun s' hr => ?_)
  have hkept : At c id v s' ∧ Moved id v s' := hr.preserves
    (fun q _ _ _ (h : At c id v _ ∧ Moved id v _) hm => ⟨At.kept q _ _ h.1 hm, h.1.reach.moved hm h.2⟩) ⟨hat, hm⟩
  obtain ⟨hat', v', hv', hlt⟩ := hkept
  have hne : r.current.task.sequence ≠ v'.record.task.sequence := by
    rw [hc]
    omega
  refine ⟨⟨hid, fun w hw hseq => ?_⟩, fun reply s'' hstep => ?_⟩
  · rw [hv'] at hw
    cases hw
    exact (hne hseq).elim
  obtain ⟨now, store, hcommit, -, hs⟩ := hstep
  obtain ⟨e, he⟩ := commit_stale hat'.reach.system.store hv' hid hne now
  rw [he] at hcommit
  cases hcommit
  cases hs
  exact ⟨rfl, .of_commit he fun _ _ _ _ _ _ => ⟨v', hv', hlt⟩⟩

/-- The handler of `shutdown` fails a running task, on the snapshot of what was observed
last. -/
theorem shutdownFailed_walk {e : PyError} (hname : c.faithful → adapter.adapterType ≠ "") (h : Closing c id st s) :
    Walk c id p (Engine.shutdownFailed adapter e) st (fun _ st' s' => st'.current.task.id = id ∧ Reach c id s')
      (fun e _ _ => Escapes c e) s := by
  have hid := h.task_id
  obtain ⟨v, hat, hrec, hstands⟩ := h
  unfold Engine.shutdownFailed
  refine Py.wp_bind (Py.wp_locals ?_)
  split
  swap
  · exact Py.wp_pure ⟨hid, hat.reach⟩
  rename_i hrun
  have hst := (hstands hrun).locals
  extract_lets reason
  refine Py.wp_bind (Py.wp_update ?_)
  refine Py.wp_bind (Py.wp_lift (fun task ht => ?_) fun e he => ?_)
  rotate_left
  · rw [withStatus_eq (by rw [hrun]; rfl)] at he
    cases he
  obtain ⟨-, rfl⟩ := withStatus_ok ht
  refine Py.wp_seq ((hstands hrun).frame (snapshotOf_walk hname hst.readable)) ?_ ?_
  rotate_left
  · rintro e st' s' ⟨⟨-, he, hf⟩, -⟩
    exact escapes_unfaithful he hf
  rintro snapshot st' s' ⟨⟨rfl, hag⟩, hstands⟩
  generalize hr : ({ current := st.current, task := st.current.task.setStatus .failed, runtimeState := st.runtimeState
                     eventDrafts := [failureDraft e reason "adapter_shutdown"], adapterSnapshot := snapshot } :
    IterationRequest) = r
  have hrefused : ∀ {e : PyError} {s' : System}, Refused c id v r e s' → Escapes c e := by
    intro e s' href
    refine (href.blameless (by simp [← hr]) fun sn hsn hf => ?_).1
    rw [← hr] at hsn
    obtain ⟨o, -, hag⟩ := hag sn hsn hf
    exact ⟨_, hag.tick⟩
  have hcommit : Walk c id p (Engine.commitIteration r) { st with reason := some reason }
      (fun commit _ s' => commit.taskRecord.task.id = id ∧ Reach c id s') (fun e _ _ => Escapes c e) s' := by
    by_cases hlatest : c.faithful → latestAfter v.events none = st.observation
    · obtain ⟨o, cp, ho, -, -⟩ := hstands.view.reconstructible (by rw [hrec, hrun]; rfl)
      have hordinary : Ordinary c.faithful v r [] none [failureDraft e reason "adapter_shutdown"] := by
        rw [← hr]
        refine hst.ordinary rfl (by simp [Quiet]) ⟨_, rfl⟩ (by decide) (by decide) (by decide) (fun sn hsn hf => ?_) (by simp)
          (by simp) (fun _ => by rw [latestAfter_of_ok ho]; rfl) fun hp => by rw [hrec, hrun] at hp; cases hp
        obtain ⟨o', ho', hag⟩ := hag sn hsn hf
        exact ⟨o', (hlatest hf).trans ho', hag⟩
      refine Py.wp_mono (commit_walk hstands.view (.ordinary _ _ _ hordinary)) ?_ ?_
      · rintro commit st' s' ⟨-, now, v', -, hrec', hat', -⟩
        exact ⟨by rw [hrec', hat'.ok.journal.task], hat'.reach⟩
      · rintro e st' s' ⟨-, -, href⟩
        exact hrefused href
    · -- the observation was not recorded, so the records moved on
      push Not at hlatest
      obtain ⟨hf, hne⟩ := hlatest
      have hmoved := (hstands.recorded hf).resolve_left hne
      refine Py.wp_mono (commit_stale_walk hstands.view hmoved (by rw [← hr]; exact hid) (by rw [← hr]; exact hrec.symm)) ?_ ?_
      · rintro _ _ _ ⟨⟩
      · rintro e st' s' ⟨-, href⟩
        exact hrefused href
  subst hr
  unfold Engine.commitWithDrafts
  refine Py.wp_bind (Py.wp_seq hcommit ?_ fun _ _ _ h => h)
  rintro commit st' s'' ⟨hid', hreach⟩
  exact Py.wp_pure (Py.wp_update ⟨hid', hreach⟩)

theorem closeSession_walk (hname : c.faithful → adapter.adapterType ≠ "") (h : Closing c id st s) :
    Walk c id p (Engine.closeSession adapter) st (fun _ st' s' => st'.current.task.id = id ∧ Reach c id s')
      (fun e _ _ => Escapes c e) s := by
  have hkept : ∀ (q : Process) (s s' : System), Closing c id st s → (protocol c id).Move q s s' → Closing c id st s' := by
    rintro q s s' ⟨v, hat, hrec, hstands⟩ hm
    exact ⟨v, At.kept q _ _ hat hm, hrec, fun hrun => (hstands hrun).kept q _ _ hm⟩
  unfold Engine.closeSession
  refine Py.wp_tryCatch (Py.wp_mono (Py.wp_frame hkept shutdown_walk h) ?_ ?_)
  · rintro _ st' s' ⟨rfl, h⟩
    exact ⟨h.task_id, h.reach⟩
  · rintro e st' s' ⟨⟨rfl, he⟩, h⟩
    rw [if_pos he]
    exact shutdownFailed_walk hname h

/-- **A session** ends in a load, or raises what may leave. -/
theorem runSession_walk (hcfg : c.configured services.configuration) (hname : c.faithful → adapter.adapterType ≠ "")
    (hat : At c id v s) (h : Standing c v st)
    (hlatest : latestAfter v.events none = st.observation) :
    Walk c id p (Engine.runSession services adapter budget) st (fun _ _ _ => True) (fun e _ _ => Escapes c e) s := by
  unfold Engine.runSession
  have hbody : Walk c id p (Py.tryFinally (Engine.session services adapter budget) (Engine.closeSession adapter)) st
      (fun _ st' s' => st'.current.task.id = id ∧ Reach c id s') (fun e _ _ => Escapes c e) s := by
    refine Py.wp_tryFinally (Py.wp_mono (session_walk hcfg hname hat h hlatest) ?_ ?_)
    · rintro outcome st' s' hclosing
      exact closeSession_walk hname hclosing
    · rintro e st' s' ⟨he, hclosing⟩
      exact Py.wp_mono (closeSession_walk hname hclosing) (fun _ _ _ _ => he) fun _ _ _ h => h
  refine Py.wp_seq hbody ?_ fun _ _ _ h => h
  rintro outcome st' s' ⟨hid, hreach⟩
  cases outcome with
  | some outcome => exact Py.wp_pure trivial
  | none =>
    refine Py.wp_bind (Py.wp_locals ?_)
    rw [hid]
    exact Py.wp_seq (reconstruct_walk hreach) (fun _ _ _ _ => Py.wp_pure trivial) fun _ _ _ h => h.2.2.2

/-! ## A run -/

/-- A pending approval is one of a waiting task, where the task was loaded. -/
theorem Loaded.answered {context : ReconstructedRuntimeContext} (h : Loaded v context)
    (hw : ¬ (context.task.status = .waitingForApproval ∧ context.pendingApproval.isSome = true)) :
    pendingOf v.approvals = none := by
  rw [h.pending] at hw
  by_contra hne
  obtain ⟨-, hvalid, -⟩ := Reconstruction.validate_eq_ok.1 h.valid
  obtain ⟨-, hwaits, -⟩ := Reconstruction.validateApprovals_eq_ok.1 hvalid
  have hpending : pendings v.approvals ≠ [] := fun he => hne (pendingOf_eq_none.2 he)
  refine hw ⟨?_, Option.isSome_iff_ne_none.2 hne⟩
  rw [h.task]
  exact hwaits hpending

theorem checkRestored_walk {τ : Type} {t : τ} {context : ReconstructedRuntimeContext} (hat : At c id v s)
    (h : Loaded v context) : Walk c id p (Engine.checkRestored adapter context) t
      (fun _ t' s' => t' = t ∧ At c id v s') (fun e _ _ => Escapes c e) s := by
  unfold Engine.checkRestored
  split
  swap
  · exact Py.wp_pure ⟨rfl, hat⟩
  rename_i hs
  have hneeds : NeedsCheckpoint v.record.task.status := by
    rw [h.task] at hs
    unfold NeedsCheckpoint
    rcases hs with hs | hs <;> rw [hs] <;> rfl
  obtain ⟨-, cp, -, hcp, -⟩ := hat.reconstructible hneeds
  unfold Engine.validateRestoredAdapter
  split
  · exact Py.wp_pure ⟨rfl, hat⟩
  refine Py.wp_seq ((restored_walk _).at hat) ?_ ?_
  rotate_left
  · rintro e t' s' ⟨⟨-, he, hf⟩, -⟩
    exact escapes_unfaithful he hf
  rintro snapshot t' s' ⟨⟨rfl, hrestored⟩, hat⟩
  refine Py.wp_bind (Py.wp_lift (fun durable hd => ?_) fun e he => ?_)
  rotate_left
  · unfold ReconstructedRuntimeContext.adapterSnapshot at he
    rw [h.checkpoint, hcp] at he
    cases he
  split
  · rename_i hne
    refine Py.wp_raise ⟨by rintro ⟨⟩, fun _ _ _ hr => ?_⟩
    rw [hrestored hr durable hd] at hne
    cases hne
  · exact Py.wp_pure ⟨rfl, hat⟩

/-- Entering a session with a context that may run. -/
theorem runContext_walk {τ : Type} {t : τ} {context : ReconstructedRuntimeContext}
    (hcfg : c.configured services.configuration)
    (hname : c.faithful → adapter.adapterType ≠ "") (hat : At c id v s) (h : Loaded v context)
    (hu : context.unresolvedAttempt = none) (hlive : context.task.status.isTerminal = false)
    (hw : ¬ (context.task.status = .waitingForApproval ∧ context.pendingApproval.isSome = true)) :
    Walk c id p (Engine.runContext services adapter budget context) t (fun _ _ _ => True) (fun e _ _ => Escapes c e) s := by
  unfold Engine.runContext
  refine Py.wp_seq (checkRestored_walk hat h) ?_ fun _ _ _ h => h
  rintro _ t' s' ⟨rfl, hat⟩
  have hlatest : latestAfter v.events none = context.observation := latestAfter_of_ok h.observation
  refine Py.wp_zoom (runSession_walk hcfg hname hat ?_ hlatest)
  exact
    { record := h.record.symm
      live := by rw [← h.task]; exact hlive
      resolved := by rw [h.unresolved, hu]
      answered := h.answered hw
      approval := by rw [← h.runtimeState]; exact .refl _
      readable := by
        intro hf o ho
        obtain ⟨o', ho', -, hcoh⟩ := hat.ok.checkpoint.latest
        have hobs := h.observation
        rw [ho'] at hobs
        cases hobs
        exact (hcoh hf o ho).1 }

/-- What is settled or flagged before anything else is done. -/
theorem gateRecovery_walk {τ : Type} {t : τ} {context : ReconstructedRuntimeContext} (hat : At c id v s)
    (h : Loaded v context) : Walk c id p (Engine.gateRecovery context) t
      (fun context' _ s' => ∃ v', At c id v' s' ∧ Loaded v' context') (fun e _ _ => Escapes c e) s := by
  unfold Engine.gateRecovery
  split
  · exact Py.wp_pure ⟨v, hat, h⟩
  rename_i attempt hu
  split
  · exact Py.wp_pure ⟨v, hat, h⟩
  rename_i hflagged
  extract_lets draft
  have hmark : Mark v { current := taskRecord context, task := context.task, runtimeState := context.runtimeState
                        eventDrafts := [draft], adapterSnapshot := none } attempt :=
    { current := h.record
      unresolved := by rw [h.unresolved, hu]
      task := h.task
      approval := by
        change SameApproval context.runtimeState _
        rw [h.runtimeState]
        exact .refl _
      cancelRequested := rfl
      approvalUpdate := rfl
      approvalCreate := rfl
      snapshot := rfl }
  have hall : Allowed c v { current := taskRecord context, task := context.task, runtimeState := context.runtimeState
                            eventDrafts := [draft], adapterSnapshot := none } := by
    by_cases hp : attempt.status = .prepared
    · exact .retire attempt hmark hp (by simp only [draft, if_pos hp])
    · exact .requireReconciliation attempt hmark hp hflagged (by simp only [draft, if_neg hp])
  have hid : context.task.id = id := by
    rw [h.task]
    exact hat.ok.journal.task
  refine Py.wp_seq (commitWithDrafts_walk hat hall) ?_ ?_
  rotate_left
  · rintro e t' s' ⟨-, -, href⟩
    exact (href.blameless (by simp) (by simp)).1
  rintro record t' s' ⟨-, now, v', -, hat', -⟩
  rw [hid]
  exact Py.wp_mono (reconstruct_walk hat'.reach) (fun _ _ _ h => h.2) fun _ _ _ h => h.2.2.2

theorem newTask_walk {τ : Type} {t : τ} {task : Task} (h : Reach c id s) (hid : task.id = id) :
    Walk c id p (Engine.newTask task : Engine τ _) t (fun _ _ s' => Reach c id s') (fun e _ _ => Escapes c e) s := by
  unfold Engine.newTask
  split
  · refine Py.wp_raise ⟨by rintro ⟨⟩, fun _ _ _ _ message => ?_⟩
    rintro ⟨⟩
  rename_i hnew
  push Not at hnew
  refine Py.wp_bind (Py.wp_perform fun s₁ hr => ⟨⟨hid, hnew⟩, fun reply s₂ hstep => ?_⟩)
  have hreach : Reach c id s₂ := by
    have hr' : Reach c id s₁ := Relation.ReflTransGen.trans h hr.moves
    exact hr'.move (q := p) ⟨.createTask task, reply, ⟨hid, hnew⟩, hstep⟩
  refine Py.wp_lift (fun _ _ => hreach) fun e he => ?_
  obtain ⟨store, hc, -⟩ := hstep
  subst he
  unfold createTaskRecord at hc
  split at hc
  · cases hc
  · cases hc
    exact escapes_durable _

/-- `_load_or_create`. -/
theorem loadOrCreate_walk {τ : Type} {t : τ} {task : Task} (h : Reach c id s) (hid : task.id = id) :
    Walk c id p (Engine.loadOrCreate task : Engine τ _) t (fun context _ s' => ∃ v, At c id v s' ∧ Loaded v context)
      (fun e _ _ => Escapes c e) s := by
  have hload : ∀ {t : τ} {s : System}, Reach c id s → Walk c id p (Engine.reconstruct task.id : Engine τ _) t
      (fun context _ s' => ∃ v, At c id v s' ∧ Loaded v context) (fun e _ s' => Reach c id s' ∧ Escapes c e) s := by
    intro t s h
    rw [hid]
    exact Py.wp_mono (reconstruct_walk h) (fun _ _ _ h => h.2) fun _ _ _ h => ⟨h.2.1, h.2.2.2⟩
  unfold Engine.loadOrCreate
  refine Py.wp_tryCatch (Py.wp_mono (hload h) (fun _ _ _ h => h) ?_)
  rintro e t' s' ⟨hreach, he⟩
  split
  · refine Py.wp_seq (newTask_walk hreach hid) ?_ fun _ _ _ h => h
    rintro record t₁ s₁ hreach
    exact Py.wp_mono (hload hreach) (fun _ _ _ h => h) fun _ _ _ h => h.2
  · exact Py.wp_raise he

/-- **A run** raises what may leave only. -/
theorem runRuntime_walk {τ : Type} {t : τ} {task : Task} (hcfg : c.configured services.configuration)
    (hname : c.faithful → adapter.adapterType ≠ "") (h : Reach c id s) (hid : task.id = id) : Walk c id p (Engine.runRuntime services task adapter budget) t
      (fun _ _ _ => True) (fun e _ _ => Escapes c e) s := by
  unfold Engine.runRuntime
  refine Py.wp_seq (loadOrCreate_walk h hid) ?_ fun _ _ _ h => h
  rintro context t₁ s₁ ⟨v, hat, hl⟩
  refine Py.wp_seq (gateRecovery_walk hat hl) ?_ fun _ _ _ h => h
  rintro context t₂ s₂ ⟨v, hat, hl⟩
  split
  · exact Py.wp_pure trivial
  rename_i hu
  split
  · exact Py.wp_pure trivial
  rename_i hlive
  split
  · exact Py.wp_pure trivial
  rename_i hw
  exact runContext_walk hcfg hname hat hl (by simpa using hu) (by simpa using hlive) hw

end SimPilot
