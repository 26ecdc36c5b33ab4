import SimPilot.Runtime.SystemInvariant
/-!
# Walking the engine: its operations

The programs of the engine are walked once (`Effect/RelyGuarantee.lean`), from the bottom
up, with one lemma for each function: here the operations, in `WalkIteration.lean` the
loop, in `WalkSession.lean` the calls. The walk of a function says what it leaves when it
returns and when it raises, wherever the other processes move in between.

The assertion about the shared state is `At v`: the records of the task were `v`, and
they still are unless somebody committed since. Every move keeps it.
-/

namespace SimPilot
open Effect

/-- The walk of a computation of the engine, run by `p` among the others. -/
abbrev Walk (c : Conditions) (id : UUID) (p : Process) {σ α : Type} (m : Engine σ α) (st : σ)
    (ok : α → σ → System → Prop) (er : PyError → σ → System → Prop) (s : System) : Prop :=
  Py.wp (protocol c id) p m st ok er s

variable {c : Conditions} {id : UUID} {p : Process} {σ α : Type} {st : σ} {s : System} {v : TaskView}
  {m : Engine σ α} {ok : α → σ → System → Prop} {er : PyError → σ → System → Prop}

/-! ## Assertions -/

/-- A state reached by legal operations. -/
def Reach (c : Conditions) (id : UUID) (s : System) : Prop := (protocol c id).Moves {} s

/-- The records of the task are later ones than `v`. -/
def Moved (id : UUID) (v : TaskView) (s : System) : Prop :=
  ∃ v', viewOf id s.store = some v' ∧ v.record.task.sequence < v'.record.task.sequence

/-- The records of the task were `v`, and are unless somebody committed since. -/
structure At (c : Conditions) (id : UUID) (v : TaskView) (s : System) : Prop where
  reach : Reach c id s
  ok : TaskOk c id v
  now : viewOf id s.store = some v ∨ Moved id v s

theorem Reach.move {q : Process} {s' : System} (h : Reach c id s) (hm : (protocol c id).Move q s s') : Reach c id s' :=
  Relation.ReflTransGen.tail h ⟨q, hm⟩

theorem Reach.system (h : Reach c id s) : SystemOk c id s := .of_moves h

/-- What a move makes of the records of a task. -/
theorem Reach.view {q : Process} {s' : System} (h : Reach c id s) (hm : (protocol c id).Move q s s')
    (hv : viewOf id s.store = some v) : viewOf id s'.store = some v ∨ Moved id v s' := by
  cases h.system.change hm with
  | silent hs => exact .inl (hs ▸ hv)
  | created task hid hs hq before => rw [hv] at before; cases before
  | committed w v' now r before allowed meets commit after =>
    rw [hv] at before
    cases before
    refine .inr ⟨v', after, ?_⟩
    have hpos : 0 < r.eventDrafts.length := List.length_pos_of_ne_nil commit.drafts
    have hseq := allowed.sequence commit
    omega
  | executed _ _ _ _ hs => exact .inl (hs ▸ hv)
  | returned _ _ hs => exact .inl (hs ▸ hv)

theorem Reach.moved {q : Process} {s' : System} (h : Reach c id s) (hm : (protocol c id).Move q s s')
    (hv : Moved id v s) : Moved id v s' := by
  obtain ⟨v', hv', hlt⟩ := hv
  rcases h.view hm hv' with hv'' | ⟨v'', hv'', hlt'⟩
  · exact ⟨v', hv'', hlt⟩
  · exact ⟨v'', hv'', hlt.trans hlt'⟩

theorem At.kept (q : Process) (s s' : System) (h : At c id v s) (hm : (protocol c id).Move q s s') : At c id v s' := by
  refine ⟨h.reach.move hm, h.ok, ?_⟩
  rcases h.now with hv | hv
  · exact h.reach.view hm hv
  · exact .inr (h.reach.moved hm hv)

/-- The records that are stored. -/
theorem Reach.at (h : Reach c id s) (hv : viewOf id s.store = some v) : At c id v s := ⟨h, h.system.task v hv, .inl hv⟩

/-- A walk that says nothing of the shared state leaves `At`. -/
theorem Walk.at (h : Walk c id p m st ok er s) (hat : At c id v s) :
    Walk c id p m st (fun a st' s' => ok a st' s' ∧ At c id v s') (fun e st' s' => er e st' s' ∧ At c id v s') s :=
  Py.wp_frame At.kept h hat

theorem Walk.reach (h : Walk c id p m st ok er s) (hr : Reach c id s) :
    Walk c id p m st (fun a st' s' => ok a st' s' ∧ Reach c id s') (fun e st' s' => er e st' s' ∧ Reach c id s') s :=
  Py.wp_frame (fun _ _ _ hs hm => Reach.move hs hm) h hr

/-- What a task of well-formed records of status running or waiting has. -/
theorem At.reconstructible (h : At c id v s) (hn : NeedsCheckpoint v.record.task.status) :
    ∃ o cp, latestObservation v.events = .ok (some o) ∧ v.checkpoint = some cp ∧ (c.faithful → Readable o) := by
  obtain ⟨o, ho, hsome, hcoh⟩ := h.ok.checkpoint.latest
  obtain ⟨cp, hcp⟩ := Option.isSome_iff_exists.1 (h.ok.checkpoint.started hn)
  rw [hcp] at hsome
  obtain ⟨ob, rfl⟩ := Option.isSome_iff_exists.1 (show o.isSome = true from hsome)
  exact ⟨ob, cp, ho, hcp, fun hf => (hcoh hf ob rfl).1⟩

/-! ## Errors -/

/-- What may leave `run`: never the loop's bound, and under clean conditions no
inconsistency. -/
def Escapes (c : Conditions) (e : PyError) : Prop :=
  e ≠ .diverged ∧ (c.settledCancel → c.answeredCancel → c.faithful → c.restored → ∀ message,
    e ≠ .reconstructionConsistency message)

/-- What a handler of the engine catches. -/
def Caught (e : PyError) : Prop := e.isException = true ∧ ∀ message, e ≠ .durablePersistence message

theorem PyError.ne_diverged {e : PyError} (h : e.isException = true) : e ≠ .diverged := by
  rintro rfl
  cases h

theorem escapes_durable (message : String) : Escapes c (.durablePersistence message) := by
  refine ⟨?_, fun _ _ _ _ message' => ?_⟩
  · rintro ⟨⟩
  · rintro ⟨⟩

theorem escapes_crash (point : CrashPoint) : Escapes c (.simulatedCrash point) := by
  refine ⟨?_, fun _ _ _ _ message' => ?_⟩
  · rintro ⟨⟩
  · rintro ⟨⟩

/-- With adapters that are not faithful, every exception may leave. -/
theorem escapes_unfaithful {e : PyError} (he : e.isException = true) (hf : ¬ c.faithful) : Escapes c e :=
  ⟨PyError.ne_diverged he, fun _ _ h => absurd h hf⟩

/-- Why a request on nonempty drafts does not build: the snapshot has no tick. -/
theorem IterationRequest.build_error {now : Timestamp} {r : IterationRequest} {e : PyError} (hd : r.eventDrafts ≠ [])
    (h : r.build now = .error e) : (∃ sn ∈ r.adapterSnapshot, ∀ n : Nat, stateTick sn.state ≠ some (n : Int)) ∧
      Caught e ∧ ∀ message, e ≠ .reconstructionConsistency message := by
  by_cases htick : ∀ sn ∈ r.adapterSnapshot, ∃ tick : Nat, stateTick sn.state = some (tick : Int)
  · obtain ⟨commit, hb⟩ : ∃ commit, r.build now = .ok commit := IterationRequest.build_isOk hd htick
    rw [h] at hb
    cases hb
  · push Not at htick
    refine ⟨htick, ?_⟩
    obtain ⟨sn, hsn, -⟩ := htick
    rw [Option.mem_def] at hsn
    simp only [IterationRequest.build, hd, if_false, hsn, bind, Except.bind] at h
    cases hb : buildCheckpoint r.task.id r.lastSequence now sn with
    | ok cp => rw [hb] at h; cases h
    | error e' =>
      rw [hb] at h
      cases h
      unfold buildCheckpoint at hb
      split at hb
      · cases hb
      · cases hb
        exact ⟨⟨rfl, by rintro m ⟨⟩⟩, by rintro m ⟨⟩⟩
      · cases hb
        exact ⟨⟨rfl, by rintro m ⟨⟩⟩, by rintro m ⟨⟩⟩

/-- Why a commit on the records `v` raised: the store refused it, or it was not built. -/
inductive Refused (c : Conditions) (id : UUID) (v : TaskView) (r : IterationRequest) : PyError → System → Prop
  | store (message : String) (s : System) (moved : c.faithful →
      (∀ sn ∈ r.adapterSnapshot, sn.simulationSchemaVersion = supportedVersion) →
      r.approvalCreate = none → r.approvalUpdate = none → Moved id v s) : Refused c id v r (.durablePersistence message) s
  | build (e : PyError) (s : System) (now : Timestamp) (h : r.build now = .error e) : Refused c id v r e s

theorem Refused.of_commit {r : IterationRequest} {e : PyError} {now : Timestamp} {store store' : InMemoryPersistenceState}
    (h : commitIteration now r store = (.error e, store')) (hm : ∀ commit, r.build now = .ok commit → c.faithful →
      (∀ sn ∈ r.adapterSnapshot, sn.simulationSchemaVersion = supportedVersion) → r.approvalCreate = none →
      r.approvalUpdate = none → Moved id v s) : Refused c id v r e s := by
  cases hb : r.build now with
  | error e' =>
    simp only [commitIteration, hb, Prod.mk.injEq, Except.error.injEq] at h
    rw [← h.1]
    exact .build e' _ now hb
  | ok commit =>
    simp only [commitIteration, hb] at h
    split at h
    · cases h
    · cases h
      exact .store _ _ (hm commit hb)

/-! ## The operations -/

/-- An operation whose reply is a value or an exception. -/
theorem walk_reply {o : Op} (f : Ret o → Except PyError α) {R : Except PyError α → Prop}
    (hl : ∀ s, Legal c id p o s) (hs : ∀ s r s', Step c p o s r s' → R (f r)) :
    Walk c id p (Engine.ask o >>= fun r => Py.lift (f r)) st (fun a st' _ => st' = st ∧ R (.ok a))
      (fun e st' _ => st' = st ∧ R (.error e)) s := by
  refine Py.wp_bind (Py.wp_perform fun s' _ => ⟨hl s', fun r s'' hstep => ?_⟩)
  have hr := hs s' r s'' hstep
  exact Py.wp_lift (fun a ha => ⟨rfl, ha ▸ hr⟩) (fun e he => ⟨rfl, he ▸ hr⟩)

/-- What a collaborator raises is an `Exception`. -/
theorem walk_answer {o : Op} (f : Ret o → Except PyError α) (hl : ∀ s, Legal c id p o s)
    (hs : ∀ s r s', Step c p o s r s' → Answers (f r)) :
    Walk c id p (Engine.ask o >>= fun r => Py.lift (f r)) st (fun _ st' _ => st' = st)
      (fun e st' _ => st' = st ∧ e.isException = true) s :=
  Py.wp_mono (walk_reply f hl (R := Answers) hs) (fun _ _ _ h => h.1) fun _ _ _ h => ⟨h.1, h.2 _ rfl⟩

theorem initializeAdapter_walk : Walk c id p (Engine.initializeAdapter : Engine σ Unit) st (fun _ st' _ => st' = st)
    (fun e st' _ => st' = st ∧ e.isException = true) s :=
  walk_answer (o := .initializeAdapter) (fun r => r) (fun _ => trivial) fun _ _ _ h => h.2

theorem shutdown_walk : Walk c id p (Engine.shutdown : Engine σ Unit) st (fun _ st' _ => st' = st)
    (fun e st' _ => st' = st ∧ e.isException = true) s :=
  walk_answer (o := .shutdown) (fun r => r) (fun _ => trivial) fun _ _ _ h => h.2

theorem availableActions_walk : Walk c id p (Engine.availableActions : Engine σ _) st (fun _ st' _ => st' = st)
    (fun e st' _ => st' = st ∧ e.isException = true) s :=
  walk_answer (o := .availableActions) (fun r => r) (fun _ => trivial) fun _ _ _ h => h.2

theorem validate_walk (action : Action) : Walk c id p (Engine.validate action : Engine σ _) st (fun _ st' _ => st' = st)
    (fun e st' _ => st' = st ∧ e.isException = true) s :=
  walk_answer (o := .validate action) (fun r => r) (fun _ => trivial) fun _ _ _ h => h.2

theorem providerDecide_walk (context : DecisionContext) : Walk c id p (Engine.providerDecide context : Engine σ _) st
    (fun _ st' _ => st' = st) (fun e st' _ => st' = st ∧ e.isException = true) s :=
  walk_answer (o := .decide context) (fun r => r) (fun _ => trivial) fun _ _ _ h => h.2

theorem cancellationCheck_walk (task : UUID) : Walk c id p (Engine.cancellationCheck task : Engine σ _) st
    (fun _ st' _ => st' = st) (fun e st' _ => st' = st ∧ e.isException = true) s :=
  walk_answer (o := .cancellationCheck task) (fun r => r) (fun _ => trivial) fun _ _ _ h => h.2

theorem adapterFactory_walk (context : ReconstructedRuntimeContext) :
    Walk c id p (Engine.adapterFactory context : Engine σ _) st
      (fun adapter st' _ => st' = st ∧ (c.faithful → adapter.adapterType ≠ ""))
      (fun e st' _ => st' = st ∧ e.isException = true) s :=
  Py.wp_mono (walk_reply (o := .adapterFactory context) (fun r => r) (fun _ => trivial)
      (R := fun r => Answers r ∧ (c.faithful → ∀ adapter, r = .ok adapter → adapter.adapterType ≠ "")) fun _ _ _ h => h.2)
    (fun _ _ _ h => ⟨h.1, fun hf => h.2.2 hf _ rfl⟩) fun _ _ _ h => ⟨h.1, h.2.1 _ rfl⟩

/-- What `observe` returns while the caller holds an observation. -/
theorem observe_walk (held : Option Observation) : Walk c id p (Engine.observe held : Engine σ _) st
    (fun o st' _ => st' = st ∧ (c.faithful → Readable o ∧ ∀ h ∈ held, h.sequence ≤ o.sequence))
    (fun e st' _ => st' = st ∧ e.isException = true) s :=
  Py.wp_mono (walk_reply (o := .observe held) (fun r => r) (fun _ => trivial)
      (R := fun r => Answers r ∧
        (c.faithful → ∀ o, r = .ok o → Readable o ∧ ∀ h ∈ held, h.sequence ≤ o.sequence)) fun _ _ _ h => h.2)
    (fun _ _ _ h => ⟨h.1, fun hf => h.2.2 hf _ rfl⟩) fun _ _ _ h => ⟨h.1, h.2.1 _ rfl⟩

/-- What a snapshot returns: of a faithful adapter it agrees with what the caller holds. -/
theorem snapshot_walk (held : Observation) : Walk c id p (Engine.snapshot held : Engine σ _) st
    (fun sn st' _ => st' = st ∧ (c.faithful → Agrees held sn))
    (fun e st' _ => st' = st ∧ e.isException = true ∧ ¬ c.faithful) s := by
  refine Py.wp_mono (walk_reply (o := .snapshot held) (fun r => r) (fun _ => trivial)
    (R := fun r => Answers r ∧ (c.faithful → ∃ sn, r = .ok sn ∧ Agrees held sn)) fun _ _ _ h => h.2) ?_ ?_
  · rintro sn st' s' ⟨hst, -, hf⟩
    refine ⟨hst, fun hc => ?_⟩
    obtain ⟨sn', hsn, hag⟩ := hf hc
    cases hsn
    exact hag
  · rintro e st' s' ⟨hst, ha, hf⟩
    refine ⟨hst, ha e rfl, fun hc => ?_⟩
    obtain ⟨sn, hsn, -⟩ := hf hc
    cases hsn

/-- What the snapshot of a restored adapter returns. -/
theorem restored_walk (durable : Except PyError AdapterSnapshot) :
    Walk c id p (Engine.restored durable : Engine σ _) st
      (fun sn st' _ => st' = st ∧ (c.restored → ∀ d, durable = .ok d → sn.pyEq d = true))
      (fun e st' _ => st' = st ∧ e.isException = true ∧ ¬ c.faithful) s := by
  refine Py.wp_mono (walk_reply (o := .restored durable) (fun r => r) (fun _ => trivial)
    (R := fun r => Answers r ∧ (c.faithful → ∃ sn, r = .ok sn) ∧
      (c.restored → ∀ sn, r = .ok sn → ∀ d, durable = .ok d → sn.pyEq d = true)) fun _ _ _ h => h.2) ?_ ?_
  · rintro sn st' s' ⟨hst, -, -, hr⟩
    exact ⟨hst, fun hc => hr hc sn rfl⟩
  · rintro e st' s' ⟨hst, ha, hf, -⟩
    refine ⟨hst, ha e rfl, fun hc => ?_⟩
    obtain ⟨sn, hsn⟩ := hf hc
    cases hsn

theorem now_walk : Walk c id p (Engine.now : Engine σ Timestamp) st (fun _ st' _ => st' = st) (fun _ _ _ => False) s :=
  Py.wp_perform fun _ _ => ⟨trivial, fun _ _ _ => rfl⟩

theorem listEvents_walk (task : UUID) : Walk c id p (Engine.listEvents task : Engine σ _) st (fun _ st' _ => st' = st) er s :=
  Py.wp_perform fun _ _ => ⟨trivial, fun _ _ _ => rfl⟩

/-- A crash hook that returns leaves what the others keep. -/
theorem crash_keeps {I : System → Prop} (hI : ∀ q s s', q ≠ p → I s → (protocol c id).Move q s s' → I s') (hs : I s)
    (point : CrashPoint) : Walk c id p (Engine.crash point : Engine σ Unit) st (fun _ st' s' => st' = st ∧ I s')
      (fun e st' _ => st' = st ∧ e = .simulatedCrash point) s := by
  refine Py.wp_bind (Py.wp_perform fun s' hr => ⟨trivial, fun r s'' hstep => ?_⟩)
  have hs' : I s'' := by
    have : s'' = s' := hstep
    rw [this]
    exact hr.preserves hI hs
  cases r with
  | false => exact ⟨rfl, hs'⟩
  | true => exact ⟨rfl, rfl⟩

theorem crash_walk (point : CrashPoint) : Walk c id p (Engine.crash point : Engine σ Unit) st (fun _ st' _ => st' = st)
    (fun e st' _ => st' = st ∧ e = .simulatedCrash point) s :=
  Py.wp_mono (crash_keeps (I := fun _ => True) (fun _ _ _ _ _ _ => trivial) trivial point) (fun _ _ _ h => h.1)
    fun _ _ _ h => h

/-- The snapshot of an observation, taken from the adapter or derived. -/
theorem adapterSnapshot_walk {adapter : AdapterInfo} {o : Observation} (hn : c.faithful → adapter.adapterType ≠ "")
    (ho : c.faithful → Readable o) : Walk c id p (Engine.adapterSnapshot adapter o : Engine σ _) st
      (fun sn st' _ => st' = st ∧ (c.faithful → Agrees o sn))
      (fun e st' _ => st' = st ∧ e.isException = true ∧ ¬ c.faithful) s := by
  unfold Engine.adapterSnapshot
  split
  · exact snapshot_walk o
  · have hderived : c.faithful → ∃ sn, derivedSnapshot adapter.adapterType o = .ok sn ∧ Agrees o sn := by
      intro hc
      obtain ⟨htick, version, hv, hsupported, hagree⟩ := ho hc
      refine ⟨_, by simp only [derivedSnapshot, hv, hn hc, if_false]; rfl, ?_⟩
      exact
        { state := Dict.pyEq_self _
          tick := htick
          schema := hagree
          version := hsupported
          sequence := le_refl _ }
    refine Py.wp_lift (fun sn hsn => ⟨rfl, fun hc => ?_⟩) fun e he => ⟨rfl, ?_, fun hc => ?_⟩
    · obtain ⟨sn', hsn', hag⟩ := hderived hc
      rw [hsn] at hsn'
      cases hsn'
      exact hag
    · simp only [derivedSnapshot] at he
      split at he
      · rename_i hv
        unfold stateSchemaVersion at hv
        split at hv <;> (try split at hv) <;> cases hv <;> cases he <;> rfl
      · split at he <;> cases he
        rfl
    · obtain ⟨sn', hsn', -⟩ := hderived hc
      rw [he] at hsn'
      cases hsn'

theorem snapshotIf_walk {adapter : AdapterInfo} {o : Observation} (wanted : Bool)
    (hn : c.faithful → adapter.adapterType ≠ "") (ho : c.faithful → Readable o) :
    Walk c id p (Engine.snapshotIf wanted adapter o : Engine σ _) st
      (fun snapshot st' _ => st' = st ∧ snapshot.isSome = wanted ∧ ∀ sn ∈ snapshot, c.faithful → Agrees o sn)
      (fun e st' _ => st' = st ∧ e.isException = true ∧ ¬ c.faithful) s := by
  unfold Engine.snapshotIf
  cases wanted with
  | false => exact ⟨rfl, rfl, by simp⟩
  | true =>
    refine Py.wp_map (Py.wp_mono (adapterSnapshot_walk hn ho) ?_ fun _ _ _ h => h)
    rintro sn st' s' ⟨hst, hag⟩
    refine ⟨hst, rfl, fun sn' hsn hf => ?_⟩
    rw [Option.mem_some_iff] at hsn
    exact hsn ▸ hag hf

/-- A commit that is allowed on the records it is made on. -/
theorem commit_walk {r : IterationRequest} (hat : At c id v s) (hall : Allowed c v r) :
    Walk c id p (Engine.commitIteration r : Engine σ _) st
      (fun commit st' s' => st' = st ∧ ∃ now v', After v now r v' ∧ commit.taskRecord = v'.record ∧ At c id v' s' ∧
        s'.lastOf p = some (.committed p v r))
      (fun e st' s' => st' = st ∧ At c id v s' ∧ Refused c id v r e s') s := by
  have hid : r.task.id = id := hall.task_eq.1.trans hat.ok.journal.task
  refine Py.wp_bind (Py.wp_perform fun s' hr => ?_)
  have hat' : At c id v s' := hr.preserves (fun q _ _ _ => At.kept q _ _) hat
  have hsame : ∀ w, viewOf id s'.store = some w → r.current.task.sequence = w.record.task.sequence → w = v := by
    intro w hw hseq
    rw [hall.current] at hseq
    rcases hat'.now with hv | ⟨v', hv', hlt⟩
    · rw [hw] at hv
      exact Option.some.inj hv
    · rw [hw] at hv'
      cases hv'
      omega
  have hlegal : Legal c id p (.commitIteration r) s' := by
    refine ⟨hid, fun w hw hseq => ?_⟩
    rw [hsame w hw hseq]
    exact hall
  refine ⟨hlegal, fun reply s'' hstep => ?_⟩
  have hmove : (protocol c id).Move p s' s'' := ⟨.commitIteration r, reply, hlegal, hstep⟩
  have hat'' : At c id v s'' := At.kept p _ _ hat' hmove
  obtain ⟨now, store, hc, hclock, hs⟩ := hstep
  have hok := hat'.reach.system
  cases reply with
  | error e =>
    cases hs
    refine ⟨rfl, hat'', ?_⟩
    refine .of_commit hc fun commit hb hf hversion hcreate hupdate => ?_
    -- on the stored record the store had accepted it
    rcases hat'.now with hv | hmoved
    · have htime := hclock hf v (by rw [hid]; exact hv)
      have := commit_fresh hok.store hv hid (by rw [hall.current]) ⟨htime, hversion, hcreate, hupdate⟩ hc
      rw [hb] at this
      cases this
    · exact hat'.reach.moved hmove hmoved
  | ok commit =>
    obtain ⟨w, hw, hmeets, rfl⟩ := hs
    rw [hid] at hw
    have hseq : r.current.task.sequence = w.record.task.sequence := by
      by_contra hne
      obtain ⟨e, he⟩ := commit_stale hok.store hw hid hne now
      rw [hc] at he
      cases he
    cases hsame w hw hseq
    obtain ⟨hcreate, hupdate⟩ := hall.approvals_owner hat.ok.journal.task (hok.approvals_owner hw)
    obtain ⟨hrec, -, -, v', hv', hafter⟩ := commit_view hok.store hw hid hcreate hupdate hc
    refine ⟨rfl, now, v', hafter, ?_, hat''.reach.at hv', ?_⟩
    · rw [hrec, hafter.record]
    · simp [System.lastOf, TraceEvent.process]

theorem commitWithDrafts_walk {task : Task} {runtimeState : RuntimeSafeguardState} {drafts : List EventDraft}
    {snapshot : Option AdapterSnapshot} {current : TaskRecord} (hat : At c id v s)
    (hall : Allowed c v { current, task, runtimeState, eventDrafts := drafts, adapterSnapshot := snapshot }) :
    Walk c id p (Engine.commitWithDrafts current task runtimeState drafts snapshot : Engine σ _) st
      (fun record st' s' => st' = st ∧ ∃ now v', record = v'.record ∧ At c id v' s' ∧
        After v now { current, task, runtimeState, eventDrafts := drafts, adapterSnapshot := snapshot } v' ∧
        s'.lastOf p = some (.committed p v
          { current, task, runtimeState, eventDrafts := drafts, adapterSnapshot := snapshot }))
      (fun e st' s' => st' = st ∧ At c id v s' ∧
        Refused c id v { current, task, runtimeState, eventDrafts := drafts, adapterSnapshot := snapshot } e s') s := by
  refine Py.wp_seq (commit_walk hat hall) ?_ fun _ _ _ h => h
  rintro commit st' s' ⟨hst, now, v', hafter, hrec, hat', hlast⟩
  exact ⟨hst, now, v', hrec, hat', hafter, hlast⟩

/-! ## Reconstruction -/

/-- A context that was loaded from the records `v`. -/
structure Loaded (v : TaskView) (context : ReconstructedRuntimeContext) : Prop where
  record : taskRecord context = v.record
  pending : context.pendingApproval = pendingOf v.approvals
  unresolved : unresolvedActionAttempt v.events = .ok context.unresolvedAttempt
  observation : latestObservation v.events = .ok context.observation
  checkpoint : context.checkpoint = v.checkpoint
  valid : Reconstruction.validate v context.observation = .ok ()

theorem Loaded.task {context : ReconstructedRuntimeContext} (h : Loaded v context) : context.task = v.record.task := by
  rw [← h.record]; rfl

theorem Loaded.runtimeState {context : ReconstructedRuntimeContext} (h : Loaded v context) :
    context.runtimeState = v.record.runtimeState := by
  rw [← h.record]; rfl

theorem loaded_of_reconstruct {context : ReconstructedRuntimeContext} (h : reconstruct v = .ok context) :
    Loaded v context := by
  obtain ⟨o, as, ho, hv, has, rfl⟩ := reconstruct_eq_ok.1 h
  exact
    { record := rfl
      pending := rfl
      unresolved := unresolved_of_attempts has
      observation := ho
      checkpoint := rfl
      valid := hv }

/-- Well-formed records are refused by a check of the reconstructor, or not at all. -/
theorem TaskOk.reconstruct_error (h : TaskOk c id v) {e : PyError} (he : SimPilot.reconstruct v = .error e) :
    ∃ message, e = .reconstructionConsistency message := by
  obtain ⟨o, ho, -⟩ := h.checkpoint.latest
  obtain ⟨as, has, -⟩ := h.journal.attempts
  simp only [SimPilot.reconstruct, ho, unresolvedActionAttempt, has, bind, Except.bind, Except.map] at he
  cases hv : Reconstruction.validate v o with
  | error e' =>
    rw [hv] at he
    cases he
    exact Reconstruction.consistency_validate v o e hv
  | ok u =>
    rw [hv] at he
    cases he

/-- A load of the task. -/
theorem reconstruct_walk (h : Reach c id s) : Walk c id p (Engine.reconstruct id : Engine σ _) st
    (fun context st' s' => st' = st ∧ ∃ v, At c id v s' ∧ Loaded v context)
    (fun e st' s' => st' = st ∧ Reach c id s' ∧ e.isException = true ∧ Escapes c e) s := by
  refine Py.wp_bind (Py.wp_perform fun s' hr => ⟨trivial, fun r s'' hstep => ?_⟩)
  obtain ⟨rfl, rfl⟩ := hstep
  have hreach : Reach c id s'' := Relation.ReflTransGen.trans h hr.moves
  cases hv : viewOf id s''.store with
  | none =>
    refine ⟨rfl, hreach, rfl, ?_, fun _ _ _ _ message => ?_⟩
    · rintro ⟨⟩
    · rintro ⟨⟩
  | some v =>
    have hat := hreach.at hv
    refine Py.wp_lift (fun context hc => ⟨rfl, v, hat, loaded_of_reconstruct hc⟩) fun e he => ⟨rfl, hreach, ?_⟩
    obtain ⟨message, rfl⟩ := hat.ok.reconstruct_error he
    refine ⟨rfl, ?_, fun hs ha hf _ _ _ => ?_⟩
    · rintro ⟨⟩
    · -- under clean conditions the records load
      obtain ⟨context, hc⟩ := hat.ok.reconstruct hs ha hf
      rw [he] at hc
      cases hc

end SimPilot
