import SimPilot.Runtime.Machine
/-!
# The attempts of a journal the engine wrote

`AttemptsOk` is the shape of the attempts of a task: all but the last are settled, their
ids are distinct and name the sequences they were prepared at. A batch of the engine
leaves the attempts as they are, adds a prepared one, or moves the last one on; which of
these, and to what, is `Allowed.attempts`.
-/

namespace SimPilot

/-! ## The replay of one batch -/

theorem actionAttempts_append (events more : List RuntimeEvent) :
    actionAttempts (events ++ more) = (actionAttempts events >>= fun as => more.foldlM attemptStep as) := by
  simp [actionAttempts, List.foldlM_append]

/-- Events that concern no attempt change none. -/
theorem foldlM_attemptStep_quiet {as : List ActionAttempt} :
    ∀ {events : List RuntimeEvent}, (∀ e ∈ events, e.eventType.attemptStatus = none) →
      events.foldlM attemptStep as = .ok as
  | [], _ => rfl
  | e :: events, h => by
    have hstep : attemptStep as e = .ok as := by simp [attemptStep, h e (by simp)]
    rw [List.foldlM_cons, hstep]
    exact foldlM_attemptStep_quiet fun e' he' => h e' (List.mem_cons_of_mem _ he')

/-- The events of a batch carry the types of its drafts. -/
theorem eventType_numberEvents {id : UUID} {now : Timestamp} {n : Nat} {drafts : List EventDraft} {e : RuntimeEvent}
    (h : e ∈ numberEvents id now n drafts) : ∃ d ∈ drafts, e.eventType = d.eventType ∧ e.payload = d.payload := by
  have hmem := List.mem_map_of_mem (f := fun e : RuntimeEvent => (⟨e.eventType, e.payload⟩ : EventDraft)) h
  rw [drafts_numberEvents] at hmem
  exact ⟨_, hmem, rfl, rfl⟩

/-- Drafts about no attempt. -/
def NoAttempt (drafts : List EventDraft) : Prop := ∀ d ∈ drafts, d.eventType.attemptStatus = none

theorem NoAttempt.append {ds es : List EventDraft} (hd : NoAttempt ds) (he : NoAttempt es) : NoAttempt (ds ++ es) := by
  intro d hmem
  rcases List.mem_append.1 hmem with h | h
  · exact hd d h
  · exact he d h

theorem Quiet.noAttempt {drafts : List EventDraft} (h : Quiet drafts) : NoAttempt drafts := by
  intro d hd
  have := h d hd
  cases ht : d.eventType <;> simp_all [RuntimeEventType.isQuiet, RuntimeEventType.attemptStatus]

theorem noAttempt_observed (o : Option Observation) : NoAttempt (o.map observationDraft).toList := by
  intro d hd
  simp only [Option.mem_toList, Option.map_eq_some_iff] at hd
  obtain ⟨o, -, rfl⟩ := hd
  rfl

theorem Ends.noAttempt {status : TaskStatus} {drafts : List EventDraft} (h : Ends status drafts) : NoAttempt drafts := by
  intro d hd
  unfold Ends at h
  cases status <;> simp only [TaskStatus.terminalEvent] at h
  all_goals first
    | (obtain ⟨payload, rfl⟩ := h; simp only [List.mem_singleton] at hd; subst hd; rfl)
    | (subst h; simp at hd)

theorem foldlM_numberEvents_quiet {id : UUID} {now : Timestamp} {n : Nat} {drafts : List EventDraft}
    {as : List ActionAttempt} (h : NoAttempt drafts) : (numberEvents id now n drafts).foldlM attemptStep as = .ok as := by
  refine foldlM_attemptStep_quiet fun e he => ?_
  obtain ⟨d, hd, ht, -⟩ := eventType_numberEvents he
  rw [ht]
  exact h d hd

/-! ## The attempts of a task -/

/-- The attempts of a task whose sequence is `n`. -/
structure AttemptsOk (id : UUID) (n : Nat) (as : List ActionAttempt) : Prop where
  settled : ∀ a ∈ as.dropLast, a.status.isFinal = true
  /-- Their ids name the sequences they were prepared at, in order. -/
  order : ∃ ks : List Nat, as.map (·.actionId) = ks.map (attemptIdAt id) ∧ ks.Pairwise (· < ·) ∧ ∀ k ∈ ks, k ≤ n
  durable : ∀ a ∈ as.getLast?, a.status ≠ .executionConfirmed

/-- The same attempt, perhaps with another status. -/
structure SameAttempt (a a' : ActionAttempt) : Prop where
  id : a'.actionId = a.actionId
  action : a'.action = a.action
  cost : a'.estimatedCost = a.estimatedCost

namespace AttemptsOk
variable {id : UUID} {n m : Nat} {as : List ActionAttempt}

theorem nil : AttemptsOk id n [] := ⟨by simp, ⟨[], by simp⟩, by simp⟩

theorem mono (h : AttemptsOk id n as) (hm : n ≤ m) : AttemptsOk id m as where
  settled := h.settled
  order := by
    obtain ⟨ks, hmap, hlt, hle⟩ := h.order
    exact ⟨ks, hmap, hlt, fun k hk => (hle k hk).trans hm⟩
  durable := h.durable

theorem attemptIdAt_injective (id : UUID) : Function.Injective (attemptIdAt id) := by
  intro k k' h
  simpa [attemptIdAt] using h

theorem nodup (h : AttemptsOk id n as) : (as.map (·.actionId)).Nodup := by
  obtain ⟨ks, hmap, hlt, -⟩ := h.order
  rw [hmap]
  exact List.Nodup.map (attemptIdAt_injective id) (hlt.imp fun hk => Nat.ne_of_lt hk)

theorem ids (h : AttemptsOk id n as) : ∀ a ∈ as, ∃ k, k ≤ n ∧ a.actionId = attemptIdAt id k := by
  intro a ha
  obtain ⟨ks, hmap, -, hle⟩ := h.order
  have hmem : a.actionId ∈ ks.map (attemptIdAt id) := hmap ▸ List.mem_map_of_mem ha
  obtain ⟨k, hk, he⟩ := List.mem_map.1 hmem
  exact ⟨k, hle k hk, he.symm⟩

/-- Of two attempts the one prepared first is settled. -/
theorem earlier_final (h : AttemptsOk id n as) {a b : ActionAttempt} (ha : a ∈ as) (hb : b ∈ as) {k k' : Nat}
    (hk : a.actionId = attemptIdAt id k) (hk' : b.actionId = attemptIdAt id k') (hlt : k < k') :
    a.status.isFinal = true := by
  rcases List.eq_nil_or_concat as with rfl | ⟨init, last, rfl⟩
  · cases ha
  rw [List.concat_eq_append] at *
  rcases List.mem_append.1 ha with ha | ha
  · exact h.settled a (by simpa using ha)
  rw [List.mem_singleton] at ha
  subst ha
  -- the last attempt has the greatest sequence
  exfalso
  obtain ⟨ks, hmap, hks, -⟩ := h.order
  rw [List.map_append] at hmap
  obtain ⟨ks₁, ks₂, rfl, h₁, h₂⟩ := List.map_eq_append_iff.1 hmap.symm
  have hk₂ : ks₂ = [k] := by
    rw [List.map_singleton, hk, List.map_eq_singleton_iff] at h₂
    obtain ⟨k₂, rfl, he⟩ := h₂
    rw [attemptIdAt_injective id he]
  subst hk₂
  rw [List.pairwise_append] at hks
  rcases List.mem_append.1 hb with hb | hb
  · have hmem : attemptIdAt id k' ∈ ks₁.map (attemptIdAt id) := by
      rw [h₁, ← hk']
      exact List.mem_map_of_mem hb
    obtain ⟨k'', hmem'', he⟩ := List.mem_map.1 hmem
    rw [attemptIdAt_injective id he] at hmem''
    have := hks.2.2 k' hmem'' k (by simp)
    omega
  · rw [List.mem_singleton] at hb
    rw [hb, hk] at hk'
    have := attemptIdAt_injective id hk'
    omega

/-- The last attempt, when it is unresolved. -/
theorem of_unresolved (h : AttemptsOk id n as) {a : ActionAttempt} (ha : latestUnresolved as = some a) :
    ∃ init, as = init ++ [a] ∧ a.status.isFinal = false ∧ a.status ≠ .executionConfirmed ∧
      ∀ b ∈ init, b.actionId ≠ a.actionId := by
  obtain ⟨hlast, hopen⟩ := Option.filter_eq_some_iff.1 ha
  obtain ⟨init, rfl⟩ := List.getLast?_eq_some_iff.1 hlast
  refine ⟨init, rfl, by simpa using hopen, h.durable a hlast, fun b hb heq => ?_⟩
  have hn := h.nodup
  rw [List.map_append, List.nodup_append] at hn
  exact hn.2.2 _ (List.mem_map_of_mem hb) _ (by simp) heq

/-- All attempts of a task without an unresolved one are settled. -/
theorem all_final (h : AttemptsOk id n as) (hr : latestUnresolved as = none) : ∀ a ∈ as, a.status.isFinal = true := by
  intro a ha
  rcases List.eq_nil_or_concat as with rfl | ⟨init, last, rfl⟩
  · simp at ha
  · rw [List.concat_eq_append] at *
    rcases List.mem_append.1 ha with ha | ha
    · exact h.settled a (by simpa using ha)
    · rw [List.mem_singleton] at ha
      subst ha
      simpa [latestUnresolved] using hr

/-- An attempt prepared behind the sequence of the task. -/
theorem push (h : AttemptsOk id n as) (hr : latestUnresolved as = none) {a : ActionAttempt} {k : Nat}
    (ha : a.actionId = attemptIdAt id k) (hk : n < k) (hm : k ≤ m) (hs : a.status = .prepared) :
    AttemptsOk id m (as ++ [a]) where
  settled := by simpa using h.all_final hr
  order := by
    obtain ⟨ks, hmap, hlt, hle⟩ := h.order
    refine ⟨ks ++ [k], by simp [hmap, ha], ?_, ?_⟩
    · rw [List.pairwise_append]
      refine ⟨hlt, by simp, fun x hx y hy => ?_⟩
      rw [List.mem_singleton] at hy
      have := hle x hx
      omega
    · intro x hx
      rcases List.mem_append.1 hx with hx | hx
      · have := hle x hx
        omega
      · rw [List.mem_singleton] at hx
        omega
  durable b hb := by
    simp only [List.getLast?_append_cons, List.getLast?_singleton, Option.mem_some_iff] at hb
    subst hb
    simp [hs]

/-- The last attempt moved on. -/
theorem advance {init : List ActionAttempt} {a a' : ActionAttempt} (h : AttemptsOk id n (init ++ [a]))
    (hs : a'.actionId = a.actionId) (hm : n ≤ m) (hc : a'.status ≠ .executionConfirmed) :
    AttemptsOk id m (init ++ [a']) where
  settled := by simpa using h.settled
  order := by
    obtain ⟨ks, hmap, hlt, hle⟩ := h.order
    exact ⟨ks, by simpa [hs] using hmap, hlt, fun k hk => (hle k hk).trans hm⟩
  durable b hb := by
    simp only [List.getLast?_append_cons, List.getLast?_singleton, Option.mem_some_iff] at hb
    exact hb ▸ hc

end AttemptsOk

/-! ## One event about the last attempt -/

theorem attemptStep_last {init : List ActionAttempt} {a : ActionAttempt} {e : RuntimeEvent}
    {status : ActionAttemptStatus} {classification : Option ReconciliationClassification}
    (hd : ∀ b ∈ init, b.actionId ≠ a.actionId) (ht : e.eventType.attemptStatus = some status)
    (hp : status ≠ .prepared) (hi : e.payload.get "action_id" = some (.uuid a.actionId))
    (hb : a.status.canBecome status = true) (hc : nextClassification e.payload a = .ok classification) :
    attemptStep (init ++ [a]) e = .ok (init ++ [a.advance e status classification]) := by
  have hid : attemptId e.payload = .ok a.actionId := by simp [attemptId, hi]
  have hfind : (init ++ [a]).find? (·.actionId = a.actionId) = some a := by
    rw [List.find?_append, List.find?_eq_none.2 (by simpa using hd)]
    simp
  have hmap : (init ++ [a]).map (fun b => if b.actionId = a.actionId then a.advance e status classification else b) =
      init ++ [a.advance e status classification] := by
    have hinit : init.map (fun b => if b.actionId = a.actionId then a.advance e status classification else b) = init := by
      rw [List.map_congr_left fun b hb => if_neg (hd b hb)]
      simp
    rw [List.map_append, hinit]
    simp
  simp only [attemptStep, ht, hid, bind, Except.bind, hp, if_false, hfind, hb, if_true, hc, hmap]

theorem sameAttempt_advance (a : ActionAttempt) (e : RuntimeEvent) (status : ActionAttemptStatus)
    (classification : Option ReconciliationClassification) : SameAttempt a (a.advance e status classification) :=
  ⟨rfl, rfl, rfl⟩

/-! ## One batch -/

/-- A draft that moves attempt `a` to a status. -/
structure Marks (d : EventDraft) (id : UUID) (status : ActionAttemptStatus) : Prop where
  type : d.eventType.attemptStatus = some status
  moves : status ≠ .prepared
  id : d.payload.get "action_id" = some (.uuid id)
  classification : d.payload.get "classification" = none ∨
    ∃ c : ReconciliationClassification, d.payload.get "classification" = some (.str c.value)

theorem Marks.nextClassification {d : EventDraft} {id : UUID} {status : ActionAttemptStatus} (h : Marks d id status)
    (a : ActionAttempt) : ∃ c, nextClassification d.payload a = .ok c := by
  rcases h.classification with hc | ⟨c, hc⟩
  · exact ⟨_, by simp [SimPilot.nextClassification, hc]; rfl⟩
  · exact ⟨_, by simp [SimPilot.nextClassification, hc]; rfl⟩

variable {id task : UUID} {n : Nat} {now : Timestamp}

/-- Drafts about no attempt, then one that moves the last attempt, then others. -/
theorem foldlM_mark {init : List ActionAttempt} {a : ActionAttempt} (task : UUID) (n : Nat) (now : Timestamp)
    (quiet : List EventDraft) (d : EventDraft) (rest : List EventDraft) (status : ActionAttemptStatus) (hd : ∀ b ∈ init, b.actionId ≠ a.actionId) (hq : NoAttempt quiet)
    (hm : Marks d a.actionId status) (hb : a.status.canBecome status = true) :
    ∃ a' n', SameAttempt a a' ∧ a'.status = status ∧
      (numberEvents task now n (quiet ++ d :: rest)).foldlM attemptStep (init ++ [a]) =
        (numberEvents task now n' rest).foldlM attemptStep (init ++ [a']) := by
  obtain ⟨c, hc⟩ := hm.nextClassification a
  let e : RuntimeEvent := ⟨task, n + quiet.length + 1, d.eventType, now, d.payload⟩
  refine ⟨a.advance e status c, n + quiet.length + 1, sameAttempt_advance .., rfl, ?_⟩
  rw [numberEvents_append, List.foldlM_append, foldlM_numberEvents_quiet hq]
  have hstep : attemptStep (init ++ [a]) e = .ok (init ++ [a.advance e status c]) :=
    attemptStep_last hd hm.type hm.moves hm.id hb hc
  change (attemptStep (init ++ [a]) e >>= fun as => _) = _
  rw [hstep]
  rfl

/-- The attempts behind a commit are those of its batch behind those before. -/
theorem After.attempts {v v' : TaskView} {r : IterationRequest} (h : After v now r v') {as : List ActionAttempt}
    (has : actionAttempts v.events = .ok as) :
    actionAttempts v'.events =
      (numberEvents r.task.id now v.record.task.sequence r.eventDrafts).foldlM attemptStep as := by
  rw [h.events, actionAttempts_append, has]
  rfl

theorem unresolved_of_attempts {events : List RuntimeEvent} {as : List ActionAttempt}
    (h : actionAttempts events = .ok as) : unresolvedActionAttempt events = .ok (latestUnresolved as) := by
  simp [unresolvedActionAttempt, h, Except.map]

theorem latestUnresolved_append (init : List ActionAttempt) (a : ActionAttempt) :
    latestUnresolved (init ++ [a]) = if a.status.isFinal then none else some a := by
  simp only [latestUnresolved, List.getLast?_append_cons, List.getLast?_singleton, Option.filter_some]
  cases a.status.isFinal <;> rfl

/-- The attempts of a journal, well formed. -/
def WellFormed (id : UUID) (v : TaskView) : Prop :=
  ∃ as, actionAttempts v.events = .ok as ∧ AttemptsOk id v.record.task.sequence as

section Batches
variable {v v' : TaskView} {r : IterationRequest}

/-- A batch about no attempt. -/
theorem After.attempts_same (h : After v now r v') (hw : WellFormed id v) (hq : NoAttempt r.eventDrafts)
    (hn : v.record.task.sequence ≤ v'.record.task.sequence) :
    WellFormed id v' ∧ unresolvedActionAttempt v'.events = unresolvedActionAttempt v.events := by
  obtain ⟨as, has, hok⟩ := hw
  have has' : actionAttempts v'.events = .ok as := by rw [h.attempts has, foldlM_numberEvents_quiet hq]
  exact ⟨⟨as, has', hok.mono hn⟩, by rw [unresolved_of_attempts has, unresolved_of_attempts has']⟩

/-- A batch that moves the unresolved attempt once. -/
theorem After.attempts_mark (h : After v now r v') (hw : WellFormed id v) {a : ActionAttempt}
    (hu : unresolvedActionAttempt v.events = .ok (some a)) (quiet rest : List EventDraft) {d : EventDraft}
    (status : ActionAttemptStatus) (hdrafts : r.eventDrafts = quiet ++ d :: rest) (hq : NoAttempt quiet)
    (hrest : NoAttempt rest) (hm : Marks d a.actionId status) (hb : a.status.canBecome status = true)
    (hc : status ≠ .executionConfirmed) (hn : v.record.task.sequence ≤ v'.record.task.sequence) :
    WellFormed id v' ∧ ∃ a', SameAttempt a a' ∧ a'.status = status ∧
      unresolvedActionAttempt v'.events = .ok (if status.isFinal then none else some a') := by
  obtain ⟨as, has, hok⟩ := hw
  rw [unresolved_of_attempts has, Except.ok.injEq] at hu
  obtain ⟨init, rfl, -, -, hdist⟩ := hok.of_unresolved hu
  obtain ⟨a', n', hsame, hs, hfold⟩ := foldlM_mark r.task.id v.record.task.sequence now quiet d rest status hdist hq hm hb
  have has' : actionAttempts v'.events = .ok (init ++ [a']) := by
    rw [h.attempts has, hdrafts, hfold, foldlM_numberEvents_quiet hrest]
  refine ⟨⟨_, has', hok.advance hsame.id hn (by rw [hs]; exact hc)⟩, a', hsame, hs, ?_⟩
  rw [unresolved_of_attempts has', latestUnresolved_append, hs]

/-- The batch of an executed action: confirmed, then checkpointed. -/
theorem After.attempts_settled (h : After v now r v') (hw : WellFormed id v) {a : ActionAttempt}
    (hu : unresolvedActionAttempt v.events = .ok (some a)) (hs : a.status = .executionStarted)
    {result : ExecutionResult} {observed : Observation} {verification : VerificationResult}
    {terminal : Option (TaskStatus × String)}
    (hdrafts : r.eventDrafts = settledDrafts a.actionId result observed verification terminal)
    (hn : v.record.task.sequence ≤ v'.record.task.sequence) :
    WellFormed id v' ∧ unresolvedActionAttempt v'.events = .ok none := by
  obtain ⟨as, has, hok⟩ := hw
  rw [unresolved_of_attempts has, Except.ok.injEq] at hu
  obtain ⟨init, rfl, -, -, hdist⟩ := hok.of_unresolved hu
  have hlast : NoAttempt (terminal.map fun t => terminalDraft t.1 t.2).toList := by
    intro d hd
    simp only [Option.mem_toList, Option.map_eq_some_iff] at hd
    obtain ⟨t, -, rfl⟩ := hd
    unfold terminalDraft
    split <;> rfl
  have hfirst : NoAttempt [⟨.actionExecuted, result.modelDump⟩, observationDraft observed,
      ⟨.verificationRecorded, verification.modelDump⟩] := by
    intro d hd
    simp only [List.mem_cons, List.not_mem_nil, or_false] at hd
    rcases hd with rfl | rfl | rfl <;> rfl
  obtain ⟨a₁, n₁, hsame₁, hs₁, hfold₁⟩ := foldlM_mark r.task.id v.record.task.sequence now _
    (confirmedDraft a.actionId result verification)
    (attemptDraft .actionCheckpointCommitted a.actionId :: (terminal.map fun t => terminalDraft t.1 t.2).toList)
    .executionConfirmed hdist hfirst ⟨rfl, by decide, rfl, .inl rfl⟩ (by rw [hs]; rfl)
  have hdist₁ : ∀ b ∈ init, b.actionId ≠ a₁.actionId := by
    rw [hsame₁.id]
    exact hdist
  obtain ⟨a₂, n₂, hsame₂, hs₂, hfold₂⟩ := foldlM_mark r.task.id n₁ now [] (attemptDraft .actionCheckpointCommitted a.actionId)
    (terminal.map fun t => terminalDraft t.1 t.2).toList .checkpointCommitted hdist₁ (by simp [NoAttempt]) (by rw [hsame₁.id]; exact ⟨rfl, by decide, rfl, .inl rfl⟩) (by rw [hs₁]; rfl)
  have has' : actionAttempts v'.events = .ok (init ++ [a₂]) := by
    rw [h.attempts has, hdrafts]
    refine Eq.trans hfold₁ (Eq.trans hfold₂ ?_)
    exact foldlM_numberEvents_quiet hlast
  refine ⟨⟨_, has', hok.advance (by rw [hsame₂.id, hsame₁.id]) hn (by rw [hs₂]; decide)⟩, ?_⟩
  rw [unresolved_of_attempts has', latestUnresolved_append, hs₂]
  rfl

/-- What a prepared attempt is. -/
structure PreparedAs (a : ActionAttempt) (actionId : UUID) (action : Action) (cost : ℚ) : Prop where
  id : a.actionId = actionId
  action : a.action = action
  cost : a.estimatedCost = cost
  status : a.status = .prepared

/-- The event of a preparation reads back as the attempt prepared. -/
theorem preparedAttempt_draft (task actionId : UUID) (sequence : Nat) (now : Timestamp) (action : Action)
    (checkpoint : Option SimulationCheckpoint) (before : Observation) {cost : ℚ} (hc : 0 ≤ cost) :
    ∃ a, preparedAttempt ⟨task, sequence, .actionPrepared, now,
        (preparedDraft actionId action checkpoint before cost).payload⟩ actionId = some a ∧
      PreparedAs a actionId action cost := by
  cases checkpoint with
  | none =>
    refine ⟨_, by simp [preparedAttempt, preparedDraft, priorCheckpointId, optionJson, JsonValue.number?, JsonValue.str?, hc]; rfl, ?_⟩
    exact ⟨rfl, rfl, rfl, rfl⟩
  | some cp =>
    refine ⟨_, by simp [preparedAttempt, preparedDraft, priorCheckpointId, optionJson, JsonValue.number?, JsonValue.str?, hc]; rfl, ?_⟩
    exact ⟨rfl, rfl, rfl, rfl⟩

/-- The batch of a preparation. -/
theorem After.attempts_prepare (h : After v now r v') (hw : WellFormed id v) (hid : v.record.task.id = id)
    {quiet : List EventDraft} {action : Action} {checkpoint : Option SimulationCheckpoint} {before : Observation}
    {cost : ℚ} (hp : Prepare v r quiet action checkpoint before cost)
    (hn : v'.record.task.sequence = v.record.task.sequence + r.eventDrafts.length) :
    WellFormed id v' ∧ ∃ a, unresolvedActionAttempt v'.events = .ok (some a) ∧
      PreparedAs a (attemptIdAt id (v.record.task.sequence + quiet.length + 1)) action cost := by
  obtain ⟨as, has, hok⟩ := hw
  have hnone : latestUnresolved as = none := by
    have := hp.resolved
    rwa [unresolved_of_attempts has, Except.ok.injEq] at this
  let actionId := attemptIdAt v.record.task.id (v.record.task.sequence + quiet.length + 1)
  obtain ⟨a, ha, hpa⟩ := preparedAttempt_draft r.task.id actionId (v.record.task.sequence + quiet.length + 1) now action
    checkpoint before hp.cost_nonneg
  have hlen : r.eventDrafts.length = quiet.length + 1 := by rw [hp.drafts]; simp
  -- no attempt of the task has the new id: it names a later sequence
  have hnew : (as.any fun b => decide (b.actionId = actionId)) = false := by
    rw [List.any_eq_false]
    intro b hb
    obtain ⟨k, hk, he⟩ := hok.ids b hb
    simp only [he, actionId, attemptIdAt, hid, UUID.uuid5.injEq, true_and, decide_eq_true_eq]
    omega
  have has' : actionAttempts v'.events = .ok (as ++ [a]) := by
    rw [h.attempts has, hp.drafts, numberEvents_append, List.foldlM_append, foldlM_numberEvents_quiet hp.isQuiet.noAttempt]
    change (attemptStep as _ >>= fun as => List.foldlM attemptStep as []) = _
    have hstep : attemptStep as ⟨r.task.id, v.record.task.sequence + quiet.length + 1, .actionPrepared, now,
        (preparedDraft actionId action checkpoint before cost).payload⟩ = .ok (as ++ [a]) := by
      have hid' : attemptId (preparedDraft actionId action checkpoint before cost).payload = .ok actionId := rfl
      simp only [attemptStep, RuntimeEventType.attemptStatus, hid', bind, Except.bind, if_true, hnew, ha]
      rfl
    exact (congrArg (· >>= fun as => List.foldlM attemptStep as []) hstep).trans rfl
  refine ⟨⟨_, has', hok.push hnone (k := v.record.task.sequence + quiet.length + 1) (by rw [hpa.id, ← hid]) (by omega)
    (by omega) hpa.status⟩, a, ?_, by rw [← hid]; exact hpa⟩
  rw [unresolved_of_attempts has', latestUnresolved_append, hpa.status]
  rfl

end Batches

/-! ## The commits of the engine -/

section Commits
variable {c : Conditions} {v v' : TaskView} {r : IterationRequest}

theorem Allowed.current (h : Allowed c v r) : r.current = v.record := by
  cases h with
  | ordinary _ _ _ h => exact h.current
  | prepare _ _ _ _ _ h => exact h.current
  | start _ h | retire _ h | requireReconciliation _ h => exact h.current
  | confirm _ _ _ _ _ h => exact h.current
  | failAttempt _ h => exact h.current
  | acceptCurrent _ _ _ _ _ _ _ h | dismiss _ _ _ h | abandon _ _ _ h => exact h.current
  | approve _ h | deny _ h => exact h.current
  | cancel h => exact h

/-- A commit changes the status and the spending of the task, and nothing else. -/
theorem Allowed.task_eq (h : Allowed c v r) :
    r.task.id = v.record.task.id ∧ r.task.specification = v.record.task.specification := by
  cases h with
  | ordinary _ _ _ h => rw [h.task]; exact ⟨rfl, rfl⟩
  | prepare _ _ _ _ _ h => rw [h.task]; exact ⟨rfl, rfl⟩
  | start _ h | retire _ h | requireReconciliation _ h => rw [h.task]; exact ⟨rfl, rfl⟩
  | confirm _ _ _ _ _ h =>
    rcases h.task with ht | ⟨ht, -⟩
    · rw [ht]; exact ⟨rfl, rfl⟩
    · rw [ht]; exact ⟨rfl, rfl⟩
  | failAttempt _ h => rw [h.task]; exact ⟨rfl, rfl⟩
  | acceptCurrent _ _ _ _ _ _ _ h task =>
    rw [task, Task.chargeSuccess]
    split
    · exact ⟨rfl, rfl⟩
    · exact ⟨rfl, rfl⟩
  | dismiss _ _ _ h task | abandon _ _ _ h _ task => rw [task]; exact ⟨rfl, rfl⟩
  | approve _ h task | deny _ h task => rw [task]; exact ⟨rfl, rfl⟩
  | cancel _ _ task => rw [task]; exact ⟨rfl, rfl⟩

theorem Allowed.sequence (h : Allowed c v r) (ha : After v now r v') :
    v'.record.task.sequence = v.record.task.sequence + r.eventDrafts.length := by
  rw [ha.record]
  simp only [IterationRequest.updatedRecord, IterationRequest.lastSequence, h.current]

theorem Ordinary.noAttempt {F : Prop} {quiet last : List EventDraft} {observed : Option Observation}
    (h : Ordinary F v r quiet observed last) : NoAttempt r.eventDrafts := by
  rw [h.drafts]
  exact (h.isQuiet.noAttempt.append (noAttempt_observed observed)).append h.ends.noAttempt

theorem marks_reconciled (id : UUID) (report : ReconciliationReport) (resolution : RecoveryResolution) :
    Marks (reconciledDraft id report resolution) id .reconciled :=
  ⟨rfl, by decide, rfl, .inr ⟨_, rfl⟩⟩

/-- An unresolved attempt can be reconciled. -/
theorem canBecome_reconciled {s : ActionAttemptStatus} (h : s.isFinal = false) (hc : s ≠ .executionConfirmed) :
    s.canBecome .reconciled = true := by
  cases s <;> simp_all [ActionAttemptStatus.isFinal, ActionAttemptStatus.canBecome]

/-- The unresolved attempt of a well-formed journal is neither settled nor half confirmed. -/
theorem WellFormed.unresolved_status (h : WellFormed id v) {a : ActionAttempt}
    (hu : unresolvedActionAttempt v.events = .ok (some a)) : a.status.isFinal = false ∧ a.status ≠ .executionConfirmed := by
  obtain ⟨as, has, hok⟩ := h
  rw [unresolved_of_attempts has, Except.ok.injEq] at hu
  obtain ⟨init, -, hf, hc, -⟩ := hok.of_unresolved hu
  exact ⟨hf, hc⟩

/-- How a commit changes the unresolved attempt. -/
inductive AttemptChange (c : Conditions) (v : TaskView) (r : IterationRequest) (v' : TaskView) : Prop
  | idle (quiet last : List EventDraft) (observed : Option Observation) (h : Ordinary c.faithful v r quiet observed last)
      (now : unresolvedActionAttempt v'.events = .ok none)
  | answered (pending : ApprovalRecord) (status : ApprovalStatus) (h : Answer v r pending status)
      (unchanged : unresolvedActionAttempt v'.events = unresolvedActionAttempt v.events)
  | cancelled (task : r.task = v.record.task.setStatus .cancelled) (cancelRequested : r.cancelRequested = some true)
      (unchanged : unresolvedActionAttempt v'.events = unresolvedActionAttempt v.events)
  | prepared (quiet : List EventDraft) (action : Action) (checkpoint : Option SimulationCheckpoint)
      (before : Observation) (cost : ℚ) (a : ActionAttempt) (h : Prepare v r quiet action checkpoint before cost)
      (now : unresolvedActionAttempt v'.events = .ok (some a))
      (as : PreparedAs a (attemptIdAt v.record.task.id (v.record.task.sequence + quiet.length + 1)) action cost)
  | started (a a' : ActionAttempt) (h : Mark v r a) (running : v.record.task.status = .running)
      (batch : StartsExecution r a.actionId) (prepared : a.status = .prepared) (same : SameAttempt a a')
      (status : a'.status = .executionStarted) (now : unresolvedActionAttempt v'.events = .ok (some a'))
  | flagged (a a' : ActionAttempt) (h : Mark v r a) (batch : r.eventDrafts = [Engine.reconciliationDraft a.actionId])
      (started : a.status = .executionStarted) (same : SameAttempt a a') (status : a'.status = .reconciliationRequired)
      (now : unresolvedActionAttempt v'.events = .ok (some a'))
  | settled (a : ActionAttempt) (before : unresolvedActionAttempt v.events = .ok (some a))
      (now : unresolvedActionAttempt v'.events = .ok none)

/-- **The attempts behind a commit** are well formed, and it changed at most the last one. -/
theorem Allowed.attempts (h : Allowed c v r) (ha : After v now r v') (hw : WellFormed id v)
    (hid : v.record.task.id = id) : WellFormed id v' ∧ AttemptChange c v r v' := by
  have hseq := h.sequence ha
  have hn : v.record.task.sequence ≤ v'.record.task.sequence := by omega
  cases h with
  | ordinary quiet observed last h =>
    obtain ⟨hw', hu⟩ := ha.attempts_same hw h.noAttempt hn
    exact ⟨hw', .idle quiet last observed h (hu.trans h.resolved)⟩
  | prepare quiet action checkpoint before cost h =>
    obtain ⟨hw', a, hu, hp⟩ := ha.attempts_prepare hw hid h hseq
    exact ⟨hw', .prepared quiet action checkpoint before cost a h hu (by rw [hid]; exact hp)⟩
  | start a h prepared running drafts =>
    obtain ⟨hw', a', hsame, hs, hu⟩ := ha.attempts_mark hw h.unresolved [] [] .executionStarted drafts
      (by simp [NoAttempt]) (by simp [NoAttempt]) ⟨rfl, by decide, rfl, .inl rfl⟩
      (by rw [prepared]; rfl) (by decide) hn
    exact ⟨hw', .started a a' h running drafts prepared hsame hs hu⟩
  | confirm a result observed verification terminal h =>
    obtain ⟨hw', hu⟩ := ha.attempts_settled hw h.unresolved h.executing h.drafts hn
    exact ⟨hw', .settled a h.unresolved hu⟩
  | failAttempt a h =>
    obtain ⟨reason, payload, hdrafts⟩ := h.drafts
    obtain ⟨hw', a', -, -, hu⟩ := ha.attempts_mark hw h.unresolved [] [_] .failed hdrafts (by simp [NoAttempt])
      (by simp [NoAttempt, RuntimeEventType.attemptStatus]) ⟨rfl, by decide, rfl, .inl rfl⟩
      (by rw [h.executing]; rfl) (by decide) hn
    exact ⟨hw', .settled a h.unresolved hu⟩
  | retire a h prepared drafts =>
    obtain ⟨hw', a', -, -, hu⟩ := ha.attempts_mark hw h.unresolved [] [] .reconciled drafts (by simp [NoAttempt])
      (by simp [NoAttempt]) ⟨rfl, by decide, rfl, .inr ⟨.definitelyNotExecuted, rfl⟩⟩
      (by rw [prepared]; rfl) (by decide) hn
    exact ⟨hw', .settled a h.unresolved hu⟩
  | requireReconciliation a h prepared flagged drafts =>
    obtain ⟨hf, hc⟩ := hw.unresolved_status h.unresolved
    have hs : a.status = .executionStarted := by
      cases hst : a.status <;> simp_all [ActionAttemptStatus.isFinal]
    obtain ⟨hw', a', hsame, hs', hu⟩ := ha.attempts_mark hw h.unresolved [] [] .reconciliationRequired drafts
      (by simp [NoAttempt]) (by simp [NoAttempt]) ⟨rfl, by decide, rfl, .inl rfl⟩
      (by rw [hs]; rfl) (by decide) hn
    exact ⟨hw', .flagged a a' h drafts hs hsame hs' hu⟩
  | acceptCurrent a report resolution result previous observed sn h task cost drafts =>
    obtain ⟨hf, hc⟩ := hw.unresolved_status h.unresolved
    obtain ⟨hw', a', -, -, hu⟩ := ha.attempts_mark hw h.unresolved [observationDraft observed] [] .reconciled drafts
      (by simp [NoAttempt, observationDraft, RuntimeEventType.attemptStatus]) (by simp [NoAttempt])
      (marks_reconciled ..) (canBecome_reconciled hf hc) (by decide) hn
    exact ⟨hw', .settled a h.unresolved hu⟩
  | dismiss a report resolution h task drafts =>
    obtain ⟨hf, hc⟩ := hw.unresolved_status h.unresolved
    obtain ⟨hw', a', -, -, hu⟩ := ha.attempts_mark hw h.unresolved [] [] .reconciled drafts
      (by simp [NoAttempt]) (by simp [NoAttempt]) (marks_reconciled ..) (canBecome_reconciled hf hc) (by decide) hn
    exact ⟨hw', .settled a h.unresolved hu⟩
  | abandon a report resolution h status task drafts =>
    obtain ⟨hf, hc⟩ := hw.unresolved_status h.unresolved
    obtain ⟨hw', a', -, -, hu⟩ := ha.attempts_mark hw h.unresolved [] [_] .reconciled drafts
      (by simp [NoAttempt]) (by simp [NoAttempt, reasonDraft, RuntimeEventType.attemptStatus]) (marks_reconciled ..)
      (canBecome_reconciled hf hc) (by decide) hn
    exact ⟨hw', .settled a h.unresolved hu⟩
  | approve pending h task state drafts =>
    obtain ⟨hw', hu⟩ := ha.attempts_same hw (by rw [drafts]; simp [NoAttempt, RuntimeEventType.attemptStatus]) hn
    exact ⟨hw', .answered pending .approved h hu⟩
  | deny pending h task state drafts =>
    obtain ⟨hw', hu⟩ := ha.attempts_same hw
      (by rw [drafts]; simp [NoAttempt, reasonDraft, RuntimeEventType.attemptStatus]) hn
    exact ⟨hw', .answered pending .denied h hu⟩
  | cancel current live task state cancelRequested approvalUpdate approvalCreate drafts =>
    obtain ⟨hw', hu⟩ := ha.attempts_same hw
      (by rw [drafts]; simp [NoAttempt, reasonDraft, RuntimeEventType.attemptStatus]) hn
    exact ⟨hw', .cancelled task cancelRequested hu⟩

end Commits

end SimPilot
