import SimPilot.Runtime.History
import SimPilot.Runtime.Scenario
/-!
# Attempts along a run

The attempt journal of every run is well formed, and what the adapters are asked to
execute is covered by it: started durably, once, and one attempt at a time in the order
they were prepared.
-/

namespace SimPilot
open Effect

variable {c : Conditions} {id : UUID} {s : System} {v v' : TaskView} {r : IterationRequest} {now : Timestamp}
  {config : Config Op Ret Process System}

/-! ## Preparations -/

/-- No attempt is prepared in a journal while another is unresolved. -/
def PreparesAlone (events : List RuntimeEvent) : Prop :=
  ∀ before e after, events = before ++ e :: after → e.eventType = .actionPrepared →
    unresolvedActionAttempt before = .ok none

/-- Drafts that prepare nothing. -/
def NoPreparation (drafts : List EventDraft) : Prop := ∀ d ∈ drafts, d.eventType ≠ .actionPrepared

theorem NoAttempt.noPreparation {drafts : List EventDraft} (h : NoAttempt drafts) : NoPreparation drafts := by
  intro d hd hp
  have := h d hd
  rw [hp] at this
  cases this

theorem NoPreparation.append {ds es : List EventDraft} (hd : NoPreparation ds) (he : NoPreparation es) :
    NoPreparation (ds ++ es) := by
  intro d hmem
  rcases List.mem_append.1 hmem with h | h
  · exact hd d h
  · exact he d h

/-- Only a preparation prepares an attempt. -/
theorem Allowed.noPreparation (h : Allowed c v r) : NoPreparation r.eventDrafts ∨
    ∃ quiet action checkpoint before cost, Prepare v r quiet action checkpoint before cost ∧ Counted c v r.runtimeState := by
  have hsingle : ∀ {d : EventDraft}, r.eventDrafts = [d] → d.eventType ≠ .actionPrepared → NoPreparation r.eventDrafts := by
    intro d hd hne d' hd'
    rw [hd, List.mem_singleton] at hd'
    rw [hd']
    exact hne
  have hpair : ∀ {d d' : EventDraft}, r.eventDrafts = [d, d'] → d.eventType ≠ .actionPrepared →
      d'.eventType ≠ .actionPrepared → NoPreparation r.eventDrafts := by
    intro d d' hd hne hne' x hx
    rw [hd, List.mem_pair] at hx
    rcases hx with rfl | rfl
    · exact hne
    · exact hne'
  cases h with
  | ordinary _ _ _ h => exact .inl h.noAttempt.noPreparation
  | prepare quiet action checkpoint before cost h counted =>
    exact .inr ⟨quiet, action, checkpoint, before, cost, h, counted⟩
  | start _ _ _ _ drafts => exact .inl (hsingle drafts (by simp [attemptDraft]))
  | confirm a result observed verification terminal h =>
    left
    rw [h.drafts]
    refine NoPreparation.append (by simp [NoPreparation, confirmedDraft, attemptDraft, observationDraft]) ?_
    intro d hd
    simp only [Option.mem_toList, Option.map_eq_some_iff] at hd
    obtain ⟨t, -, rfl⟩ := hd
    unfold terminalDraft
    split <;> simp
  | failAttempt _ h =>
    obtain ⟨reason, payload, hd⟩ := h.drafts
    exact .inl (hpair hd (by simp) (by simp))
  | retire _ _ _ drafts => exact .inl (hsingle drafts (by simp [Engine.retiredDraft]))
  | requireReconciliation _ _ _ _ drafts => exact .inl (hsingle drafts (by simp [Engine.reconciliationDraft]))
  | acceptCurrent _ _ _ _ _ _ _ _ _ _ drafts => exact .inl (hpair drafts (by simp [observationDraft]) (by simp [reconciledDraft]))
  | dismiss _ _ _ _ _ drafts => exact .inl (hsingle drafts (by simp [reconciledDraft]))
  | abandon _ _ _ _ _ _ drafts => exact .inl (hpair drafts (by simp [reconciledDraft]) (by simp [reasonDraft]))
  | approve _ _ _ _ drafts => exact .inl (hsingle drafts (by simp))
  | deny _ _ _ _ drafts => exact .inl (hpair drafts (by simp) (by simp [reasonDraft]))
  | cancel _ _ _ _ _ _ _ drafts => exact .inl (hsingle drafts (by simp [reasonDraft]))

/-- Events that prepare nothing, behind a journal. -/
theorem PreparesAlone.append {events more : List RuntimeEvent} (h : PreparesAlone events)
    (hm : ∀ before e after, more = before ++ e :: after → e.eventType = .actionPrepared →
      unresolvedActionAttempt (events ++ before) = .ok none) : PreparesAlone (events ++ more) := by
  intro before e after heq hp
  rcases List.append_eq_append_iff.1 heq with ⟨mid, rfl, hmore⟩ | ⟨mid, rfl, hmid⟩
  · exact hm mid e after hmore hp
  · cases mid with
    | nil =>
      have := hm [] e after (by simpa using hmid.symm) hp
      simpa using this
    | cons e' mid =>
      rw [List.cons_append, List.cons.injEq] at hmid
      obtain ⟨rfl, hmid⟩ := hmid
      exact h before e mid rfl hp

theorem PreparesAlone.step (h : PreparesAlone v.events) (hj : JournalOk id v) (hr : Allowed c v r)
    (ha : After v now r v') : PreparesAlone v'.events := by
  rw [ha.events]
  rcases hr.noPreparation with hnone | ⟨quiet, action, checkpoint, before, cost, hp, -⟩
  · refine h.append fun pre e post heq hprep => ?_
    have hmem : e ∈ numberEvents r.task.id now v.record.task.sequence r.eventDrafts := by simp [heq]
    obtain ⟨d, hd, ht, -⟩ := eventType_numberEvents hmem
    exact (hnone d hd (ht ▸ hprep)).elim
  · -- the preparation is the last event, and the events before it are about no attempt
    refine h.append fun pre e post heq hprep => ?_
    rw [hp.drafts, numberEvents_append] at heq
    have hpost : post = [] ∧ pre = numberEvents r.task.id now v.record.task.sequence quiet := by
      rcases List.eq_nil_or_concat post with rfl | ⟨post', last, rfl⟩
      · have := List.append_inj' heq (by simp [numberEvents])
        exact ⟨rfl, this.1.symm⟩
      · exfalso
        rw [List.concat_eq_append, ← List.cons_append, ← List.append_assoc] at heq
        have hquiet := (List.append_inj' heq (by simp [numberEvents])).1
        have hmem : e ∈ numberEvents r.task.id now v.record.task.sequence quiet := by simp [hquiet]
        obtain ⟨d, hd, ht, -⟩ := eventType_numberEvents hmem
        exact hp.isQuiet.noAttempt.noPreparation d hd (ht ▸ hprep)
    obtain ⟨as, has, -⟩ := hj.attempts
    have hsame : actionAttempts (v.events ++ pre) = .ok as := by
      rw [hpost.2, actionAttempts_append, has]
      exact foldlM_numberEvents_quiet hp.isQuiet.noAttempt
    rw [unresolved_of_attempts hsame, ← unresolved_of_attempts has]
    exact hp.resolved

theorem Reach.preparesAlone (h : Reach c id s) (hv : viewOf id s.store = some v) : PreparesAlone v.events := by
  have hall : ∀ v, viewOf id s.store = some v → PreparesAlone v.events := by
    refine Reach.induct (I := fun s => ∀ v, viewOf id s.store = some v → PreparesAlone v.events) ?_ ?_ h
    · rintro v ⟨⟩
    · intro p s s' hs ih hc v hv
      cases hc with
      | silent h => exact ih v (h ▸ hv)
      | created task hid hst hq before after ok trace =>
        rw [after] at hv
        cases hv
        intro before e after heq hp
        rw [show (createdView task).events = [createdEvent task] from rfl] at heq
        have hlen := congrArg List.length heq
        simp only [List.length_cons, List.length_nil, List.length_append] at hlen
        obtain rfl : before = [] := List.length_eq_zero_iff.1 (by omega)
        rfl
      | committed w w' now r before allowed meets commit after ok trace =>
        rw [after] at hv
        cases hv
        exact (ih w before).step (hs.system.task w before).journal allowed commit
      | executed _ _ _ _ h => exact ih v (by rw [h] at hv; exact hv)
      | returned _ _ h => exact ih v (by rw [h] at hv; exact hv)
  exact hall v hv

/-- The attempt an event of the history executes. -/
def TraceEvent.executedId : TraceEvent → Option UUID
  | executed _ actionId _ _ => some actionId
  | created _ _ | committed _ _ _ | returned _ _ => none

/-- The attempts of the calls of `adapter.execute`, in their order. -/
def executedIds (trace : List TraceEvent) : List UUID := trace.filterMap (·.executedId)

/-- The event that starts an execution. -/
abbrev startDraft (actionId : UUID) : EventDraft := attemptDraft .actionExecutionStarted actionId

/-- A process that has just started an attempt, and may execute it. -/
def Armed (s : System) (p : Process) (actionId : UUID) : Prop :=
  ∃ v r, s.lastOf p = some (.committed p v r) ∧ StartsExecution r actionId

theorem lastOf_added {s s' : System} {e : TraceEvent} (h : s'.trace = s.trace ++ [e]) (q : Process) :
    s'.lastOf q = if e.process = q then some e else s.lastOf q := by
  unfold System.lastOf
  rw [h, List.filter_append]
  by_cases hq : e.process = q
  · simp [hq]
  · simp [hq]

theorem mem_of_lastOf {p : Process} {e : TraceEvent} (h : s.lastOf p = some e) : e ∈ s.trace :=
  (List.mem_filter.1 (List.mem_of_getLast? h)).1

theorem Armed.started {p : Process} {actionId : UUID} (h : Armed s p actionId) : startDraft actionId ∈ journal s.trace := by
  obtain ⟨v, r, hlast, hstart⟩ := h
  refine mem_journal.2 ⟨_, mem_of_lastOf hlast, ?_⟩
  change startDraft actionId ∈ r.eventDrafts
  rw [show r.eventDrafts = [startDraft actionId] from hstart]
  simp

/-- Only a commit of the start of the prepared attempt is one. -/
theorem Allowed.starts (h : Allowed c v r) {actionId : UUID} (hs : StartsExecution r actionId) :
    ∃ a, unresolvedActionAttempt v.events = .ok (some a) ∧ a.actionId = actionId ∧ a.status = .prepared ∧ Mark v r a ∧
      v.record.task.status = .running := by
  have hother : ∀ {d : EventDraft} {rest : List EventDraft}, r.eventDrafts = d :: rest →
      d.eventType ≠ .actionExecutionStarted → False := by
    intro d rest hd hne
    rw [show r.eventDrafts = [startDraft actionId] from hs, List.cons.injEq] at hd
    exact hne (by rw [← hd.1]; rfl)
  have hnone : ¬ NoAttempt r.eventDrafts := by
    intro hno
    have := hno (startDraft actionId) (by rw [show r.eventDrafts = [startDraft actionId] from hs]; simp)
    cases this
  cases h with
  | ordinary _ _ _ h => exact (hnone h.noAttempt).elim
  | prepare quiet action checkpoint before cost h =>
    have hd := h.drafts
    rw [show r.eventDrafts = [startDraft actionId] from hs] at hd
    have := (@List.append_inj' _ [] _ _ _ hd rfl).2
    simp [startDraft, attemptDraft, preparedDraft] at this
  | start a h prepared running drafts =>
    rw [show r.eventDrafts = [startDraft actionId] from hs] at drafts
    have hid : a.actionId = actionId := by simpa [startDraft, attemptDraft] using drafts.symm
    exact ⟨a, h.unresolved, hid, prepared, h, running⟩
  | confirm _ _ _ _ _ h => exact (hother h.drafts (by simp)).elim
  | failAttempt _ h =>
    obtain ⟨reason, payload, hd⟩ := h.drafts
    exact (hother hd (by simp)).elim
  | retire _ _ _ drafts => exact (hother drafts (by simp [Engine.retiredDraft])).elim
  | requireReconciliation _ _ _ _ drafts => exact (hother drafts (by simp [Engine.reconciliationDraft])).elim
  | acceptCurrent _ _ _ _ _ _ _ _ _ _ drafts => exact (hother drafts (by simp [observationDraft])).elim
  | dismiss _ _ _ _ _ drafts => exact (hother drafts (by simp [reconciledDraft])).elim
  | abandon _ _ _ _ _ _ drafts => exact (hother drafts (by simp [reconciledDraft])).elim
  | approve _ _ _ _ drafts => exact (hother drafts (by simp)).elim
  | deny _ _ _ _ drafts => exact (hother drafts (by simp)).elim
  | cancel _ _ _ _ _ _ _ drafts => exact (hother drafts (by simp [reasonDraft])).elim

/-- A started attempt is an attempt of the journal, no longer prepared. -/
theorem Reach.started_attempt (h : Reach c id s) (hv : viewOf id s.store = some v) {as : List ActionAttempt}
    (has : actionAttempts v.events = .ok as) {actionId : UUID} (hd : startDraft actionId ∈ SimPilot.journal s.trace) :
    ∃ a ∈ as, a.actionId = actionId ∧ a.status ≠ .prepared := by
  obtain ⟨e, he, ht, hp⟩ := h.event_of_draft hv hd
  have hstarted : e.eventType.attemptStatus = some .executionStarted := by rw [ht]; rfl
  have hide : attemptId e.payload = .ok actionId := by rw [hp]; rfl
  obtain ⟨a, ha, hid, hs⟩ := attempt_of_event has e he hstarted hide
  exact ⟨a, ha, hid, hs (by decide)⟩

/-- An attempt that is prepared was not started. -/
theorem Reach.not_started (h : Reach c id s) (hv : viewOf id s.store = some v) {a : ActionAttempt}
    (hu : unresolvedActionAttempt v.events = .ok (some a)) (hs : a.status = .prepared) :
    startDraft a.actionId ∉ SimPilot.journal s.trace := by
  intro hd
  obtain ⟨as, has, hok⟩ := (h.system.task v hv).journal.attempts
  obtain ⟨b, hb, hid, hne⟩ := h.started_attempt hv has hd
  rw [unresolved_of_attempts has, Except.ok.injEq] at hu
  obtain ⟨init, rfl, -⟩ := hok.of_unresolved hu
  have hab : b = a := List.inj_on_of_nodup_map hok.nodup hb (by simp) hid
  exact hne (hab ▸ hs)

/-- What the executions of a history are. -/
structure ExecutionsOk (s : System) : Prop where
  nodup : (executedIds s.trace).Nodup
  started : ∀ actionId ∈ executedIds s.trace, startDraft actionId ∈ journal s.trace
  spent : ∀ actionId ∈ executedIds s.trace, ∀ q, ¬ Armed s q actionId
  armed : ∀ q q' actionId, Armed s q actionId → Armed s q' actionId → q = q'

/-- Whom an added event leaves armed. -/
theorem Armed.of_added {s s' : System} {e : TraceEvent} (h : s'.trace = s.trace ++ [e]) {q : Process} {actionId : UUID}
    (ha : Armed s' q actionId) : (e.process ≠ q ∧ Armed s q actionId) ∨
      ∃ v r, e = .committed q v r ∧ StartsExecution r actionId := by
  obtain ⟨v, r, hlast, hs⟩ := ha
  rw [lastOf_added h] at hlast
  split at hlast
  · rw [Option.some.injEq] at hlast
    exact .inr ⟨v, r, hlast, hs⟩
  · rename_i hq
    exact .inl ⟨hq, v, r, hlast, hs⟩

/-- An event that neither executes nor starts an attempt. -/
theorem ExecutionsOk.other {s s' : System} {e : TraceEvent} (h : ExecutionsOk s) (ht : s'.trace = s.trace ++ [e])
    (hx : e.executedId = none) (hs : ∀ q v r actionId, e = .committed q v r → ¬ StartsExecution r actionId) :
    ExecutionsOk s' := by
  have hids : executedIds s'.trace = executedIds s.trace := by simp [executedIds, ht, hx]
  have harmed : ∀ {q actionId}, Armed s' q actionId → Armed s q actionId := by
    intro q actionId ha
    rcases ha.of_added ht with ⟨-, ha⟩ | ⟨v, r, he, hst⟩
    · exact ha
    · exact (hs q v r actionId he hst).elim
  exact
    { nodup := by rw [hids]; exact h.nodup
      started := by
        rw [hids]
        intro actionId ha
        rw [ht, journal_append]
        exact List.mem_append_left _ (h.started actionId ha)
      spent := by
        rw [hids]
        exact fun actionId ha q hq => h.spent actionId ha q (harmed hq)
      armed := fun q q' actionId hq hq' => h.armed q q' actionId (harmed hq) (harmed hq') }

theorem ExecutionsOk.step {s s' : System} {p : Process} (h : ExecutionsOk s) (hs : Reach c id s)
    (hc : Change c id p s s') : ExecutionsOk s' := by
  cases hc with
  | silent hs' => exact hs' ▸ h
  | created task _ _ _ _ _ _ trace => exact h.other trace rfl (by rintro _ _ _ _ ⟨⟩)
  | returned outcome _ hs' =>
    exact h.other (e := .returned p outcome) (by rw [hs']) rfl (by rintro _ _ _ _ ⟨⟩)
  | committed w w' now r before allowed meets commit after ok trace =>
    by_cases hstart : ∃ actionId, StartsExecution r actionId
    swap
    · refine h.other trace rfl ?_
      rintro q v r' actionId ⟨⟩ hst
      exact hstart ⟨actionId, hst⟩
    obtain ⟨actionId, hstart⟩ := hstart
    obtain ⟨a, hu, hid, hprep, -⟩ := allowed.starts hstart
    -- the attempt started now was not started before
    have hfresh : startDraft actionId ∉ journal s.trace := by
      rw [← hid]
      exact hs.not_started before hu hprep
    have hids : executedIds s'.trace = executedIds s.trace := by simp [executedIds, trace, TraceEvent.executedId]
    have harmed : ∀ {q x}, Armed s' q x → Armed s q x ∨ q = p ∧ x = actionId := by
      intro q x ha
      rcases ha.of_added trace with ⟨-, ha⟩ | ⟨v, r', he, hst⟩
      · exact .inl ha
      · cases he
        rw [StartsExecution, show r.eventDrafts = [startDraft actionId] from hstart] at hst
        exact .inr ⟨rfl, by simpa [startDraft, attemptDraft] using hst.symm⟩
    exact
      { nodup := by rw [hids]; exact h.nodup
        started := by
          rw [hids]
          intro x hx
          rw [trace, journal_append]
          exact List.mem_append_left _ (h.started x hx)
        spent := by
          rw [hids]
          intro x hx q hq
          rcases harmed hq with hq | ⟨-, rfl⟩
          · exact h.spent x hx q hq
          · exact hfresh (h.started x hx)
        armed := by
          intro q q' x hq hq'
          rcases harmed hq with hq | ⟨rfl, rfl⟩ <;> rcases harmed hq' with hq' | ⟨rfl, hx⟩
          · exact h.armed q q' x hq hq'
          · exact (hfresh (hx ▸ hq.started)).elim
          · exact (hfresh hq'.started).elim
          · rfl }
  | executed actionId authority action legal hs' =>
    obtain ⟨v, r, attempt, hlast, hstart, -⟩ := legal
    have harm : Armed s p actionId := ⟨v, r, hlast, hstart⟩
    have trace : s'.trace = s.trace ++ [.executed p actionId authority action] := by rw [hs']
    have hids : executedIds s'.trace = executedIds s.trace ++ [actionId] := by
      simp [executedIds, trace, TraceEvent.executedId]
    have harmed : ∀ {q x}, Armed s' q x → q ≠ p ∧ Armed s q x := by
      intro q x ha
      rcases ha.of_added trace with ⟨hq, ha⟩ | ⟨v, r', he, hst⟩
      · exact ⟨fun he => hq he.symm, ha⟩
      · cases he
    exact
      { nodup := by
          rw [hids, List.nodup_append]
          refine ⟨h.nodup, by simp, ?_⟩
          intro x hx y hy heq
          rw [List.mem_singleton] at hy
          subst heq hy
          exact h.spent x hx p harm
        started := by
          rw [hids]
          intro x hx
          rw [trace, journal_append]
          refine List.mem_append_left _ ?_
          rcases List.mem_append.1 hx with hx | hx
          · exact h.started x hx
          · rw [List.mem_singleton] at hx
            exact hx ▸ harm.started
        spent := by
          rw [hids]
          intro x hx q hq
          obtain ⟨hne, hq⟩ := harmed hq
          rcases List.mem_append.1 hx with hx | hx
          · exact h.spent x hx q hq
          · rw [List.mem_singleton] at hx
            subst hx
            exact hne (h.armed q p x hq harm)
        armed := fun q q' x hq hq' => h.armed q q' x (harmed hq).2 (harmed hq').2 }

theorem Reach.executions (h : Reach c id s) : ExecutionsOk s := by
  refine Reach.induct (I := ExecutionsOk) ?_ (fun p s s' hs ih hc => ih.step hs hc) h
  exact
    { nodup := by simp [executedIds]
      started := by simp [executedIds]
      spent := by simp [executedIds]
      armed := by
        rintro q q' x ⟨v, r, hlast, -⟩
        cases hlast }

/-! ## The order of executions -/

/-- An event that settles an attempt. -/
def settles (actionId : UUID) (d : EventDraft) : Bool :=
  (d.eventType = .actionCheckpointCommitted || d.eventType = .actionAttemptFailed || d.eventType = .actionReconciled) &&
    d.payload.get "action_id" = some (.uuid actionId)

theorem attemptId_ok {payload : Dict} {actionId : UUID} (h : attemptId payload = .ok actionId) :
    payload.get "action_id" = some (.uuid actionId) := by
  unfold attemptId at h
  split at h <;> cases h
  assumption

theorem settles_of_final {e : RuntimeEvent} {a : ActionAttempt} (hf : a.status.isFinal = true)
    (ht : e.eventType.attemptStatus = some a.status) (hid : attemptId e.payload = .ok a.actionId) :
    settles a.actionId ⟨e.eventType, e.payload⟩ = true := by
  simp only [settles, attemptId_ok hid, decide_true, Bool.and_true]
  cases hs : a.status <;> rw [hs] at hf ht <;> try cases hf
  all_goals cases he : e.eventType <;> simp_all [RuntimeEventType.attemptStatus]

/-- Of two attempts that were started the one prepared first is settled. -/
theorem Reach.earlier_settled (h : Reach c id s) {k k' : Nat} (hk : startDraft (attemptIdAt id k) ∈ SimPilot.journal s.trace)
    (hk' : startDraft (attemptIdAt id k') ∈ SimPilot.journal s.trace) (hlt : k < k') :
    ∃ d ∈ SimPilot.journal s.trace, settles (attemptIdAt id k) d = true := by
  cases hv : viewOf id s.store with
  | none =>
    rw [h.journal.1 hv] at hk
    cases hk
  | some v =>
    obtain ⟨as, has, hok⟩ := (h.system.task v hv).journal.attempts
    obtain ⟨a, ha, hid, -⟩ := h.started_attempt hv has hk
    obtain ⟨b, hb, hid', -⟩ := h.started_attempt hv has hk'
    have hfinal := hok.earlier_final ha hb hid hid' hlt
    obtain ⟨e, he, ht, hida⟩ := event_of_attempt has a ha
    refine ⟨_, h.draft_of_event hv he, ?_⟩
    rw [← hid]
    exact settles_of_final hfinal ht hida

/-- A started attempt names the sequence it was prepared at. -/
theorem Reach.started_id (h : Reach c id s) {actionId : UUID} (hd : startDraft actionId ∈ SimPilot.journal s.trace) :
    ∃ k, actionId = attemptIdAt id k := by
  cases hv : viewOf id s.store with
  | none =>
    rw [h.journal.1 hv] at hd
    cases hd
  | some v =>
    obtain ⟨as, has, hok⟩ := (h.system.task v hv).journal.attempts
    obtain ⟨a, ha, rfl, -⟩ := h.started_attempt hv has hd
    obtain ⟨k, -, hk⟩ := hok.ids a ha
    exact ⟨k, hk⟩

/-- An execution is behind the start of its attempt. -/
theorem Added.started {pre : List TraceEvent} {p : Process} {actionId : UUID} {authority : Option UUID} {action : Action}
    (h : Added c id pre (.executed p actionId authority action)) : ∃ s₀, Reach c id s₀ ∧ s₀.trace = pre ∧
      startDraft actionId ∈ journal pre := by
  obtain ⟨s₀, hs, rfl, v, r, attempt, hlast, hstart, -⟩ := h.executed
  have harmed : Armed s₀ p actionId := ⟨v, r, hlast, hstart⟩
  exact ⟨s₀, hs, rfl, harmed.started⟩

/-- **Attempts are executed durably, once, and in order**: behind the committed start of the
attempt, at most once for an attempt, and of two executions the attempt that was prepared
first was settled before the second call. -/
theorem executions_durable_once_in_order (h : Runs c id config) :
    (∀ pre p actionId authority action post, config.shared.trace = pre ++ .executed p actionId authority action :: post →
      startDraft actionId ∈ journal pre) ∧
    (executedIds config.shared.trace).Nodup ∧
    ∀ pre p₁ a₁ u₁ x₁ mid p₂ a₂ u₂ x₂ post,
      config.shared.trace = pre ++ .executed p₁ a₁ u₁ x₁ :: (mid ++ .executed p₂ a₂ u₂ x₂ :: post) →
      ∃ k₁ k₂, a₁ = attemptIdAt id k₁ ∧ a₂ = attemptIdAt id k₂ ∧ k₁ ≠ k₂ ∧
        ∃ d ∈ journal (pre ++ .executed p₁ a₁ u₁ x₁ :: mid), settles (attemptIdAt id (min k₁ k₂)) d = true := by
  refine ⟨?_, h.reach.executions.nodup, ?_⟩
  · intro pre p actionId authority action post ht
    obtain ⟨s₀, -, -, hstart⟩ := (h.reach.before ht).started
    exact hstart
  · intro pre p₁ a₁ u₁ x₁ mid p₂ a₂ u₂ x₂ post ht
    obtain ⟨-, -, -, hstart₁⟩ := (h.reach.before ht).started
    have ht' : config.shared.trace = (pre ++ .executed p₁ a₁ u₁ x₁ :: mid) ++ .executed p₂ a₂ u₂ x₂ :: post := by
      rw [ht]
      simp
    obtain ⟨s₀, hs, htrace, hstart₂⟩ := (h.reach.before ht').started
    have hstart₁ : startDraft a₁ ∈ journal s₀.trace := by
      rw [htrace, journal_append]
      exact List.mem_append_left _ hstart₁
    rw [← htrace] at hstart₂
    obtain ⟨k₁, rfl⟩ := hs.started_id hstart₁
    obtain ⟨k₂, rfl⟩ := hs.started_id hstart₂
    -- no attempt is executed twice, so the two differ
    have hne : k₁ ≠ k₂ := by
      rintro rfl
      have hnodup := h.reach.executions.nodup
      rw [ht] at hnodup
      simp [executedIds, TraceEvent.executedId, List.nodup_append] at hnodup
    refine ⟨k₁, k₂, rfl, rfl, hne, ?_⟩
    rw [← htrace]
    rcases Nat.lt_or_gt_of_ne hne with hlt | hlt
    · rw [Nat.min_eq_left hlt.le]
      exact hs.earlier_settled hstart₁ hstart₂ hlt
    · rw [Nat.min_eq_right hlt.le]
      exact hs.earlier_settled hstart₂ hstart₁ hlt

namespace Till

/-- A process stops behind the start of its attempt; the attempt is reconciled as not
executed, another process executes the next one, and then the first goes on. -/
def overtakenTurns : List EngineTurn :=
  [.call 0 {} (.run (task 20 []) info none), .run 0 18, .call 1 {} (.resume (.int 1) none), .run 1 3,
    .call 2 { reconcilers := ["till"] } (.resolveRecovery (.int 1) .markNotExecuted none), .run 2 3,
    .call 3 {} (.resume (.int 1) none), .run 3 17, .run 0 1]

def overtakenPlay : Option (Config Op Ret Process System × Till) :=
  playEngines world {} (.int 1) { decisions := [decision, decision] } overtakenTurns

theorem overtakenPlay_isSome : overtakenPlay.isSome = true := by decide +kernel

def overtakenConfig : Config Op Ret Process System := (overtakenPlay.get overtakenPlay_isSome).1

theorem overtakenConfig_runs : Runs (Switches.conditions {}) (.int 1) overtakenConfig :=
  playEngines_runs (Option.some_get overtakenPlay_isSome).symm

end Till

theorem executions_durable_once_in_order_till :
    (∀ pre p actionId authority action post,
      Till.overtakenConfig.shared.trace = pre ++ .executed p actionId authority action :: post →
      startDraft actionId ∈ journal pre) ∧
    (executedIds Till.overtakenConfig.shared.trace).Nodup ∧
    ∀ pre p₁ a₁ u₁ x₁ mid p₂ a₂ u₂ x₂ post,
      Till.overtakenConfig.shared.trace = pre ++ .executed p₁ a₁ u₁ x₁ :: (mid ++ .executed p₂ a₂ u₂ x₂ :: post) →
      ∃ k₁ k₂, a₁ = attemptIdAt (.int 1) k₁ ∧ a₂ = attemptIdAt (.int 1) k₂ ∧ k₁ ≠ k₂ ∧
        ∃ d ∈ journal (pre ++ .executed p₁ a₁ u₁ x₁ :: mid), settles (attemptIdAt (.int 1) (min k₁ k₂)) d = true :=
  executions_durable_once_in_order Till.overtakenConfig_runs

/-- The attempt of the earlier of two calls need not be settled at the later one. -/
theorem earlier_call_unsettled : ¬ ∀ config, Runs (Switches.conditions {}) (.int 1) config →
    ∀ pre p₁ a₁ u₁ x₁ mid p₂ a₂ u₂ x₂ post,
      config.shared.trace = pre ++ .executed p₁ a₁ u₁ x₁ :: (mid ++ .executed p₂ a₂ u₂ x₂ :: post) →
      ∃ d ∈ journal (pre ++ .executed p₁ a₁ u₁ x₁ :: mid), settles a₁ d = true := by
  intro h
  let trace := Till.overtakenConfig.shared.trace
  have hlen : (trace.drop 8).length = 2 := by decide +kernel
  obtain ⟨e₁, e₂, hdrop⟩ := List.length_eq_two.1 hlen
  have hids : (trace.drop 8).map (·.executedId) = [some (attemptIdAt (.int 1) 14), some (attemptIdAt (.int 1) 7)] := by
    decide +kernel
  have hunsettled : (journal (trace.take 8)).all (fun d => ! settles (attemptIdAt (.int 1) 14) d) = true := by
    decide +kernel
  have htrace : trace = trace.take 8 ++ [e₁, e₂] := by
    rw [← hdrop]
    exact (List.take_append_drop 8 trace).symm
  rw [hdrop] at hids
  simp only [List.map_cons, List.map_nil, List.cons.injEq, and_true] at hids
  obtain ⟨h₁, h₂⟩ := hids
  cases e₁ with
  | executed p₁ a₁ u₁ x₁ =>
    cases e₂ with
    | executed p₂ a₂ u₂ x₂ =>
      cases h₁
      obtain ⟨d, hd, hs⟩ := h _ Till.overtakenConfig_runs (trace.take 8) p₁ _ u₁ x₁ [] p₂ a₂ u₂ x₂ [] htrace
      rw [journal_append] at hd
      have hd : d ∈ journal (trace.take 8) := by simpa [journal, TraceEvent.drafts] using hd
      have := List.all_eq_true.1 hunsettled d hd
      rw [hs] at this
      cases this
    | created | committed | returned => cases h₂
  | created | committed | returned => cases h₁

end SimPilot
