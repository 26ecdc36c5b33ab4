import SimPilot.Effect.Locals
import SimPilot.Runtime.AttemptHistory
/-!
# The iteration bound

| here | there |
| --- | --- |
| `Counted` | the increment and the check of `runtime_state.iterations` (`runtime/iteration.py:60-104`) |
| `executions_bounded` | at most `max_iterations` calls of `adapter.execute` in the life of a task |
| `loop_extend` | `run_iterations` ends by itself within `max_iterations + 1` passes |

The counter is stored with every commit and no commit takes it back; the commit of a
preparation raises it, so the attempts of a journal are at most as many as its iterations.
-/

namespace SimPilot
open Effect

variable {c : Conditions} {id : UUID} {s : System} {v v' : TaskView} {r : IterationRequest} {now : Timestamp}

/-! ## The stored counter -/

/-- No commit takes an iteration back. -/
theorem Allowed.iterations_le (h : Allowed c v r) : v.record.runtimeState.iterations ≤ r.runtimeState.iterations := by
  cases h with
  | ordinary _ _ _ h => exact h.approval.iterations
  | prepare _ _ _ _ _ _ counted => exact counted.fresh.le
  | start _ h | retire _ h | requireReconciliation _ h => exact h.approval.iterations
  | confirm _ _ _ _ _ h => exact h.iterations
  | failAttempt _ h => exact h.iterations
  | acceptCurrent _ _ _ _ _ _ _ h | dismiss _ _ _ h | abandon _ _ _ h => exact h.iterations
  | approve _ _ _ state => rw [state]
  | deny _ _ _ state => rw [state]
  | cancel _ _ _ state => rw [state]

/-- The attempts a batch prepares. -/
def preparations (drafts : List EventDraft) : Nat := drafts.countP (·.eventType = .actionPrepared)

theorem NoPreparation.preparations {drafts : List EventDraft} (h : NoPreparation drafts) : preparations drafts = 0 := by
  rw [SimPilot.preparations, List.countP_eq_zero]
  intro d hd
  simpa using h d hd

theorem Prepare.preparations {quiet : List EventDraft} {action : Action} {checkpoint : Option SimulationCheckpoint}
    {before : Observation} {cost : ℚ} (h : Prepare v r quiet action checkpoint before cost) :
    preparations r.eventDrafts = 1 := by
  have hquiet := h.isQuiet.noAttempt.noPreparation.preparations
  rw [SimPilot.preparations] at hquiet ⊢
  rw [h.drafts, List.countP_append, hquiet]
  rfl

/-- The attempts of a journal are counted by the iterations stored with it, and no
configuration allowed more. -/
structure IterationsOk (c : Conditions) (s : System) (v : TaskView) : Prop where
  counted : preparations (journal s.trace) ≤ v.record.runtimeState.iterations
  bounded : 0 < preparations (journal s.trace) → ∃ config, c.configured config ∧
    preparations (journal s.trace) ≤ config.maxIterations

theorem IterationsOk.step {s' : System} {p : Process} (h : IterationsOk c s v) (hr : Allowed c v r)
    (ha : After v now r v') (ht : s'.trace = s.trace ++ [.committed p v r]) : IterationsOk c s' v' := by
  have hcount : preparations (journal s'.trace) = preparations (journal s.trace) + preparations r.eventDrafts := by
    rw [ht, journal_append, journal_singleton]
    exact List.countP_append
  have hle := hr.iterations_le
  have hcounted := h.counted
  rcases hr.noPreparation with hno | ⟨quiet, action, checkpoint, before, cost, hp, hfresh, config, hconfig, hmax⟩
  · rw [hno.preparations, Nat.add_zero] at hcount
    constructor
    · rw [hcount, ha.runtimeState]
      omega
    · rw [hcount]
      exact h.bounded
  · rw [hp.preparations] at hcount
    constructor
    · rw [hcount, ha.runtimeState]
      omega
    · intro _
      exact ⟨config, hconfig, by omega⟩

theorem Reach.iterations (h : Reach c id s) (hv : viewOf id s.store = some v) : IterationsOk c s v := by
  have hall : ∀ v, viewOf id s.store = some v → IterationsOk c s v := by
    refine Reach.induct (I := fun s => ∀ v, viewOf id s.store = some v → IterationsOk c s v) ?_ ?_ h
    · rintro v ⟨⟩
    · intro p s s' hs ih hc v hv
      -- an event that is no commit adds nothing to the journal
      have hother : ∀ {e : TraceEvent}, s'.store = s.store → s'.trace = s.trace ++ [e] → e.drafts = [] →
          IterationsOk c s' v := by
        intro e hstore ht he
        have hj : SimPilot.journal s'.trace = SimPilot.journal s.trace := by rw [ht, journal_append, journal_singleton, he, List.append_nil]
        obtain ⟨hcounted, hbounded⟩ := ih v (hstore ▸ hv)
        constructor <;> rw [hj] <;> assumption
      cases hc with
      | silent h => exact h ▸ ih v (h ▸ hv)
      | created task _ _ _ before after _ trace =>
        have hj : SimPilot.journal s'.trace = [⟨.taskCreated, []⟩] := by
          rw [trace, journal_append, hs.journal.1 before]
          rfl
        have hzero : preparations (SimPilot.journal s'.trace) = 0 := by rw [hj]; rfl
        exact ⟨by omega, fun hpos => by omega⟩
      | committed w w' now r before allowed meets commit after ok trace =>
        rw [after] at hv
        cases hv
        exact (ih w before).step allowed commit trace
      | executed _ _ _ _ h => exact hother (by rw [h]) (by rw [h]) rfl
      | returned _ _ h => exact hother (by rw [h]) (by rw [h]) rfl
  exact hall v hv

/-- The executions of a history are at most the attempts prepared in it. -/
theorem Reach.executed_le (h : Reach c id s) :
    (executedIds s.trace).length ≤ preparations (SimPilot.journal s.trace) := by
  have hok := h.executions
  cases hv : viewOf id s.store with
  | none =>
    have hnone : executedIds s.trace = [] := by
      rw [List.eq_nil_iff_forall_not_mem]
      intro actionId hmem
      have hstart := hok.started actionId hmem
      rw [h.journal.1 hv] at hstart
      cases hstart
    rw [hnone]
    exact Nat.zero_le _
  | some v =>
    obtain ⟨as, has, -⟩ := (h.system.task v hv).journal.attempts
    -- every execution is of an attempt of the journal, and no two of the same
    have hsub : executedIds s.trace ⊆ as.map (·.actionId) := by
      intro actionId hmem
      obtain ⟨a, ha, hid, -⟩ := h.started_attempt hv has (hok.started actionId hmem)
      exact List.mem_map.2 ⟨a, ha, hid⟩
    have hlength : (executedIds s.trace).length ≤ (as.map (·.actionId)).length :=
      (List.subperm_of_subset hok.nodup hsub).length_le
    rw [List.length_map, actionAttempts_length has] at hlength
    rw [preparations, ← h.journal.2 v hv, List.countP_map]
    exact hlength

/-! ## The loop -/

namespace Engine
open Py
variable {σ ι : Type}

/-- The counter in the locals of the loop. -/
def loopIterations (st : LoopState) : Nat := st.runtimeState.iterations

/-- The counter in the locals of the action transaction. -/
def actionIterations (st : ActionExecutionState) : Nat := st.runtimeState.iterations

variable {μ : σ → ι}

theorem ask_leaves (o : Op) : Leaves μ (ask o : Engine σ (Ret o)) := .perform o

/-- An operation whose reply is a value or an exception. -/
theorem answer_leaves {α : Type} (o : Op) (f : Ret o → Except PyError α) :
    Leaves μ (ask o >>= fun r => Py.lift (f r) : Engine σ α) := .bind (ask_leaves o) fun _ => .lift _

theorem reconstruct_leaves (id : UUID) : Leaves μ (reconstruct id : Engine σ _) := by
  refine .bind (ask_leaves _) fun view => ?_
  cases view with
  | error e => exact .raise _
  | ok view => exact .lift _

theorem crash_leaves (point : CrashPoint) : Leaves μ (crash point : Engine σ _) :=
  .bind (ask_leaves _) fun _ => .ite (.raise _) (.pure _)

theorem adapterSnapshot_leaves (adapter : AdapterInfo) (o : Observation) : Leaves μ (adapterSnapshot adapter o : Engine σ _) :=
  .ite (answer_leaves (.snapshot o) id) (.lift _)

theorem snapshotIf_leaves (wanted : Bool) (adapter : AdapterInfo) (o : Observation) :
    Leaves μ (snapshotIf wanted adapter o : Engine σ _) :=
  .ite (.map (adapterSnapshot_leaves adapter o)) (.pure _)

theorem commitIteration_leaves (request : IterationRequest) : Leaves μ (commitIteration request : Engine σ _) :=
  answer_leaves (.commitIteration request) id

theorem commitWithDrafts_leaves (current : TaskRecord) (task : Task) (runtimeState : RuntimeSafeguardState)
    (drafts : List EventDraft) (snapshot : Option AdapterSnapshot) :
    Leaves μ (commitWithDrafts current task runtimeState drafts snapshot : Engine σ _) :=
  .bind (commitIteration_leaves _) fun _ => .pure _

theorem observe_leaves (held : Option Observation) : Leaves μ (observe held : Engine σ _) :=
  answer_leaves (.observe held) id

/-! ### The action transaction -/

theorem prepareAndStart_leaves (actionId : UUID) (action : Action) (cost : ℚ) (checkpoint : Option SimulationCheckpoint) :
    Leaves actionIterations (prepareAndStart actionId action cost checkpoint) :=
  .bind (.update fun _ => rfl) fun _ => .bind .locals fun _ => .bind (commitWithDrafts_leaves _ _ _ _ _) fun _ =>
    .bind (.update fun _ => rfl) fun _ => .bind (crash_leaves _) fun _ => .bind .locals fun _ =>
      .bind (commitWithDrafts_leaves _ _ _ _ _) fun _ => .bind (.update fun _ => rfl) fun _ => crash_leaves _

/-- Settling changes the safeguards, but not the counter. -/
theorem commitSettled_leaves (services : Services) (adapter : AdapterInfo) (actionId : UUID) (action : Action)
    (before : Observation) (cost : ℚ) (result : ExecutionResult) :
    Leaves actionIterations (commitSettled services adapter actionId action before cost result) := by
  intro st
  have hset := (settle_approval services.configuration st.current.task st.runtimeState result
    (ActionVerifier.verify before action result st.observation cost) st.observation).2.2
  refine all_bind ?_
  refine all_bind (Prog.All.mono ?_ (crash_leaves (μ := fun st => st) .afterVerification st))
  rintro ⟨r | r, st'⟩ hst
  · exact congrArg actionIterations (show st' = st from hst)
  obtain rfl : st' = st := hst
  refine all_bind ?_
  unfold Py.lift Prog.All
  cases (settle services.configuration st'.current.task st'.runtimeState result
      (ActionVerifier.verify before action result st'.observation cost) st'.observation).finalTask with
  | error e => rfl
  | ok task =>
    dsimp only
    refine Prog.All.mono ?_ (Leaves.update_bind (μ := actionIterations) ?_ st')
    · intro r' h
      exact Eq.trans h hset
    exact .bind (snapshotIf_leaves _ _ _) fun _ => .bind .locals fun _ => .bind (commitWithDrafts_leaves _ _ _ _ _) fun _ =>
      .bind (.update fun _ => rfl) fun _ => crash_leaves _

theorem executeActionTransaction_leaves (services : Services) (adapter : AdapterInfo) (action : Action)
    (validation : AdapterValidation) :
    Leaves actionIterations (executeActionTransaction services adapter action validation) :=
  .bind .locals fun _ => .bind (reconstruct_leaves _) fun _ => .bind (prepareAndStart_leaves _ _ _ _) fun _ =>
    .bind .locals fun st => .bind (answer_leaves (.execute _ st.runtimeState.approvedApprovalId action) id) fun _ =>
      .bind (crash_leaves _) fun _ => .bind (observe_leaves _) fun _ => .bind (.update fun _ => rfl) fun _ =>
        .bind (crash_leaves _) fun _ => commitSettled_leaves _ _ _ _ _ _ _

/-! ### A pass -/

section
variable (services : Services) (adapter : AdapterInfo)

theorem setReason_leaves (reason : String) : Leaves loopIterations (setReason reason) := .update fun _ => rfl

theorem commitStatus_leaves (status : TaskStatus) (drafts : List EventDraft) (cancelRequested : Option Bool) :
    Leaves loopIterations (commitStatus adapter status drafts cancelRequested) :=
  .bind .locals fun _ => .bind (.lift _) fun _ => .bind (adapterSnapshot_leaves _ _) fun _ =>
    .bind (commitIteration_leaves _) fun _ => .update fun _ => rfl

theorem commitSame_leaves (fresh : Bool) (drafts : List EventDraft) :
    Leaves loopIterations (commitSame adapter fresh drafts) :=
  .bind .locals fun _ => .bind (snapshotIf_leaves _ _ _) fun _ => .bind (commitWithDrafts_leaves _ _ _ _ _) fun _ =>
    .update fun _ => rfl

theorem finish_leaves (status : TaskStatus) (reason : String) (drafts : List EventDraft) (cancelRequested : Option Bool) :
    Leaves loopIterations (finish adapter status reason drafts cancelRequested) :=
  .bind (setReason_leaves _) fun _ => .bind (commitStatus_leaves _ _ _ _) fun _ => .pure _

theorem commitOnce_leaves (flow : Flow) : Leaves loopIterations (commitOnce flow) :=
  .bind (.update fun _ => rfl) fun _ => .pure _

theorem blockOrContinue_leaves (block : Bool) (reason : String) (fresh : Bool) (drafts : List EventDraft) :
    Leaves loopIterations (blockOrContinue adapter block reason fresh drafts) :=
  .ite (.bind (commitStatus_leaves _ _ _ _) fun _ => commitOnce_leaves _)
    (.bind (commitSame_leaves _ _ _) fun _ => commitOnce_leaves _)

theorem refresh_leaves (fresh : Bool) (drafts : List EventDraft) : Leaves loopIterations (refresh fresh drafts) :=
  .ite (.bind .locals fun _ => .bind (observe_leaves _) fun _ => .bind (.update fun _ => rfl) fun _ => .pure _) (.pure _)

theorem runAction_leaves (action : Action) (validation : AdapterValidation) (drafts : List EventDraft) :
    Leaves loopIterations (runAction services adapter action validation drafts) :=
  .bind (.zoom (ν := actionIterations)
    (.bind (executeActionTransaction_leaves _ _ _ _) fun _ => .bind .locals fun _ => .pure _) (fun _ => rfl) fun _ _ => rfl)
    fun _ => commitOnce_leaves _

theorem requestApproval_leaves (action : Action) (policy : PolicyDecision) (drafts : List EventDraft) :
    Leaves loopIterations (requestApproval action policy drafts) :=
  .bind .locals fun _ => .bind (ask_leaves .now) fun _ => .bind (.lift _) fun _ => .bind (commitIteration_leaves _) fun _ =>
    .bind (.update fun _ => rfl) fun _ => .pure _

theorem rejectAction_leaves (action : Action) (validation : AdapterValidation) (policy : PolicyDecision)
    (drafts : List EventDraft) : Leaves loopIterations (rejectAction services adapter action validation policy drafts) :=
  .bind (.update fun _ => rfl) fun _ => .bind (refresh_leaves _ _) fun _ => .bind .locals fun _ =>
    blockOrContinue_leaves _ _ _ _ _

theorem act_leaves (action : Action) (decision : Option Decision) (drafts : List EventDraft) :
    Leaves loopIterations (act services adapter action decision drafts) :=
  .bind (.update fun _ => rfl) fun _ => .bind .locals fun _ => .ite (finish_leaves _ _ _ _ _)
    (.bind (answer_leaves (.validate action) id) fun _ => .ite (rejectAction_leaves _ _ _ _ _ _)
      (.ite (requestApproval_leaves _ _ _) (runAction_leaves _ _ _ _ _)))

theorem waitIteration_leaves (drafts : List EventDraft) : Leaves loopIterations (waitIteration services adapter drafts) :=
  .bind (refresh_leaves _ _) fun _ => .bind .locals fun _ => .bind (.update fun _ => rfl) fun _ =>
    blockOrContinue_leaves _ _ _ _ _

theorem falseCompletion_leaves (drafts : List EventDraft) :
    Leaves loopIterations (falseCompletion services adapter drafts) :=
  .bind (.update fun _ => rfl) fun _ => .bind .locals fun _ => blockOrContinue_leaves _ _ _ _ _

theorem onDecision_leaves (result : DecisionProviderResult) (drafts : List EventDraft) :
    Leaves loopIterations (onDecision services adapter result drafts) := by
  unfold onDecision
  extract_lets decision drafts'
  cases decision.type with
  | complete => exact falseCompletion_leaves _ _ _
  | blocked => exact finish_leaves _ _ _ _ _
  | wait => exact waitIteration_leaves _ _ _
  | execute | approvalRequired =>
    cases decision.action with
    | none => exact finish_leaves _ _ _ _ _
    | some action => exact act_leaves _ _ _ _ _

theorem askProvider_leaves (evaluation : RuntimeEvaluation) (drafts : List EventDraft) :
    Leaves loopIterations (askProvider services adapter evaluation drafts) := by
  refine .bind .locals fun st => .bind (.tryCatch ?_ fun _ => .pure _) fun reply => ?_
  · exact .bind (answer_leaves .availableActions id) fun _ => .bind (ask_leaves (.listEvents _)) fun _ =>
      .bind (.lift _) fun context => .bind (answer_leaves (.decide context) id) fun _ => .pure _
  · match reply with
    | .ok result => exact onDecision_leaves _ _ _ _
    | .error (.scriptedDecisionExhausted message) => exact finish_leaves _ _ _ _ _
    | .error (.decisionProvider cls message) => exact finish_leaves _ _ _ _ _
    | .error (.durablePersistence _) | .error (.reconstructionConsistency _) | .error (.valueError _)
      | .error (.persistence _) | .error (.other _ _) | .error (.simulatedCrash _) | .error .diverged => exact .raise _

/-- A pass that is neither cancelled nor out of iterations counts one. -/
theorem evaluateIteration_counts (st : LoopState) :
    (evaluateIteration services adapter st).All fun r => loopIterations r.2 = loopIterations st + 1 := by
  unfold evaluateIteration
  refine Prog.All.mono ?_ (Leaves.update_bind (μ := loopIterations) ?_ st)
  · intro r h
    exact h
  refine .bind .locals fun st => .bind (ask_leaves (.listEvents _)) fun events => .bind (.lift _) fun evaluation => ?_
  cases evaluation.currentStatus with
  | completed => exact finish_leaves _ _ _ _ _
  | blocked => exact finish_leaves _ _ _ _ _
  | running =>
    dsimp only
    split
    · exact act_leaves _ _ _ _ _
    · exact askProvider_leaves _ _ _ _

theorem cancelled_leaves (current : TaskRecord) : Leaves (fun st => st) (cancelled current) :=
  .ite (.pure _) (answer_leaves (.cancellationCheck _) id)

/-- A pass that ends the task does not go on. -/
theorem finish_stops (status : TaskStatus) (reason : String) (drafts : List EventDraft) (cancelRequested : Option Bool)
    (st : LoopState) : (finish adapter status reason drafts cancelRequested st).All fun r => r.1 ≠ .ok .again := by
  refine all_bind (all_bind (Prog.All.mono ?_ (commitStatus_leaves adapter status drafts cancelRequested _)))
  rintro ⟨r | r, st'⟩ -
  · rintro ⟨⟩
  · rintro ⟨⟩

/-- A pass that goes on counts an iteration, and was within the bound. -/
theorem iteration_counts (budget : Option Nat) (st : LoopState) :
    (iteration services adapter budget st).All fun r => r.1 = .ok .again →
      loopIterations r.2 = loopIterations st + 1 ∧ loopIterations st < services.configuration.maxIterations := by
  have hstop : ∀ {m : Engine LoopState Flow} {st' : LoopState}, (m st').All (fun r => r.1 ≠ .ok .again) →
      (m st').All fun r => r.1 = .ok .again → loopIterations r.2 = loopIterations st + 1 ∧
        loopIterations st < services.configuration.maxIterations :=
    fun h => Prog.All.mono (fun _ hne heq => absurd heq hne) h
  unfold iteration
  rw [locals_bind]
  split
  · refine hstop ?_
    rintro ⟨⟩
  refine all_bind (Prog.All.mono ?_ (cancelled_leaves st.current st))
  rintro ⟨cancelled | cancelled, st'⟩ hst
  · rintro ⟨⟩
  obtain rfl : st' = st := hst
  dsimp only
  split
  · exact hstop (finish_stops _ _ _ _ _ _)
  split
  · exact hstop (finish_stops _ _ _ _ _ _)
  · rename_i hlt
    refine Prog.All.mono (fun r hcount _ => ⟨hcount, ?_⟩) (evaluateIteration_counts services adapter st')
    exact Nat.lt_of_not_le hlt

end

/-- **The loop ends by itself**: allowing it more passes than are left of its iterations
changes nothing. -/
theorem loop_extend (services : Services) (adapter : AdapterInfo) (budget : Option Nat) (more : Nat) :
    ∀ (passes : Nat) (st : LoopState), 0 < passes → services.configuration.maxIterations < loopIterations st + passes →
      loop services adapter budget (passes + more) st = loop services adapter budget passes st
  | 0, _, hpos, _ => by omega
  | passes + 1, st, _, hbound => by
    rw [Nat.succ_add_eq_add_succ passes more, Nat.add_succ]
    unfold loop
    rw [locals_bind, locals_bind]
    split
    · rfl
    refine bind_congr (Prog.All.mono ?_ (iteration_counts services adapter budget st))
    intro r hcount flow hflow
    cases flow with
    | stop => rfl
    | again =>
      obtain ⟨hnext, hlt⟩ := hcount hflow
      exact loop_extend services adapter budget more passes r.2 (by omega) (by omega)

end Engine

/-! ## The bound -/

/-- **Execution is bounded for the life of a task**: under one configuration the adapters
are asked at most `max_iterations` times to execute an action, whatever runs, resumes,
approvals, crashes and recoveries there are, and the loop of every run ends by itself
within `max_iterations + 1` passes. -/
theorem executions_bounded {config : Config Op Ret Process System} {configuration : RuntimeConfiguration}
    (h : Runs c id config) (honly : ∀ used, c.configured used → used = configuration) :
    (executedIds config.shared.trace).length ≤ configuration.maxIterations ∧
      ∀ services : Services, services.configuration = configuration → ∀ adapter budget more,
        Engine.loop services adapter budget (configuration.maxIterations + 1 + more) =
          Engine.loop services adapter budget (configuration.maxIterations + 1) := by
  constructor
  · have hle := h.reach.executed_le
    cases hv : viewOf id config.shared.store with
    | none =>
      rw [h.reach.journal.1 hv] at hle
      exact hle.trans (Nat.zero_le _)
    | some v =>
      have hok := h.reach.iterations hv
      rcases Nat.eq_zero_or_pos (preparations (journal config.shared.trace)) with hzero | hpos
      · omega
      · obtain ⟨used, hused, hmax⟩ := hok.bounded hpos
        rw [honly used hused] at hmax
        exact hle.trans hmax
  · rintro services rfl adapter budget more
    funext st
    exact Engine.loop_extend services adapter budget more _ st (Nat.succ_pos _) (by omega)

namespace Till

/-- The run of `approvedTurns`, its engines held to one configuration. -/
def configuredPlay : Option (Config Op Ret Process System × Till) :=
  playEngines world { configuration := some {} } (.int 1) { decisions := [decision] } approvedTurns

theorem configuredPlay_isSome : configuredPlay.isSome = true := by decide +kernel

def configuredConfig : Config Op Ret Process System := (configuredPlay.get configuredPlay_isSome).1

end Till

theorem executions_bounded_till :
    (executedIds Till.configuredConfig.shared.trace).length ≤ ({} : RuntimeConfiguration).maxIterations ∧
      ∀ services : Services, services.configuration = {} → ∀ adapter budget more,
        Engine.loop services adapter budget (({} : RuntimeConfiguration).maxIterations + 1 + more) =
          Engine.loop services adapter budget (({} : RuntimeConfiguration).maxIterations + 1) :=
  executions_bounded (playEngines_runs (Option.some_get Till.configuredPlay_isSome).symm) fun _ h => h {} rfl

end SimPilot
