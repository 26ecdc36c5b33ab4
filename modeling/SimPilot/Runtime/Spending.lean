import Mathlib.Algebra.Order.Group.Abs
import Mathlib.Tactic.Linarith
import Mathlib.Tactic.NormNum
import SimPilot.Runtime.AttemptHistory
/-!
# The spending of a task

| here | there |
| --- | --- |
| `TaskSpecification.limits` | the totals `PolicyEngine.evaluate` compares with (`runtime/policy.py:58-75`) |
| `Prepare.limits` | the comparison before an action is prepared |
| `charges` | the additions to `total_spend` (`runtime/action_execution.py:92-131`, `runtime/engine.py:192-223`) |

The bound is compared with the validated cost, and what is charged is the executed or the
reconciled cost. The two differ by at most `costTolerance`, and the next comparison is
with the total that was charged, so the differences do not add up.
-/

namespace SimPilot
open Effect

variable {c : Conditions} {id : UUID} {s : System} {v v' : TaskView} {r : IterationRequest} {now : Timestamp}

/-! ## Charges -/

/-- The attempt a commit charges to the task, and what for. -/
def TraceEvent.charge : TraceEvent → Option (UUID × ℚ)
  | committed _ v r => match unresolvedActionAttempt v.events with
    | .ok (some a) =>
      if r.task.totalSpend = v.record.task.totalSpend then none
      else some (a.actionId, r.task.totalSpend - v.record.task.totalSpend)
    | _ => none
  | created _ _ | executed _ _ _ _ | returned _ _ => none

/-- The charges of a history, in their order. -/
def charges (trace : List TraceEvent) : List (UUID × ℚ) := trace.filterMap (·.charge)

theorem charges_concat (trace : List TraceEvent) (e : TraceEvent) :
    charges (trace ++ [e]) = charges trace ++ e.charge.toList := by
  rw [charges, List.filterMap_append]
  cases h : e.charge <;> simp [charges, h]

/-- What a commit does to the spending. -/
inductive SpendChange (c : Conditions) (v : TaskView) (r : IterationRequest) (v' : TaskView) : Prop
  | same (h : r.task.totalSpend = v.record.task.totalSpend)
  | charged (a : ActionAttempt) (before : unresolvedActionAttempt v.events = .ok (some a))
      (now : unresolvedActionAttempt v'.events = .ok none)
      (cost : c.honestReconciler → |r.task.totalSpend - v.record.task.totalSpend - a.estimatedCost| ≤ costTolerance)

/-- A commit charges nothing, or settles the attempt it charges. -/
theorem Allowed.spend_change (h : Allowed c v r) (ha : After v now r v') (hj : JournalOk id v) :
    SpendChange c v r v' := by
  have hn : v.record.task.sequence ≤ v'.record.task.sequence := by
    have := h.sequence ha
    omega
  have hcost : ∀ {a : ActionAttempt} (result : ExecutionResult), r.task.totalSpend = v.record.task.totalSpend + result.cost →
      |result.cost - a.estimatedCost| ≤ costTolerance →
      |r.task.totalSpend - v.record.task.totalSpend - a.estimatedCost| ≤ costTolerance := by
    intro a result ht hle
    rw [ht, add_sub_cancel_left]
    exact hle
  cases h with
  | ordinary _ _ _ h => exact .same (by rw [h.task]; rfl)
  | prepare _ _ _ _ _ h => exact .same (by rw [h.task])
  | start _ h | retire _ h | requireReconciliation _ h => exact .same (by rw [h.task])
  | confirm a result observed verification terminal h =>
    rcases h.task with ht | ⟨ht, hle⟩
    · exact .same (by rw [ht]; rfl)
    · obtain ⟨-, hnow⟩ := ha.attempts_settled hj.attempts h.unresolved h.executing h.drafts hn
      exact .charged a h.unresolved hnow fun _ => hcost result (by rw [ht]; rfl) hle
  | failAttempt _ h => exact .same (by rw [h.task]; rfl)
  | acceptCurrent a report resolution result previous observed sn h task cost drafts =>
    rw [Task.chargeSuccess] at task
    split at task
    · obtain ⟨hf, hc⟩ := hj.attempts.unresolved_status h.unresolved
      obtain ⟨-, b, -, -, hnow⟩ := ha.attempts_mark hj.attempts h.unresolved [observationDraft observed] [] .reconciled drafts
        (by simp [NoAttempt, observationDraft, RuntimeEventType.attemptStatus]) (by simp [NoAttempt])
        (marks_reconciled ..) (canBecome_reconciled hf hc) (by decide) hn
      exact .charged a h.unresolved hnow fun hhonest => hcost result (by rw [task]; rfl) (cost hhonest)
    · exact .same (by rw [task])
  | dismiss _ _ _ _ task => exact .same (by rw [task])
  | abandon _ _ _ _ _ task => exact .same (by rw [task]; rfl)
  | approve _ _ task => exact .same (by rw [task])
  | deny _ _ task => exact .same (by rw [task]; rfl)
  | cancel _ _ task => exact .same (by rw [task]; rfl)

theorem SpendChange.of_open (h : SpendChange c v r v') {a : ActionAttempt}
    (hu : unresolvedActionAttempt v'.events = .ok (some a)) : r.task.totalSpend = v.record.task.totalSpend := by
  cases h with
  | same h => exact h
  | charged b _ now => rw [now] at hu; cases hu

/-! ## Spending along a run -/

/-- The spending of a task against its limits and the charges of its history. -/
structure SpendingOk (c : Conditions) (s : System) (v : TaskView) : Prop where
  total : ∃ p task, .created p task ∈ s.trace ∧
    v.record.task.totalSpend = task.totalSpend + ((charges s.trace).map (·.2)).sum
  bounded : c.honestReconciler → charges s.trace ≠ [] → ∀ m ∈ v.record.task.specification.limits,
    v.record.task.totalSpend ≤ m + costTolerance
  /-- The cost of an unresolved attempt is still within the limits. -/
  affordable : ∀ a, unresolvedActionAttempt v.events = .ok (some a) → ∀ m ∈ v.record.task.specification.limits,
    v.record.task.totalSpend + a.estimatedCost ≤ m
  settled : ∀ x ∈ charges s.trace, ∀ as, actionAttempts v.events = .ok as →
    ∃ a ∈ as, a.actionId = x.1 ∧ a.status.isFinal = true
  once : ((charges s.trace).map (·.1)).Nodup

theorem Allowed.affordable (hr : Allowed c v r) (ha : After v now r v') (hj : JournalOk id v)
    (h : ∀ a, unresolvedActionAttempt v.events = .ok (some a) → ∀ m ∈ v.record.task.specification.limits,
      v.record.task.totalSpend + a.estimatedCost ≤ m) {a : ActionAttempt}
    (hu : unresolvedActionAttempt v'.events = .ok (some a)) {m : ℚ} (hm : m ∈ v.record.task.specification.limits) :
    v.record.task.totalSpend + a.estimatedCost ≤ m := by
  cases (hr.attempts ha hj.attempts hj.task).2 with
  | idle _ _ _ _ now => rw [now] at hu; cases hu
  | settled _ _ now => rw [now] at hu; cases hu
  | answered _ _ _ unchanged => exact h a (unchanged ▸ hu) m hm
  | cancelled _ _ unchanged => exact h a (unchanged ▸ hu) m hm
  | prepared quiet action checkpoint before cost b hp now as =>
    rw [now] at hu
    cases hu
    rw [as.cost]
    exact hp.limits m hm
  | started b b' hmark _ _ _ same _ now =>
    rw [now] at hu
    cases hu
    rw [same.cost]
    exact h b hmark.unresolved m hm
  | flagged b b' hmark _ _ same _ now =>
    rw [now] at hu
    cases hu
    rw [same.cost]
    exact h b hmark.unresolved m hm

/-- What was settled before a commit is settled behind it. -/
theorem settled_stays {actionId : UUID} (hj : JournalOk id v) (ha : After v now r v')
    (h : ∀ as, actionAttempts v.events = .ok as → ∃ a ∈ as, a.actionId = actionId ∧ a.status.isFinal = true)
    {as' : List ActionAttempt} (has' : actionAttempts v'.events = .ok as') :
    ∃ a ∈ as', a.actionId = actionId ∧ a.status.isFinal = true := by
  obtain ⟨as, has, -⟩ := hj.attempts
  obtain ⟨a, hmem, hid, hf⟩ := h as has
  rw [ha.events] at has'
  exact ⟨a, attempt_stays has has' a hmem hf, hid, hf⟩

theorem SpendingOk.step {s' : System} {p : Process} (h : SpendingOk c s v) (hr : Allowed c v r) (ha : After v now r v')
    (hj : JournalOk id v) (hj' : JournalOk id v') (ht : s'.trace = s.trace ++ [.committed p v r]) : SpendingOk c s' v' := by
  have hchange := hr.spend_change ha hj
  have htotal : v'.record.task.totalSpend = r.task.totalSpend := by rw [ha.record]; rfl
  have hlimits : v'.record.task.specification.limits = v.record.task.specification.limits := by
    rw [ha.record]
    exact congrArg TaskSpecification.limits hr.task_eq.2
  have haffordable : ∀ a, unresolvedActionAttempt v'.events = .ok (some a) → ∀ m ∈ v'.record.task.specification.limits,
      v'.record.task.totalSpend + a.estimatedCost ≤ m := by
    intro a hu m hm
    rw [htotal, hchange.of_open hu]
    exact hr.affordable ha hj h.affordable hu (hlimits ▸ hm)
  obtain ⟨q, task, hcreated, hsum⟩ := h.total
  have hcreated' : .created q task ∈ s'.trace := by
    rw [ht]
    exact List.mem_append_left _ hcreated
  by_cases hsame : r.task.totalSpend = v.record.task.totalSpend
  · -- nothing is charged
    have hcharges : charges s'.trace = charges s.trace := by
      have hnone : TraceEvent.charge (.committed p v r) = none := by
        unfold TraceEvent.charge
        dsimp only
        split
        · exact if_pos hsame
        · rfl
      rw [ht, charges_concat, hnone]
      simp
    refine ⟨⟨q, task, hcreated', by rw [htotal, hsame, hcharges, hsum]⟩, ?_, haffordable, ?_, by rw [hcharges]; exact h.once⟩
    · rw [hcharges, hlimits, htotal, hsame]
      exact h.bounded
    · rw [hcharges]
      exact fun x hx as has => settled_stays hj ha (h.settled x hx) has
  obtain ⟨a, hu, hnow, hcost⟩ : ∃ a, unresolvedActionAttempt v.events = .ok (some a) ∧
      unresolvedActionAttempt v'.events = .ok none ∧ (c.honestReconciler →
        |r.task.totalSpend - v.record.task.totalSpend - a.estimatedCost| ≤ costTolerance) := by
    cases hchange with
    | same h => exact (hsame h).elim
    | charged a before now cost => exact ⟨a, before, now, cost⟩
  have hcharges : charges s'.trace = charges s.trace ++ [(a.actionId, r.task.totalSpend - v.record.task.totalSpend)] := by
    rw [ht, charges_concat]
    simp [TraceEvent.charge, hu, hsame]
  obtain ⟨as, has, hok⟩ := hj.attempts
  have hlast := hu
  rw [unresolved_of_attempts has, Except.ok.injEq] at hlast
  obtain ⟨init, hinit, hopen, -⟩ := hok.of_unresolved hlast
  have hmem : a ∈ as := by rw [hinit]; simp
  refine ⟨⟨q, task, hcreated', ?_⟩, ?_, haffordable, ?_, ?_⟩
  · rw [htotal, hcharges, List.map_append, List.sum_append, ← add_assoc, ← hsum]
    simp
  · intro hhonest _ m hm
    have hle := h.affordable a hu m (hlimits ▸ hm)
    have hdiff := (abs_le.1 (hcost hhonest)).2
    rw [htotal]
    linarith
  · intro x hx as' has'
    rw [hcharges] at hx
    rcases List.mem_append.1 hx with hx | hx
    · exact settled_stays hj ha (h.settled x hx) has'
    · -- behind the commit all attempts are settled, and the charged one is still among them
      rw [List.mem_singleton] at hx
      subst hx
      obtain ⟨e, he, htype, hid⟩ := event_of_attempt has a hmem
      obtain ⟨b, hb, hbid, -⟩ := attempt_of_event has' e (by rw [ha.events]; exact List.mem_append_left _ he) htype hid
      obtain ⟨bs, hbs, hok'⟩ := hj'.attempts
      rw [has'] at hbs
      cases hbs
      rw [unresolved_of_attempts has', Except.ok.injEq] at hnow
      exact ⟨b, hb, hbid, hok'.all_final hnow b hb⟩
  · rw [hcharges, List.map_append, List.nodup_append]
    refine ⟨h.once, by simp, ?_⟩
    rintro x hx y hy rfl
    obtain ⟨z, hz, rfl⟩ := List.mem_map.1 hx
    rw [List.map_singleton, List.mem_singleton] at hy
    -- an attempt that was charged is settled, and this one is not
    obtain ⟨b, hb, hbid, hbf⟩ := h.settled z hz as has
    have hab : b = a := List.inj_on_of_nodup_map hok.nodup hb hmem (hbid.trans hy)
    rw [hab, hopen] at hbf
    cases hbf

theorem Reach.spending (h : Reach c id s) (hv : viewOf id s.store = some v) : SpendingOk c s v := by
  have hall : (viewOf id s.store = none → charges s.trace = []) ∧ ∀ v, viewOf id s.store = some v → SpendingOk c s v := by
    refine Reach.induct (I := fun s => (viewOf id s.store = none → charges s.trace = []) ∧
      ∀ v, viewOf id s.store = some v → SpendingOk c s v) ?_ ?_ h
    · exact ⟨fun _ => rfl, by rintro v ⟨⟩⟩
    · rintro p s s' hs ⟨hunborn, ih⟩ hc
      have hother : ∀ {e : TraceEvent}, s'.store = s.store → s'.trace = s.trace ++ [e] → e.charge = none →
          (viewOf id s'.store = none → charges s'.trace = []) ∧ ∀ v, viewOf id s'.store = some v → SpendingOk c s' v := by
        intro e hstore ht he
        have hcharges : charges s'.trace = charges s.trace := by
          rw [ht, charges_concat, he]
          simp
        rw [hstore, hcharges]
        refine ⟨hunborn, fun v hv => ?_⟩
        obtain ⟨⟨q, task, hmem, hsum⟩, hbounded, haffordable, hsettled, honce⟩ := ih v hv
        refine ⟨⟨q, task, by rw [ht]; exact List.mem_append_left _ hmem, by rw [hcharges]; exact hsum⟩, ?_, haffordable, ?_, ?_⟩
        · rw [hcharges]
          exact hbounded
        · rw [hcharges]
          exact hsettled
        · rw [hcharges]
          exact honce
      cases hc with
      | silent h => exact h ▸ ⟨hunborn, ih⟩
      | created task hid hst hq before after ok trace =>
        have hnone : charges s'.trace = [] := by
          rw [trace, charges_concat, hunborn before]
          rfl
        refine ⟨fun _ => hnone, fun v hv => ?_⟩
        rw [after] at hv
        cases hv
        refine ⟨⟨p, task, by rw [trace]; simp, ?_⟩, fun _ hne => (hne hnone).elim, ?_, ?_, ?_⟩
        · rw [hnone]
          exact (add_zero _).symm
        · intro a hu
          cases hu
        · rw [hnone]
          rintro x ⟨⟩
        · rw [hnone]
          exact List.nodup_nil
      | committed w w' now r before allowed meets commit after ok trace =>
        refine ⟨fun hn => ?_, fun v hv => ?_⟩
        · rw [after] at hn
          cases hn
        · rw [after] at hv
          cases hv
          have hok := hs.system.task w before
          exact (ih w before).step allowed commit hok.journal (hok.step allowed meets commit).journal trace
      | executed _ _ _ _ h => exact hother (by rw [h]) (by rw [h]) rfl
      | returned _ _ h => exact hother (by rw [h]) (by rw [h]) rfl
  exact hall.2 v hv

/-- What a charge of the history is for. -/
theorem Reach.charge (h : Reach c id s) {x : UUID × ℚ} (hx : x ∈ charges s.trace) :
    ∃ p v r a, .committed p v r ∈ s.trace ∧ unresolvedActionAttempt v.events = .ok (some a) ∧ x.1 = a.actionId ∧
      (c.honestReconciler → |x.2 - a.estimatedCost| ≤ costTolerance) := by
  obtain ⟨e, he, hcharge⟩ := List.mem_filterMap.1 hx
  cases e with
  | created _ _ => cases hcharge
  | executed _ _ _ _ => cases hcharge
  | returned _ _ => cases hcharge
  | committed p v r =>
    obtain ⟨pre, post, ht⟩ := List.append_of_mem he
    obtain ⟨q, s₀, s₁, hs₀, hc, rfl, htrace⟩ := h.before ht
    have hlast : ∀ e', s₁.trace = s₀.trace ++ [e'] → e' = .committed p v r := by
      intro e' he'
      rw [he'] at htrace
      simpa using htrace
    cases hc with
    | silent h => rw [h] at htrace; simp at htrace
    | created _ _ _ _ _ _ _ htrace => cases hlast _ htrace
    | executed _ _ _ _ h => cases hlast _ (by rw [h])
    | returned _ _ h => cases hlast _ (by rw [h])
    | committed w w' now r' before allowed meets commit after ok htrace =>
      cases hlast _ htrace
      have hj := (hs₀.system.task v before).journal
      unfold TraceEvent.charge at hcharge
      cases allowed.spend_change commit hj with
      | same hsame =>
        exfalso
        dsimp only at hcharge
        split at hcharge
        · rw [if_pos hsame] at hcharge
          cases hcharge
        · cases hcharge
      | charged a hu _ hcost =>
        dsimp only at hcharge
        rw [hu] at hcharge
        dsimp only at hcharge
        split at hcharge
        · cases hcharge
        · cases hcharge
          exact ⟨p, v, r, a, he, hu, rfl, hcost⟩

/-- **Spending authority holds over the life of a task**: what it has spent is what it was
created with and its charges, each attempt is charged at most once and for its validated
cost, and once there is a charge the spending is within every limit, but for one rounding. -/
theorem spending_authority {config : Config Op Ret Process System} (h : Runs c id config) (hcost : c.honestReconciler)
    (hv : viewOf id config.shared.store = some v) :
    (∃ p task, .created p task ∈ config.shared.trace ∧
      v.record.task.totalSpend = task.totalSpend + ((charges config.shared.trace).map (·.2)).sum) ∧
    ((charges config.shared.trace).map (·.1)).Nodup ∧
    (∀ x ∈ charges config.shared.trace, ∃ p w r a, .committed p w r ∈ config.shared.trace ∧
      unresolvedActionAttempt w.events = .ok (some a) ∧ x.1 = a.actionId ∧ |x.2 - a.estimatedCost| ≤ costTolerance) ∧
    ∀ m ∈ v.record.task.specification.limits,
      v.record.task.totalSpend ≤ m + costTolerance ∨ charges config.shared.trace = [] := by
  have hok := h.reach.spending hv
  refine ⟨hok.total, hok.once, fun x hx => ?_, fun m hm => ?_⟩
  · obtain ⟨p, w, r, a, hmem, hu, hid, hle⟩ := h.reach.charge hx
    exact ⟨p, w, r, a, hmem, hu, hid, hle hcost⟩
  · by_cases hnone : charges config.shared.trace = []
    · exact .inr hnone
    · exact .inl (hok.bounded hcost hnone m hm)

theorem spending_authority_till :
    (∃ p task, .created p task ∈ Till.approvedConfig.shared.trace ∧
      Till.approvedView.record.task.totalSpend = task.totalSpend + ((charges Till.approvedConfig.shared.trace).map (·.2)).sum) ∧
    ((charges Till.approvedConfig.shared.trace).map (·.1)).Nodup ∧
    (∀ x ∈ charges Till.approvedConfig.shared.trace, ∃ p w r a, .committed p w r ∈ Till.approvedConfig.shared.trace ∧
      unresolvedActionAttempt w.events = .ok (some a) ∧ x.1 = a.actionId ∧ |x.2 - a.estimatedCost| ≤ costTolerance) ∧
    ∀ m ∈ Till.approvedView.record.task.specification.limits,
      Till.approvedView.record.task.totalSpend ≤ m + costTolerance ∨ charges Till.approvedConfig.shared.trace = [] :=
  spending_authority Till.approvedConfig_runs rfl Till.approvedView_eq

namespace Till

/-- A task that may spend no more than minus one. -/
def overdrawnTask : Task :=
  { task 10 [] with specification := { specification 10 [] with
      constraints := [{ type := .maximumSpend, parameters := [("amount", .int (-1))] }] } }

def overdrawnPlay : Option (Config Op Ret Process System × Till) :=
  playEngines world .all (.int 1) {} [.call 0 {} (.createTask overdrawnTask), .run 0 10]

theorem overdrawnPlay_isSome : overdrawnPlay.isSome = true := by decide +kernel

def overdrawnConfig : Config Op Ret Process System := (overdrawnPlay.get overdrawnPlay_isSome).1

end Till

/-- A limit below zero is exceeded before anything is spent. -/
theorem limit_below_zero_exceeded :
    ¬ ∀ (c : Conditions) (id : UUID) (config : Config Op Ret Process System) (v : TaskView), Runs c id config →
      c.honestReconciler → viewOf id config.shared.store = some v → ∀ m ∈ v.record.task.specification.limits,
        v.record.task.totalSpend ≤ m + costTolerance := by
  intro h
  have hview : (viewOf (.int 1) Till.overdrawnConfig.shared.store).map
      (fun v => (v.record.task.totalSpend, v.record.task.specification.limits)) = some (0, [5, -1]) := by decide +kernel
  obtain ⟨v, hv, heq⟩ := Option.map_eq_some_iff.1 hview
  obtain ⟨htotal, hlimits⟩ := Prod.mk.inj heq
  have hle := h Switches.all.conditions (.int 1) Till.overdrawnConfig v
    (playEngines_runs (Option.some_get Till.overdrawnPlay_isSome).symm) rfl hv (-1) (by rw [hlimits]; simp)
  rw [htotal] at hle
  norm_num [costTolerance] at hle

end SimPilot
