import SimPilot.SoftwareInc.Contracts.Operator
/-!
# Bounded progression of a contract (software_inc/contracts/operator.py)

`advance_contract` clears the screen, finishes a review, asks about a deadline that is near and
activates the work item; then it lets the game run for an interval and pauses it again. The
`raise` of a failing call ends it wherever it stands: there is no cleanup.

| here | there |
|---|---|
| `synchronizeWorkflow` | workflow.py:153 |
| `advanceContract` | operator.py:569 |
| `preflight`, `finishReview`, `approveDeadline`, `activateWork` | its steps before the interval (operator.py:590-783) |
| `resumeWork`, `pauseWork`, `runBoundedContract` | the interval (operator.py:793-932) |
-/

namespace SimPilot.SoftwareInc.Contracts

open GameBridge Effect

/-! ## Transitions and projections -/

/-- The deadline a workflow has after its work was observed. -/
def observedDeadline (w : ContractWorkflow) (item : ContractWorkObservation) : String :=
  if item.contractStarted = some false then
    match w.pendingApproval with
    | some a => if a.commitment = .accept ∧ a.deadline ≠ "" then a.deadline else w.deadline
    | none => w.deadline
  else if item.deadline ≠ "" then item.deadline else w.deadline

def synchronizeWorkflow (w : ContractWorkflow) (snapshot : GameSnapshot) : Except UIError ContractWorkflow :=
  if w.gameSessionId ≠ snapshot.gameSessionId ∨ w.saveIdentity ≠ saveIdentityText snapshot.saveIdentity then
    .error (.validation "contract workflow save or session identity is stale")
  else if snapshot.bridgeSequence ≤ w.lastBridgeSequence then
    .error (.validation "contract workflow requires a fresh bridge sequence")
  else do
    match ← matchingWork snapshot w with
    | none => return { w with lastBridgeSequence := snapshot.bridgeSequence }
    | some item =>
      return { w with
        deadline := observedDeadline w item
        lastBridgeSequence := snapshot.bridgeSequence
        observedStage := item.stage
        status := if item.stage = .completed ∨ item.stage = .released ∨ item.done = true then .completed else w.status
        workItemId := some item.workItemId }

/-- `summaries[ContractCommitment.DEADLINE_RISK]` -/
def deadlineRiskSummary (w : ContractWorkflow) : String :=
  "Start or continue " ++ strRepr w.contractName ++ " with deadline " ++ w.deadline ++ "; reward $" ++ usd w.reward ++
    ", maximum observed penalty $" ++ usd w.maximumPenalty ++ "; no other commitment is authorized."

/-- `approval_for(workflow, ContractCommitment.DEADLINE_RISK)` -/
def deadlineRiskApproval (w : ContractWorkflow) (approvalId : Nat) : Except UIError ContractApproval :=
  checkedApproval
    { approvalId
      workflowId := w.workflowId
      commitment := .deadlineRisk
      actionSummary := deadlineRiskSummary w
      contractId := w.contractId
      teamName := w.teamName
      reward := w.reward
      maximumPenalty := w.maximumPenalty
      oneTimeCost := 0
      configuration := none
      deadline := w.deadline
      planFingerprint := w.planFingerprint
      approved := none }

/-- `_matching_review_work` -/
def matchingReviewWork (snapshot : GameSnapshot) (workItemId : String) : Except UIError (Option ObservedEntity) :=
  match surfacesNamed snapshot "work_items" with
  | [s] =>
    if s.coverage.status ≠ .observedComplete then .ok none
    else
      match s.entities.filter fun e => e.entityType = "work_item" ∧
          stringAt e.values "review_target_work_item_id" = some workItemId ∧ flagAt e.values "done" = some false with
      | [] => .ok none
      | [review] => .ok (some review)
      | _ => .error (.validation "linked contract review work is ambiguous")
  | _ => .ok none

/-- `_completed_review_work` -/
def completedReviewWork (snapshot : GameSnapshot) (workItemId : String) : Except UIError (Option ObservedEntity) := do
  match ← matchingReviewWork snapshot workItemId with
  | none => return none
  | some review =>
    return if (numberAt review.values "progress").any (1 ≤ ·) && (stringAt review.values "stage").any fun stage =>
        inText "reviews finished" (normalizeSpaces (casefold stage))
      then some review else none

/-! ## Steps before the interval -/

/-- `_append_event` -/
def appendCycleEvent (w : ContractWorkflow) (eventType : String) (bridgeSequence : Int)
    (stageBefore stageAfter : ContractStage) (action : Option String) (inputSent verified : Bool) (detail : String) :
    Op Unit := do
  let _ ← Operation.uuid4
  let sequence := (← Operation.events w.workflowId) + 1
  Operation.require (sized 1 2048 detail = true) .model
  Operation.appendEvent
    { workflowId := w.workflowId
      sequence, eventType, bridgeSequence, stageBefore, stageAfter, action, inputSent, verified, detail }

/-- The work that is still the same item. -/
def sameWork (item : ContractWorkObservation) (error : UIError) :
    Option ContractWorkObservation → Except UIError ContractWorkObservation
  | some found => if found.workItemId ≠ item.workItemId then .error error else .ok found
  | none => .error error

/-- The input that leaves a reversible scene. -/
def clearance : Scene → Option (String × String)
  | .contractBrowser => some ("close_contract_browser", "close the Contracts window before bounded progression")
  | .furniturePlacement => some ("open_build_mode", "cancel the furniture preview before bounded progression")
  | .buildMode => some ("open_build_mode", "close Build mode before bounded progression")
  | _ => none

/-- Where the progression stands: the workflow, the last observation, the work on it and the gestures sent. -/
structure Standing where
  workflow : ContractWorkflow
  before : Observation
  item : ContractWorkObservation
  gestures : Nat

/-- At most so many reversible inputs (operator.py:596-644). -/
def preflight (dryRun : Bool) : Nat → Standing → Op (ContractOperationResult ⊕ Standing)
  | steps, p =>
    match clearance p.before.scene, steps with
    | none, _ => return .inr p
    | some _, 0 =>
      Py.raise (.verification "bounded contract preflight exceeded three reversible UI gestures")
    | some (targetId, effect), steps + 1 => do
      if dryRun then return .inl ⟨p.workflow, 0, false, true, "Dry run: would " ++ effect ++ "."⟩ else
      let closed ← click contracts p.before (← target contracts p.before targetId) effect
      Operation.require (closed.scene = .gameplayPaused ∨ closed.scene = .buildMode)
        (.verification "reversible preflight did not reach paused gameplay or the next expected Build-mode step")
      let current ← Py.lift (synchronizeWorkflow p.workflow closed.semanticAfter)
      let found ← Py.lift (matchingWork closed.semanticAfter current)
      let item ← Py.lift (sameWork p.item
        (.verification "contract work changed while closing the Contracts window") found)
      preflight dryRun steps ⟨current, closed, item, p.gestures + 1⟩

/-- A review that shows (operator.py:674-691). -/
def reviewVerified (item : ContractWorkObservation) (found : Option ContractWorkObservation) : Bool :=
  found.any fun after =>
    (match item.reviewsDone, after.reviewsDone with
      | some done, some doneAfter => done < doneAfter
      | _, _ => false) ||
    after.reviewScore.isSome && after.reviewScore ≠ item.reviewScore

/-- `str` of an optional number. -/
def optionText {α : Type} (text : α → String) : Option α → String
  | none => "None"
  | some a => text a

/-- The completed review is finished (operator.py:649-722). -/
def finishReview (p : Standing) (review : ObservedEntity) (dryRun : Bool) : Op ContractOperationResult := do
  let t ← target contracts p.before ("work-item-" ++ review.entityId ++ "-finish-review")
  if dryRun then return ⟨p.workflow, p.gestures, false, true,
    "Dry run: would finish the exact completed review and observe its result; no input was sent."⟩ else
  let after ← click contracts p.before t ("finish the completed review of " ++ strRepr p.workflow.contractName)
  let updated ← Py.lift (synchronizeWorkflow p.workflow after.semanticAfter)
  let found ← Py.lift (matchingWork after.semanticAfter updated)
  let reviewAfter ← Py.lift (completedReviewWork after.semanticAfter p.item.workItemId)
  Operation.require (reviewAfter = none ∨ reviewVerified p.item found = true) (.verification
    "finishing the completed review produced no verified review outcome; the finish input will not be retried")
  Operation.save updated
  appendCycleEvent updated "review_finished" after.semanticAfter.bridgeSequence p.item.stage updated.observedStage
    (some ("finish completed review work item " ++ review.entityId)) true true
    ("linked_review_removed=" ++ (if reviewAfter = none then "True" else "False") ++ "; reviews_done=" ++
      optionText toString (found.bind (·.reviewsDone)) ++ "; review_score=" ++
      optionText floatRepr (found.bind (·.reviewScore)))
  return ⟨updated, p.gestures + 1, true, true,
    "Completed review was finished and its outcome was verified; no game time was advanced."⟩

/-- A deadline that is near, or unstarted, is asked about (operator.py:723-772). -/
def approveDeadline (p : Standing) (provided : Bool) : Op (ContractOperationResult ⊕ Standing) := do
  if ¬ (p.item.contractStarted = some false ∨ p.item.daysRemaining ≤ 5) then return .inr p else
  let pending ← Py.lift (deadlineRiskApproval p.workflow (← Operation.uuid4))
  let waiting := { p.workflow with pendingApproval := some pending, status := .waitingForApproval }
  Operation.save waiting
  if ¬ provided then return .inl ⟨waiting, 0, false, true,
    "Deadline risk requires separate approval; no time-control input was sent."⟩ else
  let approved ← Operation.approve pending
  let resolved ← Py.lift (resolveApproval waiting approved)
  Operation.save resolved
  if ¬ approved then return .inl ⟨resolved, 0, false, false,
    "Deadline-risk continuation was denied; no time-control input was sent."⟩ else
  let refreshed ← Operation.observe
  Py.lift (requireContinuity contracts p.before refreshed)
  Py.lift (requireActionable contracts refreshed)
  Operation.require (refreshed.paused = true)
    (.validation "game resumed while deadline-risk approval was pending; no input was sent")
  let current ← Py.lift (synchronizeWorkflow resolved refreshed.semanticAfter)
  let found ← Py.lift (matchingWork refreshed.semanticAfter current)
  let item ← Py.lift (sameWork p.item
    (.validation "contract work changed while deadline-risk approval was pending") found)
  return .inr ⟨current, refreshed, item, p.gestures⟩

/-- The accepted work item is activated (operator.py:778-828). -/
def activateWork (p : Standing) (dryRun : Bool) : Op (ContractOperationResult ⊕ Standing) := do
  if p.item.contractStarted ≠ some false ∨ p.item.paused = false then return .inr p else
  if dryRun then return .inl ⟨p.workflow, p.gestures, false, true,
    "Dry run: would activate the exact accepted work item and begin its approved deadline; no project or time-control " ++
      "input was sent."⟩ else
  let t ← target contracts p.before ("work-item-" ++ p.item.workItemId ++ "-toggle-pause")
  let activated ← click contracts p.before t "activate the accepted contract work item"
  let current ← Py.lift (synchronizeWorkflow p.workflow activated.semanticAfter)
  let found ← Py.lift (matchingWork activated.semanticAfter current)
  let item ← Py.lift (sameWork p.item
    (.verification "the accepted contract work identity changed during activation") found)
  Operation.require (item.paused = false) (.verification
    "the verified project-level activation input did not unpause the work item; it will not be retried")
  Operation.save current
  appendCycleEvent current "contract_work_enabled" activated.semanticAfter.bridgeSequence p.item.stage item.stage
    (some "activate the accepted contract work item") true true
    "project-level activation unpaused the exact work item; the deadline remains pending until the first observed       employee work"
  return .inr ⟨current, activated, item, p.gestures + 1⟩

/-! ## The interval -/

/-- Time is resumed where it stands still; the workflow, and the gestures sent. -/
def resumeWork (p : Standing) : Op (ContractWorkflow × Nat) := do
  if p.before.paused = false then return (p.workflow, p.gestures) else
  let current ← click contracts p.before (← target contracts p.before "resume_button") "resume bounded contract work"
  let resumed ← Py.lift (synchronizeWorkflow p.workflow current.semanticAfter)
  Operation.save resumed
  appendCycleEvent resumed "ui_gesture" current.semanticAfter.bridgeSequence p.item.stage resumed.observedStage
    (some "resume bounded contract work") true (!current.paused)
    "fresh synchronized running state followed the resume gesture"
  return (resumed, p.gestures + 1)

/-- What is observed after the wait, paused where it still ran. -/
def pauseWork (w : ContractWorkflow) (gestures : Nat) : Op (ContractWorkflow × Observation × Nat) := do
  let current ← Operation.observe
  if current.paused then return (w, current, gestures) else
  let found ← Py.lift (matchingWork current.semanticAfter w)
  let paused ← click contracts current (← target contracts current "pause_button") "pause after bounded contract work"
  let pausedWorkflow ← Py.lift (synchronizeWorkflow w paused.semanticAfter)
  Operation.save pausedWorkflow
  appendCycleEvent pausedWorkflow "ui_gesture" paused.semanticAfter.bridgeSequence
    ((found.map (·.stage)).getD w.observedStage) pausedWorkflow.observedStage
    (some "pause after bounded contract work") true paused.paused
    "fresh synchronized paused state followed the pause gesture"
  return (pausedWorkflow, paused, gestures + 1)

/-- The workflow after the last observation of the interval. -/
def settledWorkflow (w : ContractWorkflow) (snapshot : GameSnapshot) : Except UIError ContractWorkflow :=
  if w.lastBridgeSequence < snapshot.bridgeSequence then synchronizeWorkflow w snapshot else .ok w

/-- `item_before.progress -> item_after.progress` and its siblings. -/
def movement (before after : Option ℚ) : String := optionText floatRepr before ++ "->" ++ optionText floatRepr after

/-- From the resume gesture on (operator.py:837-932). -/
def runBoundedContract (p : Standing) (runSeconds : ℚ) : Op ContractOperationResult := do
  let (w, gestures) ← resumeWork p
  Operation.keepGameForeground
  Operation.sleep runSeconds
  let (w, current, gestures) ← pauseWork w gestures
  let updated ← Py.lift (settledWorkflow w current.semanticAfter)
  match ← Py.lift (matchingWork current.semanticAfter updated) with
  | none => Py.raise (.verification "contract work disappeared without a completion result")
  | some item =>
    Operation.require (p.item.contractStarted ≠ some false ∨ item.contractStarted = some true) (.verification
      "the bounded interval did not produce the first observed employee work, so the contract deadline is still         unstarted")
    let changed := decide (item.progress ≠ p.item.progress ∨ item.bugs ≠ p.item.bugs ∨
      item.fixedBugs ≠ p.item.fixedBugs ∨ item.stage ≠ p.item.stage)
    let progress := movement (some p.item.progress) (some item.progress)
    let bugs := movement p.item.bugs item.bugs
    let fixed := movement p.item.fixedBugs item.fixedBugs
    Operation.save updated
    appendCycleEvent updated "work_interval_verified" current.semanticAfter.bridgeSequence p.item.stage item.stage none
      false true ("progress " ++ progress ++ "; bugs " ++ bugs ++ "; fixed " ++ fixed)
    return ⟨updated, gestures, true, !changed, "Bounded work interval finished paused; progress " ++ progress ++
      ", bugs " ++ bugs ++ ", fixed " ++ fixed ++ "."⟩

def advanceContract (w : ContractWorkflow) (runSeconds : ℚ) (provided dryRun : Bool) : Op ContractOperationResult := do
  Operation.require (0 < runSeconds ∧ runSeconds ≤ 30)
    (.validation "contract run interval must be between 0 and 30 seconds")
  let before ← Operation.observe
  let current ← Py.lift (synchronizeWorkflow w before.semanticAfter)
  match ← Py.lift (matchingWork before.semanticAfter current) with
  | none => Py.raise (.validation "the active contract work item is not observed")
  | some item =>
    match ← preflight dryRun 3 ⟨current, before, item, 0⟩ with
    | .inl answered => return answered
    | .inr p =>
      Operation.require (p.before.scene = .gameplayPaused)
        (.validation "bounded contract progression requires paused gameplay after reversible preflight")
      match ← Py.lift (completedReviewWork p.before.semanticAfter p.item.workItemId) with
      | some review => finishReview p review dryRun
      | none =>
        match ← approveDeadline p provided with
        | .inl answered => return answered
        | .inr p =>
          match ← activateWork p dryRun with
          | .inl answered => return answered
          | .inr p =>
            if dryRun then return ⟨p.workflow, 0, false, true, "Dry run: would resume for at most " ++
              formatG runSeconds ++ " real seconds, then pause and re-observe."⟩ else
            runBoundedContract p runSeconds

end SimPilot.SoftwareInc.Contracts
