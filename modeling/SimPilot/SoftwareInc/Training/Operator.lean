import SimPilot.SoftwareInc.Training.Workflow
/-!
# The education operator (software_inc/training/operator.py)

`start_training` brings the visible windows, one gesture at a time, to where the course can
be committed, asks for the approval and commits. `advance_training` lets the game run for a
bounded interval.

| here | there |
|---|---|
| `startTraining`, `configure`, `nextInput` | `start_training` (operator.py:60) |
| `commitEducation` | its commitment (operator.py:187-299) |
| `advanceTraining` | operator.py:312 |
-/

namespace SimPilot.SoftwareInc.Training

open GameBridge Effect

structure TrainingCycleEvent where
  workflowId : WorkflowId
  sequence : Nat
  eventType : String
  bridgeSequence : Int
  action : String
  inputSent : Bool
  detail : String
  deriving DecidableEq, Repr

structure TrainingOperationResult where
  workflow : TrainingWorkflow
  gesturesSent : Nat
  verified : Bool
  isPartial : Bool
  message : String
  event : Option TrainingCycleEvent := none
  deriving DecidableEq, Repr

structure TrainingRecommendation where
  gameSessionId : String
  saveIdentity : String
  sourceBridgeSequence : Int
  recommended : Option TrainingCandidate
  expiresAt : Timestamp
  deriving DecidableEq, Repr

abbrev Op (α : Type) : Type := Operation WorkflowId TrainingWorkflow TrainingApproval TrainingCycleEvent Cleanup α

def education : Wording where
  subject := "education"
  fromScene := " from "
  noPoint := "current-frame target has no click point"
  stale := "education target is stale or ambiguous"
  discontinuity := "save, session, bridge, window, or sequence changed"
  settleSeconds := 1 / 10

/-- `_MAXIMUM_START_CYCLES` -/
def maximumStartCycles : Nat := 20

/-! ## The education window -/

/-- `_education_state` -/
def educationState (o : Observation) : Except UIError ObservedEntity :=
  let states := (surfacesNamed o.semanticAfter "education_ui").flatMap fun s =>
    s.entities.filter fun e => e.entityType = "education_ui_state" ∧ e.entityId = "current"
  match states with
  | [state] => .ok state
  | _ => .error (.validation "education UI state is unavailable or ambiguous")

/-- `_education_text(observation, field, empty=True)` -/
def educationText (o : Observation) (field : String) : Except UIError String := do
  match stringAt (← educationState o).values field with
  | some s => return s
  | none => .error (.validation ("education_ui." ++ field ++ " is not observed text"))

def educationDecimal (o : Observation) (field : String) : Except UIError ℚ := do
  match numberAt (← educationState o).values field with
  | some q => return q
  | none => .error (.validation ("education_ui." ++ field ++ " is not observed numeric"))

def educationInteger (o : Observation) (field : String) : Except UIError Int := do
  match integerAt (← educationState o).values field with
  | some i => return i
  | none => .error (.validation ("education_ui." ++ field ++ " is not an integer"))

/-! ## Checks -/

def requireRecommendationCurrent (r : TrainingRecommendation) (o : Observation) (now : Timestamp) : Except UIError Unit :=
  let snapshot := o.semanticAfter
  if r.expiresAt ≤ now then .error (.validation "education recommendation expired")
  else if r.gameSessionId ≠ snapshot.gameSessionId ∨ r.saveIdentity ≠ saveIdentityText snapshot.saveIdentity then
    .error (.validation "education recommendation save or session identity is stale")
  else if snapshot.bridgeSequence ≤ r.sourceBridgeSequence then
    .error (.validation "education start requires a fresh bridge sequence")
  else .ok ()

def requireWorkflowCurrent (w : TrainingWorkflow) (o : Observation) : Except UIError Unit :=
  let snapshot := o.semanticAfter
  if w.gameSessionId ≠ snapshot.gameSessionId ∨ w.saveIdentity ≠ saveIdentityText snapshot.saveIdentity then
    .error (.validation "education workflow save or session identity is stale")
  else if snapshot.bridgeSequence ≤ w.lastBridgeSequence then
    .error (.validation "education continuation requires a fresh bridge sequence")
  else .ok ()

/-- An employee at a level and a cost, and the cash that is left of it; an earlier difference
hides a later error (operator.py:92-96, :106-112). -/
def termsUnchanged (snapshot : GameSnapshot) (employee : EmployeeTrainingObservation) (level : Int) (cost spent reserve : ℚ) :
    Except UIError Bool := do
  if employee.level ≠ level ∨ employee.oneTimeCost ≠ cost then return false else
  return reserve ≤ (← currentCash snapshot) - spent

/-! ## Starting -/

/-- The choice whose menu was opened last. -/
inductive Selecting where
  | role | specialization
  deriving DecidableEq, Repr

/-- The next input of a configuration cycle: the target, its effect and what is being selected
then; `none` where the course is ready to be committed (operator.py:159-186). -/
def nextInput (o : Observation) (w : TrainingWorkflow) (selecting : Option Selecting) :
    Except UIError (Option (String × String × Option Selecting)) :=
  match o.scene with
  | .gameplayRunning => .ok (some ("pause_button", "pause before education configuration", selecting))
  | .gameplayPaused => .ok (some ("open_employees", "open visible employee management", selecting))
  | .employeeManagement => do
    if (← educationText o "selected_employees") ≠ w.employeeId then
      return some ("employee_row_" ++ w.employeeId, "select exact employee " ++ strRepr w.employeeName, selecting)
    else return some ("open_education", "open the visible Education window", selecting)
  | .education => do
    let selected ← educationText o "selected_employees"
    let selectedRole := casefold (← educationText o "selected_role")
    let selectedSpec := casefold (← educationText o "selected_specialization")
    if selected ≠ w.employeeId then
      return some ("education_employee_row_" ++ w.employeeId,
        "select exact education employee " ++ strRepr w.employeeName, selecting)
    else if selecting = some .role ∧ selectedRole ≠ "designer" then
      return some ("label:designer", "select exact Designer education role", none)
    else if selectedRole ≠ "designer" then
      return some ("education_role_combo", "open the education role choices", some .role)
    else if selecting = some .specialization ∧ selectedSpec ≠ "system" then
      return some ("label:system", "select exact System specialization", none)
    else if selectedSpec ≠ "system" then
      return some ("education_specialization_combo", "open the education specialization choices", some .specialization)
    else return none
  | scene => .error (.validation ("education cannot continue from scene " ++ scene.value ++
      "; close unrelated UI first"))

/-- The education window still shows what was approved (operator.py:226-246). -/
def commitmentUnchanged (refreshed : Observation) (w : TrainingWorkflow) (approval : TrainingApproval) :
    Except UIError Bool := do
  if refreshed.scene ≠ .education then return false else
  if (← educationText refreshed "selected_employees") ≠ w.employeeId then return false else
  if casefold (← educationText refreshed "selected_role") ≠ "designer" then return false else
  if casefold (← educationText refreshed "selected_specialization") ≠ "system" then return false else
  return (← educationDecimal refreshed "selected_cost") = approval.directCost

def appendEvent (w : TrainingWorkflow) (eventType : String) (bridgeSequence : Int) (action detail : String) :
    Op TrainingCycleEvent := do
  let _ ← Operation.uuid4
  let event : TrainingCycleEvent :=
    { workflowId := w.workflowId
      sequence := (← Operation.events w.workflowId) + 1
      eventType
      bridgeSequence
      action
      inputSent := true
      detail }
  Operation.appendEvent event
  return event

/-- The click that commits a course, and what has to follow it (operator.py:247-299). -/
def sendCommitment (w : TrainingWorkflow) (approval : TrainingApproval) (refreshed : Observation) (gestures : Nat) :
    Op TrainingOperationResult := do
  let beforeCash ← Py.lift (currentCash refreshed.semanticAfter)
  let after ← click education refreshed (← target education refreshed "commit_education") approval.actionSummary
  let trained ← Py.lift (exactEmployeeTraining after.semanticAfter w.employeeId)
  let afterCash ← Py.lift (currentCash after.semanticAfter)
  Operation.require (trained.courseActive = true ∧ |(beforeCash - afterCash) - approval.directCost| ≤ 1 / 50)
    (.verification "education commitment did not create the exact course and cash delta")
  let charged := { w with actualDirectCost := w.actualDirectCost + approval.directCost }
  let started ← Py.lift (synchronizeTraining charged after.semanticAfter (← Operation.uuid4))
  Operation.save started
  let _ ← appendEvent started "education_started" after.semanticAfter.bridgeSequence approval.actionSummary
    ("Designer:System active; cash $" ++ usd beforeCash ++ " -> $" ++ usd afterCash)
  return ⟨started, gestures + 1, true, false, "Started Designer/System course " ++ toString approval.stageNumber ++
    " of 3 for " ++ started.employeeName ++ "; exact $" ++ usd approval.directCost ++
    " cost and active one-month course verified.", none⟩

/-- The approval of a course: the end of the operation, or the workflow to commit with, unchanged
where an earlier call was granted it (operator.py:201-225). -/
def askApproval (w : TrainingWorkflow) (approval : TrainingApproval) (provided dryRun : Bool) (gestures : Nat) :
    Op (TrainingOperationResult ⊕ TrainingWorkflow) := do
  if dryRun then
    return .inl ⟨w, gestures, false, true, "Dry run: exact employee, Designer/System course " ++
      toString approval.stageNumber ++ " of 3, one month, and cost are visible; the next step is exact approval.",
      none⟩ else
  if approval.approved = some true then return .inr w else
  if ¬ provided then return .inl ⟨w, gestures, false, true, approval.actionSummary, none⟩ else
  let resolved ← Py.lift (resolveTrainingApproval w (← Operation.approve approval))
  Operation.save resolved
  if resolved.status = .blocked then
    return .inl ⟨resolved, gestures, false, false,
      "Education spending was denied; no education commitment input was sent.", none⟩ else
  return .inr resolved

/-- The education window is configured: ask for the approval and commit (operator.py:187-246). -/
def commitEducation (w : TrainingWorkflow) (o : Observation) (provided dryRun : Bool) (gestures : Nat) :
    Op TrainingOperationResult := do
  let observedCost ← Py.lift (educationDecimal o "selected_cost")
  let duration ← Py.lift (educationInteger o "duration_months")
  match w.pendingApproval with
  | none => Py.raise (.validation "education approval is unavailable")
  | some approval =>
    Operation.require (observedCost = approval.directCost ∧ duration = 1)
      (.validation "visible education cost or duration differs from the approved plan")
    match ← askApproval w approval provided dryRun gestures with
    | .inl answered => return answered
    | .inr resolved =>
      let refreshed ← Operation.observe
      Py.lift (requireContinuity education o refreshed)
      Py.lift (requireActionable education refreshed)
      let unchanged ← Py.lift (commitmentUnchanged refreshed resolved approval)
      Operation.require (unchanged = true)
        (.validation "education identity or exact commitment changed while approval was pending")
      sendCommitment resolved approval refreshed gestures

/-- At most so many cycles of the configuration. -/
def configure (w : TrainingWorkflow) (provided dryRun : Bool) :
    Nat → Observation → Nat → Option Selecting → Op TrainingOperationResult
  | 0, _, _, _ => Py.raise (.verification "education setup exceeded the bounded cycle limit")
  | cycles + 1, current, gestures, selecting => do
    Py.lift (requireActionable education current)
    match ← Py.lift (nextInput current w selecting) with
    | none => commitEducation w current provided dryRun gestures
    | some (targetId, effect, selecting) =>
      let t ← target education current targetId
      if dryRun then return ⟨w, gestures, false, true, "Dry run: would " ++ effect ++ ".", none⟩ else
      let current ← click education current t effect
      configure w provided dryRun cycles current (gestures + 1) selecting

/-- The workflow a continuation starts from, checked against what is observed (operator.py:82-101). -/
def continueWorkflow (w : TrainingWorkflow) (current : Observation) : Except UIError TrainingWorkflow := do
  requireWorkflowCurrent w current
  match w.status, w.pendingApproval with
  | .waitingForApproval, some approval =>
    let employee ← exactEmployeeTraining current.semanticAfter w.employeeId
    let unchanged ← termsUnchanged current.semanticAfter employee approval.levelBefore approval.directCost
      approval.directCost w.minimumCashReserve
    if unchanged then return w
    else .error (.validation "next education course employee, level, cost, or reserve changed")
  | _, _ => .error (.validation "education workflow is not waiting for the next course approval")

/-- The workflow of a recommendation: the open one of the save, or a new one (operator.py:103-133). -/
def openWorkflow (r : TrainingRecommendation) (candidate : TrainingCandidate) (current : Observation) :
    Op TrainingWorkflow := do
  Py.lift (requireRecommendationCurrent r current (← Operation.now))
  let employee ← Py.lift (exactEmployeeTraining current.semanticAfter candidate.employee.employeeId)
  let unchanged ← Py.lift (termsUnchanged current.semanticAfter employee candidate.employee.level
    candidate.currentCourseCost candidate.projectedDirectCost candidate.minimumCashReserve)
  Operation.require (unchanged = true) (.validation "education candidate, cost, or reserve changed")
  match ← Operation.current r.gameSessionId r.saveIdentity with
  | some existing =>
    Operation.require (existing.employeeId = candidate.employee.employeeId)
      (.validation "another education workflow already owns this save")
    let proposed ← Py.lift (createTrainingWorkflow current.semanticAfter candidate (← Operation.uuid4))
    Operation.require (existing.planFingerprint = proposed.planFingerprint)
      (.validation "another education workflow already owns this save")
    return existing
  | none =>
    let created ← Py.lift (createTrainingWorkflow current.semanticAfter candidate (← Operation.uuid4))
    Operation.save created
    return created

/-- What `start_training` is given: a workflow to continue, or a recommendation. -/
inductive StartRequest where
  | continuation (workflow : TrainingWorkflow)
  | recommendation (r : TrainingRecommendation) (candidate : TrainingCandidate) (h : r.recommended = some candidate)

def StartRequest.workflow (current : Observation) : StartRequest → Op TrainingWorkflow
  | continuation w => Py.lift (continueWorkflow w current)
  | recommendation r candidate _ => openWorkflow r candidate current

/-- A call without either is refused before anything is observed (operator.py:70). -/
def startTraining (request : StartRequest) (provided dryRun : Bool) : Op TrainingOperationResult := do
  let current ← Operation.observe
  Py.lift (requireActionable education current)
  let w ← request.workflow current
  let observed ← Py.lift (exactEmployeeTraining current.semanticAfter w.employeeId)
  if observed.courseActive then
    return ⟨w, 0, true, false, w.employeeName ++
      " is already in the approved Designer/System education; no input was sent.", none⟩ else
  configure w provided dryRun maximumStartCycles current 0 none

/-! ## Advancing -/

/-- `f"{seconds:.1f}"` -/
def oneDecimal (q : ℚ) : String :=
  let tenths := (roundEven (q * 10)).toNat
  toString (tenths / 10) ++ "." ++ toString (tenths % 10)

/-- From the resume gesture on (operator.py:386-461). -/
def runBoundedEducation (current : TrainingWorkflow) (before : Observation) (runSeconds : ℚ) (gestures : Nat) :
    Op TrainingOperationResult := do
  let running ← click education before (← target education before "resume_button") "resume bounded education time"
  Operation.require (running.paused = false) (.verification "education progression did not resume game time")
  let (paused, pauseGestures) ← boundedInterval education runSeconds "pause after bounded education time"
    "bounded education cleanup could not verify a paused game"
  let updated ← Py.lift (synchronizeTraining current paused.semanticAfter (← Operation.uuid4))
  Operation.save updated
  let complete := decide (updated.status = .completed)
  let waiting := decide (updated.status = .waitingForApproval)
  let levels := toString updated.initialLevel ++ " -> " ++ toString updated.currentLevel
  let event ← appendEvent updated
    (if complete then "education_completed" else if waiting then "education_course_completed" else "education_advanced")
    paused.semanticAfter.bridgeSequence "bounded time progression"
    ("System level " ++ levels ++ "; game paused=true")
  return ⟨updated, gestures + 1 + pauseGestures, true, !complete,
    if complete then "Education complete and paused; System specialization increased " ++ levels ++ "."
    else if waiting then "Course " ++ toString updated.completedCourses ++
      " of 3 completed and game is paused; System is level " ++ toString updated.currentLevel ++
      ". The next course requires fresh exact approval."
    else "Education remains active after " ++ oneDecimal runSeconds ++
      "s; game is paused and System remains level " ++ toString updated.currentLevel ++ ".", some event⟩

/-- Escape closes the window above a paused game; `none` for the end of a dry run. -/
def closeManagement (before : Observation) (dryRun : Bool) : Op (Option Observation × Nat) := do
  if before.scene = .gameplayPaused then return (some before, 0) else
  if ¬ before.paused then Py.raise (.validation "education progression must begin from paused gameplay") else
  if dryRun then return (none, 0) else
  return (some (← key education before 53 "escape_to_gameplay" "close reversible management UI"), 1)

def advanceTraining (w : TrainingWorkflow) (runSeconds : ℚ) (dryRun : Bool) : Op TrainingOperationResult := do
  Operation.require (0 < runSeconds ∧ runSeconds ≤ 30)
    (.validation "education run interval must be between 0 and 30 seconds")
  let before ← Operation.observe
  Py.lift (requireActionable education before)
  let current ← Py.lift (synchronizeTraining w before.semanticAfter (← Operation.uuid4))
  if current.status = .completed then
    Operation.save current
    return ⟨current, 0, true, false, "Education is complete; System specialization increased " ++
      toString current.initialLevel ++ " -> " ++ toString current.currentLevel ++ ". No input was sent.", none⟩
  else
  if current.status = .waitingForApproval then
    Operation.save current
    let approval ← Operation.assertSome current.pendingApproval
    return ⟨current, 0, true, true, "Course " ++ toString (approval.stageNumber - 1) ++
      " of 3 is complete; System is level " ++ toString current.currentLevel ++ ". Course " ++
      toString approval.stageNumber ++ " requires fresh exact approval; no input was sent.", none⟩
  else
  let employee ← Py.lift (exactEmployeeTraining before.semanticAfter current.employeeId)
  Operation.require (employee.courseActive = true)
    (.validation "the approved active education course is not observed")
  match ← closeManagement before dryRun with
  | (none, _) =>
    return ⟨current, 0, false, true, "Dry run: would close the active management window with Escape.", none⟩
  | (some before, gestures) =>
    Operation.require (before.scene = .gameplayPaused) (.verification "Escape did not return to paused gameplay")
    if dryRun then
      return ⟨current, gestures, false, true, "Dry run: would advance for " ++ oneDecimal runSeconds ++
        " seconds and guarantee pause.", none⟩ else
    runBoundedEducation current before runSeconds gestures

end SimPilot.SoftwareInc.Training
