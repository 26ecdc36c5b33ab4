import SimPilot.SoftwareInc.Products.Workflow
/-!
# The Atlas operator (software_inc/products/operator.py)

Every irreversible step is asked for with the terms that were observed, and checked again on
a fresh observation before its gesture is sent.

| here | there |
|---|---|
| `requireReserve`, `reviewCost` | `_require_reserve` (operator.py:1574), `_review_cost` (:1586) |
| `setProductHold`, `advanceProduct` | operator.py:899, :962 |
| `promoteProduct`, `reviewProduct`, `iterateProduct` | operator.py:1100, :1200, :1303 |
-/

namespace SimPilot.SoftwareInc.Products

open GameBridge Effect

structure ProductCycleEvent where
  workflowId : WorkflowId
  sequence : Nat
  eventType : String
  bridgeSequence : Int
  stageBefore : ProductStage
  stageAfter : ProductStage
  action : Option String
  inputSent : Bool
  detail : String
  deriving DecidableEq, Repr

structure ProductOperationResult where
  workflow : ProductWorkflow
  gesturesSent : Nat
  verified : Bool
  isPartial : Bool
  message : String
  event : Option ProductCycleEvent := none
  deriving DecidableEq, Repr

abbrev Op (α : Type) : Type := Operation WorkflowId ProductWorkflow ProductApproval ProductCycleEvent Cleanup α

def atlas : Wording where
  subject := "Atlas"
  fromScene := " from "
  noPoint := "current-frame product target has no point"
  stale := "product target is stale or ambiguous"
  discontinuity := "Atlas save, session, bridge, window, or sequence changed"
  settleSeconds := 1 / 4

/-! ## Reserve and review -/

/-- `max(Decimal("0"), workflow.initial_cash - workflow.projected_cash_after)` -/
def CashTerms.remainingBudget (t : CashTerms) : ℚ := max 0 (t.initialCash - t.projectedCashAfter)

def CashTerms.requireReserve (t : CashTerms) (snapshot : GameSnapshot) : Except UIError ℚ := do
  let cash ← currentCash snapshot
  let projected := cash - t.remainingBudget
  if projected < t.minimumCashReserve then
    .error (.validation ("Atlas transition rejected: conservative projected cash $" ++ usd projected ++
      " is below the $" ++ usd t.minimumCashReserve ++ " reserve"))
  else return projected

/-- `_require_reserve` -/
def requireReserve (w : ProductWorkflow) (snapshot : GameSnapshot) : Except UIError ℚ :=
  w.cashTerms.requireReserve snapshot

/-- `re.findall(r"\$\s*([0-9][0-9,]*(?:\.[0-9]{1,2})?)", text)`: the matches from here on, when
the first `n` characters belong to the one before. -/
def findDollars : Nat → List Char → List (List Char)
  | _, [] => []
  | n + 1, _ :: cs => findDollars n cs
  | 0, c :: cs =>
    let spaces := cs.takeWhile isSpace
    let amount := Staffing.amountAt (cs.drop spaces.length)
    if c = '$' ∧ (cs.drop spaces.length).head?.any isDigit then
      amount :: findDollars (spaces.length + amount.length) cs
    else findDollars 0 cs

def reviewCost (snapshot : GameSnapshot) : Except UIError ℚ :=
  let values := (surfacesNamed snapshot "contract_ui").flatMap fun s =>
    (s.entities.filter fun e => e.entityType = "contract_ui_state" ∧ e.entityId = "current").map fun e =>
      stringAt e.values "review_cost_text"
  match values with
  | [some text] =>
    match (findDollars 0 text.toList).getLast? with
    | some amount => .ok (Staffing.amountValue amount)
    | none =>
      if strip text ∈ ["", "$0", "$0.00"] then .ok 0
      else .error (.validation "visible Atlas review cost is not exact USD")
  | _ => .error (.validation "visible Atlas review cost is unavailable")

def linkedReview (snapshot : GameSnapshot) (workItemId : Option String) : Except UIError (Option ObservedEntity) :=
  let reviews := (surfacesNamed snapshot "work_items").flatMap fun s =>
    s.entities.filter fun e => e.entityType = "work_item" ∧
      scalarsEqual (e.values.get "review_target_work_item_id") (workItemId.map .string) = true
  match reviews with
  | [] => .ok none
  | [review] => .ok (some review)
  | _ => .error (.validation "linked Atlas review work is ambiguous")

def completedReview (snapshot : GameSnapshot) (workItemId : Option String) :
    Except UIError (Option ObservedEntity) := do
  match ← linkedReview snapshot workItemId with
  | none => return none
  | some review =>
    let stage := casefold (scalarAt review.values "stage")
    return if scalarsEqual (review.values.get "progress") (some (.integer 1)) || inText "reviews finished" stage
      then some review else none

/-! ## Steps the operators share -/

/-- `_optional_target` -/
def optionalTarget (o : Observation) (targetId : String) : Op (Option VisualTarget) :=
  match targetsNamed o targetId with
  | [] => pure none
  | [_] => some <$> target atlas o targetId
  | _ => Py.raise (.validation ("product target " ++ strRepr targetId ++ " is ambiguous"))

/-- `f"work-item-{target_id.removeprefix("work-item-").split("-", 1)[0]}-open"` -/
def cardId (targetId : String) : String :=
  let rest := if "work-item-".toList <+: targetId.toList then targetId.toList.drop 10 else targetId.toList
  "work-item-" ++ String.ofList (rest.takeWhile (· ≠ '-')) ++ "-open"

/-- `_ensure_target` -/
def ensureTarget (current : Observation) (targetId : String) (dryRun : Bool) : Op (Observation × Nat) := do
  if (← optionalTarget current targetId).isSome then return (current, 0) else
  let card ← target atlas current (cardId targetId)
  if dryRun then return (current, 0) else
  let opened ← click atlas current card "open exact Atlas work-item controls"
  if (← optionalTarget opened targetId).isSome then return (opened, 1) else
  Py.raise (.verification ("opening Atlas controls did not expose " ++ strRepr targetId))

def appendEvent (w : ProductWorkflow) (eventType : String) (stageBefore : ProductStage) (action : String)
    (detail : String) : Op ProductCycleEvent := do
  let _ ← Operation.uuid4
  let event : ProductCycleEvent :=
    { workflowId := w.workflowId
      sequence := (← Operation.events w.workflowId) + 1
      eventType
      bridgeSequence := w.lastBridgeSequence
      stageBefore
      stageAfter := w.stage
      action := some action
      inputSent := true
      detail }
  Operation.appendEvent event
  return event

/-- From the dry run to the provider's answer (operator.py:1130-1145, :1249-1258, :1333-1341). -/
def askApproval (current : ProductWorkflow) (pending : ProductApproval) (dryRun provided : Bool) (gestures : Nat)
    (denied : String) : Op (ProductOperationResult ⊕ ProductWorkflow) := do
  let current := { current with pendingApproval := some pending, status := .waitingForApproval }
  if dryRun then return .inl ⟨current, gestures, false, true, pending.actionSummary, none⟩ else
  Operation.save current
  if ¬ provided then return .inl ⟨current, gestures, false, true, pending.actionSummary, none⟩ else
  let resolved ← Py.lift (resolveApproval current (← Operation.approve pending))
  Operation.save resolved
  if resolved.status = .blocked then return .inl ⟨resolved, gestures, false, false, denied, none⟩ else
  return .inr resolved

/-- What a verified step leaves of the projection it was approved with. -/
def ProductWorkflow.charge (w : ProductWorkflow) (projected : ℚ) : ProductWorkflow :=
  { w with projectedCashAfter := projected }

/-! ## Operations -/

/-- The comparison after a promotion was approved: an earlier difference hides a later error. -/
def promotionUnchanged (synchronized : ProductWorkflow) (pending : ProductApproval) (snapshot : GameSnapshot) :
    Except UIError Bool := do
  if synchronized.stage ≠ pending.stageBefore then return false else
  if (← currentCash snapshot) ≠ pending.observedCash then return false else
  return (← requireReserve synchronized snapshot) = pending.projectedCashAfter

/-- The targets a promotion may be sent to: of the review result, or of the work item, whose
controls are opened where it is not shown (operator.py:1163-1172). -/
def promotionTarget (refreshed : Observation) (targetId : String) : Op (Observation × VisualTarget × Nat) := do
  match ← optionalTarget refreshed "review_result_promote" with
  | some t => return (refreshed, t, 0)
  | none =>
    match ← optionalTarget refreshed targetId with
    | some t => return (refreshed, t, 0)
    | none =>
      let (opened, gestures) ← ensureTarget refreshed targetId false
      return (opened, ← target atlas opened targetId, gestures)

/-- The click that promotes, and the answer to the dialog it may bring up. -/
def sendPromotion (refreshed : Observation) (t : VisualTarget) (effect : String) : Op (Observation × Nat) := do
  let after ← click atlas refreshed t effect
  if after.modalState ≠ .blocking then return (after, 1) else
  return (← click atlas after (← target atlas after "confirm_dialog_yes") effect, 2)

def promoteProduct (w : ProductWorkflow) (provided dryRun : Bool) : Op ProductOperationResult := do
  let before ← Operation.observe
  Py.lift (requireActionable atlas before)
  Operation.require (before.paused = true) (.validation "pause before an irreversible Atlas stage transition")
  let current ← Py.lift (synchronizeWorkflow w before.semanticAfter)
  if current.stage = .beta then
    return ⟨current, 0, true, false, "Atlas is already in beta; release is outside Prompt 7.", none⟩ else
  let projected ← Py.lift (requireReserve current before.semanticAfter)
  let expected : ProductStage := if current.stage = .design then .alpha else .beta
  let cash ← Py.lift (currentCash before.semanticAfter)
  let pending ← Py.lift (approvalFor current .promote
    { expectedStage := some expected, observedCash := some cash, projectedCashAfter := some projected }
    (← Operation.uuid4))
  match ← askApproval current pending dryRun provided 0 "Atlas promotion was denied; no input sent." with
  | .inl answered => return answered
  | .inr current =>
    let refreshed ← Operation.observe
    Py.lift (requireContinuity atlas before refreshed)
    Py.lift (requireActionable atlas refreshed)
    let synchronized ← Py.lift (synchronizeWorkflow current refreshed.semanticAfter)
    let unchanged ← Py.lift (promotionUnchanged synchronized pending refreshed.semanticAfter)
    Operation.require (unchanged = true)
      (.validation "Atlas stage or reserve changed during promotion approval")
    let workItemId ← Operation.assertSome synchronized.workItemId
    let (refreshed, t, opened) ← promotionTarget refreshed ("work-item-" ++ workItemId ++ "-promote")
    let (after, sent) ← sendPromotion refreshed t pending.actionSummary
    let updated ← Py.lift (synchronizeWorkflow synchronized after.semanticAfter)
    Operation.require (updated.stage = expected)
      (.verification ("Atlas promotion did not reach " ++ expected.value ++ "; no retry attempted"))
    let updated := updated.charge projected
    Operation.save updated
    let event ← appendEvent updated "product_promoted" synchronized.stage pending.actionSummary
      ("stage=" ++ updated.stage.value ++ "; projected_cash_after=$" ++ usd projected ++ "; game_paused=true")
    return ⟨updated, opened + sent, true, false, "Atlas promoted to " ++ updated.stage.value ++
      " and verified paused.", some event⟩

/-- The visible review setup, opened where it is not shown; `none` for the end of a dry run. -/
def openReviewSetup (before : Observation) (targetId : String) (dryRun : Bool) :
    Op (Option Observation × Nat) := do
  if before.scene = .contractReviewSetup then return (some before, 0) else
  let (before, opened) ← ensureTarget before targetId dryRun
  if dryRun then return (none, opened) else
  let setup ← click atlas before (← target atlas before targetId) "open exact Atlas review setup"
  return (some setup, opened + 1)

def reviewUnchanged (current : ProductWorkflow) (cost : ℚ) (pending : ProductApproval) (refreshed : Observation) :
    Except UIError Bool := do
  if refreshed.scene ≠ .contractReviewSetup then return false else
  if (← reviewCost refreshed.semanticAfter) ≠ cost then return false else
  if (← currentCash refreshed.semanticAfter) ≠ pending.observedCash then return false else
  return (← requireReserve current refreshed.semanticAfter) - cost = pending.projectedCashAfter

def reviewProduct (w : ProductWorkflow) (provided dryRun : Bool) : Op ProductOperationResult := do
  let before ← Operation.observe
  Py.lift (requireActionable atlas before)
  Operation.require (before.paused = true) (.validation "pause before configuring an Atlas review")
  let current ← Py.lift (synchronizeWorkflow w before.semanticAfter)
  let workItemId ← Operation.assertSome current.workItemId
  match ← openReviewSetup before ("work-item-" ++ workItemId ++ "-review") dryRun with
  | (none, gestures) =>
    return ⟨current, gestures, false, true, "Dry run: would open exact Atlas review setup.", none⟩
  | (some before, gestures) =>
    Operation.require (before.scene = .contractReviewSetup) (.verification "Atlas review setup did not open")
    let cost ← Py.lift (reviewCost before.semanticAfter)
    let cash ← Py.lift (currentCash before.semanticAfter)
    let reserve ← Py.lift (requireReserve current before.semanticAfter)
    let projected := reserve - cost
    Operation.require (current.minimumCashReserve ≤ projected)
      (.validation "Atlas review would violate the minimum cash reserve")
    let pending ← Py.lift (approvalFor current .review
      { expectedStage := some current.stage, oneTimeCost := cost, observedCash := some cash
        projectedCashAfter := some projected } (← Operation.uuid4))
    match ← askApproval current pending dryRun provided gestures
        "Atlas review was denied; no review input sent." with
    | .inl answered => return answered
    | .inr current =>
      let refreshed ← Operation.observe
      Py.lift (requireContinuity atlas before refreshed)
      let unchanged ← Py.lift (reviewUnchanged current cost pending refreshed)
      Operation.require (unchanged = true) (.validation "Atlas review configuration changed during approval")
      let after ← click atlas refreshed (← target atlas refreshed "commit_contract_review") pending.actionSummary
      let linked ← Py.lift (linkedReview after.semanticAfter current.workItemId)
      Operation.require (linked.isSome = true)
        (.verification "Atlas review commitment produced no linked review work")
      let reviewCashAfter ← Py.lift (currentCash after.semanticAfter)
      Operation.require (reviewCashAfter = cash - cost)
        (.verification "Atlas review cash outcome did not equal the exact approved cost")
      let updated ← Py.lift (synchronizeWorkflow current after.semanticAfter)
      let updated := updated.charge projected
      Operation.save updated
      let event ← appendEvent updated "product_review_started" current.stage pending.actionSummary
        ("review_cost=$" ++ usd cost ++ "; cash $" ++ usd cash ++ " -> $" ++ usd reviewCashAfter)
      return ⟨updated, gestures + 1, true, true, "Atlas review started and verified.", some event⟩

def iterationUnchanged (current : ProductWorkflow) (pending : ProductApproval) (refreshed : Observation) :
    Except UIError Bool := do
  if refreshed.scene ≠ .contractReviewResult then return false else
  if (← currentCash refreshed.semanticAfter) ≠ pending.observedCash then return false else
  return (← requireReserve current refreshed.semanticAfter) = pending.projectedCashAfter

def iterateProduct (w : ProductWorkflow) (provided dryRun : Bool) : Op ProductOperationResult := do
  let before ← Operation.observe
  Py.lift (requireActionable atlas before)
  Operation.require (before.paused = true ∧ before.scene = .contractReviewResult)
    (.validation "iterate requires the exact paused Atlas review result")
  let current ← Py.lift (synchronizeWorkflow w before.semanticAfter)
  let projected ← Py.lift (requireReserve current before.semanticAfter)
  let cash ← Py.lift (currentCash before.semanticAfter)
  let pending ← Py.lift (approvalFor current .iterate
    { expectedStage := some current.stage, observedCash := some cash, projectedCashAfter := some projected }
    (← Operation.uuid4))
  match ← askApproval current pending dryRun provided 0 "Atlas iteration was denied; no input sent." with
  | .inl answered => return answered
  | .inr current =>
    let refreshed ← Operation.observe
    Py.lift (requireContinuity atlas before refreshed)
    let unchanged ← Py.lift (iterationUnchanged current pending refreshed)
    Operation.require (unchanged = true) (.validation "Atlas review result changed during approval")
    let after ← click atlas refreshed (← target atlas refreshed "review_result_iterate") pending.actionSummary
    let updated ← Py.lift (synchronizeWorkflow current after.semanticAfter)
    Operation.require (w.iteration < updated.iteration)
      (.verification "Atlas iteration did not increase the observed iteration")
    let updated := updated.charge projected
    Operation.save updated
    let event ← appendEvent updated "product_iterated" current.stage pending.actionSummary
      (s!"iteration {w.iteration}->{updated.iteration}")
    return ⟨updated, 1, true, false, s!"Atlas iteration {updated.iteration} started and verified.", some event⟩

def setProductHold (w : ProductWorkflow) (held dryRun : Bool) : Op ProductOperationResult := do
  let before ← Operation.observe
  Py.lift (requireActionable atlas before)
  Operation.require (before.paused = true) (.validation "pause game time before changing Atlas hold state")
  let current ← Py.lift (synchronizeWorkflow w before.semanticAfter)
  let verb := if held then "hold" else "resume"
  let done := if held then "held" else "resumed"
  if current.held = held then
    Operation.save current
    return ⟨current, 0, true, false, "Atlas is already " ++ done ++ "; no input was sent.", none⟩
  else
  let workItemId ← Operation.assertSome current.workItemId
  let targetId := "work-item-" ++ workItemId ++ "-toggle-pause"
  let (before, opened) ← ensureTarget before targetId dryRun
  if dryRun then return ⟨current, opened, false, true, "Dry run: would " ++ verb ++ " Atlas.", none⟩ else
  let after ← click atlas before (← target atlas before targetId) (verb ++ " Atlas work")
  let updated ← Py.lift (synchronizeWorkflow current after.semanticAfter)
  Operation.require (updated.held = held)
    (.verification "Atlas hold input did not produce the exact pause state")
  Operation.save updated
  let event ← appendEvent updated (if held then "product_held" else "product_resumed") current.stage
    (verb ++ " exact Atlas work item") ("project_paused=" ++ (if held then "True" else "False") ++ "; game_paused=true")
  return ⟨updated, opened + 1, true, false, "Atlas " ++ done ++ " and verified.", some event⟩

/-- Whether the work of the interval shows (operator.py:1071-1079). -/
def workChanged (before after : Option ObservedEntity) : Except UIError Bool := do
  match before, after with
  | some a, some b =>
    if ¬ scalarsEqual (a.values.get "progress") (b.values.get "progress") then return true else
    if (← observedStage a) ≠ (← observedStage b) then return true else
    return ¬ scalarsEqual (a.values.get "iteration") (b.values.get "iteration")
  | _, _ => return false

/-- From the resume gesture on (operator.py:1048-1099). -/
def runBoundedWork (current : ProductWorkflow) (before : Observation) (runSeconds : ℚ) (gestures : Nat) :
    Op ProductOperationResult := do
  let running ← click atlas before (← target atlas before "resume_button") "resume bounded Atlas work"
  Operation.require (running.paused = false) (.verification "bounded Atlas progression did not resume game time")
  let workBefore ← Py.lift (productWork running.semanticAfter current.productName)
  let (paused, pauseGestures) ← boundedInterval atlas runSeconds "pause after bounded Atlas work"
    "bounded Atlas cleanup could not verify pause"
  let updated ← Py.lift (synchronizeWorkflow current paused.semanticAfter)
  Operation.save updated
  let workAfter ← Py.lift (productWork paused.semanticAfter current.productName)
  let changed ← Py.lift (workChanged workBefore workAfter)
  let progress := floatRepr current.progress ++ "->" ++ floatRepr updated.progress
  let event ← appendEvent updated "product_advanced" current.stage "bounded Atlas time progression"
    ("progress " ++ progress ++ "; game_paused=true")
  return ⟨updated, gestures + 1 + pauseGestures, true, !changed, "Atlas advanced for " ++ formatG runSeconds ++
    "s and is paused; progress " ++ progress ++ ".", some event⟩

/-- The project work of a held workflow is resumed first; `none` for the end of a dry run. -/
def resumeHeldWork (current : ProductWorkflow) (before : Observation) (dryRun : Bool) (gestures : Nat) :
    Op (Option (ProductWorkflow × Observation) × Nat) := do
  if current.held = false then return (some (current, before), gestures) else
  let workItemId ← Operation.assertSome current.workItemId
  let targetId := "work-item-" ++ workItemId ++ "-toggle-pause"
  let (before, opened) ← ensureTarget before targetId dryRun
  if dryRun then return (none, gestures + opened) else
  let after ← click atlas before (← target atlas before targetId) "resume exact Atlas project work"
  let current ← Py.lift (synchronizeWorkflow current after.semanticAfter)
  Operation.require (current.held = false) (.verification "Atlas project did not resume")
  Operation.save current
  return (some (current, after), gestures + opened + 1)

/-- Escape closes what is open above the game; `none` for the end of a dry run. -/
def closeProductUI (before : Observation) (dryRun : Bool) (gestures : Nat) : Op (Option Observation × Nat) := do
  if before.scene = .gameplayPaused then return (some before, gestures) else
  if dryRun then return (none, gestures) else
  return (some (← key atlas before 53 "escape_to_gameplay" "close reversible product UI"), gestures + 1)

def advanceProduct (w : ProductWorkflow) (runSeconds : ℚ) (dryRun : Bool) : Op ProductOperationResult := do
  Operation.require (0 < runSeconds ∧ runSeconds ≤ 30)
    (.validation "product run interval must be between 0 and 30 seconds")
  let before ← Operation.observe
  Py.lift (requireActionable atlas before)
  Operation.require (before.paused = true) (.validation "Atlas progression must begin from paused game time")
  let current ← Py.lift (synchronizeWorkflow w before.semanticAfter)
  if current.stage = .beta then
    Operation.save current
    return ⟨current, 0, true, false, "Atlas has reached beta; no time was advanced.", none⟩
  else
  let _ ← Py.lift (requireReserve current before.semanticAfter)
  match ← Py.lift (completedReview before.semanticAfter current.workItemId) with
  | some review =>
    let targetId := "work-item-" ++ review.entityId ++ "-finish-review"
    let (before, opened) ← ensureTarget before targetId dryRun
    if dryRun then
      return ⟨current, opened, false, true, "Dry run: would finish the exact completed Atlas review.", none⟩ else
    let _ ← click atlas before (← target atlas before targetId) "finish exact completed Atlas review"
    return ⟨current, opened + 1, true, true,
      "Completed Atlas review opened; choose iterate or promote while paused.", none⟩
  | none =>
    match ← resumeHeldWork current before dryRun 0 with
    | (none, gestures) =>
      return ⟨current, gestures, false, true, "Dry run: would resume Atlas project work.", none⟩
    | (some (current, before), gestures) =>
      match ← closeProductUI before dryRun gestures with
      | (none, gestures) =>
        return ⟨current, gestures, false, true, "Dry run: would close reversible product UI.", none⟩
      | (some before, gestures) =>
        Operation.require (before.scene = .gameplayPaused)
          (.verification "product UI did not return to paused gameplay")
        if dryRun then
          return ⟨current, gestures, false, true, "Dry run: would run Atlas for " ++ formatG runSeconds ++
            "s and guarantee pause.", none⟩ else
        runBoundedWork current before runSeconds gestures

end SimPilot.SoftwareInc.Products
