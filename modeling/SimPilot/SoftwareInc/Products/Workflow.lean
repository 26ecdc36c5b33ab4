import SimPilot.SoftwareInc.Operator
import SimPilot.SoftwareInc.Staffing
/-!
# The Atlas workflow and its approvals (software_inc/products)

A workflow holds what was approved and what the game showed last. Its fingerprint, and the id
derived from it, are the material they are taken of; what only a time of day tells is left out.

| here | there |
|---|---|
| `ProductApproval`, `ProductWorkflow` | models.py:136-195 |
| `currentCash`, `productWork`, `observedStage` | projection.py:54, :337, :350 |
| `createWorkflow`, …, `synchronizeWorkflow` | workflow.py:25-228 |
-/

namespace SimPilot.SoftwareInc.Products

open GameBridge

inductive ProductStage where
  | configuration | design | alpha | beta
  deriving DecidableEq, Repr

def ProductStage.value : ProductStage → String
  | configuration => "configuration"
  | design => "design"
  | alpha => "alpha"
  | beta => "beta"

inductive ProductWorkflowStatus where
  | waitingForApproval | active | held | betaReached | blocked | failed
  deriving DecidableEq, Repr

inductive ProductCommitment where
  | create | review | iterate | promote
  deriving DecidableEq, Repr

/-- What the fingerprint of a configuration is taken of (workflow.py:34-38). -/
structure Material where
  recommendation : String
  session : String
  save : String
  deriving DecidableEq, Repr

/-- The id `uuid5` derives from a fingerprint. -/
abbrev WorkflowId := Material

structure ProductApproval where
  approvalId : Nat
  workflowId : WorkflowId
  commitment : ProductCommitment
  actionSummary : String
  productName : String
  stageBefore : ProductStage
  expectedStageAfter : ProductStage
  configurationFingerprint : Material
  observedCash : ℚ
  projectedCashAfter : ℚ
  minimumCashReserve : ℚ
  oneTimeCost : ℚ
  approved : Option Bool
  deriving DecidableEq, Repr

structure ProductWorkflow where
  workflowId : WorkflowId
  gameSessionId : String
  saveIdentity : String
  productName : String
  productType : String
  category : String
  features : List String
  operatingSystems : List String
  teamName : String
  price : ℚ
  minimumCashReserve : ℚ
  initialCash : ℚ
  projectedCashAfter : ℚ
  stage : ProductStage
  status : ProductWorkflowStatus
  workItemId : Option String
  held : Bool
  iteration : Int
  progress : ℚ
  reviewAccuracy : Option ℚ
  reviewScore : Option ℚ
  pendingApproval : Option ProductApproval
  configurationFingerprint : Material
  lastBridgeSequence : Int
  deriving DecidableEq, Repr

/-- What `create_workflow` reads of a `ProductRecommendation` (models.py:112). -/
structure ProductRecommendation where
  saveIdentity : String
  capabilityFingerprint : String
  name : String
  productType : String
  category : String
  features : List String
  operatingSystems : List String
  price : ℚ
  teamName : String
  observedCash : ℚ
  minimumCashReserve : ℚ
  projectedCashAfter : ℚ
  recommended : Bool
  reserve_nonneg : 0 ≤ minimumCashReserve
  price_nonneg : 0 ≤ price

/-! ## Projections -/

def surface (snapshot : GameSnapshot) (name : String) : Except UIError ObservationSurface :=
  match surfacesNamed snapshot name with
  | [s] => .ok s
  | _ => .error (.validation (name ++ " surface is unavailable or ambiguous"))

/-- `_decimal` -/
def decimal (values : Members) (key label : String) : Except UIError ℚ :=
  match numberAt values key with
  | some q => .ok q
  | none => .error (.validation (label ++ " is not observed numeric data"))

def currentCash (snapshot : GameSnapshot) : Except UIError ℚ := do
  match (← surface snapshot "finances").entities with
  | [e] => decimal e.values "cash" "finances.cash"
  | _ => .error (.validation "current company cash is ambiguous")

def productWork (snapshot : GameSnapshot) (name : String) : Except UIError (Option ObservedEntity) := do
  let works := (← surface snapshot "work_items").entities.filter fun e =>
    e.entityType = "work_item" ∧ flagAt e.values "is_contract" = some false ∧
      casefold (scalarAt e.values "name") = casefold name
  match works with
  | [] => return none
  | [work] => return some work
  | _ => .error (.validation ("product work " ++ strRepr name ++ " is ambiguous"))

def observedStage (work : ObservedEntity) : Except UIError ProductStage :=
  if flagAt work.values "in_beta" = some true then .ok .beta
  else
    let workType := casefold (scalarAt work.values "work_type")
    if inText "design" workType then .ok .design
    else if inText "alpha" workType || inText "development" workType || inText "software" workType then .ok .alpha
    else .error (.validation "product work stage is not recognized")

/-! ## Transitions -/

/-- The stage a commitment leads to when none is named (workflow.py:81-89). -/
def nextStage : ProductStage → ProductStage
  | .configuration => .design
  | .design => .alpha
  | .alpha | .beta => .beta

/-- The summaries of `approval_for`. -/
def summary (w : ProductWorkflow) (commitment : ProductCommitment) (target : ProductStage)
    (oneTimeCost currentCash projectedCash : ℚ) : String :=
  match commitment with
  | .create => "Create " ++ strRepr w.productName ++ " as " ++ w.productType ++ "/" ++ w.category ++ "; features " ++
      ", ".intercalate w.features ++ "; operating systems " ++ ", ".intercalate w.operatingSystems ++
      "; design and development team " ++ w.teamName ++ "; price $" ++ usd w.price ++
      "; projected conservative cash $" ++ usd w.projectedCashAfter ++ ", reserve $" ++ usd w.minimumCashReserve ++ "."
  | .review => "Start the exact visible review for " ++ strRepr w.productName ++ "; observed one-time cost $" ++
      usd oneTimeCost ++ "; current cash $" ++ usd currentCash ++ "; projected conservative cash $" ++
      usd projectedCash ++ "; reserve $" ++ usd w.minimumCashReserve ++ "."
  | .iterate => "Iterate " ++ strRepr w.productName ++
      " after the observed review; preserve the exact approved configuration; projected conservative cash $" ++
      usd projectedCash ++ " remains above the $" ++ usd w.minimumCashReserve ++ " reserve; leave the game paused."
  | .promote => "Promote " ++ strRepr w.productName ++ " from " ++ w.stage.value ++ " to " ++ target.value ++
      "; current cash $" ++ usd currentCash ++ "; projected conservative cash $" ++ usd projectedCash ++
      " remains above the $" ++ usd w.minimumCashReserve ++ " reserve."

/-- The keyword arguments of `approval_for`; `none` where one is left out. -/
structure ApprovalTerms where
  expectedStage : Option ProductStage := none
  oneTimeCost : ℚ := 0
  observedCash : Option ℚ := none
  projectedCashAfter : Option ℚ := none

/-- The fields of `ProductApproval` are checked where it is built. -/
def approvalFor (w : ProductWorkflow) (commitment : ProductCommitment) (terms : ApprovalTerms) (approvalId : Nat) :
    Except UIError ProductApproval :=
  let target := terms.expectedStage.getD (nextStage w.stage)
  let currentCash := terms.observedCash.getD w.initialCash
  let projectedCash := terms.projectedCashAfter.getD w.projectedCashAfter
  let actionSummary := summary w commitment target terms.oneTimeCost currentCash projectedCash
  if sized 1 2048 actionSummary ∧ 0 ≤ w.minimumCashReserve ∧ 0 ≤ terms.oneTimeCost then
    .ok
      { approvalId
        workflowId := w.workflowId
        commitment
        actionSummary
        productName := w.productName
        stageBefore := w.stage
        expectedStageAfter := target
        configurationFingerprint := w.configurationFingerprint
        observedCash := currentCash
        projectedCashAfter := projectedCash
        minimumCashReserve := w.minimumCashReserve
        oneTimeCost := terms.oneTimeCost
        approved := none }
  else .error .model

def createWorkflow (snapshot : GameSnapshot) (r : ProductRecommendation) (approvalId : Nat) :
    Except UIError ProductWorkflow :=
  if r.recommended = false then .error (.validation "a rejected Atlas recommendation cannot be committed")
  else do
    let material : Material := ⟨r.capabilityFingerprint, snapshot.gameSessionId, r.saveIdentity⟩
    let workflow : ProductWorkflow :=
      { workflowId := material
        gameSessionId := snapshot.gameSessionId
        saveIdentity := r.saveIdentity
        productName := r.name
        productType := r.productType
        category := r.category
        features := r.features
        operatingSystems := r.operatingSystems
        teamName := r.teamName
        price := r.price
        minimumCashReserve := r.minimumCashReserve
        initialCash := r.observedCash
        projectedCashAfter := r.projectedCashAfter
        stage := .configuration
        status := .waitingForApproval
        workItemId := none
        held := false
        iteration := 0
        progress := 0
        reviewAccuracy := none
        reviewScore := none
        pendingApproval := none
        configurationFingerprint := material
        lastBridgeSequence := snapshot.bridgeSequence }
    let approval ← approvalFor workflow .create {} approvalId
    return { workflow with pendingApproval := some approval }

def resolveApproval (w : ProductWorkflow) (approved : Bool) : Except UIError ProductWorkflow :=
  match w.pendingApproval with
  | some pending =>
    if pending.approved.isSome then .error (.validation "Atlas workflow has no pending approval")
    else .ok
      { w with
        pendingApproval := some { pending with approved := some approved }
        status := if approved then .active else .blocked }
  | none => .error (.validation "Atlas workflow has no pending approval")

/-- The fields `synchronize_workflow` takes from the work item. -/
def observeWork (w : ProductWorkflow) (snapshot : GameSnapshot) (work : ObservedEntity) :
    Except UIError ProductWorkflow := do
  let stage ← observedStage work
  match flagAt work.values "paused", numberAt work.values "progress",
      ((work.values.get "iteration").getD (.integer w.iteration)).integer? with
  | none, _, _ => .error (.validation "Atlas project pause state is not observed")
  | _, none, _ => .error (.validation "Atlas project progress is not observed")
  | _, _, none => .error (.validation "Atlas project iteration is not observed")
  | some held, some progress, some iteration =>
    return { w with
      stage
      status := if stage = .beta then .betaReached else if held then .held else .active
      workItemId := some work.entityId
      held
      iteration
      progress
      reviewAccuracy := numberAt work.values "review_accuracy"
      reviewScore := numberAt work.values "review_score"
      lastBridgeSequence := snapshot.bridgeSequence }

def synchronizeWorkflow (w : ProductWorkflow) (snapshot : GameSnapshot) : Except UIError ProductWorkflow :=
  if w.gameSessionId ≠ snapshot.gameSessionId ∨ w.saveIdentity ≠ saveIdentityText snapshot.saveIdentity then
    .error (.validation "Atlas workflow save or session identity is stale")
  else if snapshot.bridgeSequence ≤ w.lastBridgeSequence then
    .error (.validation "Atlas workflow requires a fresh bridge sequence")
  else do
    match ← productWork snapshot w.productName with
    | none => return { w with lastBridgeSequence := snapshot.bridgeSequence }
    | some work => observeWork w snapshot work

/-! ## The cash terms of a workflow -/

/-- What the reserve accounting reads of a workflow. -/
structure CashTerms where
  initialCash : ℚ
  projectedCashAfter : ℚ
  minimumCashReserve : ℚ
  deriving DecidableEq, Repr

def ProductWorkflow.cashTerms (w : ProductWorkflow) : CashTerms :=
  ⟨w.initialCash, w.projectedCashAfter, w.minimumCashReserve⟩

theorem cashTerms_of_createWorkflow {snapshot : GameSnapshot} {r : ProductRecommendation} {n : Nat}
    {w : ProductWorkflow} (h : createWorkflow snapshot r n = .ok w) :
    w.cashTerms = ⟨r.observedCash, r.projectedCashAfter, r.minimumCashReserve⟩ := by
  unfold createWorkflow at h
  split at h
  · cases h
  · obtain ⟨approval, -, hw⟩ := Except.bind_eq_ok.mp h
    cases hw
    rfl

theorem cashTerms_of_resolveApproval {w w' : ProductWorkflow} {approved : Bool}
    (h : resolveApproval w approved = .ok w') : w'.cashTerms = w.cashTerms := by
  unfold resolveApproval at h
  split at h
  · split at h
    · cases h
    · cases h
      rfl
  · cases h

theorem frame_of_observeWork {w w' : ProductWorkflow} {snapshot : GameSnapshot} {work : ObservedEntity}
    (h : observeWork w snapshot work = .ok w') :
    w'.cashTerms = w.cashTerms ∧ w'.pendingApproval = w.pendingApproval := by
  obtain ⟨stage, -, h⟩ := Except.bind_eq_ok.mp h
  split at h
  · cases h
  · cases h
  · cases h
  · cases h
    exact ⟨rfl, rfl⟩

/-- Synchronizing reads the cash terms and the approval of nobody. -/
theorem frame_of_synchronizeWorkflow {w w' : ProductWorkflow} {snapshot : GameSnapshot}
    (h : synchronizeWorkflow w snapshot = .ok w') :
    w'.cashTerms = w.cashTerms ∧ w'.pendingApproval = w.pendingApproval := by
  unfold synchronizeWorkflow at h
  split at h
  · cases h
  · split at h
    · cases h
    · obtain ⟨work, -, h⟩ := Except.bind_eq_ok.mp h
      split at h
      · cases h
        exact ⟨rfl, rfl⟩
      · exact frame_of_observeWork h

end SimPilot.SoftwareInc.Products
