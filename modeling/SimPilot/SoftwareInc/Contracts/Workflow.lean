import SimPilot.SoftwareInc.Operator
/-!
# Contracts and their workflow (software_inc/contracts)

The rows of the market and the work in progress as they are projected from a snapshot, and
the workflow of one contract. Its fingerprint, and the id derived from it, are the material
they are taken of; what only a time of day tells is left out.

| here | there |
|---|---|
| `ContractObservation`, …, `ContractWorkflow` | models.py:50-206 |
| `availableContracts`, `activeContractWork` | projection.py:13, :21 |
| `createWorkflow`, `approvalFor`, `resolveApproval` | workflow.py:24-151 |
-/

namespace SimPilot.SoftwareInc.Contracts

open GameBridge

inductive ContractStage where
  | available | design | development | alpha | beta | released | completed | failed | unknown
  deriving DecidableEq, Repr

inductive ContractCommitment where
  | accept | deadlineRisk | review | promote | release
  deriving DecidableEq, Repr

inductive ContractWorkflowStatus where
  | planned | waitingForApproval | active | blocked | completed | failed
  deriving DecidableEq, Repr

structure ContractObservation where
  contractId : String
  displayIndex : Int
  name : String
  client : String
  softwareType : String
  softwareCategory : String
  features : List String
  months : Int
  developmentTime : ℚ
  difficulty : ℚ
  artRatio : ℚ
  minimumProgress : ℚ
  qualityTarget : ℚ
  reward : ℚ
  penalty : ℚ
  perBugPenalty : ℚ
  deadline : String
  daysRemaining : ℚ
  gameStatus : String
  deriving DecidableEq, Repr

/-- The fields of `ContractObservation` (models.py:50). -/
def ContractObservation.valid (c : ContractObservation) : Bool :=
  sized 1 512 c.contractId && 0 ≤ c.displayIndex && sized 1 256 c.name && sized 1 256 c.client &&
    sized 1 256 c.softwareType && 0 ≤ c.months && 0 ≤ c.developmentTime && 0 ≤ c.difficulty && 0 ≤ c.artRatio &&
    0 ≤ c.minimumProgress && 0 ≤ c.qualityTarget && 0 ≤ c.reward && 0 ≤ c.penalty && 0 ≤ c.perBugPenalty

structure ContractWorkObservation where
  workItemId : String
  contractId : String
  contractName : String
  client : String
  deadline : String
  deadlineObserved : Option Bool
  daysRemaining : ℚ
  contractStarted : Option Bool
  reward : ℚ
  penalty : ℚ
  stage : ContractStage
  stageText : String
  progress : ℚ
  minimumProgress : ℚ
  assignedTeams : List String
  employeeCount : Int
  paused : Bool
  done : Bool
  bugs : Option ℚ
  fixedBugs : Option ℚ
  quality : Option ℚ
  reviewScore : Option ℚ
  reviewsDone : Option Int
  inBeta : Option Bool
  released : Option Bool
  deriving DecidableEq, Repr

/-- The fields of `ContractWorkObservation` and `validate_deadline_observation` (models.py:73). -/
def ContractWorkObservation.valid (w : ContractWorkObservation) : Bool :=
  w.workItemId != "" && w.contractId != "" && w.contractName != "" && 0 ≤ w.reward && 0 ≤ w.penalty &&
    0 ≤ w.progress && 0 ≤ w.minimumProgress && 0 ≤ w.employeeCount && w.bugs.all (0 ≤ ·) && w.fixedBugs.all (0 ≤ ·) &&
    w.quality.all (0 ≤ ·) && w.reviewScore.all (0 ≤ ·) && w.reviewsDone.all (0 ≤ ·) &&
    (w.deadlineObserved != some true || strip w.deadline != "") &&
    (w.deadlineObserved != some false || (strip w.deadline == "" && w.daysRemaining == 0))

/-- What a workflow is created from (models.py:122). -/
structure ContractCandidate where
  contract : ContractObservation
  teamName : String
  minimumReward : ℚ
  minimumCashReserve : ℚ
  eligible : Bool
  deriving DecidableEq, Repr

structure ContractRecommendation where
  gameSessionId : String
  saveIdentity : String
  sourceBridgeSequence : Int
  recommended : Option ContractCandidate
  expiresAt : Timestamp
  deriving DecidableEq, Repr

/-- What the fingerprint of a plan is taken of (workflow.py:34-41). -/
structure Material where
  contractId : String
  gameSessionId : String
  saveIdentity : String
  team : String
  minimumReward : ℚ
  minimumCashReserve : ℚ
  deriving DecidableEq, Repr

/-- The id `uuid5` derives from a fingerprint. -/
abbrev WorkflowId := Material

structure ContractApproval where
  approvalId : Nat
  workflowId : WorkflowId
  commitment : ContractCommitment
  actionSummary : String
  contractId : String
  teamName : String
  reward : ℚ
  maximumPenalty : ℚ
  oneTimeCost : ℚ
  configuration : Option String
  deadline : String
  planFingerprint : Material
  approved : Option Bool
  deriving DecidableEq, Repr

/-- The fields of `ContractApproval` and `validate_resolution` (models.py:156). -/
def ContractApproval.valid (a : ContractApproval) : Bool :=
  sized 1 1024 a.actionSummary && 0 ≤ a.reward && 0 ≤ a.maximumPenalty && 0 ≤ a.oneTimeCost &&
    a.configuration.all (sized 1 512) && ((a.commitment == .review) == a.configuration.isSome) &&
    (a.commitment == .review || a.oneTimeCost == 0)

structure ContractWorkflow where
  workflowId : WorkflowId
  gameSessionId : String
  saveIdentity : String
  contractId : String
  contractName : String
  client : String
  teamName : String
  minimumReward : ℚ
  minimumCashReserve : ℚ
  reward : ℚ
  maximumPenalty : ℚ
  deadline : String
  status : ContractWorkflowStatus
  observedStage : ContractStage
  workItemId : Option String
  pendingApproval : Option ContractApproval
  planFingerprint : Material
  lastBridgeSequence : Int
  deriving DecidableEq, Repr

/-! ## Projections -/

/-- `require_complete_surface` -/
def requireCompleteSurface (snapshot : GameSnapshot) (name : String) : Except UIError ObservationSurface :=
  let incomplete := fun detail => .error (.validation (name ++ " is not completely observed: " ++ detail))
  match surfacesNamed snapshot name with
  | [s] => if s.coverage.status ≠ .observedComplete then incomplete (s.coverage.detail.getD "None") else .ok s
  | _ => incomplete "surface missing or duplicated"

/-- `_text` -/
def text (e : ObservedEntity) (field : String) (empty : Bool) : Except UIError String :=
  match textOf e.values field empty with
  | some s => .ok s
  | none => .error (.validation (e.entityId ++ "." ++ field ++ " is not observed text"))

/-- What `Decimal` makes of a text. -/
inductive DecimalText where
  | invalid
  /-- An infinity or a NaN. -/
  | special
  | finite (q : ℚ)
  deriving DecidableEq, Repr

/-- The value of decimal digits. -/
def digitsValue (digits : List Char) : Nat := digits.foldl (fun n c => n * 10 + (c.toNat - '0'.toNat)) 0

/-- An exponent behind `e`, with its sign; an empty one is none. -/
def exponentOf (cs : List Char) : Option Int :=
  let (negative, digits) := match cs with
    | '-' :: rest => (true, rest)
    | '+' :: rest => (false, rest)
    | rest => (false, rest)
  if digits = [] ∨ ¬ digits.all Char.isDigit then none
  else some (if negative then -(digitsValue digits : Int) else digitsValue digits)

/-- `Decimal(value)` of a text: digits with at most one point, and an exponent. -/
def decimalOf (value : String) : DecimalText :=
  let cs := (strip value).toList.filter (· ≠ '_')
  let (negative, unsigned) := match cs with
    | '-' :: rest => (true, rest)
    | '+' :: rest => (false, rest)
    | rest => (false, rest)
  let word := casefold (String.ofList unsigned)
  if word ∈ ["inf", "infinity", "nan", "snan"] then .special
  else
    let mantissa := unsigned.takeWhile fun c => c ≠ 'e' ∧ c ≠ 'E'
    let exponent := match unsigned.drop mantissa.length with
      | [] => some 0
      | _ :: rest => exponentOf rest
    let whole := mantissa.takeWhile (· ≠ '.')
    let fraction := (mantissa.drop whole.length).drop 1
    match exponent with
    | some e =>
      if (whole ++ fraction) = [] ∨ ¬ (whole ++ fraction).all Char.isDigit then .invalid
      else
        let q : ℚ := (digitsValue (whole ++ fraction) : ℚ) * (10 : ℚ) ^ (e - fraction.length)
        .finite (if negative then -q else q)
    | none => .invalid

/-- `_decimal` of a value that is there. -/
def decimalValue (e : ObservedEntity) (field : String) (value : GameBridge.JsonValue) : Except UIError ℚ :=
  match value.number?, value.string? with
  | some q, _ => .ok q
  | none, some s => match decimalOf s with
    | .finite q => .ok q
    | .special => .error (.validation (e.entityId ++ "." ++ field ++ " is not finite"))
    | .invalid => .error (.validation (e.entityId ++ "." ++ field ++ " is invalid"))
  | none, none => .error (.validation (e.entityId ++ "." ++ field ++ " is not numeric"))

/-- `_decimal` -/
def decimal (e : ObservedEntity) (field : String) : Except UIError ℚ :=
  decimalValue e field ((e.values.get field).getD .null)

/-- `_decimal(entity, field, default=default)` -/
def decimalOr (e : ObservedEntity) (field : String) (default : ℚ) : Except UIError ℚ :=
  match (e.values.get field).getD .null with
  | .null => .ok default
  | value => decimalValue e field value

/-- `_integer` -/
def integer (e : ObservedEntity) (field : String) : Except UIError Int :=
  match integerAt e.values field with
  | some i => .ok i
  | none => .error (.validation (e.entityId ++ "." ++ field ++ " is not an integer"))

/-- `_boolean` -/
def boolean (e : ObservedEntity) (field : String) : Except UIError Bool :=
  match flagAt e.values field with
  | some b => .ok b
  | none => .error (.validation (e.entityId ++ "." ++ field ++ " is not boolean"))

/-- `_optional_decimal`, `_optional_integer` and `_optional_boolean`: a missing field is none. -/
def optional {α : Type} (read : ObservedEntity → String → Except UIError α) (e : ObservedEntity) (field : String) :
    Except UIError (Option α) :=
  match e.values.get field with
  | none => .ok none
  | some _ => (read e field).map some

/-- `_positive_game_state_integer` -/
def positiveGameStateInteger (snapshot : GameSnapshot) (field : String) : Except UIError Int :=
  match integerAt snapshot.gameState field with
  | some i => if 0 < i then .ok i else unobserved
  | none => unobserved
where
  unobserved : Except UIError Int :=
    .error (.validation (field ++ " is not observed as a positive integer from the current save"))

/-- `_stage` -/
def stageOf (e : ObservedEntity) : Except UIError ContractStage := do
  if flagAt e.values "released" = some true then return .released else
  if flagAt e.values "done" = some true then return .completed else
  if flagAt e.values "in_beta" = some true then return .beta else
  let workType := casefold (← text e "work_type" true)
  let stage := casefold (← text e "stage" true)
  if inText "design" workType || inText "design" stage then return .design else
  if inText "alpha" workType || inText "alpha" stage then return .alpha else
  if inText "develop" stage || inText "code" stage || inText "art" stage then return .development else
  return .unknown

/-- `_contract` -/
def contractOf (snapshot : GameSnapshot) (e : ObservedEntity) : Except UIError ContractObservation := do
  if e.entityType ≠ "available_contract" then
    .error (.validation "contract market contains an unexpected entity type")
  else
    let months ← integer e "months"
    let days := months * (← positiveGameStateInteger snapshot "days_per_month")
    let observed : ContractObservation :=
      { contractId := e.entityId
        displayIndex := ← integer e "display_index"
        name := ← text e "name" false
        client := ← text e "client" false
        softwareType := ← text e "software_type" false
        softwareCategory := ← text e "software_category" true
        features := splitParts '|' (← text e "features" true)
        months
        developmentTime := ← decimal e "dev_time"
        difficulty := ← decimal e "difficulty"
        artRatio := ← decimal e "art_ratio"
        minimumProgress := ← decimal e "minimum_progress"
        qualityTarget := ← decimal e "quality_target"
        reward := ← decimal e "reward"
        penalty := ← decimal e "penalty"
        perBugPenalty := ← decimal e "per_bug_penalty"
        deadline := toString months ++ " in-game " ++ (if months = 1 then "month" else "months") ++
          " after work starts (" ++ toString days ++ " in-game " ++ (if days = 1 then "day" else "days") ++ ")"
        daysRemaining := days
        gameStatus := ← text e "status" true }
    if observed.valid then return observed else .error .model

def availableContracts (snapshot : GameSnapshot) : Except UIError (List ContractObservation) := do
  let market ← requireCompleteSurface snapshot "contract_market"
  let contracts ← market.entities.mapM (contractOf snapshot)
  if (contracts.map (·.contractId)).Nodup then
    return contracts.insertionSort fun a b => a.displayIndex ≤ b.displayIndex
  else .error (.validation "available contract identities are not unique")

/-- The turn of `active_contract_work` over one entity: `none` where it is skipped. -/
def workOf (e : ObservedEntity) : Except UIError (Option ContractWorkObservation) := do
  if e.entityType ≠ "work_item" ∨ flagAt e.values "is_contract" ≠ some true then return none else
  let observed : ContractWorkObservation :=
    { workItemId := e.entityId
      contractId := ← text e "contract_identity" false
      contractName := ← text e "contract_name" false
      client := ← text e "contract_client" true
      deadline := ← text e "contract_deadline" true
      deadlineObserved := ← optional boolean e "contract_deadline_observed"
      daysRemaining := ← decimal e "contract_days_remaining"
      contractStarted := ← optional boolean e "contract_started"
      reward := ← decimal e "contract_reward"
      penalty := ← decimal e "contract_penalty"
      stage := ← stageOf e
      stageText := ← text e "stage" true
      progress := ← decimal e "progress"
      minimumProgress := ← decimalOr e "minimum_progress" 0
      assignedTeams := splitParts '|' (← text e "assigned_teams" true)
      employeeCount := ← integer e "employee_count"
      paused := ← boolean e "paused"
      done := ← boolean e "done"
      bugs := ← optional decimal e "bugs"
      fixedBugs := ← optional decimal e "fixed_bugs"
      quality := ← optional decimal e "quality"
      reviewScore := ← optional decimal e "review_score"
      reviewsDone := ← optional integer e "reviews_done"
      inBeta := ← optional boolean e "in_beta"
      released := ← optional boolean e "released" }
  if observed.valid then return some observed else .error .model

def activeContractWork (snapshot : GameSnapshot) : Except UIError (List ContractWorkObservation) := do
  let workItems ← requireCompleteSurface snapshot "work_items"
  let found ← workItems.entities.mapM workOf
  return (found.filterMap id).insertionSort fun a b => a.workItemId ≤ b.workItemId

/-! ## Transitions -/

/-- A `ContractApproval`, whose fields are checked where it is built. -/
def checkedApproval (a : ContractApproval) : Except UIError ContractApproval :=
  if a.valid then .ok a else .error .model

/-- `summaries[ContractCommitment.ACCEPT]` -/
def acceptSummary (w : ContractWorkflow) : String :=
  "Accept " ++ strRepr w.contractName ++ " from " ++ w.client ++ " for " ++ w.teamName ++ "; reward $" ++ usd w.reward ++
    ", maximum observed penalty $" ++ usd w.maximumPenalty ++ ", deadline " ++ w.deadline ++ "."

/-- `approval_for(workflow, ContractCommitment.ACCEPT)` -/
def acceptApproval (w : ContractWorkflow) (approvalId : Nat) : Except UIError ContractApproval :=
  checkedApproval
    { approvalId
      workflowId := w.workflowId
      commitment := .accept
      actionSummary := acceptSummary w
      contractId := w.contractId
      teamName := w.teamName
      reward := w.reward
      maximumPenalty := w.maximumPenalty
      oneTimeCost := 0
      configuration := none
      deadline := w.deadline
      planFingerprint := w.planFingerprint
      approved := none }

/-- The plan of a candidate in the game of a snapshot. -/
def materialOf (snapshot : GameSnapshot) (candidate : ContractCandidate) : Material where
  contractId := candidate.contract.contractId
  gameSessionId := snapshot.gameSessionId
  saveIdentity := saveIdentityText snapshot.saveIdentity
  team := candidate.teamName
  minimumReward := candidate.minimumReward
  minimumCashReserve := candidate.minimumCashReserve

def createWorkflow (snapshot : GameSnapshot) (candidate : ContractCandidate) (approvalId : Nat) :
    Except UIError ContractWorkflow :=
  if candidate.eligible = false then .error (.validation "an ineligible contract cannot create a workflow")
  else do
    let material := materialOf snapshot candidate
    let workflow : ContractWorkflow :=
      { workflowId := material
        gameSessionId := snapshot.gameSessionId
        saveIdentity := saveIdentityText snapshot.saveIdentity
        contractId := candidate.contract.contractId
        contractName := candidate.contract.name
        client := candidate.contract.client
        teamName := candidate.teamName
        minimumReward := candidate.minimumReward
        minimumCashReserve := candidate.minimumCashReserve
        reward := candidate.contract.reward
        maximumPenalty := candidate.contract.penalty
        deadline := candidate.contract.deadline
        status := .waitingForApproval
        observedStage := .available
        workItemId := none
        pendingApproval := none
        planFingerprint := material
        lastBridgeSequence := snapshot.bridgeSequence }
    return { workflow with pendingApproval := some (← acceptApproval workflow approvalId) }

def resolveApproval (w : ContractWorkflow) (approved : Bool) : Except UIError ContractWorkflow :=
  match w.pendingApproval with
  | some approval =>
    if approval.approved.isSome then .error (.validation "the workflow has no pending approval")
    else .ok
      { w with
        pendingApproval := some { approval with approved := some approved }
        status := if approved then .active else .blocked }
  | none => .error (.validation "the workflow has no pending approval")

end SimPilot.SoftwareInc.Contracts
