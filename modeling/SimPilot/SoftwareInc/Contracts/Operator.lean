import SimPilot.SoftwareInc.Contracts.Workflow
/-!
# The contract operator (software_inc/contracts/operator.py)

`accept_recommended_contract` brings the visible windows, one gesture at a time, to where the
contract can be committed, asks for the approval and commits.

| here | there |
|---|---|
| `acceptRecommendedContract`, `acceptCycles` | `accept_recommended_contract` (operator.py:108) |
| `nextInput` | its choice of an input (operator.py:165-215) |
| `prepareCommitment` | its approval and last observation (operator.py:216-269) |
| `clickVerified`, `noteGesture` | what follows an input (operator.py:275-327) |
-/

namespace SimPilot.SoftwareInc.Contracts

open GameBridge Effect

structure ContractCycleEvent where
  workflowId : WorkflowId
  sequence : Nat
  eventType : String
  bridgeSequence : Int
  stageBefore : ContractStage
  stageAfter : ContractStage
  action : Option String
  inputSent : Bool
  verified : Bool
  detail : String
  deriving DecidableEq, Repr

structure ContractOperationResult where
  workflow : ContractWorkflow
  gesturesSent : Nat
  verified : Bool
  isPartial : Bool
  message : String
  deriving DecidableEq, Repr

abbrev Op (α : Type) : Type := Operation WorkflowId ContractWorkflow ContractApproval ContractCycleEvent Unit α

def contracts : Wording where
  subject := "contracts"
  fromScene := " from scene "
  noPoint := "current-frame target has no click point"
  stale := "contract target is stale or ambiguous"
  discontinuity := "save, session, bridge, window, or sequence changed"
  settleSeconds := 1 / 10

/-- `_MAX_ACCEPT_CYCLES` -/
def maxAcceptCycles : Nat := 16

/-! ## Checks -/

/-- `_contract_ui_text` -/
def contractUiText (snapshot : GameSnapshot) (field : String) : Except UIError String :=
  match surfacesNamed snapshot "contract_ui" with
  | [s] =>
    if s.coverage.status ≠ .observedComplete then incomplete
    else match s.entities.filter (·.entityType = "contract_ui_state") with
      | [state] => match stringAt state.values field with
        | some value => .ok value
        | none => unavailable
      | _ => unavailable
  | _ => incomplete
where
  incomplete : Except UIError String := .error (.validation "contract UI state is incomplete")
  unavailable : Except UIError String :=
    .error (.validation ("contract UI field " ++ strRepr field ++ " is unavailable"))

/-- The parts of a text of the contract window. -/
def contractUiParts (snapshot : GameSnapshot) (field : String) (separator : Char) : Except UIError (List String) := do
  return splitParts separator (← contractUiText snapshot field)

/-- `set(values) == {value}` -/
def onlyElement (values : List String) (value : String) : Bool := values ≠ [] && values.all (· = value)

/-- `_ensure_recommendation_current` -/
def ensureRecommendationCurrent (r : ContractRecommendation) (snapshot : GameSnapshot) (now : Timestamp) :
    Except UIError Unit :=
  if r.expiresAt ≤ now ∨ r.gameSessionId ≠ snapshot.gameSessionId ∨
      r.saveIdentity ≠ saveIdentityText snapshot.saveIdentity ∨ snapshot.bridgeSequence < r.sourceBridgeSequence then
    .error (.validation "contract recommendation is expired or stale")
  else .ok ()

/-- `_require_same_acceptance_workflow` -/
def requireSameAcceptanceWorkflow (persisted proposed : ContractWorkflow) : Except UIError Unit :=
  if persisted.planFingerprint ≠ proposed.planFingerprint ∨ persisted.gameSessionId ≠ proposed.gameSessionId ∨
      persisted.saveIdentity ≠ proposed.saveIdentity ∨ persisted.contractId ≠ proposed.contractId ∨
      persisted.contractName ≠ proposed.contractName ∨ persisted.client ≠ proposed.client ∨
      persisted.teamName ≠ proposed.teamName ∨ persisted.minimumReward ≠ proposed.minimumReward ∨
      persisted.minimumCashReserve ≠ proposed.minimumCashReserve ∨ persisted.reward ≠ proposed.reward ∨
      persisted.maximumPenalty ≠ proposed.maximumPenalty ∨ persisted.deadline ≠ proposed.deadline then
    .error (.validation "persisted contract approval does not match the fresh exact recommendation")
  else if persisted.workItemId = none ∧ persisted.observedStage ≠ .available then
    .error (.validation "persisted contract workflow cannot safely resume acceptance")
  else .ok ()

/-- `_require_acceptance_commitment_current` -/
def requireAcceptanceCommitmentCurrent (w : ContractWorkflow) (o : Observation) : Except UIError Unit := do
  if o.paused = false ∨ o.scene ≠ .contractBrowser then
    .error (.validation "contract scene changed while approval was pending; no acceptance input was sent")
  else
    match (← availableContracts o.semanticAfter).filter (·.contractId = w.contractId) with
    | [contract] =>
      if contract.name ≠ w.contractName ∨ contract.client ≠ w.client ∨ contract.reward ≠ w.reward ∨
          contract.penalty ≠ w.maximumPenalty ∨ contract.deadline ≠ w.deadline then
        .error (.validation "contract economics or deadline changed while approval was pending")
      else
        let selected ← contractUiParts o.semanticAfter "selected_available_indices" ','
        let design ← contractUiParts o.semanticAfter "design_teams" '|'
        let development ← contractUiParts o.semanticAfter "development_teams" '|'
        let team := casefold w.teamName
        if onlyElement selected (toString contract.displayIndex) = false ∨
            onlyElement (design.map casefold) team = false ∨ onlyElement (development.map casefold) team = false then
          .error (.validation "contract or team selection changed while approval was pending")
        else .ok ()
    | _ => .error (.validation "approved contract disappeared or became ambiguous while approval was pending")

/-- `_matching_work` -/
def matchingWork (snapshot : GameSnapshot) (w : ContractWorkflow) : Except UIError (Option ContractWorkObservation) := do
  match (← activeContractWork snapshot).filter fun item =>
      item.contractId = w.contractId ∨ (item.contractName = w.contractName ∧ item.client = w.client) with
  | [] => return none
  | [item] => return some item
  | _ => .error (.validation "active contract work identity is ambiguous")

/-! ## Accepting -/

/-- The team window that was opened last. -/
inductive Configuring where
  | design | development
  deriving DecidableEq, Repr

/-- `f"{configuring or 'contract'}"` -/
def configuringText : Option Configuring → String
  | none => "contract"
  | some .design => "design"
  | some .development => "development"

/-- The input in the team picker. -/
def pickerInput (snapshot : GameSnapshot) (w : ContractWorkflow) (configuring : Option Configuring) :
    Except UIError (String × String) := do
  let selected ← contractUiParts snapshot "team_picker_selected" '|'
  let unwanted := (selected.filter fun team => casefold team ≠ casefold w.teamName).insertionSort fun a b => a ≤ b
  match unwanted with
  | team :: _ => return ("contract_team_" ++ team, "remove unapproved team " ++ team ++ " from the contract")
  | [] =>
    if casefold w.teamName ∉ selected.map casefold then
      return ("contract_team_" ++ w.teamName, "select only " ++ w.teamName ++ " in the contract team picker")
    else
      return ("apply_contract_teams", "apply " ++ w.teamName ++ " as the " ++ configuringText configuring ++ " team")

/-- The input in the contract browser; `none` where the contract is ready to be committed. -/
def browserInput (snapshot : GameSnapshot) (w : ContractWorkflow) (configuring : Option Configuring) :
    Except UIError (Option (String × String × Option Configuring)) := do
  match (← availableContracts snapshot).filter (·.contractId = w.contractId) with
  | [contract] =>
    let index := toString contract.displayIndex
    let selected ← contractUiParts snapshot "selected_available_indices" ','
    let design ← contractUiParts snapshot "design_teams" '|'
    let development ← contractUiParts snapshot "development_teams" '|'
    if onlyElement selected index = false then
      return some ("contract_row_" ++ index, "select only exact contract row " ++ index, configuring)
    else if onlyElement (design.map casefold) (casefold w.teamName) = false then
      return some ("pick_contract_design_team", "open design-team selection", some .design)
    else if onlyElement (development.map casefold) (casefold w.teamName) = false then
      return some ("pick_contract_development_team", "open development-team selection", some .development)
    else return none
  | _ => .error (.validation "the approved contract disappeared or became ambiguous before acceptance")

/-- The next input: the target, its effect and what is being configured then. -/
def nextInput (o : Observation) (w : ContractWorkflow) (configuring : Option Configuring) :
    Except UIError (Option (String × String × Option Configuring)) :=
  if o.paused = false then .ok (some ("pause_button", "pause before contract configuration", configuring))
  else match o.scene with
    | .gameplayPaused => .ok (some ("open_contracts", "open Contracts", configuring))
    | .contractTeamSelection => do
      let (targetId, effect) ← pickerInput o.semanticAfter w configuring
      return some (targetId, effect, configuring)
    | .contractBrowser => browserInput o.semanticAfter w configuring
    | scene => .error (.validation ("contract acceptance cannot continue from scene " ++ scene.value))

/-- An approval of an earlier call that still authorizes the acceptance. -/
def approvalReusable (w : ContractWorkflow) : Option ContractApproval :=
  w.pendingApproval.filter fun a =>
    a.commitment = .accept ∧ a.approved = some true ∧ a.planFingerprint = w.planFingerprint

/-- A new approval is asked for: the end of the operation, or the workflow to commit with. -/
def askAcceptance (w : ContractWorkflow) (provided dryRun : Bool) (gestures : Nat) :
    Op (ContractOperationResult ⊕ ContractWorkflow) := do
  let pending ← Py.lift (acceptApproval w (← Operation.uuid4))
  let waiting := { w with pendingApproval := some pending, status := .waitingForApproval }
  Operation.save waiting
  if dryRun then return .inl ⟨waiting, gestures, false, true, dryRunReady⟩ else
  if ¬ provided then return .inl ⟨waiting, gestures, false, true, pending.actionSummary⟩ else
  let resolved ← Py.lift (resolveApproval waiting (← Operation.approve pending))
  Operation.save resolved
  if resolved.status = .blocked then
    return .inl ⟨resolved, gestures, false, false, "Contract acceptance was denied; no acceptance input was sent."⟩ else
  return .inr resolved
where
  dryRunReady : String := "Dry run: team assignments are valid; the next irreversible step is the exact acceptance approval."

/-- The approval of the acceptance: the end of the operation, or the workflow to commit with. -/
def approveAcceptance (w : ContractWorkflow) (provided dryRun : Bool) (gestures : Nat) :
    Op (ContractOperationResult ⊕ ContractWorkflow) := do
  if (approvalReusable w).isSome then
    if dryRun then return .inl ⟨w, gestures, false, true, askAcceptance.dryRunReady⟩ else return .inr w
  else askAcceptance w provided dryRun gestures

/-- The acceptance is approved and the window still shows what was. -/
def prepareCommitment (w : ContractWorkflow) (o : Observation) (provided dryRun : Bool) (gestures : Nat) :
    Op (ContractOperationResult ⊕ (ContractWorkflow × Observation)) := do
  match ← approveAcceptance w provided dryRun gestures with
  | .inl answered => return .inl answered
  | .inr approved =>
    let refreshed ← Operation.observe
    Py.lift (requireContinuity contracts o refreshed)
    Py.lift (requireActionable contracts refreshed)
    Py.lift (requireAcceptanceCommitmentCurrent approved refreshed)
    return .inr (approved, refreshed)

/-- `effect.rsplit(" ", 1)[-1]` -/
def lastWord (effect : String) : String :=
  String.ofList (effect.toList.reverse.takeWhile (· ≠ ' ')).reverse

/-- What has to be seen after an input (operator.py:275-299). -/
def verifyEffect (w : ContractWorkflow) (effect : String) (after : GameSnapshot) : Except UIError Unit :=
  if "select only exact contract row ".toList <+: effect.toList then do
    if onlyElement (← contractUiParts after "selected_available_indices" ',') (lastWord effect) then return ()
    else .error (.verification
      "the exact contract-row input did not replace the observed selection; it will not be retried")
  else if "accept exact contract ".toList <+: effect.toList then do
    match ← matchingWork after w with
    | some _ => return ()
    | none => .error (.verification
      "the approved acceptance input did not create the exact contract work item; it will not be retried")
  else .ok ()

/-- One verified input, and its event (operator.py:271-327). -/
def clickVerified (w : ContractWorkflow) (before : Observation) (t : VisualTarget) (effect : String) (sequence : Nat) :
    Op (ContractWorkflow × Observation) := do
  let after ← click contracts before t effect
  Py.lift (verifyEffect w effect after.semanticAfter)
  let noted := { w with lastBridgeSequence := after.semanticAfter.bridgeSequence }
  Operation.save noted
  let _ ← Operation.uuid4
  Operation.appendEvent
    { workflowId := noted.workflowId
      sequence
      eventType := "ui_gesture"
      bridgeSequence := after.semanticAfter.bridgeSequence
      stageBefore := w.observedStage
      stageAfter := noted.observedStage
      action := some effect
      inputSent := true
      verified := true
      detail := "fresh synchronized observation completed after exactly one gesture; prior bridge sequence=" ++
        toString before.semanticAfter.bridgeSequence }
  return (noted, after)

/-- The contract is in work. -/
def acceptedWorkflow (w : ContractWorkflow) (snapshot : GameSnapshot) (item : ContractWorkObservation) :
    ContractWorkflow :=
  { w with
    lastBridgeSequence := snapshot.bridgeSequence, observedStage := item.stage, status := .active
    workItemId := some item.workItemId }

/-- At most so many cycles of the acceptance. -/
def acceptCycles (provided dryRun : Bool) :
    Nat → ContractWorkflow → Observation → Nat → Nat → Option Configuring → Op ContractOperationResult
  | 0, _, _, _, _, _ => Py.raise (.verification "contract acceptance exceeded the bounded cycle limit")
  | cycles + 1, w, current, gestures, sequence, configuring => do
    Py.lift (requireActionable contracts current)
    match ← Py.lift (matchingWork current.semanticAfter w) with
    | some item =>
      let updated := acceptedWorkflow w current.semanticAfter item
      Operation.save updated
      return ⟨updated, gestures, true, false, "Accepted " ++ strRepr updated.contractName ++
        "; exact active work item " ++ item.workItemId ++ " is assigned to " ++ updated.teamName ++ "."⟩
    | none =>
      match ← Py.lift (nextInput current w configuring) with
      | some (targetId, effect, configuring) =>
        let t ← target contracts current targetId
        if dryRun then return ⟨w, gestures, false, true, "Dry run: would " ++ effect ++ "."⟩ else
        let (w, current) ← clickVerified w current t effect sequence
        acceptCycles provided dryRun cycles w current (gestures + 1) (sequence + 1) configuring
      | none =>
        match ← prepareCommitment w current provided dryRun gestures with
        | .inl answered => return answered
        | .inr (approved, refreshed) =>
          let t ← target contracts refreshed "commit_contract"
          let (w, current) ← clickVerified approved refreshed t
            ("accept exact contract " ++ strRepr approved.contractName) sequence
          acceptCycles provided dryRun cycles w current (gestures + 1) (sequence + 1) configuring

/-- A recommendation with its candidate; one without is refused before anything is observed. -/
structure AcceptRequest where
  recommendation : ContractRecommendation
  candidate : ContractCandidate
  recommended : recommendation.recommended = some candidate

/-- The workflow a call accepts with: the persisted one, or the one proposed. -/
def acceptanceWorkflow (proposed : ContractWorkflow) : Op ContractWorkflow := do
  match ← Operation.get proposed.workflowId with
  | some persisted =>
    Py.lift (requireSameAcceptanceWorkflow persisted proposed)
    return persisted
  | none => return proposed

def acceptRecommendedContract (request : AcceptRequest) (provided dryRun : Bool) : Op ContractOperationResult := do
  let current ← Operation.observe
  Py.lift (ensureRecommendationCurrent request.recommendation current.semanticAfter (← Operation.now))
  let proposed ← Py.lift (createWorkflow current.semanticAfter request.candidate (← Operation.uuid4))
  let w ← acceptanceWorkflow proposed
  Operation.save w
  let events ← Operation.events w.workflowId
  acceptCycles provided dryRun maxAcceptCycles w current 0 (events + 1) none

end SimPilot.SoftwareInc.Contracts
