import SimPilot.ReferenceSimulation.Restore
import SimPilot.Runtime.Signature
/-!
# Reconciling an interrupted action (runtime/recovery.py, reconciliation/)

A process that dies around an execution leaves an attempt and the snapshot it was prepared on.
The reconciler of the reference adapter plays the action again on that snapshot and compares the
fresh state with the snapshot and with the replay; the one of OpenTTD compares the setting the
action asks for.

| here | there |
|---|---|
| `RecoveryReport` | `ReconciliationReport`, with what it hands on of its arguments |
| `reconcileReferenceAction` | reconciliation/reference.py |
| `reconcileOpenttdAction` | reconciliation/openttd.py |
| `ReconciliationDispatcher`, `defaultReconciliationDispatcher` | runtime/recovery.py, reconciliation/composition.py |

The replay is exact (`interrupted_action_reconciled`): a session restored from the snapshot answers
as the one that was saved.
-/

namespace SimPilot

structure RecoveryReport extends ReconciliationReport where
  attempt : ActionAttempt
  priorSnapshot : AdapterSnapshot
  currentSnapshot : Option AdapterSnapshot := none
  expectedSnapshot : Option AdapterSnapshot := none

/-- What both reconcilers say of an attempt that was only prepared. -/
def RecoveryReport.prepared (attempt : ActionAttempt) (prior : AdapterSnapshot) (current : Option AdapterSnapshot) :
    RecoveryReport where
  classification := .definitelyNotExecuted
  reason := "execution boundary was never entered"
  attempt := attempt
  priorSnapshot := prior
  currentSnapshot := current

/-! ## The reference adapter -/

/-- `left.get(key) == right.get(key)`. -/
def Dict.sameAt (left right : Dict) (key : String) : Bool :=
  JsonValue.pyEq ((left.get key).getD .null) ((right.get key).getD .null)

/-- The fields an action is recognised by. -/
def effectKeys : String → Option (List String)
  | "advance_time" => some ["tick", "cash", "population", "active_projects"]
  | "build_housing" => some ["cash", "active_projects"]
  | "build_power" => some ["cash", "active_projects"]
  | "repair" => some ["cash", "infrastructure"]
  | "set_maintenance" => some ["maintenance_level"]
  | "take_loan" => some ["cash", "debt"]
  | "repay_loan" => some ["cash", "debt"]
  | "pause" => some ["paused"]
  | "resume" => some ["paused"]
  | _ => none

/-- `_effect_signature_matches`. -/
def effectSignatureMatches (actionType : String) (before expected current : Dict) : Bool :=
  match effectKeys actionType with
  | none => false
  | some keys =>
    let changed := keys.filter fun key => !before.sameAt expected key
    !changed.isEmpty && changed.all fun key => current.sameAt expected key

def reconcileReferenceAction (attempt : ActionAttempt) (prior : AdapterSnapshot) (current : Option AdapterSnapshot) :
    Except PyError RecoveryReport :=
  if attempt.status = .prepared then .ok (.prepared attempt prior current)
  else match current with
  | none => .ok {
      classification := .adapterUnavailable
      reason := "current adapter state is not independently observable"
      attempt, priorSnapshot := prior }
  | some current => do
    let restored ← ReferenceSimulationAdapter.fromSnapshot prior []
    let (result, replayed) := restored.initializeAdapter.execute attempt.action
    let expectedResult ← result
    let expected := replayed.snapshot
    let (classification, reason) : ReconciliationClassification × String :=
      if Dict.pyEq current.state prior.state then
        (.definitelyNotExecuted, "current state exactly matches the prior checkpoint")
      else if Dict.pyEq current.state expected.state then
        (.definitelyExecuted, "current state exactly matches deterministic action replay")
      else if effectSignatureMatches attempt.action.type.val prior.state expected.state current.state then
        (.inferable, "action-specific effect matches, but unrelated state also differs")
      else (.ambiguous, "current state matches neither the prior nor deterministic expected state")
    return {
      classification, reason, attempt, priorSnapshot := prior, currentSnapshot := some current
      expectedSnapshot := some expected, expectedResult := some expectedResult }

/-! ## OpenTTD -/

/-- `SUPPORTED_ACTION_RESOURCES`. -/
def supportedActionResources : Assoc String String :=
  [("set_server_name", "server_name"), ("set_company_name", "company_name")]

/-- `_nested_resource`. -/
def nestedResource (state : Dict) (name : String) : JsonValue :=
  match state.get "resources" with
  | some (.dict resources) => (Assoc.get resources name).getD .null
  | _ => (state.get name).getD .null

/-- `_bridge_identity`. -/
def bridgeIdentity (state : Dict) : Option (JsonValue × JsonValue × JsonValue) :=
  match state.get "bridge" with
  | some (.dict bridge) =>
    let item (key : String) : JsonValue := (Assoc.get bridge key).getD .null
    if (item "script_instance_id").isStr then
      some (item "script_instance_id", item "active_company_context", item "capability_fingerprint")
    else none
  | _ => none

/-- `_bridge_identity_matches`. -/
def bridgeIdentityMatches (prior current : Dict) : Bool :=
  match bridgeIdentity prior, bridgeIdentity current with
  | some (a, b, c), some (a', b', c') => a.pyEq a' && b.pyEq b' && c.pyEq c'
  | _, _ => false

/-- A result of no cost that a report names. -/
def ExecutionResult.reconciled (message : NonEmptyString) : ExecutionResult where
  success := true
  stateChanged := true
  cost := 0
  message := message
  cost_nonneg := nothing_nonneg

theorem reconciled_stripped : strip "Expected result if the action is accepted as executed." =
    "Expected result if the action is accepted as executed." := by decide

theorem reconciled_nonempty : "Expected result if the action is accepted as executed." ≠ "" := by decide

theorem reconciled_begins : ("Reconciled ".toList.head?.any fun c => !isSpace c) = true := by decide

theorem reconciled_ends : (" from fresh OpenTTD state.".toList.getLast?.any fun c => !isSpace c) = true := by decide

def reconcileOpenttdAction (attempt : ActionAttempt) (prior : AdapterSnapshot) (current : Option AdapterSnapshot) :
    Except PyError RecoveryReport :=
  if attempt.status = .prepared then .ok (.prepared attempt prior current)
  else match current with
  | none => .ok {
      classification := .adapterUnavailable, reason := "current OpenTTD state is unavailable"
      attempt, priorSnapshot := prior }
  | some current =>
    let type := attempt.action.type.val
    match supportedActionResources.get type with
    | none => .ok {
        classification := .ambiguous
        reason := s!"OpenTTD action '{type}' has no registered state comparison"
        attempt, priorSnapshot := prior, currentSnapshot := some current }
    | some resource =>
      if resource = "company_name" ∧ ¬ bridgeIdentityMatches prior.state current.state then .ok {
          classification := .ambiguous
          reason := "GameScript identity or company context changed across the crash boundary"
          attempt, priorSnapshot := prior, currentSnapshot := some current }
      else
        let requested := (attempt.action.parameters.get "name").getD .null
        let priorValue := nestedResource prior.state resource
        let currentValue := nestedResource current.state resource
        let words := resource.replace "_" " "
        let hyphened := resource.replace "_" "-"
        let report (classification : ReconciliationClassification) (reason : String) (result : Option ExecutionResult) :
            RecoveryReport := {
          classification, reason, attempt, priorSnapshot := prior, currentSnapshot := some current
          expectedResult := result }
        .ok <|
          if ¬ requested.isStr ∨ ¬ priorValue.isStr then
            report .ambiguous s!"persisted {hyphened} action or checkpoint is invalid" none
          else if currentValue.pyEq requested ∧ ¬ priorValue.pyEq requested then
            report .definitelyExecuted s!"fresh OpenTTD state contains the requested {words}"
              (some (.reconciled (.between "Reconciled " resource " from fresh OpenTTD state." reconciled_begins
                reconciled_ends)))
          else if currentValue.pyEq priorValue then
            report .definitelyNotExecuted s!"fresh OpenTTD state still contains the prior {words}"
              (some (.reconciled ⟨"Expected result if the action is accepted as executed.", reconciled_stripped,
                reconciled_nonempty⟩))
          else report .ambiguous s!"{words} matches neither the prior nor requested value" none

/-! ## The dispatcher -/

abbrev ActionReconciler := ActionAttempt → AdapterSnapshot → Option AdapterSnapshot → Except PyError RecoveryReport

/-- The registrations of a dispatcher. -/
abbrev ReconciliationDispatcher := Assoc String ActionReconciler

namespace ReconciliationDispatcher

def register (dispatcher : ReconciliationDispatcher) (adapterType : String) (reconciler : ActionReconciler) :
    Except PyError ReconciliationDispatcher :=
  let key := strip adapterType
  if key = "" then .error (.valueError "reconciliation adapter type must not be empty")
  else if (dispatcher.get key).isSome then
    .error (.valueError s!"reconciler already registered for adapter type '{key}'")
  else .ok (dispatcher.set key reconciler)

/-- `ReconciliationDispatcher(registrations)`. -/
def of (registrations : List (String × ActionReconciler)) : Except PyError ReconciliationDispatcher :=
  registrations.foldlM (fun dispatcher (adapterType, reconciler) => register dispatcher adapterType reconciler) []

def reconcile (dispatcher : ReconciliationDispatcher) (attempt : ActionAttempt) (prior : AdapterSnapshot)
    (current : Option AdapterSnapshot) : Except PyError RecoveryReport :=
  if current.any (·.adapterType ≠ prior.adapterType) then
    .error (.other "AdapterReconciliationMismatchError"
      "current adapter snapshot type does not match the persisted checkpoint")
  else
    let adapterType := prior.adapterType
    match dispatcher.get adapterType with
    | none => .error (.other "UnsupportedAdapterReconciliationError"
        s!"no reconciler registered for adapter type '{adapterType}'")
    | some reconciler => reconciler attempt prior current

end ReconciliationDispatcher

def defaultReconciliationDispatcher : Except PyError ReconciliationDispatcher :=
  ReconciliationDispatcher.of [("reference", reconcileReferenceAction), ("openttd", reconcileOpenttdAction),
    ("sim_pilot.adapters.openttd.adapter.OpenTTDAdapter", reconcileOpenttdAction)]

/-- Its registrations do not collide. -/
theorem defaultReconciliationDispatcher_eq : defaultReconciliationDispatcher =
    .ok [("reference", reconcileReferenceAction), ("openttd", reconcileOpenttdAction),
      ("sim_pilot.adapters.openttd.adapter.OpenTTDAdapter", reconcileOpenttdAction)] := by
  have hstripped : strip "reference" = "reference" ∧ strip "openttd" = "openttd" ∧
      strip "sim_pilot.adapters.openttd.adapter.OpenTTDAdapter" = "sim_pilot.adapters.openttd.adapter.OpenTTDAdapter" := by
    decide +kernel
  simp [defaultReconciliationDispatcher, ReconciliationDispatcher.of, ReconciliationDispatcher.register, hstripped,
    Assoc.set, bind, Except.bind, pure, Except.pure]

/-- `default_reconciliation_dispatcher().reconcile(...)`. -/
def reconcileByDefault (attempt : ActionAttempt) (prior : AdapterSnapshot) (current : Option AdapterSnapshot) :
    Except PyError RecoveryReport := do
  (← defaultReconciliationDispatcher).reconcile attempt prior current

/-! ## The replay is exact -/

namespace ReferenceSimulationAdapter
variable {a : ReferenceSimulationAdapter}

/-- A success reports whether it changed the state, and what is refused changes nothing. -/
theorem execute_stateChanged (h : Saveable a) (action : Action) : ∃ result, (a.execute action).1 = .ok result ∧
    (result.stateChanged = true ↔ (a.execute action).2.simulation.state ≠ a.simulation.state) := by
  unfold ReferenceSimulationAdapter.execute
  have hvalidated : ∃ validation, a.validate action = .ok validation := by
    unfold validate requireInitialized
    simp only [h.running, if_true, bind, Except.bind]
    split
    · exact ⟨_, rfl⟩
    · split <;> exact ⟨_, rfl⟩
  obtain ⟨validation, hvalidate⟩ := hvalidated
  rw [hvalidate]
  dsimp only
  split
  · cases parseAction action with
    | error message => exact ⟨_, rfl, by simp⟩
    | ok parsed =>
      dsimp only
      unfold ReferenceSimulation.execute
      dsimp only
      split
      · rename_i hv
        obtain ⟨applied, happly, -⟩ := ReferenceSimulation.stored_apply h.stored hv
        rw [happly]
        exact ⟨_, rfl, by simp⟩
      · exact ⟨_, rfl, by simp⟩
  · exact ⟨_, rfl, by simp⟩

/-- An action that is not forbidden has the answer of an adapter that forbids nothing. -/
theorem execute_allowed {action : Action} (h : action.type.val ∉ a.forbiddenActions) :
    (a.execute action).1 = (ReferenceSimulationAdapter.execute { a with forbiddenActions := [] } action).1 ∧
      (a.execute action).2.simulation =
        (ReferenceSimulationAdapter.execute { a with forbiddenActions := [] } action).2.simulation := by
  have hvalidate : a.validate action = validate { a with forbiddenActions := [] } action := by
    unfold validate requireInitialized
    rw [if_neg h, if_neg List.not_mem_nil]
  unfold ReferenceSimulationAdapter.execute
  rw [hvalidate]
  cases validate { a with forbiddenActions := [] } action with
  | error e => exact ⟨rfl, rfl⟩
  | ok validation =>
    dsimp only
    split
    · cases parseAction action with
      | error message => exact ⟨rfl, rfl⟩
      | ok parsed => exact ⟨rfl, rfl⟩
    · exact ⟨rfl, rfl⟩

theorem execute_forbidden (hi : a.initialized = true) {action : Action} (h : action.type.val ∈ a.forbiddenActions) :
    (a.execute action).2 = a := by
  unfold ReferenceSimulationAdapter.execute validate requireInitialized
  simp only [hi, if_true, bind, Except.bind, if_pos h, pure, Except.pure, ValidationResult.refuse, Bool.false_eq_true,
    if_false]

/-- The replay on a snapshot, by an adapter that forbids nothing. -/
theorem Saveable.replay (h : Saveable a) (action : Action) : ∃ restored, fromSnapshot a.snapshot [] = .ok restored ∧
    ∃ result, (restored.initializeAdapter.execute action).1 = .ok result ∧
      (action.type.val ∉ a.forbiddenActions → (a.execute action).1 = .ok result ∧
        (restored.initializeAdapter.execute action).2.simulation.state = (a.execute action).2.simulation.state) := by
  refine ⟨_, h.fromSnapshot_snapshot [], ?_⟩
  -- the restored adapter is a twin of the saved one with nothing forbidden
  have htwin : Twin { a with forbiddenActions := [] } (initializeAdapter {
      simulation := { state := a.simulation.state, seed := a.simulation.seed }
      forbiddenActions := [], observationSequence := a.observationSequence }) :=
    ⟨rfl, rfl, rfl, h.running, rfl⟩
  have hrestored : Saveable (initializeAdapter {
      simulation := { state := a.simulation.state, seed := a.simulation.seed }
      forbiddenActions := [], observationSequence := a.observationSequence }) := ⟨h.stored, rfl⟩
  obtain ⟨result, hresult, -⟩ := execute_stateChanged hrestored action
  obtain ⟨hsame, hnext⟩ := htwin.execute action
  refine ⟨result, hresult, fun hallowed => ?_⟩
  obtain ⟨hanswer, hsimulation⟩ := execute_allowed hallowed
  exact ⟨hanswer.trans (hsame.trans hresult), by rw [hsimulation, hnext.state]⟩

end ReferenceSimulationAdapter

/-- Two states are told apart by their dumps. -/
theorem SimulationState.pyEq_modelDump_iff {s s' : SimulationState} :
    Dict.pyEq s.modelDump s'.modelDump = true ↔ s = s' := by
  constructor
  · exact SimulationState.modelDump_injective
  · rintro rfl
    exact Dict.pyEq_self _

open ReferenceSimulationAdapter

section Reports
variable {attempt : ActionAttempt} {prior : AdapterSnapshot}

/-- Snapshots of the reference adapter are dispatched to its reconciler. -/
theorem reconcileByDefault_reference {current : AdapterSnapshot} (hprior : prior.adapterType = "reference")
    (hcurrent : current.adapterType = "reference") :
    reconcileByDefault attempt prior (some current) = reconcileReferenceAction attempt prior (some current) := by
  unfold reconcileByDefault
  rw [defaultReconciliationDispatcher_eq]
  simp [bind, Except.bind, ReconciliationDispatcher.reconcile, hprior, hcurrent]

/-- What the reconciler compares behind the replay. -/
theorem reconcileReferenceAction_replayed (current : AdapterSnapshot) (hstatus : attempt.status ≠ .prepared)
    {restored : ReferenceSimulationAdapter} (hrestored : fromSnapshot prior [] = .ok restored) {result : ExecutionResult}
    (hresult : (restored.initializeAdapter.execute attempt.action).1 = .ok result) :
    ∃ report, reconcileReferenceAction attempt prior (some current) = .ok report ∧ report.expectedResult = some result ∧
      (Dict.pyEq current.state prior.state = true → report.classification = .definitelyNotExecuted) ∧
      (Dict.pyEq current.state prior.state = false →
        Dict.pyEq current.state (restored.initializeAdapter.execute attempt.action).2.snapshot.state = true →
          report.classification = .definitelyExecuted) := by
  unfold reconcileReferenceAction
  rw [if_neg hstatus]
  simp only [hrestored, hresult, bind, Except.bind, pure, Except.pure]
  refine ⟨_, rfl, rfl, fun hsame => ?_, fun hdiffers hreplayed => ?_⟩
  · rw [if_pos hsame]
  · rw [if_neg (by rw [hdiffers]; exact Bool.false_ne_true), if_pos hreplayed]

end Reports

/-- **An interrupted action is classified for what it did**: behind any calls of a process, for an
attempt whose execution may have begun, the state before the execution is classified as not
executed, and the state behind it as executed exactly when the execution reported a change of the
state, with the result the adapter gave when the action is not one it forbids. The observation
sequence of the fresh snapshot does not matter. -/
theorem interrupted_action_reconciled (adapter : ReferenceSimulationAdapter) (h : Starts adapter) (process : List Call)
    (attempt : ActionAttempt) (hstatus : attempt.status ≠ .prepared) (sequence : Nat) :
    let before := (adapter.initializeAdapter.calls process).2
    let after := (before.execute attempt.action).2
    ∃ result, (before.execute attempt.action).1 = .ok result ∧
      (∃ report, reconcileByDefault attempt before.snapshot
          (some { before.snapshot with observationSequence := sequence }) = .ok report ∧
        report.classification = .definitelyNotExecuted) ∧
      ∃ report, reconcileByDefault attempt before.snapshot
          (some { after.snapshot with observationSequence := sequence }) = .ok report ∧
        report.classification = (if result.stateChanged then .definitelyExecuted else .definitelyNotExecuted) ∧
        (attempt.action.type.val ∉ before.forbiddenActions → report.expectedResult = some result) := by
  intro before after
  have hbefore : Saveable before := h.saveable.calls process
  obtain ⟨result, hresult, hchanged⟩ := execute_stateChanged hbefore attempt.action
  obtain ⟨restored, hrestored, replayed, hreplayed, hexact⟩ := hbefore.replay attempt.action
  refine ⟨result, hresult, ?_, ?_⟩
  · obtain ⟨report, hreport, -, hsame, -⟩ := reconcileReferenceAction_replayed
      { before.snapshot with observationSequence := sequence } hstatus hrestored hreplayed
    rw [reconcileByDefault_reference rfl rfl]
    exact ⟨report, hreport, hsame (Dict.pyEq_self _)⟩
  · obtain ⟨report, hreport, hexpected, hsame, hdone⟩ := reconcileReferenceAction_replayed
      { after.snapshot with observationSequence := sequence } hstatus hrestored hreplayed
    rw [reconcileByDefault_reference rfl rfl]
    refine ⟨report, hreport, ?_, fun hallowed => ?_⟩
    · by_cases hstate : after.simulation.state = before.simulation.state
      · rw [if_neg fun hc => hchanged.1 hc hstate]
        exact hsame (SimulationState.pyEq_modelDump_iff.2 hstate)
      · rw [if_pos (hchanged.2 hstate)]
        have hallowed : attempt.action.type.val ∉ before.forbiddenActions := by
          intro hforbidden
          exact hstate (congrArg (fun a => a.simulation.state) (execute_forbidden hbefore.running hforbidden))
        refine hdone (Bool.eq_false_iff.2 fun hpy => hstate (SimulationState.pyEq_modelDump_iff.1 hpy)) ?_
        exact SimulationState.pyEq_modelDump_iff.2 (hexact hallowed).2.symm
    · rw [hexpected]
      exact congrArg some (Except.ok.inj ((hexact hallowed).1.symm.trans hresult))

/-- An attempt at a repair of five points, whose execution has begun. -/
def repairAttempt : ActionAttempt where
  taskId := .int 1
  runtimeSequence := 1
  actionId := .int 2
  actionFingerprint := actionFingerprint (repairBy 5)
  action := repairBy 5
  priorCheckpointId := none
  priorObservationFingerprint := .null
  expectedEffect := "infrastructure rises"
  estimatedCost := 0
  status := .executionStarted
  preparedAt := 0
  updatedAt := 0
  cost_nonneg := nothing_nonneg

theorem interrupted_repair_reconciled :
    let before := ((initializeAdapter {}).calls [.observe 0]).2
    let after := (before.execute repairAttempt.action).2
    ∃ result, (before.execute repairAttempt.action).1 = .ok result ∧
      (∃ report, reconcileByDefault repairAttempt before.snapshot
          (some { before.snapshot with observationSequence := 9 }) = .ok report ∧
        report.classification = .definitelyNotExecuted) ∧
      ∃ report, reconcileByDefault repairAttempt before.snapshot
          (some { after.snapshot with observationSequence := 9 }) = .ok report ∧
        report.classification = (if result.stateChanged then .definitelyExecuted else .definitelyNotExecuted) ∧
        (repairAttempt.action.type.val ∉ before.forbiddenActions → report.expectedResult = some result) :=
  interrupted_action_reconciled {} (.fresh "0" []) [.observe 0] repairAttempt (by decide) 9

end SimPilot
