import SimPilot.SoftwareInc.Guidance.Answers
import SimPilot.SoftwareInc.Guidance.Requests
import SimPilot.SoftwareInc.Ui.Controller
/-!
# Delegation to live-proven actions (software_inc/guidance/delegation.py)

An objective, or the recommendation it refers to, names an action; the executor is called for a live
verified and compatible one. It is a parameter, which may raise an `ε`. The fingerprint of a view is
what `digest` makes of its content.

| here | there |
|---|---|
| `guidedCapabilityView`, `actionCapability` | capabilities.py:58, 265 |
| `parseObjective`, `resolveRecommendation`, `delegate` | delegation.py:29-154 |
| `Recommendation`, `RecommendationResponse`, `DelegationResult.valid` | guidance/models.py:182-239 |
| `uiAction` | the actions `execute_ui_action` performs, controller.py:53 |
-/

namespace SimPilot.SoftwareInc.Guidance
open GameBridge

/-! ## Capabilities -/

structure GuidedActionCapability where
  action : String
  directUiAction : Bool
  liveVerified : Bool
  compatible : Bool
  deriving DecidableEq, Repr

structure GuidedCapabilityView where
  actions : List GuidedActionCapability
  capabilityFingerprint : String
  deriving DecidableEq, Repr

structure BridgeReport where
  enabled : Bool
  loaded : Bool
  artifactMatchesInstalled : Option Bool
  deriving DecidableEq, Repr

/-- What the capabilities are read of. -/
structure Detection where
  productVersion : Option String
  steamBuildId : Option String
  /-- The game and the version of a snapshot. -/
  snapshot : Option (String × String)
  bridgeReport : Option BridgeReport
  knowledgeTopics : List String
  deriving DecidableEq, Repr

def Detection.currentlyCompatible (d : Detection) : Bool :=
  (d.productVersion = some "1.8.41" && d.steamBuildId = some "23094975") &&
    d.snapshot = some ("software-inc", "1.8.41") &&
    d.bridgeReport.any fun r => r.enabled && r.loaded && r.artifactMatchesInstalled = some true

/-- `LIVE_VERIFIED_ACTIONS` -/
def liveVerifiedActions : List SoftwareIncUIAction :=
  [.pause, .resume, .openManageTeams, .openContracts, .acceptContract, .advanceContract, .reviewContract,
    .promoteContract, .releaseContract]

def capabilityOf (compatible : Bool) (a : SoftwareIncUIAction) : GuidedActionCapability where
  action := a.value
  directUiAction := true
  liveVerified := a ∈ liveVerifiedActions
  compatible := compatible

def guidedCapabilityView (digest : List GuidedActionCapability → Detection → String) (d : Detection) :
    GuidedCapabilityView :=
  let actions := (SoftwareIncUIAction.all.map (capabilityOf d.currentlyCompatible)).insertionSort
    fun x y => ¬ y.action < x.action
  { actions, capabilityFingerprint := digest actions d }

/-- `action_capability` -/
def actionCapability (view : GuidedCapabilityView) (action : String) : Option GuidedActionCapability :=
  view.actions.find? (·.action = action)

/-! ## Recommendations and results -/

structure Recommendation where
  objective : String
  executable : Bool
  action : Option String
  objective_sized : sized 1 1024 objective = true
  action_sized : ∀ a ∈ action, sized 1 128 a = true
  executable_iff : executable = action.isSome

structure RecommendationResponse where
  recommended : Option Recommendation
  gameSessionId : Option String
  saveIdentity : Option String
  capabilityFingerprint : String
  expiresAt : Timestamp

structure UIDoResult where
  gesturesSent : Nat
  verified : Bool
  message : String
  message_sized : sized 1 1024 message = true

structure DelegationResult where
  status : GuidanceStatus
  objective : String
  action : Option String := none
  gesturesSent : Nat := 0
  verified : Bool
  message : String
  deriving DecidableEq, Repr

def DelegationResult.valid (r : DelegationResult) : Bool :=
  sized 1 2048 r.objective && r.action.all (sized 1 128) && sized 1 2048 r.message

structure DelegationContext extends GuidanceContext where
  capabilities : GuidedCapabilityView

/-- How a delegation ends early. -/
inductive Failure (ε : Type) where
  | raised (error : UIError)
  | executor (error : ε)

/-! ## The service -/

/-- The result, unless a field of it is refused. -/
def conclude {ε : Type} (r : DelegationResult) : Except (Failure ε) DelegationResult :=
  if r.valid then .ok r else .error (.raised .model)

section
variable (T : Tables)

/-- The action an objective parses to, if any; what is raised besides `SoftwareIncUIValidationError`. -/
def parseObjective (objective : String) : Except UIError (Option SoftwareIncUIAction) :=
  match parseUiAction T objective with
  | .ok action => .ok (some action)
  | .error (.validation _) => match parseStaffingIntent T objective with
    | .ok .createTeam => .ok (some .createTeam)
    | .ok .observeApplicants => .ok (some .observeApplicants)
    | .ok .hireEmployee => .ok (some .hireEmployee)
    | .error (.validation _) => match parseOfficeIntent T objective with
      | .ok action => .ok (some action)
      | .error (.validation _) => .ok none
      | .error e => .error e
    | .error e => .error e
  | .error e => .error e

/-- `" ".join(objective.strip().casefold().split())` is the recommended plan. -/
def asksForPlan (objective : String) : Bool :=
  let folded := T.fold (String.ofList (stripped T objective.toList))
  String.ofList (joined T folded.toList) ∈ ["use your recommended plan", "use the recommended plan"]

end

section
variable {ε : Type}

def resolveRecommendation (recommendation : Option RecommendationResponse) (context : DelegationContext)
    (now : Timestamp) : Except (Failure ε) (DelegationResult ⊕ (SoftwareIncUIAction × String)) :=
  match recommendation.bind fun r => r.recommended.map fun item => (r, item) with
  | none => .inl <$> conclude {
      status := .blocked
      objective := "use your recommended plan"
      verified := false
      message := "There is no current recommendation to delegate. Run `/recommend` first." }
  | some (response, item) =>
    if ¬ now < response.expiresAt then .inl <$> conclude {
      status := .blocked
      objective := item.objective
      action := item.action
      verified := false
      message := "The current recommendation expired. Run `/recommend` again." }
    else match item.action.filter fun _ => item.executable with
    | none => .inl <$> conclude {
        status := .blocked
        objective := item.objective
        verified := false
        message := "The current recommendation is advisory only and cannot be executed." }
    | some action =>
      match context.state.filter fun state => response.gameSessionId = some state.gameSessionId &&
          response.saveIdentity = state.saveIdentity &&
          response.capabilityFingerprint = context.capabilities.capabilityFingerprint with
      | none => .inl <$> conclude {
          status := .blocked
          objective := item.objective
          action := item.action
          verified := false
          message := "The save, session, or capability boundary changed after recommendation. " ++
            "Run `/recommend` again." }
      | some _ => match SoftwareIncUIAction.named action with
        | some a => .ok (.inr (a, item.objective))
        | none => .error (.raised .external)

variable (executor : SoftwareIncUIAction → Except ε UIDoResult)

/-- What is done for an action: the calls of the executor, and the result. -/
def carryOut (context : DelegationContext) (action : SoftwareIncUIAction) (objective : String) :
    List SoftwareIncUIAction × Except (Failure ε) DelegationResult :=
  match (actionCapability context.capabilities action.value).filter (·.directUiAction) with
  | none => ([], conclude {
      status := .unsupported
      objective := objective
      action := some action.value
      verified := false
      message := action.value ++ " is not a recognized direct UI capability." })
  | some capability =>
    if ¬ capability.liveVerified then ([], conclude {
      status := .blocked
      objective := objective
      action := some action.value
      verified := false
      message := action.value ++ " is implemented and offline-tested but its live mutation " ++
        "gate is pending. No UI input was sent and no approval was created." })
    else if ¬ capability.compatible ∨ context.state.isNone then ([], conclude {
      status := .blocked
      objective := objective
      action := some action.value
      verified := false
      message := "The exact compatible live Software Inc. save is unavailable. No UI input was sent." })
    else ([action], match executor action with
      | .error e => .error (.executor e)
      | .ok result => conclude {
          status := if result.verified then .completed else .blocked
          objective := objective
          action := some action.value
          gesturesSent := result.gesturesSent
          verified := result.verified
          message := result.message })

def delegate (T : Tables) (objective : String) (context : DelegationContext)
    (recommendation : Option RecommendationResponse) (now : Timestamp) :
    List SoftwareIncUIAction × Except (Failure ε) DelegationResult :=
  if asksForPlan T objective then
    match resolveRecommendation recommendation context now with
    | .error e => ([], .error e)
    | .ok (.inl result) => ([], .ok result)
    | .ok (.inr (action, effectiveObjective)) => carryOut executor context action effectiveObjective
  else match parseObjective T objective with
    | .error e => ([], .error (.raised e))
    | .ok none => ([], conclude {
        status := .unsupported
        objective := objective
        verified := false
        message := "Unsupported Software Inc. delegation. Use `/capabilities` for the currently proven " ++
          "action boundary." })
    | .ok (some action) => carryOut executor context action objective

end

/-- The actions `execute_ui_action` performs; for any other it opens Manage Teams. -/
def uiAction : SoftwareIncUIAction → Option Ui.UiAction
  | .pause => some .pause
  | .resume => some .resume
  | .openManageTeams => some .openManageTeams
  | _ => none

/-! ## What a delegation is to do -/

section
variable (T : Tables) (objective : String) (context : DelegationContext)
  (recommendation : Option RecommendationResponse) (now : Timestamp)

/-- The action of the objective: the one it parses to, or the one the recommendation names. -/
def Names (a : SoftwareIncUIAction) : Prop :=
  if asksForPlan T objective then
    ∃ response item, recommendation = some response ∧ response.recommended = some item ∧ item.action = some a.value
  else parseObjective T objective = .ok (some a)

/-- What a run, its calls and its result, is to be with an executor. -/
structure Exact {ε : Type} (names : SoftwareIncUIAction → Prop) (executor : SoftwareIncUIAction → Except ε UIDoResult)
    (run : List SoftwareIncUIAction × Except (Failure ε) DelegationResult) : Prop where
  /-- What is raised the executor raised. -/
  total : ∀ e, run.2 = .error e → ∃ a ∈ run.1, ∃ x, executor a = .error x ∧ e = .executor x
  once : run.1.length ≤ 1
  permitted : ∀ a ∈ run.1, names a ∧
    (∃ c, actionCapability context.capabilities a.value = some c ∧ c.liveVerified = true ∧ c.compatible = true) ∧
    context.state.isSome = true
  completed : ∀ result, run.2 = .ok result → result.status = .completed →
    ∃ a, result.action = some a.value ∧ (uiAction a).isSome = true

/-- Delegation is total and exact, whatever the executor. -/
def DelegatesExactly (ε : Type) : Prop :=
  ∀ executor : SoftwareIncUIAction → Except ε UIDoResult,
    Exact context (Names T objective recommendation) executor
      (delegate executor T objective context recommendation now)

/-- The recommendation is current, of this save and session, and names `action`. -/
def Bound (item : Recommendation) (action : String) : Prop :=
  ∃ response, recommendation = some response ∧ response.recommended = some item ∧ now < response.expiresAt ∧
    item.action = some action ∧ ∃ state, context.state = some state ∧
      response.gameSessionId = some state.gameSessionId ∧ response.saveIdentity = state.saveIdentity ∧
      response.capabilityFingerprint = context.capabilities.capabilityFingerprint

/-- The objective obeys the limits of the intent it becomes, or the action that a bound recommendation names exists,
and is one that is performed if it is sent. -/
structure Delegable (compatible : Bool) : Prop where
  fits : asksForPlan T objective = false → within T objective = true
  performed : asksForPlan T objective = true → ∀ item action, Bound context recommendation now item action →
    ∃ a, SoftwareIncUIAction.named action = some a ∧
      (a ∈ liveVerifiedActions → compatible = true → (uiAction a).isSome = true)

end

/-! ## Capabilities of a view -/

section
variable {digest : List GuidedActionCapability → Detection → String} {d : Detection}

theorem actionCapability_view (a : SoftwareIncUIAction) :
    actionCapability (guidedCapabilityView digest d) a.value = some (capabilityOf d.currentlyCompatible a) := by
  have hmem : ∀ c, c ∈ (guidedCapabilityView digest d).actions ↔
      ∃ b ∈ SoftwareIncUIAction.all, capabilityOf d.currentlyCompatible b = c := by
    intro c
    rw [guidedCapabilityView, (List.perm_insertionSort _ _).mem_iff, List.mem_map]
  rw [actionCapability]
  generalize (guidedCapabilityView digest d).actions = actions at hmem ⊢
  cases hfind : actions.find? (·.action = a.value) with
  | none =>
    have hnone := List.find?_eq_none.mp hfind _ ((hmem _).mpr ⟨a, a.mem_all, rfl⟩)
    exact absurd (by simp [capabilityOf]) hnone
  | some c =>
    obtain ⟨b, -, rfl⟩ := (hmem c).mp (List.mem_of_find?_eq_some hfind)
    have hfound := List.find?_some hfind
    have hvalue : b.value = a.value := of_decide_eq_true hfound
    have hnamed := b.named_value
    rw [hvalue, a.named_value] at hnamed
    cases hnamed
    rfl

end

/-! ## Results within their limits -/

section
variable {ε : Type}

theorem conclude_ok {r : DelegationResult} (h : r.valid = true) :
    (conclude r : Except (Failure ε) DelegationResult) = .ok r := if_pos h

theorem valid_of_sized {r : DelegationResult} (hobjective : sized 1 2048 r.objective = true)
    (haction : r.action.all (sized 1 128) = true) (hmessage : sized 1 2048 r.message = true) : r.valid = true :=
  Bool.and_eq_true_iff.mpr ⟨Bool.and_eq_true_iff.mpr ⟨hobjective, haction⟩, hmessage⟩

theorem sized_value (a : SoftwareIncUIAction) : (some a.value).all (sized 1 128) = true := by
  cases a <;> exact all_sized_ofList rfl

theorem sized_mono {low high high' : Nat} {s : String} (h : sized low high s = true) (hle : high ≤ high') :
    sized low high' s = true := by
  simp only [sized, Bool.and_eq_true, decide_eq_true_eq] at h ⊢
  omega

theorem sized_append {a : SoftwareIncUIAction} {s : String} (h : s.length ≤ 1024) :
    sized 1 2048 (a.value ++ s) = true := by
  obtain ⟨hpos, hshort⟩ := a.length_value
  have hlength := String.length_append (s := a.value) (t := s)
  unfold sized
  generalize (a.value ++ s).length = n at *
  rw [Bool.and_eq_true, decide_eq_true_eq, decide_eq_true_eq]
  omega

/-! ## Carrying out an action -/

variable {digest : List GuidedActionCapability → Detection → String} {d : Detection} {context : DelegationContext}
  {a : SoftwareIncUIAction} {objective : String}

/-- What the executor is called for. -/
def Permitted (d : Detection) (context : DelegationContext) (a : SoftwareIncUIAction) : Prop :=
  a ∈ liveVerifiedActions ∧ d.currentlyCompatible = true ∧ context.state.isSome = true

theorem carryOut_permitted (executor : SoftwareIncUIAction → Except ε UIDoResult)
    (hview : context.capabilities = guidedCapabilityView digest d)
    (hobjective : sized 1 2048 objective = true) (h : Permitted d context a) :
    (carryOut executor context a objective).1 = [a] ∧
      match executor a with
      | .error e => (carryOut executor context a objective).2 = .error (.executor e)
      | .ok done => ∃ result, (carryOut executor context a objective).2 = .ok result ∧
          result.action = some a.value ∧ (result.status = .completed ↔ done.verified = true) := by
  obtain ⟨hlive, hcompatible, hstate⟩ := h
  have hnotnone : context.state.isNone = false := by
    rw [← Option.not_isSome, hstate]
    rfl
  have hcapability : (actionCapability context.capabilities a.value).filter (·.directUiAction) =
      some (capabilityOf d.currentlyCompatible a) := by
    rw [hview, actionCapability_view]
    rfl
  simp only [carryOut, hcapability, capabilityOf, hlive, hcompatible, hnotnone, decide_true, not_true_eq_false,
    Bool.false_eq_true, or_self, ↓reduceIte, true_and]
  cases hdone : executor a with
  | error e => rfl
  | ok done =>
    refine ⟨_, conclude_ok (valid_of_sized hobjective (sized_value a) (sized_mono done.message_sized (by decide))),
      rfl, ?_⟩
    cases done.verified <;> simp

theorem carryOut_refused (executor : SoftwareIncUIAction → Except ε UIDoResult)
    (hview : context.capabilities = guidedCapabilityView digest d)
    (hobjective : sized 1 2048 objective = true) (h : ¬ Permitted d context a) :
    ∃ result, carryOut executor context a objective = ([], .ok result) ∧ result.status = .blocked := by
  have hcapability : (actionCapability context.capabilities a.value).filter (·.directUiAction) =
      some (capabilityOf d.currentlyCompatible a) := by
    rw [hview, actionCapability_view]
    rfl
  simp only [carryOut, hcapability, capabilityOf]
  by_cases hlive : a ∈ liveVerifiedActions
  · have hblocked : ¬ d.currentlyCompatible = true ∨ context.state.isNone = true := by
      by_contra hboth
      rw [not_or, not_not, Option.isNone_iff_eq_none, ← ne_eq, Option.ne_none_iff_isSome] at hboth
      exact h ⟨hlive, hboth⟩
    simp only [hlive, hblocked, decide_true, not_true_eq_false, ↓reduceIte]
    refine ⟨_, Prod.ext rfl (conclude_ok ?_), rfl⟩
    exact valid_of_sized hobjective (sized_value a) (by exact sized_ofList rfl)
  · simp only [hlive, decide_false, Bool.false_eq_true, not_false_eq_true, ↓reduceIte]
    have htext : (" is implemented and offline-tested but its live mutation " ++
        "gate is pending. No UI input was sent and no approval was created.").length ≤ 1024 := by
      rw [String.length_append]
      decide
    have hmessage := sized_append (a := a) htext
    rw [← String.append_assoc] at hmessage
    refine ⟨_, Prod.ext rfl (conclude_ok ?_), rfl⟩
    exact valid_of_sized hobjective (sized_value a) hmessage

end

/-! ## Parsing an objective -/

section
variable {T : Tables} {objective : String}

theorem parseUiAction_cases (objective : String) :
    (∃ a, parseUiAction T objective = .ok a ∧ (uiAction a).isSome = true) ∨ Refused (parseUiAction T objective) := by
  simp only [parseUiAction]
  split_ifs
  · exact .inl ⟨_, rfl, rfl⟩
  · exact .inl ⟨_, rfl, rfl⟩
  · exact .inl ⟨_, rfl, rfl⟩
  · exact .inr ⟨_, rfl⟩

theorem parseOfficeIntent_offline {a : SoftwareIncUIAction} (h : parseOfficeIntent T objective = .ok a) :
    a ∉ liveVerifiedActions := by
  have haction : a = .setTeamWorkingHours ∨ a = .assignEmployeeRole := by
    simp only [parseOfficeIntent] at h
    split at h
    · obtain ⟨start, -, h⟩ := Except.bind_eq_ok.mp h
      obtain ⟨stop, -, h⟩ := Except.bind_eq_ok.mp h
      split_ifs at h
      cases h
      exact .inl rfl
    · split at h
      · split at h
        · cases h
        · split_ifs at h
          cases h
          exact .inr rfl
      · cases h
  rcases haction with rfl | rfl <;> decide

/-- What an objective parses to once it names no direct action and no staffing. -/
theorem parseObjective_office (hui : Refused (parseUiAction T objective))
    (hstaffing : Refused (parseStaffingIntent T objective)) :
    (officeWithin T (joined T (stripped T objective.toList)) = true ∧ ∃ found, parseObjective T objective = .ok found ∧
        ∀ a ∈ found, a ∉ liveVerifiedActions) ∨
      officeWithin T (joined T (stripped T objective.toList)) = false ∧ ∃ e, parseObjective T objective = .error e := by
  obtain ⟨m, hui⟩ := hui
  obtain ⟨m', hstaffing⟩ := hstaffing
  rcases parseOfficeIntent_cases (T := T) objective with ⟨hwithin, ⟨a, ha⟩ | ⟨m'', hm⟩⟩ | ⟨hwithin, e, he, hescapes⟩
  · refine .inl ⟨hwithin, some a, by simp only [parseObjective, hui, hstaffing, ha], ?_⟩
    rintro b ⟨rfl⟩
    exact parseOfficeIntent_offline ha
  · refine .inl ⟨hwithin, none, by simp only [parseObjective, hui, hstaffing, hm], ?_⟩
    rintro b ⟨⟩
  · refine .inr ⟨hwithin, e, ?_⟩
    simp only [parseObjective, hui, hstaffing, he]

theorem within_none (hui : Refused (parseUiAction T objective))
    (h : staffingRequest T (joined T (stripped T objective.toList)) = none) :
    within T objective = officeWithin T (joined T (stripped T objective.toList)) := by
  obtain ⟨m, hm⟩ := hui
  simp only [within, hm, h, Except.isOk, Except.toBool, Bool.false_or]

theorem within_some {request : StaffingRequest} (hui : Refused (parseUiAction T objective))
    (h : staffingRequest T (joined T (stripped T objective.toList)) = some request) :
    within T objective = if request.amount.any (unpriced T) then
      officeWithin T (joined T (stripped T objective.toList)) else request.within T := by
  obtain ⟨m, hm⟩ := hui
  simp only [within, hm, h, Except.isOk, Except.toBool, Bool.false_or]

/-- An objective parses when it is within the limits, and to no live action but those performed. -/
theorem parseObjective_cases (objective : String) :
    (within T objective = true ∧ ∃ found, parseObjective T objective = .ok found ∧
        ∀ a ∈ found, a ∈ liveVerifiedActions → (uiAction a).isSome = true) ∨
      within T objective = false ∧ ∃ e, parseObjective T objective = .error e := by
  rcases parseUiAction_cases (T := T) objective with ⟨a, ha, hperformed⟩ | hui
  · refine .inl ⟨by simp only [within, ha]; rfl, some a, by simp only [parseObjective, ha], ?_⟩
    rintro b ⟨rfl⟩ -
    exact hperformed
  · obtain ⟨m, hm⟩ := hui
    have hoffice : Refused (parseStaffingIntent T objective) →
        (officeWithin T (joined T (stripped T objective.toList)) = true ∧
            ∃ found, parseObjective T objective = .ok found ∧
              ∀ a ∈ found, a ∈ liveVerifiedActions → (uiAction a).isSome = true) ∨
          officeWithin T (joined T (stripped T objective.toList)) = false ∧
            ∃ e, parseObjective T objective = .error e := fun hstaffing =>
      (parseObjective_office ⟨m, hm⟩ hstaffing).imp_left fun ⟨hwithin, found, hfound, hoffline⟩ =>
        ⟨hwithin, found, hfound, fun a ha hlive => absurd hlive (hoffline a ha)⟩
    cases hrequest : staffingRequest T (joined T (stripped T objective.toList)) with
    | none =>
      have hwithin : within T objective = officeWithin T (joined T (stripped T objective.toList)) := by
        exact within_none ⟨m, hm⟩ hrequest
      rw [hwithin]
      exact hoffice (parseStaffingIntent_none hrequest)
    | some request =>
      rcases parseStaffingIntent_some hrequest with
        ⟨hprice, hrefused⟩ | ⟨hprice, ⟨hfits, hok⟩ | ⟨hfits, e, he, hescapes⟩⟩
      · have hwithin : within T objective = officeWithin T (joined T (stripped T objective.toList)) := by
          rw [within_some ⟨m, hm⟩ hrequest, if_pos hprice]
        rw [hwithin]
        exact hoffice hrefused
      · have hwithin : within T objective = true := by
          rw [within_some ⟨m, hm⟩ hrequest, hprice, if_neg Bool.false_ne_true, hfits]
        cases haction : request.action with
        | createTeam =>
          rw [haction] at hok
          refine .inl ⟨hwithin, some .createTeam, by simp only [parseObjective, hm, hok], ?_⟩
          rintro b ⟨rfl⟩ hlive
          exact absurd hlive (by decide)
        | observeApplicants =>
          rw [haction] at hok
          refine .inl ⟨hwithin, some .observeApplicants, by simp only [parseObjective, hm, hok], ?_⟩
          rintro b ⟨rfl⟩ hlive
          exact absurd hlive (by decide)
        | hireEmployee =>
          rw [haction] at hok
          refine .inl ⟨hwithin, some .hireEmployee, by simp only [parseObjective, hm, hok], ?_⟩
          rintro b ⟨rfl⟩ hlive
          exact absurd hlive (by decide)
      · refine .inr ⟨?_, e, ?_⟩
        · rw [within_some ⟨m, hm⟩ hrequest, hprice, if_neg Bool.false_ne_true, hfits]
        · simp only [parseObjective, hm, he]

end

/-! ## Resolving a recommendation -/

section
variable {ε : Type} {T : Tables} {objective : String} {context : DelegationContext} {now : Timestamp}
  {recommendation : Option RecommendationResponse}

theorem objective_sized (item : Recommendation) : sized 1 2048 item.objective = true :=
  sized_mono item.objective_sized (by decide)

theorem action_sized (item : Recommendation) : item.action.all (sized 1 128) = true := by
  cases haction : item.action with
  | none => rfl
  | some a => exact item.action_sized a (by simp [haction])

theorem resolveRecommendation_bound {item : Recommendation} {action : String}
    (h : Bound context recommendation now item action) :
    (resolveRecommendation recommendation context now :
        Except (Failure ε) (DelegationResult ⊕ (SoftwareIncUIAction × String))) =
      match SoftwareIncUIAction.named action with
      | some a => .ok (.inr (a, item.objective))
      | none => .error (.raised .external) := by
  obtain ⟨response, rfl, hitem, hcurrent, haction, state, hstate, hsession, hsave, hfingerprint⟩ := h
  have hexecutable : item.executable = true := by rw [item.executable_iff, haction]; rfl
  have hsame : (some state).filter (fun state => response.gameSessionId = some state.gameSessionId &&
      response.saveIdentity = state.saveIdentity &&
      response.capabilityFingerprint = context.capabilities.capabilityFingerprint) = some state := by
    simp [Option.filter, hsession, hsave, hfingerprint]
  simp only [resolveRecommendation, Option.bind_some, hitem, Option.map_some, hcurrent, haction, hexecutable,
    Option.filter_some, hstate, not_true_eq_false, ↓reduceIte]
  rw [Option.filter_some] at hsame
  simp only [hsame]

theorem blocked_ok {r : DelegationResult} (hvalid : r.valid = true) (hstatus : r.status = .blocked) :
    ∃ result, (Sum.inl <$> conclude r : Except (Failure ε) (DelegationResult ⊕ (SoftwareIncUIAction × String))) =
      .ok (.inl result) ∧ result.status = .blocked := by
  rw [conclude_ok hvalid]
  exact ⟨r, rfl, hstatus⟩

/-- A recommendation that is not bound is answered with why. -/
theorem resolveRecommendation_unbound (h : ∀ item action, ¬ Bound context recommendation now item action) :
    ∃ result, (resolveRecommendation recommendation context now :
        Except (Failure ε) (DelegationResult ⊕ (SoftwareIncUIAction × String))) = .ok (.inl result) ∧
      result.status = .blocked := by
  cases hfound : recommendation.bind fun r => r.recommended.map fun item => (r, item) with
  | none =>
    simp only [resolveRecommendation, hfound]
    exact blocked_ok (valid_of_sized (by exact sized_ofList rfl) rfl (by exact sized_ofList rfl)) rfl
  | some found =>
    obtain ⟨response, item⟩ := found
    simp only [resolveRecommendation, hfound]
    by_cases hcurrent : now < response.expiresAt
    · rw [if_neg (not_not.mpr hcurrent)]
      cases haction : item.action.filter fun _ => item.executable with
      | none => exact blocked_ok (valid_of_sized (objective_sized item) rfl (by exact sized_ofList rfl)) rfl
      | some action =>
        cases hstate : context.state.filter fun state => response.gameSessionId = some state.gameSessionId &&
            response.saveIdentity = state.saveIdentity &&
            response.capabilityFingerprint = context.capabilities.capabilityFingerprint with
        | none =>
          exact blocked_ok (valid_of_sized (objective_sized item) (action_sized item)
            (by exact sized_append_ofList rfl)) rfl
        | some state =>
          obtain ⟨response', hresponse, hmap⟩ := Option.bind_eq_some_iff.mp hfound
          obtain ⟨item', hitem, hpair⟩ := Option.map_eq_some_iff.mp hmap
          cases hpair
          obtain ⟨haction, -⟩ := Option.filter_eq_some_iff.mp haction
          obtain ⟨hstate, hsame⟩ := Option.filter_eq_some_iff.mp hstate
          simp only [Bool.and_eq_true, decide_eq_true_eq] at hsame
          exact absurd ⟨response, hresponse, hitem, hcurrent, haction, state, hstate, hsame.1.1, hsame.1.2, hsame.2⟩
            (h item action)
    · rw [if_pos hcurrent]
      exact blocked_ok (valid_of_sized (objective_sized item) (action_sized item) (by exact sized_ofList rfl)) rfl

end

/-! ## Delegating -/

section
variable {ε : Type} {T : Tables} {objective : String} {context : DelegationContext} {now : Timestamp}
  {recommendation : Option RecommendationResponse} {digest : List GuidedActionCapability → Detection → String}
  {d : Detection} {executor : SoftwareIncUIAction → Except ε UIDoResult} {names : SoftwareIncUIAction → Prop}

theorem exact_of_uncompleted {result : DelegationResult} (h : result.status ≠ .completed) :
    Exact context names executor ([], .ok result) where
  total := fun _ he => nomatch he
  once := Nat.zero_le 1
  permitted := fun _ ha => nomatch ha
  completed := by
    rintro _ ⟨rfl⟩ hstatus
    exact absurd hstatus h

theorem exact_conclude {r : DelegationResult} (hvalid : r.valid = true) (h : r.status ≠ .completed) :
    Exact context names executor ([], conclude r) := by
  rw [conclude_ok hvalid]
  exact exact_of_uncompleted h

/-- An action that is performed if it is permitted is carried out exactly. -/
theorem exact_carryOut {a : SoftwareIncUIAction} (hview : context.capabilities = guidedCapabilityView digest d)
    (hobjective : sized 1 2048 objective = true) (hname : names a)
    (hperformed : Permitted d context a → (uiAction a).isSome = true) :
    Exact context names executor (carryOut executor context a objective) := by
  by_cases hpermitted : Permitted d context a
  · obtain ⟨hcalls, houtcome⟩ := carryOut_permitted executor hview hobjective hpermitted
    obtain ⟨hlive, hcompatible, hstate⟩ := hpermitted
    refine ⟨fun e he => ?_, by rw [hcalls]; exact Nat.le_refl 1, fun b hb => ?_, fun result hresult _ => ?_⟩
    · rw [hcalls]
      refine ⟨a, List.mem_singleton_self a, ?_⟩
      cases hdone : executor a with
      | error x =>
        rw [hdone] at houtcome
        exact ⟨x, rfl, Except.error.inj (he.symm.trans houtcome)⟩
      | ok done =>
        rw [hdone] at houtcome
        obtain ⟨result, hok, -⟩ := houtcome
        cases he.symm.trans hok
    · rw [hcalls] at hb
      cases List.mem_singleton.mp hb
      refine ⟨hname, ⟨_, by rw [hview]; exact actionCapability_view a, ?_, hcompatible⟩, hstate⟩
      exact decide_eq_true hlive
    · cases hdone : executor a with
      | error x =>
        rw [hdone] at houtcome
        cases hresult.symm.trans houtcome
      | ok done =>
        rw [hdone] at houtcome
        obtain ⟨result', hok, haction, -⟩ := houtcome
        cases hresult.symm.trans hok
        exact ⟨a, haction, hperformed ⟨hlive, hcompatible, hstate⟩⟩
  · obtain ⟨result, hrun, hstatus⟩ := carryOut_refused executor hview hobjective hpermitted
    rw [hrun]
    exact exact_of_uncompleted (by rw [hstatus]; decide)

theorem delegatesExactly_of_delegable (hview : context.capabilities = guidedCapabilityView digest d)
    (hobjective : sized 1 2048 objective = true)
    (h : Delegable T objective context recommendation now d.currentlyCompatible) :
    DelegatesExactly T objective context recommendation now ε := by
  intro executor
  unfold delegate
  cases hplan : asksForPlan T objective with
  | true =>
    rw [if_pos rfl]
    by_cases hbound : ∃ item action, Bound context recommendation now item action
    · obtain ⟨item, action, hbound⟩ := hbound
      obtain ⟨a, hnamed, hperformed⟩ := h.performed hplan item action hbound
      rw [resolveRecommendation_bound hbound, hnamed]
      refine exact_carryOut hview (objective_sized item) ?_ fun hpermitted => hperformed hpermitted.1 hpermitted.2.1
      obtain ⟨response, hresponse, hitem, -, haction, -⟩ := hbound
      rw [Names, if_pos hplan]
      exact ⟨response, item, hresponse, hitem, by rw [haction, SoftwareIncUIAction.value_of_named hnamed]⟩
    · have hunbound : ∀ item action, ¬ Bound context recommendation now item action :=
        fun item action hb => hbound ⟨item, action, hb⟩
      obtain ⟨result, hresult, hstatus⟩ := resolveRecommendation_unbound (ε := ε) hunbound
      rw [hresult]
      exact exact_of_uncompleted (by rw [hstatus]; decide)
  | false =>
    rw [if_neg Bool.false_ne_true]
    rcases parseObjective_cases (T := T) objective with ⟨-, found, hfound, hperformed⟩ | ⟨hwithin, -⟩
    · rw [hfound]
      cases found with
      | none =>
        refine exact_conclude (valid_of_sized hobjective rfl (by exact sized_append_ofList rfl)) ?_
        dsimp only
        decide
      | some a =>
        refine exact_carryOut hview hobjective ?_ fun hpermitted => hperformed a rfl hpermitted.1
        rw [Names, hplan, if_neg Bool.false_ne_true]
        exact hfound
    · rw [h.fits hplan] at hwithin
      cases hwithin

/-- An executor that succeeds, whatever the action. -/
def verifies (_ : SoftwareIncUIAction) : Except ε UIDoResult :=
  .ok { gesturesSent := 1, verified := true, message := "verified", message_sized := by decide }

theorem not_exact_raised {e : UIError} : ¬ Exact context names executor ([], .error (.raised e)) := by
  intro h
  obtain ⟨a, ha, -⟩ := h.total _ rfl
  cases ha

theorem delegable_of_delegatesExactly (hview : context.capabilities = guidedCapabilityView digest d)
    (h : DelegatesExactly T objective context recommendation now ε) :
    Delegable T objective context recommendation now d.currentlyCompatible := by
  have hrun := h verifies
  unfold delegate at hrun
  constructor
  · intro hplan
    rw [hplan, if_neg Bool.false_ne_true] at hrun
    rcases parseObjective_cases (T := T) objective with ⟨hwithin, -⟩ | ⟨-, e, he⟩
    · exact hwithin
    · rw [he] at hrun
      exact absurd hrun not_exact_raised
  · intro hplan item action hbound
    rw [hplan, if_pos rfl, resolveRecommendation_bound hbound] at hrun
    cases hnamed : SoftwareIncUIAction.named action with
    | none =>
      rw [hnamed] at hrun
      exact absurd hrun not_exact_raised
    | some a =>
      rw [hnamed] at hrun
      refine ⟨a, rfl, fun hlive hcompatible => ?_⟩
      obtain ⟨response, -, -, -, -, state, hstate, -⟩ := hbound
      have hpermitted : Permitted d context a := ⟨hlive, hcompatible, by rw [hstate]; rfl⟩
      obtain ⟨-, result, hok, haction, hstatus⟩ :=
        carryOut_permitted (verifies (ε := ε)) hview (objective_sized item) hpermitted
      -- what the executor verified is reported as completed
      obtain ⟨b, hb, hperformed⟩ := hrun.completed result hok (hstatus.mpr rfl)
      have hvalue : b.value = a.value := Option.some.inj (hb.symm.trans haction)
      have hnamed := b.named_value
      rw [hvalue, a.named_value] at hnamed
      cases hnamed
      exact hperformed

/-- Delegation is total and exact exactly when the objective is within the limits of its intent, and the action
of a bound recommendation exists and is performed if it is sent. -/
theorem delegatesExactly_iff (hview : context.capabilities = guidedCapabilityView digest d)
    (hobjective : sized 1 2048 objective = true) :
    DelegatesExactly T objective context recommendation now ε ↔
      Delegable T objective context recommendation now d.currentlyCompatible :=
  ⟨delegable_of_delegatesExactly hview, delegatesExactly_of_delegable hview hobjective⟩

end

/-! ## Hours that end before they begin -/

section Example

/-- The tables for ASCII texts. -/
def asciiTables : Tables where
  space := fun c => c = ' '
  digit := fun c => if c.isDigit then some (c.toNat - '0'.toNat) else none
  alike := fun p c => p.toLower = c.toLower
  fold := casefold
  title := fun s => String.ofList ((s.toList.take 1).map Char.toUpper ++ (s.toList.drop 1).map Char.toLower)

/-- No game is found. -/
def undetected : Detection where
  productVersion := none
  steamBuildId := none
  snapshot := none
  bridgeReport := none
  knowledgeTopics := []

def unread (_ : List GuidedActionCapability) (_ : Detection) : String := ""

def undetectedContext : DelegationContext where
  state := none
  snapshotError := none
  capabilities := guidedCapabilityView unread undetected

theorem undetectedContext_capabilities : undetectedContext.capabilities = guidedCapabilityView unread undetected := rfl

def backwardHours : String := "set core working hours to 20-8"

theorem delegatesExactly_iff_backwardHours :
    DelegatesExactly asciiTables backwardHours undetectedContext none 0 Unit ↔
      Delegable asciiTables backwardHours undetectedContext none 0 undetected.currentlyCompatible :=
  delegatesExactly_iff undetectedContext_capabilities (by decide)

theorem not_delegatesExactly_backwardHours : ¬ ∀ (T : Tables) (objective : String) (context : DelegationContext)
    (recommendation : Option RecommendationResponse) (now : Timestamp)
    (digest : List GuidedActionCapability → Detection → String) (d : Detection),
    context.capabilities = guidedCapabilityView digest d → sized 1 2048 objective = true →
    DelegatesExactly T objective context recommendation now Unit := by
  intro h
  have hdelegable := delegable_of_delegatesExactly undetectedContext_capabilities
    (h asciiTables backwardHours undetectedContext none 0 unread undetected undetectedContext_capabilities (by decide))
  have hplan : asksForPlan asciiTables backwardHours = false := by decide +kernel
  have hwithin : within asciiTables backwardHours = false := by decide +kernel
  exact Bool.false_ne_true (hwithin.symm.trans (hdelegable.fits hplan))

end Example

end SimPilot.SoftwareInc.Guidance
