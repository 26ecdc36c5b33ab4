import SimPilot.SoftwareInc.Operator
/-!
# One visible-UI action (software_inc/ui/controller.py)

`execute_ui_action` observes the game, clicks at most two targets and traces what it sent. What
the observer, its backend and the clock reply is the reply of a `UiCall`; the trace writer does
not fail. A gesture is written here with what the controller puts into it, less its creation time.

| here | there |
|---|---|
| `UiCall` | `observer.observe`, `observer.backend.execute`, the trace writer, `datetime.now(UTC)` |
| `UiObservation` | `SoftwareIncUIObservation`, with the geometry of its frame |
| `Raised` | a subclass of `Exception`, or what `except Exception` does not catch |
| `clickManageTeams` | `_execute_open_manage_teams` (controller.py:213) from `_target` on |
| `digest` | `hashlib.sha256` of the canonical JSON |
-/

namespace SimPilot.SoftwareInc.Ui

open GameBridge Effect

/-! ## Values -/

inductive Raised where
  | error (e : UIError)
  /-- The awaiting task is cancelled, or the process interrupted. -/
  | interrupted
  deriving DecidableEq, Repr

/-- `SoftwareIncUIAction`, as far as `parse_ui_action` returns it. -/
inductive UiAction where
  | pause
  | resume
  | openManageTeams
  deriving DecidableEq, Repr

/-- computer_control/models.py:22 -/
structure WindowBounds where
  x : Int
  y : Int
  width : Nat
  height : Nat
  deriving DecidableEq, Repr

/-- The fields of a `DesktopFrame` that place its window on the desktop. -/
structure WindowPlacement where
  bounds : WindowBounds
  contentBounds : Option WindowBounds
  visibleRegions : List WindowBounds
  displayIds : List String
  deriving DecidableEq, Repr

structure UiObservation extends Observation where
  window : WindowPlacement

structure ClickGesture extends InputGesture where
  expectedWindowBounds : WindowBounds
  deriving DecidableEq, Repr

/-- `SoftwareIncUITraceRecord` (ui/models.py:351) -/
structure TraceRecord where
  action : UiAction
  cycle : Nat
  observationFrameId : String
  bridgeSequence : Int
  scene : Scene
  projectionId : String
  targetId : Option String
  gesture : Option ClickGesture
  inputSent : Bool
  verified : Bool
  reason : String
  recordedAt : Timestamp
  deriving DecidableEq, Repr

/-- `SoftwareIncUIDoResult` (ui/models.py:335) -/
structure DoResult where
  action : UiAction
  before : UiObservation
  after : UiObservation
  gesturesSent : Nat
  cycles : Nat
  dryRun : Bool
  verified : Bool
  expectedDifferences : List String
  message : String
  completedAt : Timestamp

/-! ## Calls -/

inductive UiCall where
  | observe
  | execute (gesture : ClickGesture)
  | trace (record : TraceRecord)
  | now

@[reducible] def UiReply : UiCall → Type
  | .observe => Except Raised UiObservation
  | .execute _ => Except Raised Unit
  | .trace _ => Unit
  | .now => Timestamp

abbrev Controller (α : Type) : Type := Py UiCall UiReply Raised Unit α

variable {α : Type}

def observe : Controller UiObservation := do
  Py.lift (← Py.perform UiCall.observe)

def execute (gesture : ClickGesture) : Controller Unit := do
  Py.lift (← Py.perform (UiCall.execute gesture))

def now : Controller Timestamp := Py.perform UiCall.now

def raise (e : UIError) : Controller α := Py.raise (.error e)

/-- `_trace` -/
def trace (action : UiAction) (cycle : Nat) (observation : UiObservation) (targetId : Option String)
    (gesture : Option ClickGesture) (inputSent verified : Bool) (reason : String) : Controller Unit := do
  let recordedAt ← now
  Py.perform (UiCall.trace
    { action
      cycle
      observationFrameId := observation.frame.frameId
      bridgeSequence := observation.semanticAfter.bridgeSequence
      scene := observation.scene
      projectionId := observation.projectionId
      targetId
      gesture
      inputSent
      verified
      reason
      recordedAt })

/-- `_result` -/
def result (action : UiAction) (before after : UiObservation) (gesturesSent cycles : Nat) (dryRun : Bool)
    (message : String) (expectedDifferences : List String) : Controller DoResult := do
  let completedAt ← now
  return { action, before, after, gesturesSent, cycles, dryRun, verified := true, expectedDifferences, message
           completedAt }

/-! ## Checks -/

/-- `_TEAM_MANAGEMENT_SCENES` -/
def managesTeams (scene : Scene) : Bool := scene ∈ [.manageTeams, .createTeamForm]

/-- `_require_actionable` -/
def requireActionable (o : UiObservation) : Except UIError Unit :=
  if o.modalState ≠ .none then
    .error (.observation ("cannot act while modal state is " ++ o.modalState.value))
  else if o.scene = .unknown ∨ o.scene = .blockingModal then
    .error (.observation ("cannot act from scene " ++ o.scene.value))
  else .ok ()

/-- A target that resolved, as it may still be clicked at `now`. -/
def freshTarget (o : UiObservation) (now : Timestamp) (t : VisualTarget) : Except UIError VisualTarget :=
  if t.confidence < 4 / 5 ∨ t.sourceFrameId ≠ o.frame.frameId then
    .error (.validation "resolved target is ambiguous or stale")
  else if t.expiresAt ≤ now then
    .error (.validation "resolved target expired before gesture construction")
  else .ok t

/-- A value, or an exception of the controller. -/
def check (r : Except UIError α) : Controller α := Py.lift (r.mapError .error)

/-- `_target` -/
def target (o : UiObservation) (targetId : String) : Controller VisualTarget :=
  match targetsNamed o.toObservation targetId with
  | [t] => do check (freshTarget o (← now) t)
  | _ => raise (.validation ("target " ++ strRepr targetId ++ " did not resolve exactly once in the fresh frame"))

/-- `_click_gesture` -/
def clickGesture (o : UiObservation) (t : VisualTarget) (effect : String) : Except UIError ClickGesture :=
  if ¬ t.point then .error (.validation "click target has no resolved current-frame point")
  else .ok
    { kind := .click
      expectedProcessId := o.frame.processId
      expectedWindowId := o.frame.windowId
      expectedWindowBounds := o.window.bounds
      expectedFrameId := o.frame.frameId
      expectedScene := o.scene.value
      targetId := t.targetId
      intendedEffect := effect }

/-- The bridge, game, save, process and window of an observation are those of an earlier one. -/
def Continuous (before after : UiObservation) : Prop :=
  let left := before.semanticAfter
  let right := after.semanticAfter
  ¬ (left.bridgeInstanceId ≠ right.bridgeInstanceId ∨ left.gameSessionId ≠ right.gameSessionId ∨
      left.saveIdentity ≠ right.saveIdentity ∨ right.bridgeSequence ≤ left.bridgeSequence ∨
      before.frame.processId ≠ after.frame.processId ∨ before.frame.windowId ≠ after.frame.windowId ∨
      before.window.bounds ≠ after.window.bounds ∨ before.window.contentBounds ≠ after.window.contentBounds ∨
      before.window.visibleRegions ≠ after.window.visibleRegions ∨
      before.window.displayIds ≠ after.window.displayIds)

instance (before after : UiObservation) : Decidable (Continuous before after) := by
  unfold Continuous
  infer_instance

/-- `_require_identity_continuity` -/
def requireIdentityContinuity (before after : UiObservation) : Except UIError Unit :=
  if Continuous before after then .ok ()
  else .error (.verification "bridge, game, save, process, or window identity changed; no retry attempted")

/-- What `_semantic_fingerprint` digests. -/
structure SemanticPayload where
  bridgeInstanceId : String
  gameSessionId : String
  saveIdentity : Identity
  gameState : Members
  surfaces : List ObservationSurface

variable (digest : SemanticPayload → String)

/-- `_semantic_fingerprint` -/
def semanticFingerprint (snapshot : GameSnapshot) : String :=
  digest
    { bridgeInstanceId := snapshot.bridgeInstanceId
      gameSessionId := snapshot.gameSessionId
      saveIdentity := snapshot.saveIdentity
      gameState := snapshot.gameState
      surfaces := snapshot.surfaces.filter fun s => s.coverage.surface ∉ ["office_ui", "staffing_ui"] }

/-! ## The actions -/

/-- The time-control postcondition. -/
def TimeShown (wantsPaused : Bool) (o : UiObservation) : Prop :=
  o.paused = wantsPaused ∧ o.scene = if wantsPaused then .gameplayPaused else .gameplayRunning

instance (wantsPaused : Bool) (o : UiObservation) : Decidable (TimeShown wantsPaused o) :=
  inferInstanceAs (Decidable (_ ∧ _))

/-- `wants_paused` -/
def UiAction.wantsPaused (action : UiAction) : Bool := action = .pause

/-- The target of a time control. -/
def timeTarget (wantsPaused : Bool) : String := if wantsPaused then "pause_button" else "resume_button"

/-- `_execute_time_control` -/
def executeTimeControl (action : UiAction) (before : UiObservation) (dryRun : Bool) (cycle : Nat) :
    Controller DoResult := do
  let wantsPaused := action.wantsPaused
  if before.paused = wantsPaused then
    trace action cycle before (timeTarget wantsPaused) none false true
      "requested simulation state was already observed"
    result action before before 0 cycle dryRun
      ("Software Inc. is already " ++ (if wantsPaused then "paused" else "running") ++ ".") []
  else
  let target ← target before (timeTarget wantsPaused)
  let gesture ← check (clickGesture before target (if wantsPaused then "pause simulation" else "resume simulation"))
  if dryRun then
    trace action cycle before target.targetId gesture false true "dry run validated one bounded key gesture"
    result action before before 0 cycle true
      ("Dry run: would " ++ (if wantsPaused then "pause" else "resume") ++ " with one visible time-control click.") []
  else
  execute gesture
  let after ← Py.tryCatch observe fun
    | .interrupted => Py.raise .interrupted
    | .error _ => do
      trace action cycle before target.targetId gesture true false
        "fresh post-input observation failed; no retry attempted"
      raise (.verification "time-control input was sent but fresh verification failed; no retry attempted")
  if ¬ TimeShown wantsPaused after then
    trace action cycle after target.targetId gesture true false
      "semantic and visual time-control postcondition was not observed"
    raise (.verification "time-control gesture effect was not independently verified; no retry attempted")
  else
  check (requireIdentityContinuity before after)
  trace action cycle after target.targetId gesture true true "semantic and visual time-control postcondition verified"
  result action before after 1 cycle false
    ("Software Inc. " ++ (if wantsPaused then "paused" else "resumed") ++ "; effect verified.")
    ["game_state.force_pause", "game_state.simulation_speed"]

def clickManageTeams (before current : UiObservation) (dryRun : Bool) (gestures cycle : Nat) : Controller DoResult := do
  let target ← target current "manage_teams_button"
  let gesture ← check (clickGesture current target "open the Manage Teams management window")
  if dryRun then
    trace .openManageTeams cycle current target.targetId gesture false true
      "dry run resolved one fresh anchored management target"
    result .openManageTeams before current 0 cycle true
      "Dry run: would click the current-frame Manage Teams target." []
  else
  let semanticBeforeClick := semanticFingerprint digest current.semanticAfter
  execute gesture
  let firstAfter ← Py.tryCatch observe fun
    | .interrupted => Py.raise .interrupted
    | .error _ => do
      trace .openManageTeams cycle current target.targetId gesture true false
        "post-click observation failed; no retry attempted"
      raise (.verification "Manage Teams click was sent but fresh verification failed; no retry attempted")
  check (requireIdentityContinuity current firstAfter)
  let after ← if ¬ managesTeams firstAfter.scene then do
      let after ← observe
      check (requireIdentityContinuity firstAfter after)
      pure after
    else pure firstAfter
  let semanticAfterClick := semanticFingerprint digest after.semanticAfter
  if ¬ managesTeams after.scene then
    trace .openManageTeams cycle after target.targetId gesture true false
      "fresh frame did not recognize Manage Teams; no retry attempted"
    raise (.verification "management click did not produce the verified Manage Teams scene; no retry attempted")
  else if semanticBeforeClick ≠ semanticAfterClick then
    raise (.verification "opening Manage Teams changed gameplay semantics; no retry attempted")
  else
  trace .openManageTeams cycle after target.targetId gesture true true
    "Manage Teams recognized and gameplay semantics remained unchanged"
  result .openManageTeams before after (gestures + 1) cycle false
    "Manage Teams opened through the visible UI and verified." []

/-- `_execute_open_manage_teams` -/
def executeOpenManageTeams (before : UiObservation) (dryRun : Bool) : Controller DoResult := do
  if managesTeams before.scene then
    trace .openManageTeams 1 before none none false true "Manage Teams was already visibly open"
    result .openManageTeams before before 0 1 dryRun "Manage Teams is already visibly open." []
  else if before.paused then
    clickManageTeams digest before before dryRun 0 1
  else
  let pauseResult ← executeTimeControl .pause before dryRun 1
  if dryRun then
    result .openManageTeams before pauseResult.after 0 1 true
      "Dry run: the next cycle would pause before opening Manage Teams." []
  else
  let current ← observe
  check (requireActionable current)
  clickManageTeams digest before current dryRun pauseResult.gesturesSent 2

/-- controller.py:53 -/
def executeUiAction (action : UiAction) (dryRun : Bool) : Controller DoResult := do
  let before ← observe
  if action = .openManageTeams ∧ managesTeams before.scene then
    executeOpenManageTeams digest before dryRun
  else
  check (requireActionable before)
  if action = .openManageTeams then
    executeOpenManageTeams digest before dryRun
  else
    executeTimeControl action before dryRun 1

end SimPilot.SoftwareInc.Ui
