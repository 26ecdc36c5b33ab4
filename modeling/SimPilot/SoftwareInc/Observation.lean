import SimPilot.GameBridge.Models
import SimPilot.Domain.Text
import SimPilot.Data.Except
/-!
# What the Software Inc. operators see (software_inc/ui/models.py)

One observation is a snapshot of the bridge with the frame of the game window it was matched
to, the scene and the targets that were recognised on it. A number of a snapshot is the
decimal its `str` shows. Whitespace and letter case are those of ASCII text.

| here | there |
|---|---|
| `UIError` | software_inc/errors.py, and what the models and outside calls raise |
| `Observation` | `SoftwareIncUIObservation` (ui/models.py:266) |
| `VisualTarget` | ui/models.py:253 |
-/

namespace SimPilot.SoftwareInc

open GameBridge

inductive UIError where
  /-- `SoftwareIncUIValidationError` -/
  | validation (message : String)
  /-- `SoftwareIncUIObservationError` -/
  | observation (message : String)
  /-- `SoftwareIncUIVerificationError` -/
  | verification (message : String)
  /-- A model of pydantic refuses its fields. -/
  | model
  /-- An `assert` fails. -/
  | assertion
  /-- An outside call raises. -/
  | external
  deriving DecidableEq, Repr

/-! ## Results -/

theorem eq_ok_of_toOption {ε α : Type} {x : Except ε α} {a : α} (h : x.toOption = some a) : x = .ok a := by
  cases x with
  | error e => cases h
  | ok b =>
    cases h
    rfl

/-! ## Text -/

def casefold (s : String) : String := s.map Char.toLower

/-- `" ".join(value.split())` -/
def normalizeSpaces (s : String) : String :=
  " ".intercalate (((s.toList.splitOnP isSpace).filter (· ≠ [])).map String.ofList)

/-- `f"{q:,.2f}"` -/
def usd (q : ℚ) : String :=
  let cents := (roundEven (|q| * 100)).toNat
  let digits := (toString (cents / 100)).toList.reverse
  let groups := (digits.toChunks 3).map fun group => String.ofList group.reverse
  (if q < 0 ∧ cents ≠ 0 then "-" else "") ++ ",".intercalate groups.reverse ++ "." ++ padLeft 2 (cents % 100)

/-- Four hexadecimal digits. -/
def hex4 (n : Nat) : String :=
  String.ofList ([n / 4096, n / 256, n / 16, n].map fun d => Nat.digitChar (d % 16))

/-- A character in a string of `json.dumps`. -/
def jsonChar (c : Char) : String :=
  if c = '"' then "\\\"" else if c = '\\' then "\\\\" else if c = '\n' then "\\n" else if c = '\r' then "\\r"
  else if c = '\t' then "\\t" else if c.toNat = 8 then "\\b" else if c.toNat = 12 then "\\f"
  else if 32 ≤ c.toNat ∧ c.toNat < 127 then c.toString
  else String.join ((TextOrder.units c).map fun u => "\\u" ++ hex4 u)

def jsonString (s : String) : String := "\"" ++ String.join (s.toList.map jsonChar) ++ "\""

def jsonOption : Option String → String
  | none => "null"
  | some s => jsonString s

def statusText : IdentityStatus → String
  | .observed => "observed"
  | .unavailable => "unavailable"

/-- `json.dumps(snapshot.save_identity.model_dump(mode="json"), sort_keys=True)` -/
def saveIdentityText (i : Identity) : String :=
  "\x7b\"detail\": " ++ jsonOption i.detail ++ ", \"label\": " ++ jsonOption i.label ++ ", \"status\": " ++
    jsonString (statusText i.status) ++ ", \"value\": " ++ jsonOption i.value ++ "\x7d"

/-! ## Observations -/

inductive Scene where
  | gameplayPaused | gameplayRunning | pauseMenu | managementNavigation | manageTeams | createTeamForm | hiringSetup
  | applicantList | hiringConfirmation | hiringComplete | employeeManagement | education | roleSelection
  | serverManagement | buildSearch | buildMode | furniturePlacement | roomContextMenu | roomTeamSelection
  | contractBrowser | contractTeamSelection | contractReviewSetup | contractReviewResult | productConfiguration
  | productTeamSelection | blockingModal | unknown
  deriving DecidableEq, Repr

def Scene.value : Scene → String
  | gameplayPaused => "gameplay_paused"
  | gameplayRunning => "gameplay_running"
  | pauseMenu => "pause_menu"
  | managementNavigation => "management_navigation"
  | manageTeams => "manage_teams"
  | createTeamForm => "create_team_form"
  | hiringSetup => "hiring_setup"
  | applicantList => "applicant_list"
  | hiringConfirmation => "hiring_confirmation"
  | hiringComplete => "hiring_complete"
  | employeeManagement => "employee_management"
  | education => "education"
  | roleSelection => "role_selection"
  | serverManagement => "server_management"
  | buildSearch => "build_search"
  | buildMode => "build_mode"
  | furniturePlacement => "furniture_placement"
  | roomContextMenu => "room_context_menu"
  | roomTeamSelection => "room_team_selection"
  | contractBrowser => "contract_browser"
  | contractTeamSelection => "contract_team_selection"
  | contractReviewSetup => "contract_review_setup"
  | contractReviewResult => "contract_review_result"
  | productConfiguration => "product_configuration"
  | productTeamSelection => "product_team_selection"
  | blockingModal => "blocking_modal"
  | unknown => "unknown"

inductive ModalState where
  | none | blocking | unknown
  deriving DecidableEq, Repr

def ModalState.value : ModalState → String
  | none => "none"
  | blocking => "blocking"
  | unknown => "unknown"

structure DesktopFrame where
  frameId : String
  processId : Nat
  windowId : String
  deriving DecidableEq, Repr

structure VisualTarget where
  targetId : String
  sourceFrameId : String
  /-- Whether the target has a point to click. -/
  point : Bool
  confidence : ℚ
  expiresAt : Timestamp
  deriving DecidableEq, Repr

structure Observation where
  semanticAfter : GameSnapshot
  frame : DesktopFrame
  scene : Scene
  modalState : ModalState
  projectionId : String
  targets : List VisualTarget

/-- `SoftwareIncUIObservation.paused` (ui/models.py:280) -/
def Observation.paused (o : Observation) : Bool :=
  ((o.semanticAfter.gameState.get "force_pause").any fun v => v.boolean? = some true) ||
    ((o.semanticAfter.gameState.get "simulation_speed").any fun v => v.string? = some "0" || v.string? = some "0.0")

/-- `state.get(key)` of a text, which has more than whitespace unless `allowEmpty`. -/
def textOf (values : Members) (key : String) (allowEmpty : Bool) : Option String := do
  let s ← (← values.get key).string?
  guard (allowEmpty = true ∨ strip s ≠ "")
  return s

def coverageText : GameBridge.CoverageStatus → String
  | .observedComplete => "observed_complete"
  | .observedPartial => "observed_partial"
  | .unsupported => "unsupported"
  | .unavailable => "unavailable"
  | .failed => "failed"

/-- The surfaces of a name. -/
def surfacesNamed (snapshot : GameSnapshot) (name : String) : List ObservationSurface :=
  snapshot.surfaces.filter (·.coverage.surface = name)

end SimPilot.SoftwareInc
