import Mathlib.Data.List.Infix
import SimPilot.Effect.Run
import SimPilot.SoftwareInc.Observation
/-!
# What the operators of Software Inc. share (contracts, products and training operator.py)

An operator observes the game, sends gestures and keeps a workflow in a store. The three
operator modules hold the same helpers with different texts: they are one definition with a
`Wording`. What an outside call does is its reply; `datetime.now(UTC)` is one too.

| here | there |
|---|---|
| `Call`, `Reply` | the observer, its backend, the store, the approval provider, the clock |
| `click`, `key` | `_click`, `_key` |
| `target`, `requireActionable`, `requireContinuity` | `_target`, `_require_actionable`, `_require_continuity` |
-/

namespace SimPilot.SoftwareInc

open GameBridge Effect

/-! ## Calls -/

inductive GestureKind where
  | click
  | key (code : Nat)
  deriving DecidableEq, Repr

/-- `InputGesture` (computer_control/models.py:92) -/
structure InputGesture where
  kind : GestureKind
  expectedProcessId : Nat
  expectedWindowId : String
  expectedFrameId : String
  expectedScene : String
  targetId : String
  intendedEffect : String
  deriving DecidableEq, Repr

/-- What an operator calls, for workflows `W` known by an `I`, approvals `A` and events `E`. -/
inductive Call (I W A E : Type) where
  | observe
  | execute (gesture : InputGesture)
  | sleep (seconds : ℚ)
  | keepGameForeground
  | approve (pending : A)
  | save (workflow : W)
  | get (workflowId : I)
  | current (gameSessionId saveIdentity : String)
  | events (workflowId : I)
  | appendEvent (event : E)
  | uuid4
  | now

variable {I W A E σ α : Type}

/-- A call that fails raises its error; `events` replies how many there are. -/
@[reducible] def Reply : Call I W A E → Type
  | .observe => Except UIError Observation
  | .execute _ | .sleep _ | .keepGameForeground | .save _ | .appendEvent _ => Except UIError Unit
  | .approve _ => Except UIError Bool
  | .get _ | .current _ _ => Except UIError (Option W)
  | .events _ => Except UIError Nat
  | .uuid4 => Nat
  | .now => Timestamp

/-- The locals of an operator that runs a bounded interval: what its cleanup found, and the gestures it sent. -/
abbrev Cleanup : Type := Option (Observation × Nat)

/-- An operator with locals `σ`. -/
abbrev Operation (I W A E σ α : Type) : Type := Py (Call I W A E) Reply UIError σ α

namespace Operation

def observe : Operation I W A E σ Observation := do
  Py.lift (← Py.perform Call.observe)

def execute (gesture : InputGesture) : Operation I W A E σ Unit := do
  Py.lift (← Py.perform (Call.execute gesture))

def sleep (seconds : ℚ) : Operation I W A E σ Unit := do
  Py.lift (← Py.perform (Call.sleep seconds))

def keepGameForeground : Operation I W A E σ Unit := do
  Py.lift (← Py.perform Call.keepGameForeground)

def approve (pending : A) : Operation I W A E σ Bool := do
  Py.lift (← Py.perform (Call.approve pending))

def save (workflow : W) : Operation I W A E σ Unit := do
  Py.lift (← Py.perform (Call.save workflow))

def get (workflowId : I) : Operation I W A E σ (Option W) := do
  Py.lift (← Py.perform (Call.get workflowId))

def current (gameSessionId saveIdentity : String) : Operation I W A E σ (Option W) := do
  Py.lift (← Py.perform (Call.current gameSessionId saveIdentity))

def events (workflowId : I) : Operation I W A E σ Nat := do
  Py.lift (← Py.perform (Call.events workflowId))

def appendEvent (event : E) : Operation I W A E σ Unit := do
  Py.lift (← Py.perform (Call.appendEvent event))

def uuid4 : Operation I W A E σ Nat := Py.perform Call.uuid4

def now : Operation I W A E σ Timestamp := Py.perform Call.now

/-- `if not condition: raise error` -/
def require (condition : Prop) [Decidable condition] (error : UIError) : Operation I W A E σ Unit :=
  if condition then pure () else Py.raise error

/-- `assert value is not None` -/
def assertSome : Option α → Operation I W A E σ α
  | some a => pure a
  | none => Py.raise .assertion

end Operation

/-! ## Values -/

/-- `str(value)` of a scalar. -/
def scalarText : GameBridge.JsonValue → String
  | .null => "None"
  | .boolean b => if b then "True" else "False"
  | .integer i => toString i
  | .number q => floatRepr q
  | .string s => s
  | .array _ | .object _ => ""

/-- `str(values.get(key, ""))` -/
def scalarAt (values : Members) (key : String) : String := ((values.get key).map scalarText).getD ""

/-- The value at a key where it is a bool. -/
def flagAt (values : Members) (key : String) : Option Bool := (values.get key).bind GameBridge.JsonValue.boolean?

/-- The value at a key where it is a number, as `Decimal(str(value))`. -/
def numberAt (values : Members) (key : String) : Option ℚ := (values.get key).bind GameBridge.JsonValue.number?

/-- The value at a key where it is an integer. -/
def integerAt (values : Members) (key : String) : Option Int := (values.get key).bind GameBridge.JsonValue.integer?

/-- The value at a key where it is a text. -/
def stringAt (values : Members) (key : String) : Option String := (values.get key).bind GameBridge.JsonValue.string?

/-- `left == right` of two scalars that may be missing, where a bool is the number it counts for. -/
def scalarsEqual (left right : Option GameBridge.JsonValue) : Bool :=
  match left.getD .null, right.getD .null with
  | .null, .null => true
  | .string a, .string b => a = b
  | a, b => match countsFor a, countsFor b with
    | some q, some r => q = r
    | _, _ => false
where
  countsFor : GameBridge.JsonValue → Option ℚ
    | .boolean b => some (if b then 1 else 0)
    | v => v.number?

/-- `part in text` -/
def inText (part text : String) : Bool := part.toList <:+: text.toList

/-- `value.split(separator)` without the empty parts. -/
def splitParts (separator : Char) (value : String) : List String :=
  ((value.toList.splitOn separator).filter (· ≠ [])).map String.ofList

/-! ## Helpers -/

/-- The texts and the settling time in which the operator modules differ. -/
structure Wording where
  /-- What cannot be operated while a modal is shown. -/
  subject : String
  /-- The words before the name of a scene. -/
  fromScene : String
  noPoint : String
  stale : String
  discontinuity : String
  settleSeconds : ℚ

variable (words : Wording)

def requireActionable (o : Observation) : Except UIError Unit :=
  if o.modalState ≠ .none then
    .error (.observation ("cannot operate " ++ words.subject ++ " while modal state is " ++ o.modalState.value))
  else if o.scene = .unknown ∨ o.scene = .blockingModal then
    .error (.observation ("cannot operate " ++ words.subject ++ words.fromScene ++ o.scene.value))
  else .ok ()

def requireContinuity (before after : Observation) : Except UIError Unit :=
  let left := before.semanticAfter
  let right := after.semanticAfter
  if left.bridgeInstanceId ≠ right.bridgeInstanceId ∨ left.gameSessionId ≠ right.gameSessionId ∨
      left.saveIdentity ≠ right.saveIdentity ∨ right.bridgeSequence ≤ left.bridgeSequence ∨
      before.frame.processId ≠ after.frame.processId ∨ before.frame.windowId ≠ after.frame.windowId then
    .error (.verification words.discontinuity)
  else .ok ()

/-- A target that resolved, as it may still be clicked at `now`. -/
def freshTarget (o : Observation) (now : Timestamp) (t : VisualTarget) : Except UIError VisualTarget :=
  if t.confidence < 4 / 5 ∨ t.sourceFrameId ≠ o.frame.frameId ∨ t.expiresAt ≤ now then
    .error (.validation words.stale)
  else .ok t

def targetsNamed (o : Observation) (targetId : String) : List VisualTarget :=
  o.targets.filter (·.targetId = targetId)

/-- `_target` -/
def target (o : Observation) (targetId : String) : Operation I W A E σ VisualTarget :=
  match targetsNamed o targetId with
  | [t] => do Py.lift (freshTarget words o (← Operation.now) t)
  | _ => Py.raise (.validation ("fresh target " ++ strRepr targetId ++ " did not resolve exactly once"))

/-- Send a gesture and observe what followed. `InputGesture` takes an effect of 1 to 512 characters. -/
def send (before : Observation) (kind : GestureKind) (targetId effect : String) : Operation I W A E σ Observation := do
  Operation.require (sized 1 512 effect = true) .model
  Operation.execute
    { kind
      expectedProcessId := before.frame.processId
      expectedWindowId := before.frame.windowId
      expectedFrameId := before.frame.frameId
      expectedScene := before.scene.value
      targetId
      intendedEffect := effect }
  Operation.sleep words.settleSeconds
  let after ← Operation.observe
  Py.lift (requireContinuity words before after)
  return after

def click (before : Observation) (t : VisualTarget) (effect : String) : Operation I W A E σ Observation :=
  if ¬ t.point then Py.raise (.validation words.noPoint)
  else send words before .click t.targetId effect

def key (before : Observation) (code : Nat) (targetId effect : String) : Operation I W A E σ Observation :=
  send words before (.key code) targetId effect

/-- `_pause_after_interval`, `_pause_after_bounded_interval` -/
def pauseAfterInterval (effect failure : String) : Operation I W A E σ (Observation × Nat) := do
  let current ← Operation.observe
  Py.lift (requireActionable words current)
  if current.paused then return (current, 0) else
  let paused ← click words current (← target words current "pause_button") effect
  Operation.require (paused.paused = true) (.verification failure)
  return (paused, 1)

/-- The wait with its `finally`, which leaves what the cleanup found in the locals. -/
def boundedInterval (runSeconds : ℚ) (effect failure : String) :
    Operation I W A E Cleanup (Observation × Nat) := do
  Py.tryFinally
    (do
      Operation.keepGameForeground
      Operation.sleep runSeconds)
    (do
      Py.setLocals (some (← pauseAfterInterval words effect failure)))
  Operation.assertSome (← Py.locals)

end SimPilot.SoftwareInc
