import SimPilot.ReferenceSimulation.Invariants
import SimPilot.Runtime.Verification
import SimPilot.Domain.Text
/-!
# `ReferenceSimulationAdapter` (adapters/reference/adapter.py)

The adapter shows the state of the simulation as an observation and reads an action of the
runtime as one of the simulation. A payload is the action's parameters behind its type, so
a parameter `type` is the type the simulation reads (adapter.py:211).

| here | there |
|---|---|
| `SimulationState.modelDump` | `state.model_dump(mode="json")` |
| `SimulationAction.validatePython` | `ACTION_ADAPTER.validate_python(payload, strict=True)` |
| `ReferenceSimulationAdapter` | the class |

The message of a malformed action ends where the text of the validator's error would begin.
-/

namespace SimPilot

/-! ## Observations -/

def Project.modelDump (p : Project) : Dict :=
  [("schema_version", .int 1), ("id", .uuid p.id), ("type", .str p.type.value), ("amount", .int p.amount),
    ("progress", .int p.progress), ("duration", .int p.duration), ("remaining_ticks", .int p.remainingTicks),
    ("total_cost", .float p.totalCost)]

def SimulationState.modelDump (s : SimulationState) : Dict :=
  [("schema_version", .int 1), ("tick", .int s.tick), ("cash", .float s.cash), ("debt", .float s.debt),
    ("population", .int s.population), ("housing", .int s.housing), ("power_capacity", .int s.powerCapacity),
    ("power_usage", .int s.powerUsage), ("infrastructure", .float s.infrastructure),
    ("maintenance_level", .float s.maintenanceLevel.value), ("income_per_tick", .float s.incomePerTick),
    ("expense_per_tick", .float s.expensePerTick), ("paused", .bool s.paused), ("failed", .bool s.failed),
    ("active_projects", .list (s.activeProjects.map fun p => .dict p.modelDump))]

/-- `f"{q:.2f}"` -/
def fixed2 (q : ℚ) : String :=
  let cents := (roundEven (|q| * 100)).toNat
  (if q < 0 then "-" else "") ++ toString (cents / 100) ++ "." ++ padLeft 2 (cents % 100)

theorem strip_eq_self {s : String} {first last : Char} (hfirst : s.toList.head? = some first)
    (hlast : s.toList.getLast? = some last) (h : isSpace first = false) (h' : isSpace last = false) : strip s = s := by
  have hdrop : ∀ {l : List Char} {c : Char}, l.head? = some c → isSpace c = false → l.dropWhile isSpace = l := by
    intro l c hc hspace
    cases l with
    | nil => rfl
    | cons d l =>
      rw [List.head?_cons, Option.some.injEq] at hc
      rw [List.dropWhile_cons, hc, hspace]
      rfl
  unfold strip
  rw [hdrop hfirst h, hdrop (by rwa [List.head?_reverse]) h', List.reverse_reverse, String.ofList_toList]

/-- A text between two others that have no space outside. -/
def NonEmptyString.between (first inner last : String) (h : (first.toList.head?.any fun c => !isSpace c) = true)
    (h' : (last.toList.getLast?.any fun c => !isSpace c) = true) : NonEmptyString where
  val := first ++ inner ++ last
  stripped := by
    obtain ⟨c, hc, hspace⟩ := (Option.any_eq_true ..).1 h
    obtain ⟨d, hd, hspace'⟩ := (Option.any_eq_true ..).1 h'
    have hhead : (first ++ inner ++ last).toList.head? = some c := by simp [hc]
    have hlast : (first ++ inner ++ last).toList.getLast? = some d := by simp [hd]
    exact strip_eq_self hhead hlast (by simpa using hspace) (by simpa using hspace')
  nonempty := by
    obtain ⟨c, hc, -⟩ := (Option.any_eq_true ..).1 h
    intro hempty
    have hlist := congrArg String.toList hempty
    simp only [String.toList_append, String.toList_empty, List.append_eq_nil_iff] at hlist
    rw [hlist.1.1] at hc
    cases hc

/-! ## Actions -/

namespace SimulationAction

def positiveInt (payload : Dict) (field : String) : Option { n : Nat // 0 < n } := do
  let n ← (← payload.get field).int?
  if h : 0 < n.toNat then some ⟨n.toNat, h⟩ else none

def positiveFloat (payload : Dict) (field : String) : Option { q : ℚ // 0 < q } := do
  let q ← (← payload.get field).number?
  if h : 0 < q then some ⟨q, h⟩ else none

def maintenanceLevel (payload : Dict) (field : String) : Option MaintenanceLevel := do
  let q ← (← payload.get field).number?
  if q = MaintenanceLevel.zero.value then some .zero
  else if q = MaintenanceLevel.half.value then some .half
  else if q = MaintenanceLevel.full.value then some .full
  else none

/-- `extra="forbid"`: the payload has no field but its type and these. -/
def hasOnly (payload : Dict) (fields : List String) : Bool :=
  (Assoc.keys payload).all fun key => key ∈ "type" :: fields

/-- The members of the union ask for their type, so at most one of them takes a payload. -/
def validatePython (payload : Dict) : Option SimulationAction := do
  match ← payload.get "type" with
  | .str "advance_time" => do
    let ticks ← positiveInt payload "ticks"
    if hasOnly payload ["ticks"] then some (.advanceTime ticks.1 ticks.2) else none
  | .str "build_housing" => do
    let units ← positiveInt payload "units"
    if hasOnly payload ["units"] then some (.buildHousing units.1 units.2) else none
  | .str "build_power" => do
    let capacity ← positiveInt payload "capacity"
    if hasOnly payload ["capacity"] then some (.buildPower capacity.1 capacity.2) else none
  | .str "repair" => do
    let amount ← positiveFloat payload "amount"
    if hasOnly payload ["amount"] then some (.repairInfrastructure amount.1 amount.2) else none
  | .str "set_maintenance" => do
    let level ← maintenanceLevel payload "level"
    if hasOnly payload ["level"] then some (.setMaintenance level) else none
  | .str "take_loan" => do
    let amount ← positiveFloat payload "amount"
    if hasOnly payload ["amount"] then some (.takeLoan amount.1 amount.2) else none
  | .str "repay_loan" => do
    let amount ← positiveFloat payload "amount"
    if hasOnly payload ["amount"] then some (.repayLoan amount.1 amount.2) else none
  | .str "pause" => if hasOnly payload [] then some .pause else none
  | .str "resume" => if hasOnly payload [] then some .resume else none
  | _ => none

end SimulationAction

/-! ## The adapter -/

structure ReferenceSimulationAdapter where
  simulation : ReferenceSimulation := {}
  forbiddenActions : List String := []
  initialized : Bool := false
  observationSequence : Nat := 0
  deriving DecidableEq, Repr

namespace ReferenceSimulationAdapter

/-- `_parse_action`; the parameters replace the type of the action where they name one. -/
def parseAction (action : Action) : Except NonEmptyString SimulationAction :=
  let payload := action.parameters.foldl (fun payload (key, value) => Assoc.set payload key value)
    ([("type", .str action.type.val)] : Dict)
  match SimulationAction.validatePython payload with
  | some parsed => .ok parsed
  | none => .error ⟨"Malformed action parameters:", by decide, by decide⟩

def requireInitialized (adapter : ReferenceSimulationAdapter) : Except PyError Unit :=
  if adapter.initialized then .ok ()
  else .error (.other "RuntimeError" "Reference simulation adapter is not initialized.")

/-- The summary of an observation. -/
def summary (state : SimulationState) : NonEmptyString :=
  let tick := toString state.tick
  let cash := fixed2 state.cash
  let population := toString state.population
  let infrastructure := fixed2 state.infrastructure
  let projects := toString state.activeProjects.length
  let paused := toString state.paused
  .between "Tick " (s!"{tick}: cash={cash}, population={population}, infrastructure={infrastructure}, " ++
    s!"projects={projects}, paused={paused}, failed=") (toString state.failed) (by decide)
    (by cases state.failed <;> decide)

def observe (adapter : ReferenceSimulationAdapter) (now : Timestamp) :
    Except PyError (Observation × ReferenceSimulationAdapter) := do
  adapter.requireInitialized
  let adapter := { adapter with observationSequence := adapter.observationSequence + 1 }
  let state := adapter.simulation.state
  return ({ sequence := adapter.observationSequence, timestamp := now, tick := state.tick, summary := summary state
            state := state.modelDump }, adapter)

def validate (adapter : ReferenceSimulationAdapter) (action : Action) : Except PyError ValidationResult := do
  adapter.requireInitialized
  if action.type.val ∈ adapter.forbiddenActions then
    return .refuse (.between "Action '" action.type.val "' is forbidden by adapter constraints." (by decide) (by decide))
  match parseAction action with
  | .error message => return .refuse message
  | .ok parsed => return validateAction adapter.simulation.state parsed

def execute (adapter : ReferenceSimulationAdapter) (action : Action) :
    Except PyError ExecutionResult × ReferenceSimulationAdapter :=
  match adapter.validate action with
  | .error e => (.error e, adapter)
  | .ok validation =>
    if validation.valid then
      match parseAction action with
      | .error message => (.ok { success := false, stateChanged := false, cost := 0, message }, adapter)
      | .ok parsed =>
        let (result, simulation) := adapter.simulation.execute parsed
        (result, { adapter with simulation })
    else
      (.ok { success := false, stateChanged := false, cost := 0, message := validation.message }, adapter)

end ReferenceSimulationAdapter

end SimPilot
