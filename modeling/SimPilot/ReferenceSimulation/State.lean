import SimPilot.Data.Rounding
import SimPilot.Runtime.Errors
/-!
# The state of the reference simulation (reference_simulation/{projects,state,actions}.py)

| here | there |
| --- | --- |
| `Project`, `progressProject` | `projects.py` |
| `SimulationState`, `SimulationState.fieldError` | the model of `state.py` and its validators |
| `SimulationAction` | `actions.py`; the bounds of the fields are carried by the actions |

`model_copy` skips the validators of a model, so a state is a plain record here; what the
validators ask is `SimulationState.fieldError`, and only a construction asks it.
-/

namespace SimPilot

/-! ## Projects -/

inductive ProjectType where
  | housing | power
  deriving DecidableEq, Repr

def ProjectType.value : ProjectType → String
  | housing => "housing"
  | power => "power"

structure Project where
  id : UUID
  type : ProjectType
  amount : Nat
  progress : Nat
  duration : Nat
  remainingTicks : Nat
  totalCost : ℚ
  deriving DecidableEq, Repr

/-- `progress_project`. -/
def progressProject (project : Project) : Project :=
  let remainingTicks := project.remainingTicks - 1
  { project with progress := project.duration - remainingTicks, remainingTicks }

/-! ## Events -/

inductive EventType where
  | tickAdvanced | projectStarted | projectProgressed | projectCompleted | infrastructureChanged | populationChanged
  | cashChanged | debtChanged | maintenanceChanged | simulationPaused | simulationResumed | simulationFailed
  deriving DecidableEq, Repr

structure SimulationEvent where
  sequence : Nat
  tick : Nat
  type : EventType
  details : Dict := []
  deriving DecidableEq, Repr

/-- What `emit` is called with. -/
abbrev Emission := EventType × Dict

/-- The events of a run of `emit` calls behind `n` events. -/
def emitted (tick : Nat) : Nat → List Emission → List SimulationEvent
  | _, [] => []
  | n, (type, details) :: rest => { sequence := n + 1, tick, type, details } :: emitted tick (n + 1) rest

/-! ## The state -/

/-- The levels the field validators let through. -/
inductive MaintenanceLevel where
  | zero | half | full
  deriving DecidableEq, Repr

def MaintenanceLevel.value : MaintenanceLevel → ℚ
  | zero => 0
  | half => 1 / 2
  | full => 1

structure SimulationState where
  tick : Nat := 0
  cash : ℚ := 500000
  debt : ℚ := 0
  population : Nat := 500
  housing : Nat := 600
  powerCapacity : Nat := 700
  powerUsage : Nat := 500
  infrastructure : ℚ := 90
  maintenanceLevel : MaintenanceLevel := .half
  incomePerTick : ℚ := 0
  expensePerTick : ℚ := 0
  paused : Bool := false
  failed : Bool := false
  activeProjects : List Project := []
  deriving DecidableEq, Repr

/-- `initial_state`. -/
def initialState : SimulationState := {}

namespace SimulationState

/-- A field that does not meet its bound, or what `validate_failure_state` raises. -/
def fieldError (s : SimulationState) : Option String :=
  if s.debt < 0 then some "debt"
  else if s.infrastructure < 0 ∨ 100 < s.infrastructure then some "infrastructure"
  else if s.incomePerTick < 0 then some "income_per_tick"
  else if s.expensePerTick < 0 then some "expense_per_tick"
  else if s.failed ∧ ¬ s.paused then some "a failed simulation must be paused"
  else if s.powerUsage ≠ s.population then some "power_usage must equal population"
  else if 5 < s.activeProjects.length then some "active_projects cannot contain more than five projects"
  else none

/-- `SimulationState(...)`: the constructor runs the validators. -/
def construct (s : SimulationState) : Except PyError SimulationState :=
  match s.fieldError with
  | some message => .error (.other "ValidationError" message)
  | none => .ok s

end SimulationState

/-! ## Actions -/

inductive SimulationAction where
  | advanceTime (ticks : Nat) (positive : 0 < ticks)
  | buildHousing (units : Nat) (positive : 0 < units)
  | buildPower (capacity : Nat) (positive : 0 < capacity)
  | repairInfrastructure (amount : ℚ) (positive : 0 < amount)
  | setMaintenance (level : MaintenanceLevel)
  | takeLoan (amount : ℚ) (positive : 0 < amount)
  | repayLoan (amount : ℚ) (positive : 0 < amount)
  | pause
  | resume
  deriving DecidableEq, Repr

end SimPilot
