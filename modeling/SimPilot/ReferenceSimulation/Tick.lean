import SimPilot.ReferenceSimulation.State
/-!
# One tick (reference_simulation/{economy,tick}.py)

`advanceTick` follows the order of `advance_tick`: projects, growth, money, infrastructure,
failure. The events are emitted in that order and numbered behind those there are.
-/

namespace SimPilot

/-! ## Economy -/

def incomePerCitizen : ℚ := 20

def debtExpenseRate : ℚ := 1 / 1000

/-- `MAINTENANCE_RULES`: the expense and the degradation of a level. -/
def maintenanceRules : MaintenanceLevel → ℚ × ℚ
  | .zero => (0, 2)
  | .half => (2500, 1)
  | .full => (5000, 1 / 4)

/-- `calculate_population_growth`; `floor(population * 0.01)` is a division. -/
def calculatePopulationGrowth (s : SimulationState) : Nat :=
  if s.paused ∨ s.failed ∨ s.infrastructure < 40 ∨ s.powerCapacity < s.powerUsage ∨ s.housing ≤ s.population then 0
  else
    let baseGrowth := s.population / 100
    let availableHousing := s.housing - s.population
    let availablePower := s.powerCapacity - s.powerUsage
    min (min baseGrowth availableHousing) availablePower

/-- `calculate_income`. -/
def calculateIncome (s : SimulationState) : ℚ :=
  let baseIncome := s.population * incomePerCitizen
  let infrastructureMultiplier := s.infrastructure / 100
  let powerMultiplier := if s.powerUsage ≤ s.powerCapacity then 1 else 1 / 2
  round6 (baseIncome * infrastructureMultiplier * powerMultiplier)

def maintenanceCost (level : MaintenanceLevel) : ℚ := (maintenanceRules level).1

def infrastructureDegradation (level : MaintenanceLevel) : ℚ := (maintenanceRules level).2

def debtExpense (debt : ℚ) : ℚ := round6 (debt * debtExpenseRate)

/-! ## Failure -/

inductive FailureCode where
  | negativeCash | infrastructureDepleted | debtLimitExceeded
  deriving DecidableEq, Repr

def FailureCode.value : FailureCode → String
  | negativeCash => "negative_cash"
  | infrastructureDepleted => "infrastructure_depleted"
  | debtLimitExceeded => "debt_limit_exceeded"

structure SimulationFailure where
  code : FailureCode
  message : String
  deriving DecidableEq, Repr

/-- `failure_for_state`. -/
def failureForState (s : SimulationState) : Option SimulationFailure :=
  if s.cash < 0 then some ⟨.negativeCash, "Cash fell below zero."⟩
  else if s.infrastructure ≤ 0 then some ⟨.infrastructureDepleted, "Infrastructure reached zero."⟩
  else if 2000000 < s.debt then some ⟨.debtLimitExceeded, "Debt exceeded the maximum of 2000000."⟩
  else none

/-! ## The tick -/

/-- What the loop over `state.active_projects` accumulates. -/
structure ProjectProgress where
  active : List Project := []
  housing : Nat
  powerCapacity : Nat
  emissions : List Emission

/-- One pass of the loop over `state.active_projects`. -/
def ProjectProgress.step (acc : ProjectProgress) (project : Project) : ProjectProgress :=
  let progressed := progressProject project
  let emissions := acc.emissions ++ [(.projectProgressed,
    [("project_id", .uuid project.id), ("remaining_ticks", .int progressed.remainingTicks)])]
  if progressed.remainingTicks = 0 then
    { acc with
      housing := if progressed.type = .housing then acc.housing + progressed.amount else acc.housing
      powerCapacity := if progressed.type = .housing then acc.powerCapacity else acc.powerCapacity + progressed.amount
      emissions := emissions ++ [(.projectCompleted, [("project_id", .uuid project.id),
        ("project_type", .str progressed.type.value), ("amount", .int progressed.amount)])] }
  else { acc with active := acc.active ++ [progressed], emissions }

structure TickResult where
  state : SimulationState
  events : List SimulationEvent
  failure : Option SimulationFailure

/-- `emit(type, details)` under a condition. -/
def emitIf (c : Prop) [Decidable c] (type : EventType) (details : Dict) : List Emission :=
  if c then [(type, details)] else []

/-- The loop over `state.active_projects`. -/
def progressProjects (state : SimulationState) : ProjectProgress :=
  state.activeProjects.foldl ProjectProgress.step
    { housing := state.housing, powerCapacity := state.powerCapacity
      emissions := [(.tickAdvanced, [("tick", .int (state.tick + 1 : Nat))])] }

/-- `growth_state`. -/
def growthState (state : SimulationState) (progress : ProjectProgress) : SimulationState :=
  { state with
    tick := state.tick + 1, housing := progress.housing, powerCapacity := progress.powerCapacity
    powerUsage := state.population, activeProjects := progress.active }

/-- The arguments of the construction of `next_state`. -/
def tickedState (state : SimulationState) (progress : ProjectProgress) : SimulationState :=
  let growthState := growthState state progress
  let population := state.population + calculatePopulationGrowth growthState
  let income := calculateIncome { growthState with population }
  let expense := round6 (maintenanceCost state.maintenanceLevel + debtExpense state.debt)
  { tick := state.tick + 1
    cash := round6 (state.cash + income - expense)
    debt := state.debt
    population
    housing := progress.housing
    powerCapacity := progress.powerCapacity
    powerUsage := population
    infrastructure := max 0 (round6 (state.infrastructure - infrastructureDegradation state.maintenanceLevel))
    maintenanceLevel := state.maintenanceLevel
    incomePerTick := income
    expensePerTick := expense
    paused := false
    failed := false
    activeProjects := progress.active }

/-- The events of a tick but for a failure. -/
def tickEmissions (state : SimulationState) (progress : ProjectProgress) (next : SimulationState) : List Emission :=
  let growth := calculatePopulationGrowth (growthState state progress)
  progress.emissions
    ++ emitIf (growth ≠ 0) .populationChanged
      [("previous", .int state.population), ("current", .int next.population), ("growth", .int growth)]
    ++ emitIf (next.cash ≠ state.cash) .cashChanged
      [("previous", .float state.cash), ("current", .float next.cash), ("income", .float next.incomePerTick),
        ("expense", .float next.expensePerTick)]
    ++ emitIf (next.infrastructure ≠ state.infrastructure) .infrastructureChanged
      [("previous", .float state.infrastructure), ("current", .float next.infrastructure)]

/-- `advance_tick`. -/
def advanceTick (state : SimulationState) (eventSequence : Nat) : Except PyError TickResult :=
  if state.paused ∨ state.failed then .error (.valueError "Cannot advance a paused or failed simulation.")
  else do
    let progress := progressProjects state
    let nextState ← (tickedState state progress).construct
    let emissions := tickEmissions state progress nextState
    match failureForState nextState with
    | some failure => return {
        state := { nextState with failed := true, paused := true }
        events := emitted nextState.tick eventSequence (emissions ++
          [(.simulationFailed, [("code", .str failure.code.value), ("message", .str failure.message)])])
        failure := some failure }
    | none => return { state := nextState, events := emitted nextState.tick eventSequence emissions, failure := none }

end SimPilot
