import SimPilot.ReferenceSimulation.Tick
/-!
# `ReferenceSimulation` (reference_simulation/{validation,simulation}.py)

`execute` validates an action and applies it. An exception of a tick leaves the state of
the ticks before it and drops their events, as the source does; no tick of a simulation
that started in the initial state raises (`Invariants.lean`).
-/

namespace SimPilot

/-! ## Validation -/

def housingCostPerUnit : ℚ := 1000
def powerCostPerCapacity : ℚ := 1500
def repairCostPerPoint : ℚ := 2000
def minimumLoan : ℚ := 10000
def maximumLoan : ℚ := 500000
def maximumDebt : ℚ := 2000000
def maximumActiveProjects : Nat := 5

@[ext] structure ValidationResult where
  valid : Bool
  message : NonEmptyString
  estimatedCost : ℚ
  stateStale : Bool := false
  cost_nonneg : 0 ≤ estimatedCost
  deriving Repr

instance : DecidableEq ValidationResult := fun _ _ => decidable_of_iff _ ValidationResult.ext_iff.symm

namespace ValidationResult

def accept (cost : ℚ) (h : 0 ≤ cost) : ValidationResult :=
  { valid := true, message := ⟨"Action is valid.", by decide, by decide⟩, estimatedCost := cost, cost_nonneg := h }

def free : ValidationResult := accept 0 nothing_nonneg

def refuse (message : NonEmptyString) : ValidationResult :=
  { valid := false, message, estimatedCost := 0, cost_nonneg := nothing_nonneg }

end ValidationResult

open ValidationResult in
/-- `validate_action`. -/
def validateAction (state : SimulationState) (action : SimulationAction) : ValidationResult :=
  if state.failed then refuse ⟨"Simulation has failed and cannot accept actions.", by decide, by decide⟩
  else match action with
  | .advanceTime _ _ =>
    if state.paused then refuse ⟨"Cannot advance time while the simulation is paused.", by decide, by decide⟩ else free
  | .pause => if state.paused then refuse ⟨"Simulation is already paused.", by decide, by decide⟩ else free
  | .resume => if state.paused then free else refuse ⟨"Simulation is not paused.", by decide, by decide⟩
  | .buildHousing units _ => build units housingCostPerUnit (by decide)
  | .buildPower capacity _ => build capacity powerCostPerCapacity (by decide)
  | .repairInfrastructure amount positive =>
    if 100 ≤ state.infrastructure then refuse ⟨"Infrastructure is already at its maximum.", by decide, by decide⟩
    else if amount * repairCostPerPoint > state.cash then
      refuse ⟨"Insufficient cash to repair infrastructure.", by decide, by decide⟩
    else accept (amount * repairCostPerPoint) (mul_nonneg positive.le (by decide))
  | .setMaintenance level =>
    if level = state.maintenanceLevel then refuse ⟨"Maintenance is already set to that level.", by decide, by decide⟩
    else free
  | .takeLoan amount _ =>
    if amount < minimumLoan then refuse ⟨"Loan amount is below the minimum of 10000.", by decide, by decide⟩
    else if amount > maximumLoan then refuse ⟨"Loan amount exceeds the per-action maximum of 500000.", by decide, by decide⟩
    else if state.debt + amount > maximumDebt then
      refuse ⟨"Loan would exceed the total debt limit of 2000000.", by decide, by decide⟩
    else free
  | .repayLoan amount positive =>
    if amount > state.cash then refuse ⟨"Repayment exceeds available cash.", by decide, by decide⟩
    else if amount > state.debt then refuse ⟨"Repayment exceeds outstanding debt.", by decide, by decide⟩
    else accept amount positive.le
where
  build (amount : Nat) (price : ℚ) (h : 0 ≤ price) : ValidationResult :=
    if maximumActiveProjects ≤ state.activeProjects.length then
      refuse ⟨"The maximum of five active projects has been reached.", by decide, by decide⟩
    else if amount * price > state.cash then refuse ⟨"Insufficient cash to start project.", by decide, by decide⟩
    else accept (amount * price) (mul_nonneg (Nat.cast_nonneg amount) h)

/-! ## Execution -/

/-- The simulation; `lastEvents` are those of the latest `execute`. -/
structure ReferenceSimulation where
  state : SimulationState := initialState
  seed : String := "0"
  events : List SimulationEvent := []
  lastEvents : List SimulationEvent := []
  deriving DecidableEq, Repr

namespace ReferenceSimulation

/-- What the body of `execute` leaves: the state and the new events. -/
structure Applied where
  state : SimulationState
  newEvents : List SimulationEvent

/-- The loop of `AdvanceTime`, behind `base` events of the simulation. -/
def advance (base : Nat) : Nat → Applied → Except PyError Unit × Applied
  | 0, applied => (.ok (), applied)
  | ticks + 1, applied =>
    match advanceTick applied.state (base + applied.newEvents.length) with
    | .error e => (.error e, applied)
    | .ok result =>
      let applied := { state := result.state, newEvents := applied.newEvents ++ result.events }
      if result.state.failed then (.ok (), applied) else advance base ticks applied

/-- The project a build action starts. -/
def startedProject (sim : ReferenceSimulation) (type : ProjectType) (amount : Nat) (cost : ℚ) : Project :=
  let duration := if type = .housing then 5 else 8
  { id := .project sim.seed sim.state.tick type.value sim.state.activeProjects.length amount
    type, amount, progress := 0, duration, remainingTicks := duration, totalCost := cost }

def cashEmission (previous current : SimulationState) : Emission :=
  (.cashChanged, [("previous", .float previous.cash), ("current", .float current.cash)])

def debtEmission (previous current : SimulationState) : Emission :=
  (.debtChanged, [("previous", .float previous.debt), ("current", .float current.debt)])

/-- The state a branch of `execute` assigns, with the events it emits behind the assignment. -/
def assign (sim : ReferenceSimulation) (state : SimulationState) (emissions : List Emission) : Applied :=
  { state, newEvents := emitted state.tick sim.events.length emissions }

def build (sim : ReferenceSimulation) (type : ProjectType) (amount : Nat) (cost : ℚ) : Applied :=
  let project := sim.startedProject type amount cost
  let state := { sim.state with
    cash := round6 (sim.state.cash - cost), activeProjects := sim.state.activeProjects ++ [project] }
  sim.assign state
    [(.projectStarted, [("project_id", .uuid project.id), ("project_type", .str project.type.value), ("amount", .int amount),
      ("cost", .float cost)]), cashEmission sim.state state]

/-- The branches of `execute` behind the validation. -/
def apply (sim : ReferenceSimulation) (cost : ℚ) : SimulationAction → Except PyError Unit × Applied
  | .advanceTime ticks _ => advance sim.events.length ticks ⟨sim.state, []⟩
  | .buildHousing units _ => (.ok (), sim.build .housing units cost)
  | .buildPower capacity _ => (.ok (), sim.build .power capacity cost)
  | .repairInfrastructure amount _ =>
    let infrastructure := min 100 (sim.state.infrastructure + amount)
    let state := { sim.state with
      cash := round6 (sim.state.cash - cost), infrastructure := round6 infrastructure }
    (.ok (), sim.assign state
      [(.infrastructureChanged, [("previous", .float sim.state.infrastructure), ("current", .float state.infrastructure)]),
        cashEmission sim.state state])
  | .setMaintenance level =>
    (.ok (), sim.assign { sim.state with maintenanceLevel := level }
      [(.maintenanceChanged, [("previous", .float sim.state.maintenanceLevel.value), ("current", .float level.value)])])
  | .takeLoan amount _ =>
    let state := { sim.state with
      cash := round6 (sim.state.cash + amount), debt := round6 (sim.state.debt + amount) }
    (.ok (), sim.assign state [cashEmission sim.state state, debtEmission sim.state state])
  | .repayLoan amount _ =>
    let state := { sim.state with
      cash := round6 (sim.state.cash - amount), debt := round6 (sim.state.debt - amount) }
    (.ok (), sim.assign state [cashEmission sim.state state, debtEmission sim.state state])
  | .pause =>
    (.ok (), sim.assign { sim.state with paused := true } [(.simulationPaused, [("paused", .bool true)])])
  | .resume =>
    (.ok (), sim.assign { sim.state with paused := false } [(.simulationResumed, [("paused", .bool false)])])

/-- `execute`. -/
def execute (sim : ReferenceSimulation) (action : SimulationAction) : Except PyError ExecutionResult × ReferenceSimulation :=
  let validation := validateAction sim.state action
  if validation.valid then
    match sim.apply validation.estimatedCost action with
    | (.error e, applied) => (.error e, { sim with state := applied.state })
    | (.ok (), applied) =>
      (.ok {
        success := true
        stateChanged := applied.state ≠ sim.state
        cost := validation.estimatedCost
        cost_nonneg := validation.cost_nonneg
        message := if applied.state.failed ∧ ¬ sim.state.failed then
            ⟨"Action executed; simulation entered terminal failure.", by decide, by decide⟩
          else ⟨"Action executed successfully.", by decide, by decide⟩ },
        { sim with state := applied.state, lastEvents := applied.newEvents, events := sim.events ++ applied.newEvents })
  else
    (.ok { success := false, stateChanged := false, cost := 0, message := validation.message }, { sim with lastEvents := [] })

/-- The simulation behind a run of actions, whatever each of them answers. -/
def run (sim : ReferenceSimulation) (actions : List SimulationAction) : ReferenceSimulation :=
  actions.foldl (fun sim action => (sim.execute action).2) sim

example : ((({} : ReferenceSimulation).run [.buildHousing 100 (by decide), .advanceTime 6 (by decide)]).state.housing,
    (({} : ReferenceSimulation).run [.buildHousing 100 (by decide), .advanceTime 6 (by decide)]).state.population) =
    (700, 530) := by decide +kernel

end ReferenceSimulation

end SimPilot
