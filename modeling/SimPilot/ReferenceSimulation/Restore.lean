import SimPilot.ReferenceSimulation.Verified
/-!
# Saving and reopening the reference adapter (adapters/reference/adapter.py)

A snapshot of the adapter holds the dump of its state, its seed and its observation
sequence; the events of the simulation are not saved. `from_snapshot` reads the dump under the
strict validators of the models. Every state a simulation reaches passes them
(`SimulationState.modelValidate_modelDump`, `Storable`), so a session that is saved and
reopened between any of its calls answers as one that never stops.

| here | there |
|---|---|
| `Project.modelValidate`, `SimulationState.modelValidate` | `model_validate_json` (reference_simulation/simulation.py) |
| `snapshot`, `fromSnapshot` | the methods |
| `Call`, `call` | the calls of a session, and what they answer |
| `processes` | a session cut into processes (cli.py:511) |

The text of a validator's error is left out.
-/

namespace SimPilot

/-! ## Reading a dump -/

/-- `schema_version: Literal[1] = 1`. -/
def Dict.versionOne (d : Dict) : Bool := (d.get "schema_version").getD (.int 1) = .int 1

def JsonValue.list? : JsonValue → Option (List JsonValue)
  | .list xs => some xs
  | _ => none

def ProjectType.parse : JsonValue → Option ProjectType
  | .str "housing" => some .housing
  | .str "power" => some .power
  | _ => none

@[simp] theorem ProjectType.parse_value (t : ProjectType) : parse (.str t.value) = some t := by
  cases t <;> rfl

/-- `validate_maintenance_level`. -/
def MaintenanceLevel.parse (q : ℚ) : Option MaintenanceLevel :=
  if q = zero.value then some .zero else if q = half.value then some .half else if q = full.value then some .full else none

@[simp] theorem MaintenanceLevel.parse_value (level : MaintenanceLevel) : parse level.value = some level := by
  cases level <;> norm_num [parse, value]

/-- A bound of a field that is not met, or what `validate_progress` raises. -/
def Project.fieldError (p : Project) : Option String :=
  if p.amount = 0 then some "amount"
  else if p.duration = 0 then some "duration"
  else if p.totalCost ≤ 0 then some "total_cost"
  else if p.duration < p.progress then some "project progress cannot exceed duration"
  else if p.progress + p.remainingTicks ≠ p.duration then some "project progress and remaining ticks must equal duration"
  else none

def Project.modelValidate (d : Dict) : Option Project := do
  guard (d.onlyKeys Project.fields && d.versionOne)
  let id ← (← d.get "id").uuid?
  let type ← ProjectType.parse (← d.get "type")
  let amount ← (← d.get "amount").nat?
  let progress ← (← d.get "progress").nat?
  let duration ← (← d.get "duration").nat?
  let remainingTicks ← (← d.get "remaining_ticks").nat?
  let totalCost ← (← d.get "total_cost").number?
  let project : Project := { id, type, amount, progress, duration, remainingTicks, totalCost }
  guard (project.fieldError = none)
  return project

/-- `SimulationState.model_validate_json`: a field that is missing has its default. -/
def SimulationState.modelValidate (d : Dict) : Option SimulationState := do
  guard (d.onlyKeys SimulationState.fields && d.versionOne)
  let tick ← ((d.get "tick").getD (.int 0)).nat?
  let cash ← ((d.get "cash").getD (.float 500000)).number?
  let debt ← ((d.get "debt").getD (.float 0)).number?
  let population ← ((d.get "population").getD (.int 500)).nat?
  let housing ← ((d.get "housing").getD (.int 600)).nat?
  let powerCapacity ← ((d.get "power_capacity").getD (.int 700)).nat?
  let powerUsage ← ((d.get "power_usage").getD (.int 500)).nat?
  let infrastructure ← ((d.get "infrastructure").getD (.float 90)).number?
  let maintenanceLevel ← MaintenanceLevel.parse (← ((d.get "maintenance_level").getD (.float (1 / 2))).number?)
  let incomePerTick ← ((d.get "income_per_tick").getD (.float 0)).number?
  let expensePerTick ← ((d.get "expense_per_tick").getD (.float 0)).number?
  let paused ← ((d.get "paused").getD (.bool false)).bool?
  let failed ← ((d.get "failed").getD (.bool false)).bool?
  let projects ← ((d.get "active_projects").getD (.list [])).list?
  let activeProjects ← projects.mapM fun v => v.dict?.bind Project.modelValidate
  let state : SimulationState :=
    { tick, cash, debt, population, housing, powerCapacity, powerUsage, infrastructure, maintenanceLevel, incomePerTick
      expensePerTick, paused, failed, activeProjects }
  guard (state.fieldError = none)
  return state

/-- A valid project read back from its dump. -/
theorem Project.modelValidate_modelDump {p : Project} (h : p.fieldError = none) : modelValidate p.modelDump = some p := by
  simp [modelValidate, modelDump, Dict.onlyKeys, Dict.versionOne, Assoc.keys, fields, guard, h, JsonValue.number?]

theorem Project.modelValidates_modelDump : ∀ {ps : List Project}, (∀ p ∈ ps, p.fieldError = none) →
    (ps.map fun p => JsonValue.dict p.modelDump).mapM (fun v => v.dict?.bind Project.modelValidate) = some ps
  | [], _ => rfl
  | p :: ps, h => by
    rw [List.map_cons, List.mapM_cons, modelValidates_modelDump fun q hq => h q (List.mem_cons_of_mem p hq)]
    simp [modelValidate_modelDump (h p List.mem_cons_self)]

/-- **A valid state read back from its dump** is the state. -/
theorem SimulationState.modelValidate_modelDump {s : SimulationState} (h : s.fieldError = none)
    (hp : ∀ p ∈ s.activeProjects, p.fieldError = none) : modelValidate s.modelDump = some s := by
  simp [modelValidate, modelDump, Dict.onlyKeys, Dict.versionOne, Assoc.keys, fields, guard, h, JsonValue.number?,
    JsonValue.list?, Project.modelValidates_modelDump hp]

/-- What is checked last holds of what is read. -/
theorem checked {α : Type} {c : Prop} [Decidable c] {a b : α} (h : (do guard c; return a : Option α) = some b) :
    c ∧ a = b := by
  unfold guard at h
  split at h
  · rename_i hc
    exact ⟨hc, Option.some.inj h⟩
  · cases h

theorem Project.fieldError_of_modelValidate {d : Dict} {p : Project} (h : modelValidate d = some p) :
    p.fieldError = none := by
  unfold modelValidate at h
  iterate 15 obtain ⟨_, -, h⟩ := Option.bind_eq_some_iff.1 h
  obtain ⟨hvalid, rfl⟩ := checked h
  exact hvalid

theorem mapM_some {α β : Type} {f : α → Option β} : ∀ {xs : List α} {ys : List β}, xs.mapM f = some ys →
    ∀ y ∈ ys, ∃ x ∈ xs, f x = some y
  | [], ys, h, y, hy => by
    cases h
    cases hy
  | x :: xs, ys, h, y, hy => by
    rw [List.mapM_cons] at h
    obtain ⟨z, hz, h⟩ := Option.bind_eq_some_iff.1 h
    obtain ⟨zs, hzs, h⟩ := Option.bind_eq_some_iff.1 h
    cases h
    rcases List.mem_cons.1 hy with rfl | hy
    · exact ⟨x, List.mem_cons_self, hz⟩
    · obtain ⟨w, hw, hfw⟩ := mapM_some hzs y hy
      exact ⟨w, List.mem_cons_of_mem x hw, hfw⟩

theorem SimulationState.fieldError_of_modelValidate {d : Dict} {s : SimulationState} (h : modelValidate d = some s) :
    s.fieldError = none ∧ ∀ p ∈ s.activeProjects, p.fieldError = none := by
  unfold modelValidate at h
  iterate 16 obtain ⟨_, -, h⟩ := Option.bind_eq_some_iff.1 h
  obtain ⟨projects, hprojects, h⟩ := Option.bind_eq_some_iff.1 h
  obtain ⟨hvalid, rfl⟩ := checked h
  refine ⟨hvalid, fun p hp => ?_⟩
  obtain ⟨v, -, hv⟩ := mapM_some hprojects p hp
  obtain ⟨item, -, hitem⟩ := Option.bind_eq_some_iff.1 hv
  exact Project.fieldError_of_modelValidate hitem

/-! ## What a simulation stores -/

/-- What the validators of a project ask. -/
structure Project.Stored (p : Project) : Prop where
  amount : 0 < p.amount
  duration : 0 < p.duration
  totalCost : 0 < p.totalCost
  progressing : p.progress + p.remainingTicks = p.duration

theorem Project.stored_iff {p : Project} : p.Stored ↔ p.fieldError = none := by
  constructor
  · intro h
    have hsum := h.progressing
    simp [fieldError, h.amount.ne', h.duration.ne', h.totalCost.not_ge, hsum, show ¬ p.duration < p.progress by omega]
  · intro h
    unfold fieldError at h
    split at h
    · cases h
    rename_i hamount
    split at h
    · cases h
    rename_i hduration
    split at h
    · cases h
    rename_i hcost
    split at h
    · cases h
    split at h
    · cases h
    rename_i hsum
    exact ⟨Nat.pos_of_ne_zero hamount, Nat.pos_of_ne_zero hduration, not_le.1 hcost, not_not.1 hsum⟩

/-- What the validators of a state ask. -/
structure SimulationState.Stored (s : SimulationState) : Prop where
  debt : 0 ≤ s.debt
  infrastructure : 0 ≤ s.infrastructure
  infrastructure_le : s.infrastructure ≤ 100
  income : 0 ≤ s.incomePerTick
  expense : 0 ≤ s.expensePerTick
  stopped : s.failed = true → s.paused = true
  usage : s.powerUsage = s.population
  count : s.activeProjects.length ≤ 5
  projects : ∀ p ∈ s.activeProjects, p.Stored

theorem SimulationState.stored_iff {s : SimulationState} :
    s.Stored ↔ s.fieldError = none ∧ ∀ p ∈ s.activeProjects, p.fieldError = none := by
  constructor
  · intro h
    refine ⟨?_, fun p hp => Project.stored_iff.1 (h.projects p hp)⟩
    have hstopped : ¬ (s.failed = true ∧ ¬ s.paused = true) := fun hf => hf.2 (h.stopped hf.1)
    unfold fieldError
    rw [if_neg h.debt.not_gt, if_neg (not_or.2 ⟨h.infrastructure.not_gt, h.infrastructure_le.not_gt⟩),
      if_neg h.income.not_gt, if_neg h.expense.not_gt, if_neg hstopped, if_neg (not_not.2 h.usage), if_neg h.count.not_gt]
  · rintro ⟨h, hprojects⟩
    unfold fieldError at h
    split at h
    · cases h
    rename_i hdebt
    split at h
    · cases h
    rename_i hinfrastructure
    split at h
    · cases h
    rename_i hincome
    split at h
    · cases h
    rename_i hexpense
    split at h
    · cases h
    rename_i hstopped
    split at h
    · cases h
    rename_i husage
    split at h
    · cases h
    rename_i hcount
    obtain ⟨hinf, hinf'⟩ := not_or.1 hinfrastructure
    exact ⟨not_lt.1 hdebt, not_lt.1 hinf, not_lt.1 hinf', not_lt.1 hincome, not_lt.1 hexpense,
      fun hf => not_not.1 fun hp => hstopped ⟨hf, hp⟩, not_not.1 husage, not_lt.1 hcount,
      fun p hp => Project.stored_iff.2 (hprojects p hp)⟩

theorem Project.Stored.progressed {p : Project} (h : p.Stored) : (progressProject p).Stored := by
  refine ⟨h.amount, h.duration, h.totalCost, ?_⟩
  have hsum := h.progressing
  show p.duration - (p.remainingTicks - 1) + (p.remainingTicks - 1) = p.duration
  omega

namespace SimulationState.Stored
variable {s : SimulationState}

theorem initial : initialState.Stored :=
  stored_iff.2 ⟨by decide +kernel, by simp [initialState]⟩

/-- A tick constructs its state, and what it leaves is stored whether it fails or not. -/
theorem ticked (h : s.Stored) :
    (tickedState s (progressProjects s)).construct = .ok (tickedState s (progressProjects s)) ∧
      ∀ failed, { tickedState s (progressProjects s) with failed, paused := failed }.Stored := by
  obtain ⟨-, -, hactive⟩ := foldl_progress s.activeProjects
    { housing := s.housing, powerCapacity := s.powerCapacity
      emissions := [(.tickAdvanced, [("tick", .int (s.tick + 1 : Nat))])] }
  have hprojects : (tickedState s (progressProjects s)).activeProjects =
      (s.activeProjects.map progressProject).filter (·.remainingTicks ≠ 0) := hactive
  have hcount : (tickedState s (progressProjects s)).activeProjects.length ≤ 5 := by
    rw [hprojects]
    have hle := List.length_filter_le (fun p : Project => p.remainingTicks ≠ 0) (s.activeProjects.map progressProject)
    rw [List.length_map] at hle
    exact hle.trans h.count
  have hstored : ∀ p ∈ (tickedState s (progressProjects s)).activeProjects, p.Stored := by
    intro p hp
    rw [hprojects] at hp
    obtain ⟨q, hq, rfl⟩ := List.mem_map.1 (List.mem_filter.1 hp).1
    exact (h.projects q hq).progressed
  have hinf : 0 ≤ (tickedState s (progressProjects s)).infrastructure := le_max_left _ _
  have hinf' : (tickedState s (progressProjects s)).infrastructure ≤ 100 := by
    have hlower := degradation_nonneg s.maintenanceLevel
    have hle := h.infrastructure_le
    refine max_le (by norm_num) (round6_le round6_hundred ?_)
    linarith
  have hincome := income_nonneg { growthState s (progressProjects s) with
    population := s.population + calculatePopulationGrowth (growthState s (progressProjects s)) } h.infrastructure
  have hexpense := expense_nonneg s.maintenanceLevel h.debt
  exact ⟨construct_ok h.debt hinf hinf' hincome hexpense rfl rfl hcount,
    fun failed => ⟨h.debt, hinf, hinf', hincome, hexpense, fun hf => hf, rfl, hcount, hstored⟩⟩

theorem advanceTick (h : s.Stored) (hp : s.paused = false) (hf : s.failed = false) (n : Nat) :
    ∃ result, SimPilot.advanceTick s n = .ok result ∧ result.state.Stored ∧ result.state.paused = result.state.failed := by
  obtain ⟨hconstruct, hstored⟩ := h.ticked
  unfold SimPilot.advanceTick
  simp only [hp, hf, Bool.false_eq_true, or_self, if_false, hconstruct, bind, Except.bind]
  cases failureForState (tickedState s (progressProjects s)) with
  | some failure => exact ⟨_, rfl, hstored true, rfl⟩
  | none => exact ⟨_, rfl, hstored false, rfl⟩

/-- **The loop of `advance_time`** raises nothing and leaves a stored state, by induction on the ticks
that are left. -/
theorem advance (base : Nat) : ∀ (ticks : Nat) (applied : ReferenceSimulation.Applied), applied.state.Stored →
    applied.state.paused = false → applied.state.failed = false →
      ∃ applied', ReferenceSimulation.advance base ticks applied = (.ok (), applied') ∧ applied'.state.Stored
  | 0, applied, h, _, _ => ⟨applied, rfl, h⟩
  | ticks + 1, applied, h, hp, hf => by
    obtain ⟨result, htick, hstored, hstopped⟩ := h.advanceTick hp hf (base + applied.newEvents.length)
    simp only [ReferenceSimulation.advance, htick]
    cases hfailed : result.state.failed with
    | true => exact ⟨_, rfl, hstored⟩
    | false =>
      exact SimulationState.Stored.advance base ticks ⟨result.state, applied.newEvents ++ result.events⟩ hstored
        (hstopped.trans hfailed) hfailed

end SimulationState.Stored

namespace ReferenceSimulation
variable {sim : ReferenceSimulation}

/-- A project that was paid for is stored. -/
theorem stored_build (h : sim.state.Stored) {type : ProjectType} {amount : Nat} {price : ℚ} {hprice : 0 ≤ price}
    (hamount : 0 < amount) (hpositive : 0 < price)
    (hv : (validateAction.build sim.state amount price hprice).valid = true) :
    (sim.build type amount (validateAction.build sim.state amount price hprice).estimatedCost).state.Stored := by
  have hcount := (valid_build hv).1
  have hcost : 0 < (validateAction.build sim.state amount price hprice).estimatedCost := by
    unfold validateAction.build at hv ⊢
    split at hv
    · cases hv
    rename_i hfew
    rw [if_neg hfew]
    split at hv
    · cases hv
    rename_i hcash
    rw [if_neg hcash]
    exact mul_pos (by exact_mod_cast hamount) hpositive
  refine { h with count := ?_, projects := fun p hp => ?_ }
  · show (sim.state.activeProjects ++ [_]).length ≤ 5
    rw [List.length_append, List.length_singleton]
    exact hcount
  · rcases List.mem_append.1 hp with hp | hp
    · exact h.projects p hp
    · rw [List.mem_singleton.1 hp]
      unfold startedProject
      cases type <;> exact ⟨hamount, Nat.succ_pos _, hcost, Nat.zero_add _⟩

/-- **Every branch of `execute`** raises nothing and leaves a stored state. -/
theorem stored_apply (h : sim.state.Stored) {action : SimulationAction}
    (hv : (validateAction sim.state action).valid = true) :
    ∃ applied, sim.apply (validateAction sim.state action).estimatedCost action = (.ok (), applied) ∧
      applied.state.Stored := by
  have hf := valid_running hv
  cases action with
  | advanceTime ticks positive =>
    have hp : sim.state.paused = false := by
      simp only [validateAction, hf, Bool.false_eq_true, if_false] at hv
      by_contra hp
      rw [Bool.not_eq_false] at hp
      rw [if_pos hp] at hv
      cases hv
    exact SimulationState.Stored.advance sim.events.length ticks ⟨sim.state, []⟩ h hp hf
  | buildHousing units positive =>
    simp only [validateAction, hf, Bool.false_eq_true, if_false] at hv ⊢
    exact ⟨_, rfl, stored_build h positive (by decide +kernel) hv⟩
  | buildPower capacity positive =>
    simp only [validateAction, hf, Bool.false_eq_true, if_false] at hv ⊢
    exact ⟨_, rfl, stored_build h positive (by decide +kernel) hv⟩
  | repairInfrastructure amount positive =>
    refine ⟨_, rfl, { h with infrastructure := ?_, infrastructure_le := ?_ }⟩
    · exact round6_nonneg (le_min (by norm_num) (add_nonneg h.infrastructure positive.le))
    · exact round6_le round6_hundred (min_le_left _ _)
  | setMaintenance level => exact ⟨_, rfl, { h with }⟩
  | takeLoan amount positive =>
    exact ⟨_, rfl, { h with debt := round6_nonneg (add_nonneg h.debt positive.le) }⟩
  | repayLoan amount positive =>
    simp only [validateAction, hf, Bool.false_eq_true, if_false] at hv
    split at hv
    · cases hv
    split at hv
    · cases hv
    rename_i howed
    exact ⟨_, rfl, { h with debt := round6_nonneg (by linarith) }⟩
  | pause => exact ⟨_, rfl, { h with stopped := fun _ => rfl }⟩
  | resume => exact ⟨_, rfl, { h with stopped := fun hfailed => absurd (hf.symm.trans hfailed) Bool.false_ne_true }⟩

theorem stored_execute (h : sim.state.Stored) (action : SimulationAction) : (sim.execute action).2.state.Stored := by
  unfold execute
  dsimp only
  split
  · rename_i hv
    obtain ⟨applied, happly, hstored⟩ := stored_apply h hv
    rw [happly]
    exact hstored
  · exact h

end ReferenceSimulation

/-! ## The snapshot -/

/-- `SimulationState.schema_version`. -/
def simulationSchemaVersion : Nat := 1

theorem simulationSchemaVersion_pos : 1 ≤ simulationSchemaVersion := le_refl 1

namespace ReferenceSimulationAdapter

def snapshot (adapter : ReferenceSimulationAdapter) : AdapterSnapshot where
  adapterType := "reference"
  simulationSchemaVersion := simulationSchemaVersion
  observationSequence := adapter.observationSequence
  seed := adapter.simulation.seed
  state := adapter.simulation.state.modelDump
  schema_pos := simulationSchemaVersion_pos

def fromSnapshot (snapshot : AdapterSnapshot) (forbiddenActions : List String) :
    Except PyError ReferenceSimulationAdapter :=
  if snapshot.adapterType ≠ "reference" then .error (.valueError "unsupported reference adapter snapshot")
  else if snapshot.simulationSchemaVersion ≠ 1 then
    .error (.valueError "unsupported reference simulation schema version")
  else match SimulationState.modelValidate snapshot.state with
    | none => .error (.other "ValidationError" "SimulationState")
    | some state => .ok {
        simulation := { state, seed := snapshot.seed }
        forbiddenActions
        observationSequence := snapshot.observationSequence }

def initializeAdapter (adapter : ReferenceSimulationAdapter) : ReferenceSimulationAdapter := { adapter with initialized := true }

end ReferenceSimulationAdapter

/-! ## The events do not decide -/

/-- A tick reads the number of the events for the numbers of its own events only. -/
theorem advanceTick_numbering (s : SimulationState) (n m : Nat) :
    (∃ e, advanceTick s n = .error e ∧ advanceTick s m = .error e) ∨
      ∃ result result', advanceTick s n = .ok result ∧ advanceTick s m = .ok result' ∧ result.state = result'.state := by
  unfold advanceTick
  by_cases hstopped : s.paused ∨ s.failed
  · rw [if_pos hstopped, if_pos hstopped]
    exact .inl ⟨_, rfl, rfl⟩
  · rw [if_neg hstopped, if_neg hstopped]
    dsimp only
    cases hconstruct : (tickedState s (progressProjects s)).construct with
    | error e =>
      simp only [bind, Except.bind]
      exact .inl ⟨e, rfl, rfl⟩
    | ok next =>
      simp only [bind, Except.bind]
      right
      cases hfailure : failureForState next with
      | some failure => exact ⟨_, _, rfl, rfl, rfl⟩
      | none => exact ⟨_, _, rfl, rfl, rfl⟩

namespace ReferenceSimulation

theorem advance_numbering : ∀ (ticks base base' : Nat) (applied applied' : Applied), applied.state = applied'.state →
    (advance base ticks applied).1 = (advance base' ticks applied').1 ∧
      (advance base ticks applied).2.state = (advance base' ticks applied').2.state
  | 0, _, _, _, _, h => ⟨rfl, h⟩
  | ticks + 1, base, base', applied, applied', h => by
    unfold advance
    rw [← h]
    rcases advanceTick_numbering applied.state (base + applied.newEvents.length) (base' + applied'.newEvents.length) with
      ⟨e, he, he'⟩ | ⟨result, result', hr, hr', hstate⟩
    · rw [he, he']
      exact ⟨rfl, h⟩
    · rw [hr, hr']
      dsimp only
      rw [← hstate]
      by_cases hfailed : result.state.failed = true
      · rw [if_pos hfailed, if_pos hfailed]
        exact ⟨rfl, rfl⟩
      · rw [if_neg hfailed, if_neg hfailed]
        exact advance_numbering ticks base base' _ _ rfl

variable {sim sim' : ReferenceSimulation}

theorem startedProject_congr (hstate : sim.state = sim'.state) (hseed : sim.seed = sim'.seed) (type : ProjectType)
    (amount : Nat) (cost : ℚ) : sim.startedProject type amount cost = sim'.startedProject type amount cost := by
  unfold startedProject
  rw [hstate, hseed]

theorem apply_numbering (hstate : sim.state = sim'.state) (hseed : sim.seed = sim'.seed) (cost : ℚ)
    (action : SimulationAction) : (sim.apply cost action).1 = (sim'.apply cost action).1 ∧
      (sim.apply cost action).2.state = (sim'.apply cost action).2.state := by
  cases action with
  | advanceTime ticks positive => exact advance_numbering ticks _ _ ⟨sim.state, []⟩ ⟨sim'.state, []⟩ hstate
  | buildHousing units positive | buildPower capacity positive =>
    refine ⟨rfl, ?_⟩
    simp only [apply, build, assign]
    rw [startedProject_congr hstate hseed, hstate]
  | repairInfrastructure amount positive | setMaintenance level | takeLoan amount positive | repayLoan amount positive
  | pause | resume =>
    refine ⟨rfl, ?_⟩
    simp only [apply, assign]
    rw [hstate]

/-- **Two simulations with one state and one seed** answer alike, whatever their events are. -/
theorem execute_numbering (hstate : sim.state = sim'.state) (hseed : sim.seed = sim'.seed) (action : SimulationAction) :
    (sim.execute action).1 = (sim'.execute action).1 ∧
      (sim.execute action).2.state = (sim'.execute action).2.state ∧
      (sim.execute action).2.seed = (sim'.execute action).2.seed := by
  unfold execute
  rw [← hstate]
  dsimp only
  by_cases hvalid : (validateAction sim.state action).valid = true
  · rw [if_pos hvalid, if_pos hvalid]
    obtain ⟨hresult, hnext⟩ := apply_numbering hstate hseed (validateAction sim.state action).estimatedCost action
    rcases hleft : sim.apply (validateAction sim.state action).estimatedCost action with ⟨result, applied⟩
    rcases hright : sim'.apply (validateAction sim.state action).estimatedCost action with ⟨result', applied'⟩
    rw [hleft, hright] at hresult hnext
    dsimp only at hresult hnext
    subst hresult
    cases result with
    | error e => exact ⟨rfl, hnext, hseed⟩
    | ok _ =>
      dsimp only
      rw [hnext]
      exact ⟨rfl, rfl, hseed⟩
  · rw [if_neg hvalid, if_neg hvalid]
    exact ⟨rfl, rfl, hseed⟩

end ReferenceSimulation

/-! ## Sessions -/

namespace ReferenceSimulationAdapter

/-- What a session asks of its adapter. -/
inductive Call where
  | observe (now : Timestamp)
  | validate (action : Action)
  | execute (action : Action)
  deriving DecidableEq, Repr

inductive Answer where
  | observed (reply : Except PyError Observation)
  | validated (reply : Except PyError ValidationResult)
  | executed (reply : Except PyError ExecutionResult)

def call (adapter : ReferenceSimulationAdapter) : Call → Answer × ReferenceSimulationAdapter
  | .observe now =>
    match adapter.observe now with
    | .ok (observation, adapter) => (.observed (.ok observation), adapter)
    | .error e => (.observed (.error e), adapter)
  | .validate action => (.validated (adapter.validate action), adapter)
  | .execute action =>
    let (result, adapter) := adapter.execute action
    (.executed result, adapter)

/-- The calls of one process, in order. -/
def calls (adapter : ReferenceSimulationAdapter) : List Call → List Answer × ReferenceSimulationAdapter
  | [] => ([], adapter)
  | c :: rest =>
    let (answer, adapter) := adapter.call c
    let (answers, adapter) := adapter.calls rest
    (answer :: answers, adapter)

/-- The next process opens the snapshot the last one saved. -/
def reopen (adapter : ReferenceSimulationAdapter) : Except PyError ReferenceSimulationAdapter := do
  let restored ← fromSnapshot adapter.snapshot adapter.forbiddenActions
  return restored.initializeAdapter

/-- The processes of a session, each with its calls, and the adapter saved and reopened behind each. -/
def processes (adapter : ReferenceSimulationAdapter) :
    List (List Call) → Except PyError (List Answer × ReferenceSimulationAdapter)
  | [] => .ok ([], adapter)
  | process :: rest => do
    let (answers, adapter) := adapter.calls process
    let adapter ← adapter.reopen
    let (more, adapter) ← adapter.processes rest
    return (answers ++ more, adapter)

/-- What a reopened adapter has in common with the one that was saved: all but the events. -/
structure Twin (a b : ReferenceSimulationAdapter) : Prop where
  state : a.simulation.state = b.simulation.state
  seed : a.simulation.seed = b.simulation.seed
  forbidden : a.forbiddenActions = b.forbiddenActions
  running : a.initialized = b.initialized
  sequence : a.observationSequence = b.observationSequence

/-- An adapter in use whose snapshot opens. -/
structure Saveable (a : ReferenceSimulationAdapter) : Prop where
  stored : a.simulation.state.Stored
  running : a.initialized = true

variable {a b d : ReferenceSimulationAdapter}

theorem Twin.refl (a : ReferenceSimulationAdapter) : Twin a a := ⟨rfl, rfl, rfl, rfl, rfl⟩

theorem Twin.trans (h : Twin a b) (h' : Twin b d) : Twin a d :=
  ⟨h.state.trans h'.state, h.seed.trans h'.seed, h.forbidden.trans h'.forbidden, h.running.trans h'.running,
    h.sequence.trans h'.sequence⟩

theorem Twin.snapshot_eq (h : Twin a b) : a.snapshot = b.snapshot := by
  unfold snapshot
  congr 1
  · exact h.sequence
  · exact h.seed
  · rw [h.state]

theorem Twin.validate_eq (h : Twin a b) (action : Action) : a.validate action = b.validate action := by
  unfold validate requireInitialized
  rw [h.state, h.forbidden, h.running]

/-- **Twins answer an action alike**, and stay twins. -/
theorem Twin.execute (h : Twin a b) (action : Action) :
    (a.execute action).1 = (b.execute action).1 ∧ Twin (a.execute action).2 (b.execute action).2 := by
  unfold ReferenceSimulationAdapter.execute
  rw [h.validate_eq]
  cases b.validate action with
  | error e => exact ⟨rfl, h⟩
  | ok validation =>
    dsimp only
    by_cases hvalid : validation.valid = true
    · rw [if_pos hvalid, if_pos hvalid]
      cases parseAction action with
      | error message => exact ⟨rfl, h⟩
      | ok parsed =>
        obtain ⟨hresult, hstate, hseed⟩ := ReferenceSimulation.execute_numbering h.state h.seed parsed
        exact ⟨hresult, hstate, hseed, h.forbidden, h.running, h.sequence⟩
    · rw [if_neg hvalid, if_neg hvalid]
      exact ⟨rfl, h⟩

theorem Twin.call (h : Twin a b) (c : Call) : (a.call c).1 = (b.call c).1 ∧ Twin (a.call c).2 (b.call c).2 := by
  cases c with
  | observe now =>
    unfold ReferenceSimulationAdapter.call observe requireInitialized
    dsimp only
    rw [h.running]
    cases b.initialized with
    | false => exact ⟨rfl, h⟩
    | true =>
      simp only [if_true, bind, Except.bind, pure, Except.pure]
      rw [h.state, h.sequence]
      exact ⟨rfl, h.state, h.seed, h.forbidden, rfl, rfl⟩
  | validate action =>
    unfold ReferenceSimulationAdapter.call
    dsimp only
    rw [h.validate_eq]
    exact ⟨rfl, h⟩
  | execute action =>
    obtain ⟨hresult, htwin⟩ := h.execute action
    exact ⟨congrArg Answer.executed hresult, htwin⟩

/-- **A session of twins**, by induction on its calls. -/
theorem Twin.calls : ∀ {a b : ReferenceSimulationAdapter}, Twin a b → ∀ process : List Call,
    (a.calls process).1 = (b.calls process).1 ∧ Twin (a.calls process).2 (b.calls process).2
  | _, _, h, [] => ⟨rfl, h⟩
  | _, _, h, c :: rest => by
    obtain ⟨hanswer, hnext⟩ := h.call c
    obtain ⟨hanswers, hlast⟩ := hnext.calls rest
    exact ⟨congrArg₂ List.cons hanswer hanswers, hlast⟩

theorem calls_append (a : ReferenceSimulationAdapter) (process more : List Call) :
    a.calls (process ++ more) =
      ((a.calls process).1 ++ ((a.calls process).2.calls more).1, ((a.calls process).2.calls more).2) := by
  induction process generalizing a with
  | nil => rfl
  | cons c rest ih =>
    simp only [List.cons_append, ReferenceSimulationAdapter.calls]
    rw [ih]

/-- An adapter that is saved opens, with its state, its seed and its sequence. -/
theorem Saveable.fromSnapshot_snapshot (h : Saveable a) (forbidden : List String) :
    fromSnapshot a.snapshot forbidden = .ok {
      simulation := { state := a.simulation.state, seed := a.simulation.seed }
      forbiddenActions := forbidden, observationSequence := a.observationSequence } := by
  obtain ⟨hstate, hprojects⟩ := SimulationState.stored_iff.1 h.stored
  unfold fromSnapshot snapshot simulationSchemaVersion
  simp only [ne_eq, not_true_eq_false, if_false, SimulationState.modelValidate_modelDump hstate hprojects]

/-- It opens as a twin of itself. -/
theorem Saveable.reopen (h : Saveable a) : ∃ b, a.reopen = .ok b ∧ Twin a b ∧ Saveable b := by
  unfold ReferenceSimulationAdapter.reopen
  rw [h.fromSnapshot_snapshot]
  exact ⟨_, rfl, ⟨rfl, rfl, rfl, h.running, rfl⟩, h.stored, rfl⟩

theorem Saveable.execute (h : Saveable a) (action : Action) : Saveable (a.execute action).2 := by
  unfold ReferenceSimulationAdapter.execute
  cases a.validate action with
  | error e => exact h
  | ok validation =>
    dsimp only
    split
    · cases parseAction action with
      | error message => exact h
      | ok parsed => exact ⟨ReferenceSimulation.stored_execute h.stored parsed, h.running⟩
    · exact h

theorem Saveable.call (h : Saveable a) (c : Call) : Saveable (a.call c).2 := by
  cases c with
  | observe now =>
    unfold ReferenceSimulationAdapter.call observe requireInitialized
    simp only [h.running, if_true, bind, Except.bind, pure, Except.pure]
    exact ⟨h.stored, rfl⟩
  | validate action => exact h
  | execute action => exact h.execute action

theorem Saveable.calls : ∀ {a : ReferenceSimulationAdapter}, Saveable a → ∀ process : List Call,
    Saveable (a.calls process).2
  | _, h, [] => h
  | _, h, c :: rest => (h.call c).calls rest

/-- **The processes of a session**, by induction on them: each answers as the one session would
that has not been stopped. -/
theorem Twin.processes : ∀ {a b : ReferenceSimulationAdapter}, Twin a b → Saveable b → ∀ parts : List (List Call),
    ∃ last, b.processes parts = .ok ((a.calls parts.flatten).1, last) ∧ Twin (a.calls parts.flatten).2 last
  | _, b, h, _, [] => ⟨b, rfl, h⟩
  | a, b, h, hb, process :: rest => by
    obtain ⟨hanswers, hnext⟩ := h.calls process
    obtain ⟨reopened, hreopened, htwin, hsaveable⟩ := (hb.calls process).reopen
    obtain ⟨last, hrest, hlast⟩ := (hnext.trans htwin).processes hsaveable rest
    rw [List.flatten_cons, calls_append]
    refine ⟨last, ?_, hlast⟩
    simp only [ReferenceSimulationAdapter.processes, hreopened, hrest, hanswers, bind, Except.bind, pure, Except.pure]

/-- The adapters a process starts with: a new simulation, or a snapshot that opens. -/
inductive Starts : ReferenceSimulationAdapter → Prop
  | fresh (seed : String) (forbiddenActions : List String) :
    Starts { simulation := { seed }, forbiddenActions }
  | restored {snapshot : AdapterSnapshot} {forbiddenActions : List String} {adapter : ReferenceSimulationAdapter}
    (h : fromSnapshot snapshot forbiddenActions = .ok adapter) : Starts adapter

theorem Starts.saveable (h : Starts a) : Saveable a.initializeAdapter := by
  cases h with
  | fresh seed forbidden => exact ⟨.initial, rfl⟩
  | restored h =>
    unfold fromSnapshot at h
    split at h
    · cases h
    split at h
    · cases h
    split at h
    · cases h
    rename_i state hstate
    cases h
    exact ⟨SimulationState.stored_iff.2 (SimulationState.fieldError_of_modelValidate hstate), rfl⟩

end ReferenceSimulationAdapter

open ReferenceSimulationAdapter in
/-- **A session that is stopped and reopened answers as one that is not**: from every adapter a
process starts with, wherever a session is cut into processes, each process opens the snapshot of
the last one, the observations, validations and results are those of the session in one piece,
and the last snapshot is the one it would leave. -/
theorem sessions_resume (adapter : ReferenceSimulationAdapter) (h : Starts adapter) (parts : List (List Call)) :
    ∃ last, adapter.initializeAdapter.processes parts =
        .ok ((adapter.initializeAdapter.calls parts.flatten).1, last) ∧
      last.snapshot = (adapter.initializeAdapter.calls parts.flatten).2.snapshot := by
  obtain ⟨last, hparts, htwin⟩ := (Twin.refl adapter.initializeAdapter).processes h.saveable parts
  exact ⟨last, hparts, htwin.snapshot_eq.symm⟩

/-- A new simulation, with a repair in one process and a look at it in the next. -/
theorem sessions_resume_repair : ∃ last,
    (ReferenceSimulationAdapter.initializeAdapter {}).processes [[.execute (repairBy 5)], [.observe 1]] =
        .ok (((ReferenceSimulationAdapter.initializeAdapter {}).calls [.execute (repairBy 5), .observe 1]).1, last) ∧
      last.snapshot = ((ReferenceSimulationAdapter.initializeAdapter {}).calls
        [.execute (repairBy 5), .observe 1]).2.snapshot :=
  sessions_resume {} (.fresh "0" []) [[.execute (repairBy 5)], [.observe 1]]

end SimPilot
