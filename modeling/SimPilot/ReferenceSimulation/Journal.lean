import SimPilot.ReferenceSimulation.Restore
/-!
# The events of a simulation tell its state

What the simulation does to its state it says in an event. `SimulationState.after` reads the
events back: each kind of event has one effect on a state, and reading all events of a run over
the initial state gives the state of the simulation, its projects with their progress included
(`events_tell_the_state`). Only the income and the expense of the last tick are not told.
-/

namespace SimPilot

/-! ## What an event says -/

def Dict.natAt (d : Dict) (key : String) : Nat := ((d.get key).bind JsonValue.nat?).getD 0

def Dict.numberAt (d : Dict) (key : String) : ℚ := ((d.get key).bind JsonValue.number?).getD 0

def Dict.uuidAt (d : Dict) (key : String) : Option UUID := (d.get key).bind JsonValue.uuid?

/-- The project that a start is about. -/
def Dict.startedProject (d : Dict) : Option Project := do
  let id ← d.uuidAt "project_id"
  let type ← ProjectType.parse (← d.get "project_type")
  let duration := if type = .housing then 5 else 8
  return { id, type, amount := d.natAt "amount", progress := 0, duration, remainingTicks := duration
           totalCost := d.numberAt "cost" }

/-- The project with so many ticks left. -/
def Project.withLeft (p : Project) (left : Nat) : Project := { p with progress := p.duration - left, remainingTicks := left }

/-- The state behind an event. -/
def SimulationState.after (s : SimulationState) : Emission → SimulationState
  | (.tickAdvanced, d) => { s with tick := d.natAt "tick" }
  | (.projectStarted, d) => { s with activeProjects := s.activeProjects ++ d.startedProject.toList }
  | (.projectProgressed, d) =>
    { s with activeProjects := s.activeProjects.map fun p =>
        if some p.id = d.uuidAt "project_id" then p.withLeft (d.natAt "remaining_ticks") else p }
  | (.projectCompleted, d) =>
    let built (type : ProjectType) : Nat :=
      if (d.get "project_type").bind ProjectType.parse = some type then d.natAt "amount" else 0
    { s with
      housing := s.housing + built .housing, powerCapacity := s.powerCapacity + built .power
      activeProjects := s.activeProjects.filter fun p => some p.id ≠ d.uuidAt "project_id" }
  | (.infrastructureChanged, d) => { s with infrastructure := d.numberAt "current" }
  | (.populationChanged, d) => { s with population := d.natAt "current", powerUsage := d.natAt "current" }
  | (.cashChanged, d) => { s with cash := d.numberAt "current" }
  | (.debtChanged, d) => { s with debt := d.numberAt "current" }
  | (.maintenanceChanged, d) =>
    { s with maintenanceLevel := (MaintenanceLevel.parse (d.numberAt "current")).getD s.maintenanceLevel }
  | (.simulationPaused, _) => { s with paused := true }
  | (.simulationResumed, _) => { s with paused := false }
  | (.simulationFailed, _) => { s with failed := true, paused := true }

/-- The state behind a run of events. -/
def SimulationState.replay (s : SimulationState) (events : List SimulationEvent) : SimulationState :=
  events.foldl (fun s e => s.after (e.type, e.details)) s

/-- What the events tell of a state. -/
def SimulationState.told (s : SimulationState) : SimulationState := { s with incomePerTick := 0, expensePerTick := 0 }

namespace SimulationState

theorem replay_append (s : SimulationState) (events more : List SimulationEvent) :
    s.replay (events ++ more) = (s.replay events).replay more := List.foldl_append

theorem replay_emitted (tick : Nat) : ∀ (n : Nat) (es : List Emission) (s : SimulationState),
    s.replay (emitted tick n es) = es.foldl after s
  | _, [], _ => rfl
  | n, e :: es, s => replay_emitted tick (n + 1) es (s.after e)

theorem foldl_emitIf {c : Prop} [Decidable c] (type : EventType) (details : Dict) (s : SimulationState) :
    (emitIf c type details).foldl after s = if c then s.after (type, details) else s := by
  unfold emitIf
  split <;> rfl

end SimulationState

/-! ## Projects -/

section Projects
variable {p : Project} {before rest : List Project}

theorem map_progressed (hbefore : p.id ∉ before.map (·.id)) (hrest : p.id ∉ rest.map (·.id)) (left : Nat) :
    ((before ++ p :: rest).map fun q => if some q.id = some p.id then q.withLeft left else q) =
      before ++ p.withLeft left :: rest := by
  have hother : ∀ {l : List Project}, p.id ∉ l.map (·.id) →
      (l.map fun q => if some q.id = some p.id then q.withLeft left else q) = l := by
    intro l hl
    refine (List.map_congr_left fun q hq => if_neg ?_).trans (List.map_id l)
    exact fun heq => hl (Option.some.inj heq ▸ List.mem_map_of_mem hq)
  rw [List.map_append, List.map_cons, hother hbefore, hother hrest, if_pos rfl]

theorem filter_completed {q : Project} (hq : q.id = p.id) (hbefore : p.id ∉ before.map (·.id))
    (hrest : p.id ∉ rest.map (·.id)) :
    ((before ++ q :: rest).filter fun q => some q.id ≠ some p.id) = before ++ rest := by
  have hother : ∀ {l : List Project}, p.id ∉ l.map (·.id) → (l.filter fun q => some q.id ≠ some p.id) = l := by
    intro l hl
    refine List.filter_eq_self.2 fun q hq => decide_eq_true fun heq => ?_
    exact hl (Option.some.inj heq ▸ List.mem_map_of_mem hq)
  rw [List.filter_append, List.filter_cons_of_neg (by simp [hq]), hother hbefore, hother hrest]

end Projects

/-- **The loop over the active projects** tells what becomes of each of them, by induction on those that
are left. -/
theorem progress_told : ∀ (rest : List Project) (acc : ProjectProgress) (s : SimulationState),
    s.housing = acc.housing → s.powerCapacity = acc.powerCapacity → s.activeProjects = acc.active ++ rest →
      ((acc.active ++ rest).map (·.id)).Nodup →
        ∃ es, (rest.foldl ProjectProgress.step acc).emissions = acc.emissions ++ es ∧
          es.foldl SimulationState.after s =
            { s with
              housing := (rest.foldl ProjectProgress.step acc).housing
              powerCapacity := (rest.foldl ProjectProgress.step acc).powerCapacity
              activeProjects := (rest.foldl ProjectProgress.step acc).active }
  | [], acc, s, hhousing, hpower, hactive, _ => by
    refine ⟨[], by simp, ?_⟩
    rw [List.append_nil] at hactive
    rw [List.foldl_nil, List.foldl_nil, ← hhousing, ← hpower, ← hactive]
  | p :: rest, acc, s, hhousing, hpower, hactive, hnodup => by
    have hsplit := hnodup
    rw [List.map_append, List.map_cons, List.nodup_middle, List.nodup_cons, List.mem_append, not_or] at hsplit
    obtain ⟨⟨hbefore, hrest⟩, hothers⟩ := hsplit
    let progressed : Emission := (.projectProgressed,
      [("project_id", .uuid p.id), ("remaining_ticks", .int (progressProject p).remainingTicks)])
    have hprogressed : (s.after progressed).activeProjects = acc.active ++ progressProject p :: rest := by
      show (s.activeProjects.map fun q => if some q.id = some p.id then q.withLeft (progressProject p).remainingTicks
        else q) = _
      rw [hactive, map_progressed hbefore hrest]
      rfl
    rw [List.foldl_cons]
    by_cases hzero : (progressProject p).remainingTicks = 0
    · let completed : Emission := (.projectCompleted,
        [("project_id", .uuid p.id), ("project_type", .str p.type.value), ("amount", .int p.amount)])
      have hstep : acc.step p = { acc with
          housing := if p.type = .housing then acc.housing + p.amount else acc.housing
          powerCapacity := if p.type = .housing then acc.powerCapacity else acc.powerCapacity + p.amount
          emissions := acc.emissions ++ [progressed] ++ [completed] } := by
        unfold ProjectProgress.step
        dsimp only
        rw [if_pos hzero]
        rfl
      have hcompleted : ((s.after progressed).after completed).activeProjects = (acc.step p).active ++ rest := by
        show ((s.after progressed).activeProjects.filter fun q => some q.id ≠ some p.id) = _
        rw [hprogressed, filter_completed (show (progressProject p).id = p.id from rfl) hbefore hrest, hstep]
      have hbuilt : ((s.after progressed).after completed).housing = (acc.step p).housing ∧
          ((s.after progressed).after completed).powerCapacity = (acc.step p).powerCapacity := by
        rw [hstep]
        have htype : ((completed.2.get "project_type").bind ProjectType.parse) = some p.type := ProjectType.parse_value _
        show s.housing + (if (completed.2.get "project_type").bind ProjectType.parse = some .housing then p.amount
          else 0) = _ ∧ s.powerCapacity + (if (completed.2.get "project_type").bind ProjectType.parse = some .power
            then p.amount else 0) = _
        rw [htype, hhousing, hpower]
        cases p.type <;> simp
      obtain ⟨es, hes, htold⟩ := progress_told rest (acc.step p) ((s.after progressed).after completed) hbuilt.1
        hbuilt.2 hcompleted (by rw [hstep, List.map_append]; exact hothers)
      refine ⟨progressed :: completed :: es, ?_, ?_⟩
      · rw [hes, hstep]
        simp
      · rw [List.foldl_cons, List.foldl_cons, htold]
        rfl
    · have hstep : acc.step p = { acc with
          active := acc.active ++ [progressProject p], emissions := acc.emissions ++ [progressed] } := by
        unfold ProjectProgress.step
        dsimp only
        rw [if_neg hzero]
      obtain ⟨es, hes, htold⟩ := progress_told rest (acc.step p) (s.after progressed) (by rw [hstep]; exact hhousing)
        (by rw [hstep]; exact hpower) (by rw [hprogressed, hstep, List.append_assoc]; rfl) (by
          rw [hstep, List.append_assoc]
          simpa [progressProject] using hnodup)
      refine ⟨progressed :: es, ?_, ?_⟩
      · rw [hes, hstep]
        simp
      · rw [List.foldl_cons, htold]
        rfl

/-! ## Ticks -/

section Ticks
variable {seed : String} {s : SimulationState}

/-- What a tick tells of its state, but for a failure. -/
theorem tick_told (h : StateOk seed s) (hp : s.paused = false) (hf : s.failed = false) :
    (tickEmissions s (progressProjects s) (tickedState s (progressProjects s))).foldl SimulationState.after s.told =
      (tickedState s (progressProjects s)).told := by
  let start : ProjectProgress :=
    { housing := s.housing, powerCapacity := s.powerCapacity
      emissions := [(.tickAdvanced, [("tick", .int (s.tick + 1 : Nat))])] }
  obtain ⟨es, hes, htold⟩ := progress_told s.activeProjects start { s.told with tick := s.tick + 1 } rfl rfl rfl
    h.projects.distinct
  have hemissions : (progressProjects s).emissions = start.emissions ++ es := hes
  have hprojects : ((progressProjects s).emissions).foldl SimulationState.after s.told =
      { s.told with
        tick := s.tick + 1, housing := (progressProjects s).housing, powerCapacity := (progressProjects s).powerCapacity
        activeProjects := (progressProjects s).active } := by
    rw [hemissions, List.foldl_append]
    exact htold
  unfold tickEmissions
  dsimp only
  rw [List.foldl_append, List.foldl_append, List.foldl_append, hprojects, SimulationState.foldl_emitIf,
    SimulationState.foldl_emitIf, SimulationState.foldl_emitIf]
  -- a field that is not told is as it was
  have hpopulation : calculatePopulationGrowth (growthState s (progressProjects s)) = 0 →
      (tickedState s (progressProjects s)).population = s.population := by
    intro hgrowth
    show s.population + calculatePopulationGrowth (growthState s (progressProjects s)) = s.population
    rw [hgrowth, Nat.add_zero]
  have husage : (tickedState s (progressProjects s)).powerUsage = (tickedState s (progressProjects s)).population := rfl
  have hsame : (tickedState s (progressProjects s)).told =
      { s.told with
        tick := s.tick + 1, housing := (progressProjects s).housing, powerCapacity := (progressProjects s).powerCapacity
        activeProjects := (progressProjects s).active
        population := (tickedState s (progressProjects s)).population
        powerUsage := (tickedState s (progressProjects s)).population
        cash := (tickedState s (progressProjects s)).cash
        infrastructure := (tickedState s (progressProjects s)).infrastructure } := by
    unfold SimulationState.told
    rw [hp, hf]
    rfl
  rw [hsame]
  have husage' := h.usage
  split <;> rename_i hgrowth <;> split <;> rename_i hcash <;> split <;> rename_i hinfrastructure <;>
    simp_all [SimulationState.after, SimulationState.told, Dict.natAt, Dict.numberAt, JsonValue.number?]

/-- **A tick tells the state it leaves**, its failure included. -/
theorem advanceTick_told (h : StateOk seed s) (hp : s.paused = false) (hf : s.failed = false) (n : Nat)
    {result : TickResult} (hresult : advanceTick s n = .ok result) : s.told.replay result.events = result.state.told := by
  obtain ⟨hconstruct, -⟩ := tickedState_ok h
  unfold advanceTick at hresult
  simp only [hp, hf, Bool.false_eq_true, or_self, if_false, hconstruct, bind, Except.bind] at hresult
  cases hfailure : failureForState (tickedState s (progressProjects s)) with
  | some failure =>
    rw [hfailure] at hresult
    cases hresult
    rw [SimulationState.replay_emitted, List.foldl_append, tick_told h hp hf]
    rfl
  | none =>
    rw [hfailure] at hresult
    cases hresult
    rw [SimulationState.replay_emitted, tick_told h hp hf]

/-- **The loop of `advance_time`**, by induction on the ticks that are left. -/
theorem advance_told (base : Nat) : ∀ (ticks : Nat) (applied : ReferenceSimulation.Applied), StateOk seed applied.state →
    applied.state.paused = false → applied.state.failed = false → s.told.replay applied.newEvents = applied.state.told →
      s.told.replay (ReferenceSimulation.advance base ticks applied).2.newEvents =
        (ReferenceSimulation.advance base ticks applied).2.state.told
  | 0, _, _, _, _, htold => htold
  | ticks + 1, applied, h, hp, hf, htold => by
    obtain ⟨result, htick, hok, -, hpaused⟩ := advanceTick_ok h hp hf (base + applied.newEvents.length)
    have hnext : s.told.replay (applied.newEvents ++ result.events) = result.state.told := by
      rw [SimulationState.replay_append, htold, advanceTick_told h hp hf _ htick]
    simp only [ReferenceSimulation.advance, htick]
    cases hfailed : result.state.failed with
    | true => exact hnext
    | false => exact advance_told base ticks _ hok (hpaused hfailed) hfailed hnext

end Ticks

/-! ## Runs -/

namespace ReferenceSimulation
variable {sim : ReferenceSimulation}

/-- **Every branch of `execute`** tells the state it assigns. -/
theorem apply_told (h : StateOk sim.seed sim.state) {action : SimulationAction}
    (hv : (validateAction sim.state action).valid = true) :
    sim.state.told.replay (sim.apply (validateAction sim.state action).estimatedCost action).2.newEvents =
      (sim.apply (validateAction sim.state action).estimatedCost action).2.state.told := by
  have hf := valid_running hv
  have hbuild : ∀ (type : ProjectType) (amount : Nat) (cost : ℚ),
      sim.state.told.replay (sim.build type amount cost).newEvents = (sim.build type amount cost).state.told := by
    intro type amount cost
    unfold build assign
    rw [SimulationState.replay_emitted]
    cases type <;>
      simp [SimulationState.after, SimulationState.told, startedProject, Dict.startedProject, Dict.uuidAt, Dict.natAt,
        Dict.numberAt, JsonValue.number?, cashEmission]
  cases action with
  | advanceTime ticks positive =>
    have hp : sim.state.paused = false := by
      simp only [validateAction, hf, Bool.false_eq_true, if_false] at hv
      by_contra hp
      rw [Bool.not_eq_false] at hp
      rw [if_pos hp] at hv
      cases hv
    exact advance_told sim.events.length ticks ⟨sim.state, []⟩ h hp hf rfl
  | buildHousing units positive => exact hbuild ..
  | buildPower capacity positive => exact hbuild ..
  | repairInfrastructure amount positive | setMaintenance level | takeLoan amount positive | repayLoan amount positive
  | pause | resume =>
    unfold apply assign
    rw [SimulationState.replay_emitted]
    simp [SimulationState.after, SimulationState.told, Dict.numberAt, JsonValue.number?, cashEmission, debtEmission]

theorem execute_told (h : SimulationOk sim) (htold : initialState.replay sim.events = sim.state.told)
    (action : SimulationAction) :
    initialState.replay (sim.execute action).2.events = (sim.execute action).2.state.told := by
  unfold execute
  dsimp only
  split
  · rename_i hv
    have happlied := apply_told h.state hv
    obtain ⟨applied, happly, -⟩ := apply_ok h.state hv
    rw [happly] at happlied ⊢
    rw [SimulationState.replay_append, htold]
    exact happlied
  · exact htold

theorem run_told : ∀ {sim : ReferenceSimulation}, SimulationOk sim → initialState.replay sim.events = sim.state.told →
    ∀ actions : List SimulationAction, initialState.replay (sim.run actions).events = (sim.run actions).state.told
  | _, _, htold, [] => htold
  | _, h, htold, action :: actions => run_told (h.execute action).2 (execute_told h htold action) actions

/-- **The events of a run tell the state it leaves**: read over the initial state they give its tick, its
balances, its population and capacities, its projects with their progress, and whether it is
paused or failed; only the income and the expense of the last tick are not told. -/
theorem events_tell_the_state (seed : String) (actions : List SimulationAction) :
    let sim := ({ seed } : ReferenceSimulation).run actions
    initialState.replay sim.events = { sim.state with incomePerTick := 0, expensePerTick := 0 } :=
  run_told (.initial seed) rfl actions

end ReferenceSimulation

end SimPilot
