import SimPilot.ReferenceSimulation.Simulation
/-!
# What holds of every simulation

`StateOk` is the invariant of the state, kept by every branch of `execute` and by every
tick. It is more than what is promised in the end (`Sound`): infrastructure is a rounded
number, so a repair cannot round it to zero, and the id of a project tells the tick it was
started in and its place among the projects there were.
-/

namespace SimPilot

/-! ## Events -/

@[simp] theorem length_emitted (tick : Nat) : ∀ (n : Nat) (es : List Emission), (emitted tick n es).length = es.length
  | _, [] => rfl
  | n, _ :: es => by simp [emitted, length_emitted tick (n + 1) es]

theorem sequence_emitted (tick : Nat) : ∀ (n : Nat) (es : List Emission),
    (emitted tick n es).map (·.sequence) = List.range' (n + 1) es.length
  | _, [] => rfl
  | n, _ :: es => by simp [emitted, sequence_emitted tick (n + 1) es, List.range'_succ]

/-- Events numbered behind `n` others. -/
def NumberedFrom (n : Nat) (events : List SimulationEvent) : Prop :=
  events.map (·.sequence) = List.range' (n + 1) events.length

theorem NumberedFrom.nil (n : Nat) : NumberedFrom n [] := rfl

theorem numberedFrom_emitted (tick n : Nat) (es : List Emission) : NumberedFrom n (emitted tick n es) := by
  rw [NumberedFrom, length_emitted]
  exact sequence_emitted tick n es

theorem NumberedFrom.append {n : Nat} {events more : List SimulationEvent} (h : NumberedFrom n events)
    (hm : NumberedFrom (n + events.length) more) : NumberedFrom n (events ++ more) := by
  rw [NumberedFrom] at h hm ⊢
  have hsplit := @List.range'_append (n + 1) events.length more.length 1
  rw [List.map_append, h, hm, List.length_append, ← hsplit]
  congr 2
  omega

/-! ## Projects -/

/-- The id of a project names a tick before this one, or this tick and a place among the
first `n` projects. -/
def Issued (seed : String) (tick n : Nat) (id : UUID) : Prop :=
  ∃ started type index amount, id = .project seed started type index amount ∧
    (started < tick ∨ started = tick ∧ index < n)

theorem Issued.later {seed : String} {tick n m : Nat} {id : UUID} (h : Issued seed tick n id) : Issued seed (tick + 1) m id := by
  obtain ⟨started, type, index, amount, rfl, hle⟩ := h
  exact ⟨started, type, index, amount, rfl, .inl (by omega)⟩

/-- The active projects at a tick. -/
structure ProjectsOk (seed : String) (tick : Nat) (projects : List Project) : Prop where
  count : projects.length ≤ maximumActiveProjects
  progressing : ∀ p ∈ projects, p.progress + p.remainingTicks = p.duration ∧ 0 < p.remainingTicks
  issued : ∀ p ∈ projects, Issued seed tick projects.length p.id
  distinct : (projects.map (·.id)).Nodup

namespace ProjectsOk
variable {seed : String} {tick : Nat} {projects : List Project}

/-- A project started at this tick. -/
theorem start (h : ProjectsOk seed tick projects) (hcount : projects.length < maximumActiveProjects) {p : Project}
    {type : String} (hid : p.id = .project seed tick type projects.length p.amount)
    (hp : p.progress + p.remainingTicks = p.duration ∧ 0 < p.remainingTicks) : ProjectsOk seed tick (projects ++ [p]) where
  count := by
    rw [List.length_append, List.length_singleton]
    omega
  progressing := by
    intro q hq
    rcases List.mem_append.1 hq with hq | hq
    · exact h.progressing q hq
    · rw [List.mem_singleton] at hq
      exact hq ▸ hp
  issued := by
    intro q hq
    rw [List.length_append, List.length_singleton]
    rcases List.mem_append.1 hq with hq | hq
    · obtain ⟨started, type, index, amount, hq, hle⟩ := h.issued q hq
      exact ⟨started, type, index, amount, hq, by omega⟩
    · rw [List.mem_singleton] at hq
      subst hq
      exact ⟨tick, type, projects.length, q.amount, hid, .inr ⟨rfl, by omega⟩⟩
  distinct := by
    rw [List.map_append, List.nodup_append]
    refine ⟨h.distinct, by simp, ?_⟩
    rintro x hx y hy rfl
    obtain ⟨q, hq, rfl⟩ := List.mem_map.1 hx
    rw [List.map_singleton, List.mem_singleton] at hy
    -- the projects of this tick have an earlier place
    obtain ⟨started, type', index, amount, hqid, hle⟩ := h.issued q hq
    rw [hqid, hid, UUID.project.injEq] at hy
    omega

/-- The projects that are not complete behind a tick. -/
theorem afterTick (h : ProjectsOk seed tick projects) :
    ProjectsOk seed (tick + 1) ((projects.map progressProject).filter (·.remainingTicks ≠ 0)) where
  count := by
    have := List.length_filter_le (fun p : Project => p.remainingTicks ≠ 0) (projects.map progressProject)
    rw [List.length_map] at this
    exact this.trans h.count
  progressing := by
    intro p hp
    obtain ⟨hmem, hne⟩ := List.mem_filter.1 hp
    obtain ⟨q, hq, rfl⟩ := List.mem_map.1 hmem
    have hsum := (h.progressing q hq).1
    have hpos : q.remainingTicks - 1 ≠ 0 := of_decide_eq_true hne
    change q.duration - (q.remainingTicks - 1) + (q.remainingTicks - 1) = q.duration ∧ 0 < q.remainingTicks - 1
    omega
  issued := by
    intro p hp
    obtain ⟨q, hq, rfl⟩ := List.mem_map.1 (List.mem_filter.1 hp).1
    exact (h.issued q hq).later
  distinct := by
    have hids : (projects.map progressProject).map (·.id) = projects.map (·.id) := by
      rw [List.map_map]
      rfl
    exact (List.Sublist.map _ List.filter_sublist).nodup (hids ▸ h.distinct)

end ProjectsOk

/-- **The loop over the active projects**: capacities only grow, and what is not complete
stays active, one tick on. -/
theorem foldl_progress : ∀ (projects : List Project) (acc : ProjectProgress),
    acc.housing ≤ (projects.foldl ProjectProgress.step acc).housing ∧
      acc.powerCapacity ≤ (projects.foldl ProjectProgress.step acc).powerCapacity ∧
      (projects.foldl ProjectProgress.step acc).active =
        acc.active ++ (projects.map progressProject).filter (·.remainingTicks ≠ 0)
  | [], acc => by simp
  | p :: projects, acc => by
    obtain ⟨hhousing, hpower, hactive⟩ := foldl_progress projects (acc.step p)
    have hstep : acc.housing ≤ (acc.step p).housing ∧ acc.powerCapacity ≤ (acc.step p).powerCapacity ∧
        (acc.step p).active = acc.active ++ [progressProject p].filter (·.remainingTicks ≠ 0) := by
      unfold ProjectProgress.step
      dsimp only
      by_cases hzero : (progressProject p).remainingTicks = 0
      · rw [if_pos hzero]
        refine ⟨?_, ?_, by simp [hzero]⟩
        · dsimp only
          split <;> omega
        · dsimp only
          split <;> omega
      · rw [if_neg hzero]
        exact ⟨le_refl _, le_refl _, by simp [hzero]⟩
    rw [List.foldl_cons]
    refine ⟨hstep.1.trans hhousing, hstep.2.1.trans hpower, ?_⟩
    rw [hactive, hstep.2.2, List.map_cons, List.append_assoc, ← List.filter_append]
    rfl

/-! ## The state -/

/-- The invariant of a state of the simulation with a seed. -/
structure StateOk (seed : String) (s : SimulationState) : Prop where
  housed : s.population ≤ s.housing
  powered : s.population ≤ s.powerCapacity
  usage : s.powerUsage = s.population
  infrastructure_nonneg : 0 ≤ s.infrastructure
  infrastructure_le : s.infrastructure ≤ 100
  infrastructure_rounded : round6 s.infrastructure = s.infrastructure
  debt_nonneg : 0 ≤ s.debt
  debt_le : s.debt ≤ maximumDebt
  solvent : s.failed = false → 0 ≤ s.cash ∧ 0 < s.infrastructure
  stopped : s.failed = true → s.paused = true
  projects : ProjectsOk seed s.tick s.activeProjects

theorem StateOk.initial (seed : String) : StateOk seed initialState where
  housed := by decide
  powered := by decide
  usage := rfl
  infrastructure_nonneg := by decide +kernel
  infrastructure_le := by decide +kernel
  infrastructure_rounded := by decide +kernel
  debt_nonneg := by decide +kernel
  debt_le := by decide +kernel
  solvent _ := by decide +kernel
  stopped h := by cases h
  projects := ⟨by decide, by simp [initialState], by simp [initialState], by simp [initialState]⟩

theorem round6_hundred : round6 100 = 100 := by exact_mod_cast round6_natCast 100

theorem round6_maximumDebt : round6 maximumDebt = maximumDebt := by exact_mod_cast round6_natCast 2000000

/-- Growth stays within housing and power. -/
theorem growth_le (s : SimulationState) (hhoused : s.population ≤ s.housing) (hpowered : s.powerUsage ≤ s.powerCapacity) :
    s.population + calculatePopulationGrowth s ≤ s.housing ∧ s.powerUsage + calculatePopulationGrowth s ≤ s.powerCapacity := by
  unfold calculatePopulationGrowth
  split
  · omega
  · dsimp only
    omega

theorem income_nonneg (s : SimulationState) (h : 0 ≤ s.infrastructure) : 0 ≤ calculateIncome s := by
  have hpower : (0 : ℚ) ≤ if s.powerUsage ≤ s.powerCapacity then 1 else 1 / 2 := by
    split <;> norm_num
  refine round6_nonneg (mul_nonneg (mul_nonneg (mul_nonneg (Nat.cast_nonneg _) ?_) ?_) hpower)
  · norm_num [incomePerCitizen]
  · exact div_nonneg h (by norm_num)

theorem expense_nonneg (level : MaintenanceLevel) {debt : ℚ} (h : 0 ≤ debt) :
    0 ≤ round6 (maintenanceCost level + debtExpense debt) := by
  have hlevel : 0 ≤ maintenanceCost level := by cases level <;> norm_num [maintenanceCost, maintenanceRules]
  have hdebt : 0 ≤ debtExpense debt := round6_nonneg (mul_nonneg h (by norm_num [debtExpenseRate]))
  exact round6_nonneg (add_nonneg hlevel hdebt)

theorem degradation_nonneg (level : MaintenanceLevel) : 0 ≤ infrastructureDegradation level := by
  cases level <;> norm_num [infrastructureDegradation, maintenanceRules]

theorem SimulationState.construct_ok {s : SimulationState} (hdebt : 0 ≤ s.debt) (hinf : 0 ≤ s.infrastructure)
    (hinf' : s.infrastructure ≤ 100) (hincome : 0 ≤ s.incomePerTick) (hexpense : 0 ≤ s.expensePerTick)
    (hfailed : s.failed = false) (husage : s.powerUsage = s.population) (hcount : s.activeProjects.length ≤ 5) :
    s.construct = .ok s := by
  have hnone : s.fieldError = none := by
    simp [SimulationState.fieldError, hdebt.not_gt, hinf.not_gt, hinf'.not_gt, hincome.not_gt, hexpense.not_gt, hfailed, husage,
      hcount.not_gt]
  rw [SimulationState.construct, hnone]

/-- The state behind a tick, but for its solvency. -/
theorem tickedState_ok {seed : String} {s : SimulationState} (h : StateOk seed s) :
    let next := tickedState s (progressProjects s)
    next.construct = .ok next ∧
      ∀ failed paused, (failed = false → 0 ≤ next.cash ∧ 0 < next.infrastructure) → (failed = true → paused = true) →
        StateOk seed { next with failed, paused } := by
  intro next
  obtain ⟨hhousing, hpower, hactive⟩ := foldl_progress s.activeProjects
    { housing := s.housing, powerCapacity := s.powerCapacity
      emissions := [(.tickAdvanced, [("tick", .int (s.tick + 1 : Nat))])] }
  have hgrowth := growth_le (growthState s (progressProjects s)) (h.housed.trans hhousing) (h.powered.trans hpower)
  have hprojects : ProjectsOk seed next.tick next.activeProjects := by
    change ProjectsOk seed (s.tick + 1) (progressProjects s).active
    rw [show (progressProjects s).active = _ from hactive, List.nil_append]
    exact h.projects.afterTick
  have hinf : 0 ≤ next.infrastructure := le_max_left _ _
  have hrounded : round6 next.infrastructure = next.infrastructure := by
    change round6 (max 0 (round6 _)) = max 0 (round6 _)
    rcases max_choice 0 (round6 (s.infrastructure - infrastructureDegradation s.maintenanceLevel)) with he | he <;> rw [he]
    · exact round6_zero
    · exact round6_round6 _
  have hinf' : next.infrastructure ≤ 100 := by
    have hlower := degradation_nonneg s.maintenanceLevel
    have hle := h.infrastructure_le
    refine max_le (by norm_num) (round6_le round6_hundred ?_)
    linarith
  constructor
  · refine SimulationState.construct_ok h.debt_nonneg hinf hinf' ?_ ?_ rfl rfl hprojects.count
    · exact income_nonneg _ h.infrastructure_nonneg
    · exact expense_nonneg _ h.debt_nonneg
  · intro failed paused hsolvent hstopped
    exact
      { housed := hgrowth.1
        powered := hgrowth.2
        usage := rfl
        infrastructure_nonneg := hinf
        infrastructure_le := hinf'
        infrastructure_rounded := hrounded
        debt_nonneg := h.debt_nonneg
        debt_le := h.debt_le
        solvent := hsolvent
        stopped := hstopped
        projects := hprojects }

theorem solvent_of_no_failure {s : SimulationState} (h : failureForState s = none) : 0 ≤ s.cash ∧ 0 < s.infrastructure := by
  unfold failureForState at h
  split at h
  · cases h
  split at h
  · cases h
  · exact ⟨by linarith, by linarith⟩

/-- **One tick keeps the invariant**, and raises nothing while the simulation runs. -/
theorem advanceTick_ok {seed : String} {s : SimulationState} (h : StateOk seed s) (hp : s.paused = false)
    (hf : s.failed = false) (n : Nat) : ∃ result, advanceTick s n = .ok result ∧ StateOk seed result.state ∧
      NumberedFrom n result.events ∧ (result.state.failed = false → result.state.paused = false) := by
  obtain ⟨hconstruct, hok⟩ := tickedState_ok h
  unfold advanceTick
  simp only [hp, hf, Bool.false_eq_true, or_self, if_false, hconstruct, bind, Except.bind]
  cases hfailure : failureForState (tickedState s (progressProjects s)) with
  | some failure => exact ⟨_, rfl, hok true true nofun fun _ => rfl, numberedFrom_emitted _ _ _, nofun⟩
  | none =>
    have hsolvent := solvent_of_no_failure hfailure
    exact ⟨_, rfl, hok false false (fun _ => hsolvent) nofun, numberedFrom_emitted _ _ _, fun _ => rfl⟩

/-! ## Actions -/

namespace ReferenceSimulation
variable {seed : String} {sim : ReferenceSimulation}

/-- What the body of `execute` leaves of a sound simulation. -/
structure AppliedOk (seed : String) (n : Nat) (applied : Applied) : Prop where
  state : StateOk seed applied.state
  numbered : NumberedFrom n applied.newEvents

/-- **The loop of `advance_time`**, by induction on the ticks that are left. -/
theorem advance_ok (base : Nat) : ∀ (ticks : Nat) (applied : Applied), AppliedOk seed base applied →
    applied.state.paused = false → applied.state.failed = false →
      ∃ applied', advance base ticks applied = (.ok (), applied') ∧ AppliedOk seed base applied'
  | 0, applied, h, _, _ => ⟨applied, rfl, h⟩
  | ticks + 1, applied, h, hp, hf => by
    obtain ⟨result, htick, hstate, hevents, hpaused⟩ := advanceTick_ok h.state hp hf (base + applied.newEvents.length)
    have hnext : AppliedOk seed base ⟨result.state, applied.newEvents ++ result.events⟩ := ⟨hstate, h.numbered.append hevents⟩
    simp only [advance, htick]
    cases hfailed : result.state.failed with
    | true => exact ⟨_, rfl, hnext⟩
    | false => exact advance_ok base ticks _ hnext (hpaused hfailed) hfailed

theorem assign_ok {state : SimulationState} (h : StateOk seed state) (emissions : List Emission) :
    AppliedOk seed sim.events.length (sim.assign state emissions) :=
  ⟨h, numberedFrom_emitted _ _ _⟩

/-- A construction that was paid for. -/
theorem build_ok (h : StateOk sim.seed sim.state) {type : ProjectType} {amount : Nat} {cost : ℚ} (hcost : cost ≤ sim.state.cash)
    (hcount : sim.state.activeProjects.length < maximumActiveProjects) :
    AppliedOk sim.seed sim.events.length (sim.build type amount cost) := by
  refine assign_ok ?_ _
  exact
    { h with
      solvent := fun hf => ⟨round6_nonneg (by linarith), (h.solvent hf).2⟩
      projects := h.projects.start hcount rfl (by
        unfold startedProject
        cases type <;> simp) }

theorem invalid_failed (hf : sim.state.failed = true) (action : SimulationAction) :
    (validateAction sim.state action).valid = false := by
  unfold validateAction
  rw [if_pos hf]
  rfl

/-- What a valid action may rely on. -/
theorem valid_running {action : SimulationAction} (h : (validateAction sim.state action).valid = true) :
    sim.state.failed = false := by
  cases hf : sim.state.failed with
  | false => rfl
  | true =>
    rw [invalid_failed hf] at h
    cases h

theorem valid_build {amount : Nat} {price : ℚ} {hprice : 0 ≤ price}
    (h : (validateAction.build sim.state amount price hprice).valid = true) :
    sim.state.activeProjects.length < maximumActiveProjects ∧
      (validateAction.build sim.state amount price hprice).estimatedCost ≤ sim.state.cash := by
  unfold validateAction.build at h ⊢
  split at h
  · cases h
  rename_i hcount
  rw [if_neg hcount]
  split at h
  · cases h
  rename_i hcash
  rw [if_neg hcash]
  exact ⟨by omega, by simpa [ValidationResult.accept] using hcash⟩

/-- **Every branch of `execute` keeps the invariant**, and none raises. -/
theorem apply_ok (h : StateOk sim.seed sim.state) {action : SimulationAction}
    (hv : (validateAction sim.state action).valid = true) :
    ∃ applied, sim.apply (validateAction sim.state action).estimatedCost action = (.ok (), applied) ∧
      AppliedOk sim.seed sim.events.length applied := by
  have hf := valid_running hv
  obtain ⟨hcash, hinf⟩ := h.solvent hf
  cases action with
  | advanceTime ticks positive =>
    simp only [validateAction, hf, Bool.false_eq_true, if_false] at hv ⊢
    split at hv
    · cases hv
    · rename_i hp
      exact advance_ok sim.events.length ticks ⟨sim.state, []⟩ ⟨h, .nil _⟩ (by simpa using hp) hf
  | buildHousing units positive | buildPower capacity positive =>
    simp only [validateAction, hf, Bool.false_eq_true, if_false] at hv ⊢
    obtain ⟨hcount, hcost⟩ := valid_build hv
    exact ⟨_, rfl, build_ok h hcost hcount⟩
  | repairInfrastructure amount positive =>
    simp only [validateAction, hf, Bool.false_eq_true, if_false] at hv ⊢
    split at hv
    · cases hv
    rename_i hmax
    split at hv
    · cases hv
    rename_i hcost
    rw [if_neg hmax, if_neg hcost]
    refine ⟨_, rfl, assign_ok ?_ _⟩
    have hle : sim.state.infrastructure ≤ min 100 (sim.state.infrastructure + amount) :=
      le_min h.infrastructure_le (by linarith)
    -- a repair does not round infrastructure below what it was
    have hkept := le_round6 h.infrastructure_rounded hle
    exact
      { h with
        infrastructure_nonneg := h.infrastructure_nonneg.trans hkept
        infrastructure_le := round6_le round6_hundred (min_le_left _ _)
        infrastructure_rounded := round6_round6 _
        solvent := fun _ => ⟨round6_nonneg (by simpa [ValidationResult.accept] using hcost), hinf.trans_le hkept⟩ }
  | setMaintenance level =>
    refine ⟨_, rfl, assign_ok ?_ _⟩
    exact { h with }
  | takeLoan amount positive =>
    simp only [validateAction, hf, Bool.false_eq_true, if_false] at hv ⊢
    split at hv
    · cases hv
    split at hv
    · cases hv
    split at hv
    · cases hv
    rename_i hlimit
    have hdebt := h.debt_nonneg
    refine ⟨_, rfl, assign_ok ?_ _⟩
    exact
      { h with
        debt_nonneg := round6_nonneg (by linarith)
        debt_le := round6_le round6_maximumDebt (by linarith)
        solvent := fun _ => ⟨round6_nonneg (by linarith), hinf⟩ }
  | repayLoan amount positive =>
    simp only [validateAction, hf, Bool.false_eq_true, if_false] at hv ⊢
    split at hv
    · cases hv
    rename_i hafford
    split at hv
    · cases hv
    rename_i howed
    have hdebt := h.debt_le
    refine ⟨_, rfl, assign_ok ?_ _⟩
    exact
      { h with
        debt_nonneg := round6_nonneg (by linarith)
        debt_le := round6_le round6_maximumDebt (by linarith)
        solvent := fun _ => ⟨round6_nonneg (by linarith), hinf⟩ }
  | pause =>
    refine ⟨_, rfl, assign_ok ?_ _⟩
    exact { h with stopped := fun _ => rfl }
  | resume =>
    refine ⟨_, rfl, assign_ok ?_ _⟩
    exact { h with stopped := fun hfailed => by rw [hf] at hfailed; cases hfailed }

/-! ## Runs -/

/-- The invariant of a simulation. -/
structure SimulationOk (sim : ReferenceSimulation) : Prop where
  state : StateOk sim.seed sim.state
  numbered : NumberedFrom 0 sim.events

theorem SimulationOk.initial (seed : String) : SimulationOk { seed } := ⟨.initial seed, .nil 0⟩

/-- A failed simulation rejects an action. -/
theorem execute_failed (hf : sim.state.failed = true) (action : SimulationAction) :
    ∃ result, (sim.execute action).1 = .ok result ∧ result.success = false ∧
      (sim.execute action).2 = { sim with lastEvents := [] } := by
  have hv := invalid_failed hf action
  unfold execute
  simp only [hv, Bool.false_eq_true, if_false]
  exact ⟨_, rfl, rfl, trivial⟩

theorem SimulationOk.execute (h : SimulationOk sim) (action : SimulationAction) :
    (∃ result, (sim.execute action).1 = .ok result) ∧ SimulationOk (sim.execute action).2 := by
  unfold ReferenceSimulation.execute
  dsimp only
  split
  · rename_i hv
    obtain ⟨applied, happly, hok⟩ := apply_ok h.state hv
    rw [happly]
    refine ⟨⟨_, rfl⟩, hok.state, ?_⟩
    exact h.numbered.append (by rw [Nat.zero_add]; exact hok.numbered)
  · exact ⟨⟨_, rfl⟩, h.state, h.numbered⟩

theorem SimulationOk.run : ∀ {sim : ReferenceSimulation}, SimulationOk sim → ∀ actions : List SimulationAction,
    SimulationOk (sim.run actions)
  | _, h, [] => h
  | _, h, action :: actions => SimulationOk.run (h.execute action).2 actions

/-- What is promised of a simulation. -/
structure Sound (sim : ReferenceSimulation) : Prop where
  housed : sim.state.population ≤ sim.state.housing
  powered : sim.state.population ≤ sim.state.powerCapacity
  usage : sim.state.powerUsage = sim.state.population
  infrastructure : 0 ≤ sim.state.infrastructure ∧ sim.state.infrastructure ≤ 100
  debt : 0 ≤ sim.state.debt ∧ sim.state.debt ≤ 2000000
  solvent : sim.state.failed = false → 0 ≤ sim.state.cash ∧ 0 < sim.state.infrastructure
  stopped : sim.state.failed = true → sim.state.paused = true
  count : sim.state.activeProjects.length ≤ 5
  progressing : ∀ p ∈ sim.state.activeProjects, p.progress + p.remainingTicks = p.duration ∧ 0 < p.remainingTicks
  distinct : (sim.state.activeProjects.map (·.id)).Nodup
  numbered : sim.events.map (·.sequence) = List.range' 1 sim.events.length

theorem SimulationOk.sound (h : SimulationOk sim) : Sound sim where
  housed := h.state.housed
  powered := h.state.powered
  usage := h.state.usage
  infrastructure := ⟨h.state.infrastructure_nonneg, h.state.infrastructure_le⟩
  debt := ⟨h.state.debt_nonneg, h.state.debt_le⟩
  solvent := h.state.solvent
  stopped := h.state.stopped
  count := h.state.projects.count
  progressing := h.state.projects.progressing
  distinct := h.state.projects.distinct
  numbered := h.numbered

/-- **The invariants of the reference simulation** hold behind every run of actions from
the initial state; no action raises, and a failed simulation rejects every action and
keeps its state and its events. -/
theorem reference_simulation_invariants (seed : String) (actions : List SimulationAction) (action : SimulationAction) :
    let sim := ({ seed } : ReferenceSimulation).run actions
    Sound sim ∧ ∃ result, (sim.execute action).1 = .ok result ∧
      (sim.state.failed = true → result.success = false ∧ (sim.execute action).2.state = sim.state ∧
        (sim.execute action).2.events = sim.events) := by
  intro sim
  have hok : SimulationOk sim := (SimulationOk.initial seed).run actions
  refine ⟨hok.sound, ?_⟩
  obtain ⟨result, hresult⟩ := (hok.execute action).1
  refine ⟨result, hresult, fun hf => ?_⟩
  obtain ⟨rejected, hrejected, hno, hsame⟩ := execute_failed hf action
  rw [hresult] at hrejected
  cases hrejected
  rw [hsame]
  exact ⟨hno, rfl, rfl⟩

end ReferenceSimulation

end SimPilot
