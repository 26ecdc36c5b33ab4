import SimPilot.ReferenceSimulation.Invariants
/-!
# Advancing time in parts

`advance_time(n)` and then `advance_time(m)` is `advance_time(n + m)`: the loop over the ticks
stops at a failure, a failed simulation refuses what is left, and the events of the second call
are numbered behind those of the first.
-/

namespace SimPilot

/-! ## Ticks of a valid state -/

/-- What the validators of `SimulationState` let through. -/
structure SimulationState.Valid (s : SimulationState) : Prop where
  debt : 0 ≤ s.debt
  infrastructure : 0 ≤ s.infrastructure
  infrastructure_le : s.infrastructure ≤ 100
  count : s.activeProjects.length ≤ 5

theorem SimulationState.valid_of_fieldError {s : SimulationState} (h : s.fieldError = none) : s.Valid := by
  unfold SimulationState.fieldError at h
  split at h
  · cases h
  rename_i hdebt
  split at h
  · cases h
  rename_i hinfrastructure
  split at h
  · cases h
  split at h
  · cases h
  split at h
  · cases h
  split at h
  · cases h
  split at h
  · cases h
  rename_i hcount
  simp only [not_or, not_lt] at hdebt hinfrastructure hcount
  exact ⟨hdebt, hinfrastructure.1, hinfrastructure.2, hcount⟩

/-- A tick of a valid state raises nothing, and leaves a valid one. -/
theorem advanceTick_valid {s : SimulationState} (h : s.Valid) (hp : s.paused = false) (hf : s.failed = false) (n : Nat) :
    ∃ result, advanceTick s n = .ok result ∧ result.state.Valid ∧
      (result.state.failed = false → result.state.paused = false) := by
  have hactive := (foldl_progress s.activeProjects
    { housing := s.housing, powerCapacity := s.powerCapacity
      emissions := [(.tickAdvanced, [("tick", .int (s.tick + 1 : Nat))])] }).2.2
  have hcount : (tickedState s (progressProjects s)).activeProjects.length ≤ 5 := by
    have hle := List.length_filter_le (fun p : Project => p.remainingTicks ≠ 0) (s.activeProjects.map progressProject)
    rw [List.length_map] at hle
    change (progressProjects s).active.length ≤ 5
    rw [show (progressProjects s).active = _ from hactive, List.nil_append]
    exact hle.trans h.count
  have hinf : 0 ≤ (tickedState s (progressProjects s)).infrastructure := le_max_left _ _
  have hinf' : (tickedState s (progressProjects s)).infrastructure ≤ 100 := by
    have hlower := degradation_nonneg s.maintenanceLevel
    have hle := h.infrastructure_le
    refine max_le (by norm_num) (round6_le round6_hundred ?_)
    linarith
  have hconstruct := SimulationState.construct_ok (s := tickedState s (progressProjects s)) h.debt hinf hinf'
    (income_nonneg _ h.infrastructure) (expense_nonneg _ h.debt) rfl rfl hcount
  unfold advanceTick
  simp only [hp, hf, Bool.false_eq_true, or_self, if_false, hconstruct, bind, Except.bind]
  cases failureForState (tickedState s (progressProjects s)) with
  | some failure => exact ⟨_, rfl, ⟨h.debt, hinf, hinf', hcount⟩, nofun⟩
  | none => exact ⟨_, rfl, ⟨h.debt, hinf, hinf', hcount⟩, fun _ => rfl⟩

namespace ReferenceSimulation

/-! ## The loop -/

/-- The loop behind events of its own is the loop behind that many more of the simulation. -/
theorem advance_shift (base : Nat) : ∀ (ticks : Nat) (state : SimulationState) (events more : List SimulationEvent),
    advance base ticks ⟨state, events ++ more⟩ =
      let (result, applied) := advance (base + events.length) ticks ⟨state, more⟩
      (result, ⟨applied.state, events ++ applied.newEvents⟩)
  | 0, _, _, _ => rfl
  | ticks + 1, state, events, more => by
    unfold advance
    rw [List.length_append, ← Nat.add_assoc]
    cases advanceTick state (base + events.length + more.length) with
    | error e => rfl
    | ok result =>
      dsimp only
      by_cases hfailed : result.state.failed = true
      · rw [if_pos hfailed, if_pos hfailed, List.append_assoc]
      · rw [if_neg hfailed, if_neg hfailed, List.append_assoc, advance_shift]

theorem advance_succ {base ticks : Nat} {applied : Applied} {result : TickResult}
    (h : advanceTick applied.state (base + applied.newEvents.length) = .ok result) :
    advance base (ticks + 1) applied =
      if result.state.failed then (.ok (), ⟨result.state, applied.newEvents ++ result.events⟩)
      else advance base ticks ⟨result.state, applied.newEvents ++ result.events⟩ := by
  simp only [advance, h]

/-- A valid state that runs, or has just failed. -/
structure Advanced (applied : Applied) : Prop where
  valid : applied.state.Valid
  paused : applied.state.failed = false → applied.state.paused = false

/-- The loop over `n + m` ticks stops at a failure among the first `n`. -/
theorem advance_add (base m : Nat) : ∀ (n : Nat) (applied : Applied), Advanced applied → applied.state.failed = false →
    ∃ first, advance base n applied = (.ok (), first) ∧ Advanced first ∧
      advance base (n + m) applied = if first.state.failed then (.ok (), first) else advance base m first
  | 0, applied, h, hf => ⟨applied, rfl, h, by rw [Nat.zero_add, hf]; rfl⟩
  | n + 1, applied, h, hf => by
    obtain ⟨result, htick, hvalid, hpaused⟩ :=
      advanceTick_valid h.valid (h.paused hf) hf (base + applied.newEvents.length)
    have hnext : Advanced ⟨result.state, applied.newEvents ++ result.events⟩ := ⟨hvalid, hpaused⟩
    rw [show n + 1 + m = n + m + 1 by omega, advance_succ htick, advance_succ htick]
    cases hfailed : result.state.failed with
    | true =>
      refine ⟨⟨result.state, applied.newEvents ++ result.events⟩, if_pos rfl, hnext, ?_⟩
      rw [if_pos rfl, if_pos hfailed]
    | false =>
      rw [if_neg Bool.false_ne_true, if_neg Bool.false_ne_true]
      exact advance_add base m n _ hnext hfailed

/-! ## The calls -/

theorem execute_advanceTime {sim : ReferenceSimulation} {ticks : Nat} {applied : Applied} (positive : 0 < ticks)
    (hp : sim.state.paused = false) (hf : sim.state.failed = false)
    (h : advance sim.events.length ticks ⟨sim.state, []⟩ = (.ok (), applied)) :
    (∃ result, (sim.execute (.advanceTime ticks positive)).1 = .ok result ∧ result.success = true) ∧
      (sim.execute (.advanceTime ticks positive)).2 =
        { sim with state := applied.state, lastEvents := applied.newEvents, events := sim.events ++ applied.newEvents } := by
  have hvalid : validateAction sim.state (.advanceTime ticks positive) = .free := by
    simp [validateAction, hp, hf]
  unfold execute
  rw [hvalid]
  simp only [ValidationResult.free, ValidationResult.accept, if_true, apply, h]
  exact ⟨⟨_, rfl, rfl⟩, trivial⟩

/-- **Advancing `n` and then `m` ticks is advancing `n + m`**: the same state, and the same events. -/
theorem advance_time_composes (sim : ReferenceSimulation) (hvalid : sim.state.fieldError = none)
    (hp : sim.state.paused = false) (hf : sim.state.failed = false) (n m : Nat) (hn : 0 < n) (hm : 0 < m) :
    let first := (sim.execute (.advanceTime n hn)).2
    let second := (first.execute (.advanceTime m hm)).2
    let whole := sim.execute (.advanceTime (n + m) (Nat.add_pos_left hn m))
    (∃ result, whole.1 = .ok result ∧ result.success = true) ∧
      second.state = whole.2.state ∧ second.events = whole.2.events := by
  intro first second whole
  have hstart : Advanced ⟨sim.state, []⟩ := ⟨sim.state.valid_of_fieldError hvalid, fun _ => hp⟩
  obtain ⟨applied, hfirst, hadvanced, hwhole⟩ := advance_add sim.events.length m n ⟨sim.state, []⟩ hstart hf
  have heq : first = _ := (execute_advanceTime hn hp hf hfirst).2
  cases hfailed : applied.state.failed with
  | true =>
    -- the second call is refused
    rw [hfailed, if_pos rfl] at hwhole
    have hfirstFailed : first.state.failed = true := by rw [heq]; exact hfailed
    have hrefused := execute_failed hfirstFailed (.advanceTime m hm)
    obtain ⟨rejected, -, -, hsecond⟩ := hrefused
    obtain ⟨hresult, hwhole⟩ := execute_advanceTime (Nat.add_pos_left hn m) hp hf hwhole
    refine ⟨hresult, ?_, ?_⟩
    · show second.state = whole.2.state
      rw [show second = _ from hsecond, show whole.2 = _ from hwhole, heq]
    · show second.events = whole.2.events
      rw [show second = _ from hsecond, show whole.2 = _ from hwhole, heq]
  | false =>
    rw [hfailed, if_neg Bool.false_ne_true] at hwhole
    obtain ⟨last, hlast, -, -⟩ := advance_add sim.events.length 0 m applied hadvanced hfailed
    rw [hlast] at hwhole
    -- the second loop is the rest of the whole one, behind the events of the first
    have hshift := advance_shift sim.events.length m applied.state applied.newEvents []
    rw [List.append_nil, hlast] at hshift
    obtain ⟨result, rest, hrest⟩ : ∃ result rest,
        advance (sim.events.length + applied.newEvents.length) m ⟨applied.state, []⟩ = (result, rest) := ⟨_, _, rfl⟩
    rw [hrest] at hshift
    cases hshift
    have hsecond : advance first.events.length m ⟨first.state, []⟩ = (.ok (), rest) := by
      rw [heq, List.length_append]
      exact hrest
    have hfirstPaused : first.state.paused = false := by rw [heq]; exact hadvanced.paused hfailed
    have hfirstFailed : first.state.failed = false := by rw [heq]; exact hfailed
    obtain ⟨-, hsecond⟩ := execute_advanceTime hm hfirstPaused hfirstFailed hsecond
    obtain ⟨hresult, hwhole⟩ := execute_advanceTime (Nat.add_pos_left hn m) hp hf hwhole
    refine ⟨hresult, ?_, ?_⟩
    · show second.state = whole.2.state
      rw [show second = _ from hsecond, show whole.2 = _ from hwhole]
    · show second.events = whole.2.events
      rw [show second = _ from hsecond, show whole.2 = _ from hwhole, heq, List.append_assoc]

theorem advance_time_composes_initial :
    let first := (({} : ReferenceSimulation).execute (.advanceTime 2 Nat.two_pos)).2
    let second := (first.execute (.advanceTime 3 (Nat.succ_pos 2))).2
    let whole := ({} : ReferenceSimulation).execute (.advanceTime (2 + 3) (Nat.add_pos_left Nat.two_pos 3))
    (∃ result, whole.1 = .ok result ∧ result.success = true) ∧
      second.state = whole.2.state ∧ second.events = whole.2.events :=
  advance_time_composes {} (by decide +kernel) rfl rfl 2 3 Nat.two_pos (Nat.succ_pos 2)

end ReferenceSimulation

end SimPilot
