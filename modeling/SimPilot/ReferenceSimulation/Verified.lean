import SimPilot.ReferenceSimulation.Adapter
/-!
# Verification of the reference actions (runtime/verification.py)

The verifier asks for the effect of the action's own type, and sees the amounts of the
simulation only behind their rounding to six decimals. What the simulation does is the
action it parsed. So an action is verified when its type is the parsed one and its amount
survives the rounding, and in the few other cases in which the effect of one type is
that of another.

| here | there |
|---|---|
| `Registers` | a rounded balance moves by an amount |
| `Recognised` | the actions `verify` recognises the effect of |
-/

namespace SimPilot

/-! ## Rounded balances -/

theorem floor_eq {q : ℚ} {n : Int} (hle : (n : ℚ) ≤ q) (hlt : q < n + 1) : q.floor = n := by
  have hlower : n ≤ q.floor := Rat.le_floor_iff.2 hle
  have hupper : q.floor < n + 1 := Rat.floor_lt_iff.2 (by push_cast; exact hlt)
  omega

theorem lt_roundEven_add_iff (n : Int) {d : ℚ} (hd : 0 < d) :
    n < roundEven (n + d) ↔ 1 / 2 < d ∨ d = 1 / 2 ∧ n % 2 = 1 := by
  by_cases hone : 1 ≤ d
  · have hlower : roundEven ((n + 1 : Int) : ℚ) ≤ roundEven (n + d) := roundEven_mono (by push_cast; linarith)
    rw [roundEven_intCast] at hlower
    exact ⟨fun _ => .inl (by linarith), fun _ => by omega⟩
  · unfold roundEven
    rw [floor_eq (n := n) (by linarith) (by linarith)]
    dsimp only
    rw [add_sub_cancel_left]
    rcases lt_trichotomy d (1 / 2) with hlt | heq | hgt
    · rw [if_pos hlt]
      exact ⟨fun h => absurd h (lt_irrefl n), by rintro (h | ⟨h, -⟩) <;> linarith⟩
    · rw [heq, if_neg (lt_irrefl _), if_neg (lt_irrefl _)]
      by_cases heven : n % 2 = 0
      · rw [if_pos heven]
        exact ⟨fun h => absurd h (lt_irrefl n), by rintro (h | ⟨-, h⟩) <;> [exact absurd h (lt_irrefl _); omega]⟩
      · rw [if_neg heven]
        exact ⟨fun _ => .inr ⟨rfl, by omega⟩, fun _ => by omega⟩
    · rw [if_neg hgt.not_gt, if_pos hgt]
      exact ⟨fun _ => .inl hgt, fun _ => by omega⟩

theorem roundEven_sub_lt_iff (n : Int) {d : ℚ} (hd : 0 < d) :
    roundEven (n - d) < n ↔ 1 / 2 < d ∨ d = 1 / 2 ∧ n % 2 = 1 := by
  by_cases hone : 1 ≤ d
  · have hupper : roundEven (n - d) ≤ roundEven ((n - 1 : Int) : ℚ) := roundEven_mono (by push_cast; linarith)
    rw [roundEven_intCast] at hupper
    exact ⟨fun _ => .inl (by linarith), fun _ => by omega⟩
  · unfold roundEven
    rw [floor_eq (n := n - 1) (by push_cast; linarith) (by push_cast; linarith)]
    dsimp only
    have hfraction : (n : ℚ) - d - ((n - 1 : Int) : ℚ) = 1 - d := by
      push_cast
      ring
    rw [hfraction]
    rcases lt_trichotomy d (1 / 2) with hlt | heq | hgt
    · rw [if_neg (by linarith), if_pos (by linarith)]
      exact ⟨fun h => by omega, by rintro (h | ⟨h, -⟩) <;> linarith⟩
    · rw [heq, if_neg (by norm_num), if_neg (by norm_num)]
      by_cases hodd : n % 2 = 1
      · rw [if_pos (by omega)]
        exact ⟨fun _ => .inr ⟨rfl, hodd⟩, fun _ => by omega⟩
      · rw [if_neg (by omega)]
        exact ⟨fun h => by omega, by rintro (h | ⟨-, h⟩) <;> [exact absurd h (lt_irrefl _); exact absurd h hodd]⟩
    · rw [if_pos (by linarith)]
      exact ⟨fun _ => .inl hgt, fun _ => by omega⟩

/-- The amount is more than half a millionth, or just half of it behind an odd number of
millionths: it moves a rounded balance. -/
def Registers (balance amount : ℚ) : Prop :=
  1 / 2000000 < amount ∨ amount = 1 / 2000000 ∧ roundEven (balance * 1000000) % 2 = 1

section Balance
variable {balance amount : ℚ}

theorem Registers.of_le (h : Registers balance amount) {other more : ℚ} (hmore : amount < more) : Registers other more := by
  left
  rcases h with h | ⟨h, -⟩ <;> linarith

theorem scaled_rounded (hbalance : round6 balance = balance) :
    balance * 1000000 = roundEven (balance * 1000000) := by
  conv_lhs => rw [← hbalance]
  unfold round6
  field_simp

theorem lt_round6_iff (hbalance : round6 balance = balance) {q : ℚ} :
    balance < round6 q ↔ roundEven (balance * 1000000) < roundEven (q * 1000000) := by
  conv_lhs => lhs; rw [← hbalance]
  unfold round6
  rw [div_lt_div_iff_of_pos_right (by norm_num)]
  exact_mod_cast Iff.rfl

theorem round6_lt_iff (hbalance : round6 balance = balance) {q : ℚ} :
    round6 q < balance ↔ roundEven (q * 1000000) < roundEven (balance * 1000000) := by
  conv_lhs => rhs; rw [← hbalance]
  unfold round6
  rw [div_lt_div_iff_of_pos_right (by norm_num)]
  exact_mod_cast Iff.rfl

theorem registers_iff : Registers balance amount ↔
    1 / 2 < amount * 1000000 ∨ amount * 1000000 = 1 / 2 ∧ roundEven (balance * 1000000) % 2 = 1 := by
  have hlt : 1 / 2000000 < amount ↔ 1 / 2 < amount * 1000000 := by
    constructor <;> intro h <;> linarith
  have heq : amount = 1 / 2000000 ↔ amount * 1000000 = 1 / 2 := by
    constructor <;> intro h <;> linarith
  rw [Registers, hlt, heq]

theorem lt_round6_add_iff (hbalance : round6 balance = balance) (hamount : 0 < amount) :
    balance < round6 (balance + amount) ↔ Registers balance amount := by
  rw [lt_round6_iff hbalance, add_mul, registers_iff]
  conv_lhs => rw [scaled_rounded hbalance]
  rw [roundEven_intCast]
  exact lt_roundEven_add_iff _ (by linarith)

theorem round6_sub_lt_iff (hbalance : round6 balance = balance) (hamount : 0 < amount) :
    round6 (balance - amount) < balance ↔ Registers balance amount := by
  rw [round6_lt_iff hbalance, sub_mul, registers_iff]
  conv_lhs => rw [scaled_rounded hbalance]
  rw [roundEven_intCast]
  exact roundEven_sub_lt_iff _ (by linarith)

theorem round6_sub_ne_iff (hbalance : round6 balance = balance) (hamount : 0 < amount) :
    round6 (balance - amount) ≠ balance ↔ Registers balance amount := by
  rw [← round6_sub_lt_iff hbalance hamount]
  have hle : round6 (balance - amount) ≤ balance := round6_le hbalance (by linarith)
  exact ⟨fun hne => lt_of_le_of_ne hle hne, fun hlt => hlt.ne⟩

end Balance

/-! ## Equal dumps -/

/-- A list with distinct keys is the only one of its items with these keys. -/
theorem eq_of_perm_keys {κ α : Type} : ∀ {xs ys : List (κ × α)}, xs.Perm ys → xs.map Prod.fst = ys.map Prod.fst →
    (xs.map Prod.fst).Nodup → xs = ys
  | [], ys, hperm, _, _ => hperm.nil_eq
  | (k, v) :: xs, [], hperm, _, _ => hperm.eq_nil
  | (k, v) :: xs, (k', w) :: ys, hperm, hkeys, hn => by
    simp only [List.map_cons, List.cons.injEq] at hkeys
    obtain ⟨rfl, hkeys⟩ := hkeys
    simp only [List.map_cons, List.nodup_cons] at hn
    have hmem : (k, v) ∈ (k, w) :: ys := hperm.mem_iff.1 (List.mem_cons_self ..)
    obtain rfl : v = w := by
      rcases List.mem_cons.1 hmem with heq | hmem
      · exact (Prod.mk.inj heq).2
      · exact absurd (hkeys ▸ List.mem_map_of_mem (f := Prod.fst) hmem) hn.1
    rw [eq_of_perm_keys hperm.cons_inv hkeys hn.2]

namespace JsonValue

/-- Dictionaries with the same keys in one order are equal item by item. -/
theorem canonItems_of_pyEq {a b : Dict} (hkeys : Assoc.keys a = Assoc.keys b) (hn : (Assoc.keys a).Nodup)
    (h : Dict.pyEq a b = true) : canonItems a = canonItems b := by
  simp only [Dict.pyEq, pyEq, canon, decide_eq_true_eq, dict.injEq] at h
  have hperm : (canonItems a).Perm (canonItems b) :=
    (List.perm_insertionSort keyLE _).symm.trans (h ▸ List.perm_insertionSort keyLE (canonItems b))
  have hkept : ∀ d : Dict, (canonItems d).map Prod.fst = Assoc.keys d := by
    intro d
    rw [canonItems_eq, Assoc.keys, List.map_map]
    exact List.map_congr_left fun item _ => by rw [Function.comp, canonItem]
  exact eq_of_perm_keys hperm (by rw [hkept, hkept, hkeys]) (by rwa [hkept])

theorem canonList_eq_map (xs : List JsonValue) : canonList xs = xs.map canon := by
  induction xs with
  | nil => rfl
  | cons x xs ih => rw [canonList, ih, List.map_cons]

end JsonValue

theorem ProjectType.value_injective : Function.Injective ProjectType.value := by
  intro a b h
  cases a <;> cases b <;> first | rfl | exact absurd h (by decide)

theorem MaintenanceLevel.value_injective : Function.Injective MaintenanceLevel.value := by
  intro a b h
  cases a <;> cases b <;> first | rfl | exact absurd h (by decide +kernel)

def Project.fields : List String :=
  ["schema_version", "id", "type", "amount", "progress", "duration", "remaining_ticks", "total_cost"]

def SimulationState.fields : List String :=
  ["schema_version", "tick", "cash", "debt", "population", "housing", "power_capacity", "power_usage",
    "infrastructure", "maintenance_level", "income_per_tick", "expense_per_tick", "paused", "failed",
    "active_projects"]

/-- The dump of a project tells it apart. -/
theorem Project.modelDump_injective {p p' : Project} (h : Dict.pyEq p.modelDump p'.modelDump = true) : p = p' := by
  have hkeys : Assoc.keys p.modelDump = Project.fields := rfl
  have hitems := JsonValue.canonItems_of_pyEq (hkeys.trans rfl) (hkeys ▸ by decide) h
  obtain ⟨id, type, amount, progress, duration, remaining, cost⟩ := p
  obtain ⟨id', type', amount', progress', duration', remaining', cost'⟩ := p'
  simp only [modelDump, JsonValue.canonItems, JsonValue.canonItem, JsonValue.canon, List.cons.injEq, Prod.mk.injEq,
    true_and, and_true, JsonValue.uuid.injEq, JsonValue.str.injEq, JsonValue.float.injEq, Int.cast_natCast,
    Nat.cast_inj] at hitems
  obtain ⟨rfl, htype, rfl, rfl, rfl, rfl, rfl⟩ := hitems
  rw [ProjectType.value_injective htype]

theorem Project.modelDumps_injective : ∀ {ps ps' : List Project},
    ps.map (JsonValue.canon ∘ fun p => .dict p.modelDump) = ps'.map (JsonValue.canon ∘ fun p => .dict p.modelDump) →
      ps = ps'
  | [], [], _ => rfl
  | p :: ps, p' :: ps', h => by
    rw [List.map_cons, List.map_cons, List.cons.injEq] at h
    rw [Project.modelDump_injective (decide_eq_true h.1), Project.modelDumps_injective h.2]

/-- The dump of a state tells it apart. -/
theorem SimulationState.modelDump_injective {s s' : SimulationState}
    (h : Dict.pyEq s.modelDump s'.modelDump = true) : s = s' := by
  have hkeys : Assoc.keys s.modelDump = SimulationState.fields := rfl
  have hitems := JsonValue.canonItems_of_pyEq (hkeys.trans rfl) (hkeys ▸ by decide) h
  obtain ⟨tick, cash, debt, population, housing, capacity, usage, infrastructure, level, income, expense, paused, failed,
    projects⟩ := s
  obtain ⟨tick', cash', debt', population', housing', capacity', usage', infrastructure', level', income', expense',
    paused', failed', projects'⟩ := s'
  simp only [modelDump, JsonValue.canonItems, JsonValue.canonItem, JsonValue.canon, List.cons.injEq, Prod.mk.injEq,
    true_and, and_true, JsonValue.list.injEq, JsonValue.float.injEq, Int.cast_natCast, Nat.cast_inj,
    JsonValue.canonList_eq_map, List.map_map] at hitems
  obtain ⟨rfl, rfl, rfl, rfl, rfl, rfl, rfl, rfl, hlevel, rfl, rfl, hpaused, hfailed, hprojects⟩ := hitems
  have hbool : ∀ {b b' : Bool}, (if b then (1 : ℚ) else 0) = (if b' then 1 else 0) → b = b' := by
    intro b b' hb
    cases b <;> cases b' <;> simp at hb ⊢
  rw [MaintenanceLevel.value_injective hlevel, hbool hpaused, hbool hfailed, Project.modelDumps_injective hprojects]

/-! ## What the verifier sees -/

/-- The observation shows the state. -/
structure Shows (o : Observation) (s : SimulationState) : Prop where
  tick : o.tick = s.tick
  state : o.state = s.modelDump

/-- The effect of a type of action, of the states the observations show. -/
def Effect (s s' : SimulationState) (type : String) : Prop :=
  type = "advance_time" ∧ s.tick < s'.tick ∨
  (type = "build_housing" ∨ type = "build_power") ∧ s'.activeProjects.length = s.activeProjects.length + 1 ∨
  type = "repair" ∧ s.infrastructure < s'.infrastructure ∨
  type = "set_maintenance" ∧ s.maintenanceLevel ≠ s'.maintenanceLevel ∨
  type = "take_loan" ∧ s.debt < s'.debt ∨
  type = "repay_loan" ∧ s'.debt < s.debt ∨
  type = "pause" ∧ s'.paused = true ∨
  type = "resume" ∧ s.paused = true ∧ s'.paused = false

namespace ActionVerifier
variable {before after : Observation} {s s' : SimulationState}

theorem stateChanged_iff (hb : Shows before s) (ha : Shows after s') : stateChanged before after = true ↔ s ≠ s' := by
  unfold stateChanged
  rw [hb.state, ha.state, hb.tick, ha.tick]
  constructor
  · rintro h rfl
    simp at h
  · intro hne
    have hdump : Dict.pyEq s.modelDump s'.modelDump = false :=
      Bool.eq_false_iff.2 fun h => hne (SimulationState.modelDump_injective h)
    rw [hdump]
    rfl

theorem effect_iff (hb : Shows before s) (ha : Shows after s') {action : Action}
    (hname : action.parameters.get "name" = none) :
    effect before action after = true ↔ Effect s s' action.type.val := by
  have hitem : ∀ key, stateItem before key = (s.modelDump.get key).getD .null := fun key => by rw [stateItem, hb.state]
  have hitem' : ∀ key, stateItem after key = (s'.modelDump.get key).getD .null := fun key => by rw [stateItem, ha.state]
  unfold effect
  simp only [numericIncreased, numericDecreased, changed, renamed, hname, hitem, hitem', hb.tick, ha.tick]
  have hlevel : ∀ level level' : MaintenanceLevel, level.value = level'.value ↔ level = level' :=
    fun _ _ => MaintenanceLevel.value_injective.eq_iff
  split
  case h_12 => simp_all [Effect]
  all_goals
    rename_i htype
    simp [Effect, htype, SimulationState.modelDump, numeric, JsonValue.number?, JsonValue.pyEq, JsonValue.canon, hlevel]

/-- A success that reports its change and its cost is verified when the states differ by
the effect of the type. -/
theorem verify_iff (hb : Shows before s) (ha : Shows after s') {action : Action} {result : ExecutionResult}
    (hname : action.parameters.get "name" = none) (hsuccess : result.success = true)
    (hchanged : result.stateChanged = decide (s' ≠ s)) :
    (verify before action result after result.cost).verified = true ↔ s ≠ s' ∧ Effect s s' action.type.val := by
  have hreport : reportReasons before result after result.cost = [] := by
    have hsame : result.stateChanged = stateChanged before after := by
      rw [hchanged, Bool.eq_iff_iff, decide_eq_true_iff, stateChanged_iff hb ha, ne_comm]
    unfold reportReasons
    rw [if_neg (not_not.2 hsame), if_neg (by rw [sub_self, abs_zero]; norm_num)]
    rfl
  simp only [verify, reasons, hreport, hsuccess, if_true, List.nil_append, decide_eq_true_eq, List.append_eq_nil_iff]
  rw [← stateChanged_iff hb ha, ← effect_iff hb ha hname]
  cases stateChanged before after <;> cases effect before action after <;> simp

end ActionVerifier

/-! ## Ticks -/

/-- The simulation fails within its next ticks. -/
def FailsWithin : Nat → SimulationState → Prop
  | 0, _ => False
  | ticks + 1, s =>
    (failureForState (tickedState s (progressProjects s))).isSome = true ∨
      FailsWithin ticks (tickedState s (progressProjects s))

/-- What ticks leave of a state. -/
structure Later (s s' : SimulationState) : Prop where
  tick : s.tick ≤ s'.tick
  debt : s'.debt = s.debt
  infrastructure : s'.infrastructure ≤ s.infrastructure
  level : s'.maintenanceLevel = s.maintenanceLevel
  projects : s'.activeProjects.length ≤ s.activeProjects.length

theorem Later.refl (s : SimulationState) : Later s s := ⟨le_refl _, rfl, le_refl _, rfl, le_refl _⟩

theorem Later.trans {s s' s'' : SimulationState} (h : Later s s') (h' : Later s' s'') : Later s s'' where
  tick := h.tick.trans h'.tick
  debt := h'.debt.trans h.debt
  infrastructure := h'.infrastructure.trans h.infrastructure
  level := h'.level.trans h.level
  projects := h'.projects.trans h.projects

/-- The balances of a state are rounded. -/
structure Balanced (s : SimulationState) : Prop where
  cash : round6 s.cash = s.cash
  debt : round6 s.debt = s.debt

section Ticks
variable {seed : String} {s : SimulationState}

theorem tickedState_later (h : StateOk seed s) : Later s (tickedState s (progressProjects s)) where
  tick := Nat.le_succ _
  debt := rfl
  infrastructure := by
    have hlower := degradation_nonneg s.maintenanceLevel
    refine max_le h.infrastructure_nonneg (round6_le h.infrastructure_rounded ?_)
    linarith
  level := rfl
  projects := by
    obtain ⟨-, -, hactive⟩ := foldl_progress s.activeProjects
      { housing := s.housing, powerCapacity := s.powerCapacity
        emissions := [(.tickAdvanced, [("tick", .int (s.tick + 1 : Nat))])] }
    have hlength := List.length_filter_le (fun p : Project => p.remainingTicks ≠ 0) (s.activeProjects.map progressProject)
    rw [List.length_map] at hlength
    change (progressProjects s).active.length ≤ _
    rw [show (progressProjects s).active = _ from hactive, List.nil_append]
    exact hlength

theorem advanceTick_state (h : StateOk seed s) (hp : s.paused = false) (hf : s.failed = false) (n : Nat) :
    let failed := (failureForState (tickedState s (progressProjects s))).isSome
    ∃ result, advanceTick s n = .ok result ∧ StateOk seed result.state ∧
      result.state = { tickedState s (progressProjects s) with failed, paused := failed } := by
  obtain ⟨result, hresult, hok, -, -⟩ := advanceTick_ok h hp hf n
  refine ⟨result, hresult, hok, ?_⟩
  obtain ⟨hconstruct, -⟩ := tickedState_ok h
  unfold advanceTick at hresult
  simp only [hp, hf, Bool.false_eq_true, or_self, if_false, hconstruct, bind, Except.bind] at hresult
  cases hfailure : failureForState (tickedState s (progressProjects s)) with
  | some failure =>
    rw [hfailure] at hresult
    cases hresult
    rfl
  | none =>
    rw [hfailure] at hresult
    cases hresult
    rfl

/-- **The loop of `advance_time`**: time goes on, and the simulation pauses only by failing. -/
theorem advance_later (base : Nat) : ∀ (ticks : Nat) (applied : ReferenceSimulation.Applied), StateOk seed applied.state →
    applied.state.paused = false → applied.state.failed = false → Balanced applied.state →
      ∃ applied', ReferenceSimulation.advance base ticks applied = (.ok (), applied') ∧
        Later applied.state applied'.state ∧ applied.state.tick + min ticks 1 ≤ applied'.state.tick ∧
        Balanced applied'.state ∧ (applied'.state.paused = true ↔ FailsWithin ticks applied.state)
  | 0, applied, _, hp, _, hb => ⟨applied, rfl, .refl _, by simp, hb, by simp [FailsWithin, hp]⟩
  | ticks + 1, applied, h, hp, hf, hb => by
    obtain ⟨result, htick, hok, hstate⟩ := advanceTick_state h hp hf (base + applied.newEvents.length)
    have hlater := tickedState_later h
    have hbalanced : Balanced result.state := by
      rw [hstate]
      exact ⟨round6_round6 _, hb.debt⟩
    have hnext : Later applied.state result.state := by
      rw [hstate]
      exact ⟨hlater.tick, hlater.debt, hlater.infrastructure, hlater.level, hlater.projects⟩
    have hticks : result.state.tick = applied.state.tick + 1 := by
      rw [hstate]
      rfl
    simp only [ReferenceSimulation.advance, htick, FailsWithin]
    cases hfailure : (failureForState (tickedState applied.state (progressProjects applied.state))).isSome with
    | true =>
      rw [hfailure] at hstate
      rw [if_pos (by rw [hstate])]
      exact ⟨_, rfl, hnext, by dsimp only; omega, hbalanced, by simp [hstate]⟩
    | false =>
      rw [hfailure] at hstate
      -- a tick that does not fail leaves the ticked state as it was constructed
      have hsame : result.state = tickedState applied.state (progressProjects applied.state) := hstate
      rw [if_neg (by rw [hstate]; exact Bool.false_ne_true)]
      obtain ⟨applied', hadvance, hrest, -, hbalanced', hpaused⟩ := advance_later base ticks
        ⟨result.state, applied.newEvents ++ result.events⟩ hok (by rw [hsame]; rfl) (by rw [hsame]; rfl) hbalanced
      refine ⟨applied', hadvance, hnext.trans hrest, ?_, hbalanced', ?_⟩
      · have hle := hrest.tick
        dsimp only at hle
        omega
      · rw [hpaused]
        dsimp only
        rw [hsame]
        simp

end Ticks

/-! ## Actions -/

/-- The actions whose effect the verifier recognises: those of the type that was asked for,
with an amount that registers. Under the type `pause` it recognises every change of a
simulation that is paused. -/
def Recognised (s : SimulationState) (type : String) : SimulationAction → Prop
  | .advanceTime ticks _ => type = "advance_time" ∨ type = "pause" ∧ FailsWithin ticks s
  | .buildHousing _ _ | .buildPower _ _ =>
    type = "build_housing" ∨ type = "build_power" ∨ type = "pause" ∧ s.paused = true
  | .repairInfrastructure amount _ =>
    type = "repair" ∧ Registers s.infrastructure amount ∨
      type = "pause" ∧ s.paused = true ∧ Registers s.cash (amount * repairCostPerPoint)
  | .setMaintenance _ => type = "set_maintenance" ∨ type = "pause" ∧ s.paused = true
  | .takeLoan _ _ => type = "take_loan" ∨ type = "pause" ∧ s.paused = true
  | .repayLoan amount _ =>
    type = "repay_loan" ∧ Registers s.debt amount ∨
      type = "pause" ∧ s.paused = true ∧ (Registers s.debt amount ∨ Registers s.cash amount)
  | .pause => type = "pause"
  | .resume => type = "resume"

namespace ReferenceSimulation
variable {sim : ReferenceSimulation} (type : String)

theorem recognised_build {project : ProjectType} {amount : Nat} {cost : ℚ} :
    sim.state ≠ (sim.build project amount cost).state ∧ Effect sim.state (sim.build project amount cost).state type ↔
      type = "build_housing" ∨ type = "build_power" ∨ type = "pause" ∧ sim.state.paused = true := by
  have hlength : (sim.build project amount cost).state.activeProjects.length = sim.state.activeProjects.length + 1 := by
    simp [build, assign]
  have hne : sim.state ≠ (sim.build project amount cost).state := by
    intro heq
    rw [← heq] at hlength
    omega
  have hpaused : (sim.build project amount cost).state.paused = sim.state.paused := rfl
  have htick : (sim.build project amount cost).state.tick = sim.state.tick := rfl
  have hdebt : (sim.build project amount cost).state.debt = sim.state.debt := rfl
  have hinfrastructure : (sim.build project amount cost).state.infrastructure = sim.state.infrastructure := rfl
  have hlevel : (sim.build project amount cost).state.maintenanceLevel = sim.state.maintenanceLevel := rfl
  unfold Effect
  simp [hne, hlength, hpaused, htick, hdebt, hinfrastructure, hlevel, or_assoc]

theorem lt_round6_min_iff {q d bound : ℚ} (hq : round6 q = q) (hbound : round6 bound = bound) (hlt : q < bound)
    (hd : 0 < d) : q < round6 (min bound (q + d)) ↔ Registers q d := by
  rw [← lt_round6_add_iff hq hd]
  constructor
  · exact fun h => h.trans_le (round6_mono (min_le_right _ _))
  · intro h
    rcases min_choice bound (q + d) with he | he
    · rwa [he, hbound]
    · rwa [he]

theorem recognised_repair {amount : ℚ} (h : StateOk sim.seed sim.state) (hb : Balanced sim.state)
    (hmax : sim.state.infrastructure < 100) (positive : 0 < amount) :
    let state := { sim.state with
      cash := round6 (sim.state.cash - amount * repairCostPerPoint)
      infrastructure := round6 (min 100 (sim.state.infrastructure + amount)) }
    sim.state ≠ state ∧ Effect sim.state state type ↔
      type = "repair" ∧ Registers sim.state.infrastructure amount ∨
        type = "pause" ∧ sim.state.paused = true ∧ Registers sim.state.cash (amount * repairCostPerPoint) := by
  intro state
  have hcost : amount < amount * repairCostPerPoint := by
    unfold repairCostPerPoint
    linarith
  have hinfrastructure : sim.state.infrastructure < state.infrastructure ↔ Registers sim.state.infrastructure amount :=
    lt_round6_min_iff h.infrastructure_rounded round6_hundred hmax positive
  have hle : sim.state.infrastructure ≤ state.infrastructure :=
    le_round6 h.infrastructure_rounded (le_min hmax.le (by linarith))
  have hcash : state.cash ≠ sim.state.cash ↔ Registers sim.state.cash (amount * repairCostPerPoint) :=
    round6_sub_ne_iff hb.cash (positive.trans hcost)
  -- what registers with the infrastructure costs enough to register with the cash
  have hboth : Registers sim.state.infrastructure amount → Registers sim.state.cash (amount * repairCostPerPoint) :=
    fun hr => hr.of_le hcost
  have hne : sim.state ≠ state ↔ Registers sim.state.cash (amount * repairCostPerPoint) := by
    constructor
    · intro hne
      by_contra hnot
      have hsame : state.cash = sim.state.cash := not_not.1 (mt hcash.1 hnot)
      have hsame' : state.infrastructure = sim.state.infrastructure :=
        le_antisymm (not_lt.1 fun hlt => hnot (hboth (hinfrastructure.1 hlt))) hle
      exact hne (show sim.state = { sim.state with cash := state.cash, infrastructure := state.infrastructure } by
        rw [hsame, hsame'])
    · intro hr heq
      exact hcash.2 hr (congrArg SimulationState.cash heq).symm
  have heffect : Effect sim.state state type ↔
      type = "repair" ∧ sim.state.infrastructure < state.infrastructure ∨ type = "pause" ∧ sim.state.paused = true := by
    simp [Effect, state]
  rw [heffect, hne, hinfrastructure]
  tauto

/-- **What the verifier recognises of a valid action**, by the branches of `execute`. -/
theorem apply_recognised (h : StateOk sim.seed sim.state) (hb : Balanced sim.state) {action : SimulationAction}
    (hv : (validateAction sim.state action).valid = true) :
    ∃ applied, sim.apply (validateAction sim.state action).estimatedCost action = (.ok (), applied) ∧
      Balanced applied.state ∧
      (sim.state ≠ applied.state ∧ Effect sim.state applied.state type ↔ Recognised sim.state type action) := by
  have hf := valid_running hv
  cases action with
  | advanceTime ticks positive =>
    have hp : sim.state.paused = false := by
      simp only [validateAction, hf, Bool.false_eq_true, if_false] at hv
      by_contra hp
      rw [Bool.not_eq_false] at hp
      rw [if_pos hp] at hv
      cases hv
    obtain ⟨applied, hadvance, hlater, htick, hbalanced, hpaused⟩ :=
      advance_later sim.events.length ticks ⟨sim.state, []⟩ h hp hf hb
    refine ⟨applied, hadvance, hbalanced, ?_⟩
    dsimp only at hlater htick hpaused
    have hlt : sim.state.tick < applied.state.tick := by omega
    have hne : sim.state ≠ applied.state := fun heq => hlt.ne (congrArg SimulationState.tick heq)
    have hprojects := hlater.projects
    have hcount : applied.state.activeProjects.length ≠ sim.state.activeProjects.length + 1 := by omega
    simp [Effect, Recognised, hne, hlt, hcount, hlater.infrastructure.not_gt, hlater.debt, hlater.level, hp, hpaused]
  | buildHousing units positive | buildPower capacity positive =>
    refine ⟨_, rfl, ⟨round6_round6 _, hb.debt⟩, ?_⟩
    exact recognised_build type
  | repairInfrastructure amount positive =>
    simp only [validateAction, hf, Bool.false_eq_true, if_false] at hv ⊢
    split at hv
    · cases hv
    rename_i hmax
    split at hv
    · cases hv
    rename_i hcost
    rw [if_neg hmax, if_neg hcost]
    refine ⟨_, rfl, ⟨round6_round6 _, hb.debt⟩, ?_⟩
    exact recognised_repair type h hb (by linarith) positive
  | setMaintenance level =>
    refine ⟨_, rfl, ⟨hb.cash, hb.debt⟩, ?_⟩
    have hlevel : level ≠ sim.state.maintenanceLevel := by
      rintro rfl
      simp only [validateAction, hf, Bool.false_eq_true, if_false, if_true] at hv
      cases hv
    have hne : sim.state ≠ { sim.state with maintenanceLevel := level } :=
      fun heq => hlevel (congrArg SimulationState.maintenanceLevel heq).symm
    simp [assign, Effect, Recognised, hne, hlevel.symm]
  | takeLoan amount positive =>
    refine ⟨_, rfl, ⟨round6_round6 _, round6_round6 _⟩, ?_⟩
    have hamount : 1 / 2000000 < amount := by
      simp only [validateAction, hf, Bool.false_eq_true, if_false] at hv
      split at hv
      · cases hv
      · rename_i hminimum
        unfold minimumLoan at hminimum
        linarith
    have hlt := (lt_round6_add_iff hb.debt positive).2 (.inl hamount)
    have hne : sim.state ≠ { sim.state with
        cash := round6 (sim.state.cash + amount), debt := round6 (sim.state.debt + amount) } :=
      fun heq => hlt.ne (congrArg SimulationState.debt heq)
    simp [assign, Effect, Recognised, hne, hlt, hlt.not_gt]
  | repayLoan amount positive =>
    refine ⟨_, rfl, ⟨round6_round6 _, round6_round6 _⟩, ?_⟩
    have hdebt := round6_sub_lt_iff hb.debt positive
    have hle : round6 (sim.state.debt - amount) ≤ sim.state.debt := round6_le hb.debt (by linarith)
    have hne : sim.state ≠ { sim.state with
        cash := round6 (sim.state.cash - amount), debt := round6 (sim.state.debt - amount) } ↔
          Registers sim.state.debt amount ∨ Registers sim.state.cash amount := by
      rw [← round6_sub_ne_iff hb.debt positive, ← round6_sub_ne_iff hb.cash positive]
      cases sim.state
      simp
      tauto
    simp [assign, Effect, Recognised, hne, hdebt, hle.not_gt]
    tauto
  | pause =>
    refine ⟨_, rfl, ⟨hb.cash, hb.debt⟩, ?_⟩
    have hp : sim.state.paused = false := by
      by_contra hp
      rw [Bool.not_eq_false] at hp
      simp [validateAction, hf, hp, ValidationResult.refuse] at hv
    have hne : sim.state ≠ { sim.state with paused := true } := by
      intro heq
      have hpaused := congrArg SimulationState.paused heq
      rw [hp] at hpaused
      cases hpaused
    simp [assign, Effect, Recognised, hne]
  | resume =>
    refine ⟨_, rfl, ⟨hb.cash, hb.debt⟩, ?_⟩
    have hp : sim.state.paused = true := by
      by_contra hp
      simp [validateAction, hf, hp, ValidationResult.refuse] at hv
    have hne : sim.state ≠ { sim.state with paused := false } := by
      intro heq
      have hpaused := congrArg SimulationState.paused heq
      rw [hp] at hpaused
      cases hpaused
    simp [assign, Effect, Recognised, hne, hp]

/-- What `execute` answers to a valid action. -/
theorem execute_recognised (h : SimulationOk sim) (hb : Balanced sim.state) {action : SimulationAction}
    (hv : (validateAction sim.state action).valid = true) :
    ∃ result, (sim.execute action).1 = .ok result ∧ result.success = true ∧
      result.cost = (validateAction sim.state action).estimatedCost ∧
      result.stateChanged = decide ((sim.execute action).2.state ≠ sim.state) ∧
      (sim.state ≠ (sim.execute action).2.state ∧ Effect sim.state (sim.execute action).2.state type ↔
        Recognised sim.state type action) := by
  obtain ⟨applied, happly, -, heffect⟩ := apply_recognised type h.state hb hv
  unfold execute
  simp only [hv, if_true, happly]
  exact ⟨_, rfl, rfl, rfl, rfl, heffect⟩

theorem balanced_execute (h : SimulationOk sim) (hb : Balanced sim.state) (action : SimulationAction) :
    Balanced (sim.execute action).2.state := by
  unfold execute
  dsimp only
  split
  · rename_i hv
    obtain ⟨applied, happly, hbalanced, -⟩ := apply_recognised "" h.state hb hv
    rw [happly]
    exact hbalanced
  · exact hb

theorem balanced_run : ∀ {sim : ReferenceSimulation}, SimulationOk sim → Balanced sim.state →
    ∀ actions : List SimulationAction, Balanced (sim.run actions).state
  | _, _, hb, [] => hb
  | _, h, hb, action :: actions => balanced_run (h.execute action).2 (balanced_execute h hb action) actions

end ReferenceSimulation

/-! ## The adapter -/

namespace SimulationAction

/-- A payload that is an action has no field the actions do not have. -/
theorem fields_of_validatePython {payload : Dict} {parsed : SimulationAction} (h : validatePython payload = some parsed)
    (key : String) (hkey : key ∉ ["type", "ticks", "units", "capacity", "amount", "level"]) :
    key ∉ Assoc.keys payload := by
  have honly : ∀ {fields : List String} {result : SimulationAction},
      (if hasOnly payload fields then some result else none) = some parsed →
        fields ⊆ ["ticks", "units", "capacity", "amount", "level"] → key ∉ Assoc.keys payload := by
    intro fields result hresult hsub hmem
    have hfields : hasOnly payload fields = true := by
      by_contra hno
      rw [if_neg hno] at hresult
      cases hresult
    have hfield := of_decide_eq_true (List.all_eq_true.1 hfields key hmem)
    rcases List.mem_cons.1 hfield with rfl | hfield
    · exact hkey (List.mem_cons_self ..)
    · exact hkey (List.mem_cons_of_mem _ (hsub hfield))
  unfold validatePython at h
  obtain ⟨type, -, h⟩ := Option.bind_eq_some_iff.1 h
  split at h
  case h_8 | h_9 => exact honly h (by decide)
  case h_10 => cases h
  all_goals
    obtain ⟨value, -, h⟩ := Option.bind_eq_some_iff.1 h
    exact honly h (by decide)

end SimulationAction

namespace ReferenceSimulationAdapter
variable {adapter : ReferenceSimulationAdapter} {action : Action}

theorem keys_subset_foldl : ∀ (parameters payload : Dict) {key : String},
    key ∈ Assoc.keys parameters ∨ key ∈ Assoc.keys payload →
      key ∈ Assoc.keys (parameters.foldl (fun payload (key, value) => Assoc.set payload key value) payload)
  | [], _, _, h => h.resolve_left List.not_mem_nil
  | (k, v) :: rest, payload, key, h => by
    rw [List.foldl_cons]
    refine keys_subset_foldl rest _ ?_
    by_cases hk : k = key
    · subst hk
      exact .inr (List.mem_map_of_mem (f := Prod.fst) (Assoc.mem_of_get (Assoc.get_set_self payload k v)))
    · rcases h with h | h
      · exact .inl ((List.mem_cons.1 h).resolve_left (Ne.symm hk))
      · have hsome : Assoc.get payload key ≠ none := fun hnone => Assoc.get_eq_none hnone h
        rw [← Assoc.get_set_ne payload v hk] at hsome
        obtain ⟨w, hw⟩ := Option.ne_none_iff_exists'.1 hsome
        exact .inr (List.mem_map_of_mem (f := Prod.fst) (Assoc.mem_of_get hw))

/-- The parameters of an action that parses hold no name. -/
theorem name_of_parseAction {parsed : SimulationAction} (h : parseAction action = .ok parsed) :
    action.parameters.get "name" = none := by
  unfold parseAction at h
  dsimp only at h
  split at h
  · rename_i hparsed
    cases h
    have hkeys := SimulationAction.fields_of_validatePython hparsed "name" (by decide)
    have hnot : "name" ∉ Assoc.keys action.parameters := fun hmem => hkeys (keys_subset_foldl _ _ (.inl hmem))
    cases hget : action.parameters.get "name" with
    | none => rfl
    | some v => exact absurd (List.mem_map_of_mem (f := Prod.fst) (Assoc.mem_of_get hget)) hnot
  · cases h

/-- A run of one action between two observations. -/
def observed (adapter : ReferenceSimulationAdapter) (action : Action) (now now' : Timestamp) :
    Except PyError (Observation × ExecutionResult × Observation) := do
  let (before, adapter) ← adapter.observe now
  let (result, adapter) := adapter.execute action
  let result ← result
  let (after, _) ← adapter.observe now'
  return (before, result, after)

/-- A valid action is one the simulation takes. -/
theorem validate_valid {validation : ValidationResult} (h : adapter.validate action = .ok validation)
    (hvalid : validation.valid = true) : adapter.initialized = true ∧ ∃ parsed, parseAction action = .ok parsed ∧
      validation = validateAction adapter.simulation.state parsed := by
  unfold validate requireInitialized at h
  cases hi : adapter.initialized with
  | false =>
    simp only [hi] at h
    cases h
  | true =>
    refine ⟨rfl, ?_⟩
    simp only [hi, if_true, bind, Except.bind] at h
    split at h
    · cases h
      cases hvalid
    · split at h
      · cases h
        cases hvalid
      · rename_i parsed hparsed
        cases h
        exact ⟨parsed, hparsed, rfl⟩

/-- An action of which the verifier recognises the effect. -/
def Recognises (adapter : ReferenceSimulationAdapter) (action : Action) : Prop :=
  ∃ parsed, parseAction action = .ok parsed ∧ Recognised adapter.simulation.state action.type.val parsed

/-- **A validated action succeeds at its cost, and is verified when its effect is recognised.** -/
theorem observed_verified (h : ReferenceSimulation.SimulationOk adapter.simulation)
    (hb : Balanced adapter.simulation.state) {validation : ValidationResult}
    (hvalidate : adapter.validate action = .ok validation) (hvalid : validation.valid = true) (now now' : Timestamp) :
    ∃ before result after, adapter.observed action now now' = .ok (before, result, after) ∧ result.success = true ∧
      result.cost = validation.estimatedCost ∧
      ((ActionVerifier.verify before action result after validation.estimatedCost).verified = true ↔
        adapter.Recognises action) := by
  obtain ⟨hi, parsed, hparsed, rfl⟩ := validate_valid hvalidate hvalid
  obtain ⟨result, hresult, hsuccess, hcost, hchanged, heffect⟩ :=
    ReferenceSimulation.execute_recognised action.type.val h hb hvalid
  let observing := { adapter with observationSequence := adapter.observationSequence + 1 }
  let executed := { observing with simulation := (adapter.simulation.execute parsed).2 }
  have hobserve : ∀ (a : ReferenceSimulationAdapter) (t : Timestamp), a.initialized = true →
      ∃ o, a.observe t = .ok (o, { a with observationSequence := a.observationSequence + 1 }) ∧ Shows o a.simulation.state := by
    intro a t ha
    unfold observe requireInitialized
    rw [if_pos ha]
    exact ⟨_, rfl, rfl, rfl⟩
  obtain ⟨before, hbefore, hshows⟩ := hobserve adapter now hi
  obtain ⟨after, hafter, hshows'⟩ := hobserve executed now' hi
  have hexecute : observing.execute action = (.ok result, executed) := by
    have hvalidate' : observing.validate action = .ok (validateAction adapter.simulation.state parsed) := hvalidate
    unfold execute
    rw [hvalidate']
    simp only [hvalid, if_true, hparsed]
    exact Prod.ext hresult rfl
  refine ⟨before, result, after, ?_, hsuccess, hcost, ?_⟩
  · have hrun : adapter.observed action now now' = (do
        let (result, adapter) := observing.execute action
        let result ← result
        let (after, _) ← adapter.observe now'
        return (before, result, after)) := by
      unfold observed
      rw [hbefore]
      rfl
    rw [hrun, hexecute]
    change (executed.observe now').bind (fun (after, _) => .ok (before, result, after)) = _
    rw [hafter]
    rfl
  · rw [← hcost, ActionVerifier.verify_iff hshows hshows' (name_of_parseAction hparsed) hsuccess hchanged, heffect]
    constructor
    · exact fun hrecognised => ⟨parsed, hparsed, hrecognised⟩
    · rintro ⟨parsed', hparsed', hrecognised⟩
      rw [hparsed] at hparsed'
      cases hparsed'
      exact hrecognised

end ReferenceSimulationAdapter

/-- The adapter of a simulation behind a run of actions from the initial state. -/
def reachedAdapter (seed : String) (actions : List SimulationAction) (forbiddenActions : List String)
    (observationSequence : Nat) : ReferenceSimulationAdapter where
  simulation := ({ seed } : ReferenceSimulation).run actions
  forbiddenActions := forbiddenActions
  initialized := true
  observationSequence := observationSequence

/-- A repair of so many points. -/
def repairBy (amount : ℚ) : Action where
  type := ⟨"repair", by decide, by decide⟩
  parameters := [("amount", .float amount)]
  expectedEffect := ⟨"infrastructure rises", by decide, by decide⟩

theorem parseAction_repairBy {amount : ℚ} (h : 0 < amount) :
    ReferenceSimulationAdapter.parseAction (repairBy amount) = .ok (.repairInfrastructure amount h) := by
  have hparsed : SimulationAction.validatePython [("type", .str "repair"), ("amount", .float amount)] =
      some (.repairInfrastructure amount h) := by
    simp [SimulationAction.validatePython, SimulationAction.positiveFloat, SimulationAction.hasOnly, Assoc.keys,
      JsonValue.number?, h]
  unfold ReferenceSimulationAdapter.parseAction
  have hpayload : (repairBy amount).parameters.foldl (fun payload (key, value) => Assoc.set payload key value)
      ([("type", .str (repairBy amount).type.val)] : Dict) = [("type", .str "repair"), ("amount", .float amount)] := rfl
  rw [hpayload]
  simp only [hparsed]

theorem validate_repairBy {amount : ℚ} (h : 0 < amount) (hcost : amount ≤ 250) :
    (reachedAdapter "0" [] [] 0).validate (repairBy amount) =
      .ok (.accept (amount * repairCostPerPoint) (mul_nonneg h.le (by decide))) := by
  have hvalid : validateAction initialState (.repairInfrastructure amount h) =
      .accept (amount * repairCostPerPoint) (mul_nonneg h.le (by decide)) := by
    have hmax : ¬ (100 : ℚ) ≤ initialState.infrastructure := by decide +kernel
    have hcash : ¬ amount * repairCostPerPoint > initialState.cash := by
      unfold repairCostPerPoint initialState
      dsimp only
      linarith
    unfold validateAction
    rw [if_neg (by decide)]
    dsimp only
    rw [if_neg hmax, if_neg hcash]
  unfold ReferenceSimulationAdapter.validate
  rw [parseAction_repairBy h]
  exact congrArg Except.ok hvalid

end SimPilot
