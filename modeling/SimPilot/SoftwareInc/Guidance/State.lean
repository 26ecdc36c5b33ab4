import Mathlib.Data.Int.Log
import SimPilot.SoftwareInc.Contracts.Workflow
/-!
# What guidance reads of a save (software_inc/guidance/state.py)

The teams and the employees of a snapshot, as far as the fields of their entities can be read: an
entity with a field that cannot is dropped with a warning, and the view stays complete when the
surface is. `fold` is `str.casefold`, `digest` the first 20 digits of a SHA-256. The salaries are
added as `Decimal` adds, to 28 digits.

| here | there |
|---|---|
| `TeamSummary`, `EmployeeSummary`, `StateView` | state.py:18-56 |
| `projectState` | state.py:59 |
| `UIError.model` | a `ValidationError` of a negative count or salary |
| `UIError.external` | a sum that overflows, a speed that cannot be hashed |
-/

namespace SimPilot.SoftwareInc.Guidance
open GameBridge Contracts

structure TeamSummary where
  teamId : String
  name : String
  employeeCount : Nat
  workStart : Option ℚ
  workEnd : Option ℚ
  deriving DecidableEq, Repr

structure EmployeeSummary where
  employeeId : String
  name : String
  role : String
  team : String
  monthlySalary : ℚ
  founder : Option Bool
  deriving DecidableEq, Repr

structure StateView where
  snapshotId : String
  gameVersion : String
  adapterVersion : String
  bridgeInstanceId : String
  gameSessionId : String
  saveIdentity : Option String
  bridgeSequence : Int
  paused : Bool
  companyName : Option String
  cash : Option ℚ
  valuation : Option ℚ
  teamsComplete : Bool
  employeesComplete : Bool
  financesPartial : Bool
  teams : List TeamSummary
  employees : List EmployeeSummary
  recurringPayroll : Option ℚ
  warnings : List String

/-! ## Fields -/

/-- `_decimal` -/
def decimal (values : Members) (field : String) : Option ℚ :=
  match numberAt values field, stringAt values field with
  | some q, _ => some q
  | none, some s => match decimalOf s with
    | .finite q => some q
    | _ => none
  | none, none => none

/-- `surfaces.get(name)`: of the surfaces with a name the last. -/
def surfaceNamed (snapshot : GameSnapshot) (name : String) : Option ObservationSurface :=
  (surfacesNamed snapshot name).getLast?

/-- `_complete` -/
def completes (surface : Option ObservationSurface) : Bool :=
  surface.any fun s => s.coverage.status = .observedComplete

def entitiesOf (surface : Option ObservationSurface) : List ObservedEntity := (surface.map (·.entities)).getD []

/-- The values of the only entity of a surface. -/
def onlyValues (surface : Option ObservationSurface) : Option Members :=
  match entitiesOf surface with
  | [e] => some e.values
  | _ => none

/-- `_first_string` -/
def firstString (surface : Option ObservationSurface) (field : String) : Option String :=
  (onlyValues surface).bind (stringAt · field)

/-- `_first_decimal` -/
def firstDecimal (surface : Option ObservationSurface) (field : String) : Option ℚ :=
  (onlyValues surface).bind (decimal · field)

/-! ## Summaries -/

/-- The fields a team needs. -/
def teamFields (e : ObservedEntity) : Option (String × Int) := do
  return (← stringAt e.values "name", ← integerAt e.values "employee_count")

/-- One turn of the loop over the teams: nothing for an entity that is dropped. -/
def teamSummary (e : ObservedEntity) : Except UIError (Option TeamSummary) :=
  match teamFields e with
  | none => .ok none
  | some (name, count) =>
    if count < 0 then .error .model
    else .ok (some {
      teamId := e.entityId
      name := name
      employeeCount := count.toNat
      workStart := decimal e.values "work_start"
      workEnd := decimal e.values "work_end" })

/-- The fields an employee needs. -/
def employeeFields (e : ObservedEntity) : Option (String × String × String × ℚ) := do
  return (← stringAt e.values "name", ← stringAt e.values "role", ← stringAt e.values "team",
    ← decimal e.values "salary")

/-- One turn of the loop over the employees. -/
def employeeSummary (e : ObservedEntity) : Except UIError (Option EmployeeSummary) :=
  match employeeFields e with
  | none => .ok none
  | some (name, role, team, salary) =>
    if salary < 0 then .error .model
    else .ok (some {
      employeeId := e.entityId
      name := name
      role := role
      team := team
      monthlySalary := salary
      founder := flagAt e.values "founder" })

def teamWarnings (entities : List ObservedEntity) : List String :=
  (entities.filter fun e => (teamFields e).isNone).map fun e =>
    "team " ++ e.entityId ++ " has incomplete identity or count"

def employeeWarnings (entities : List ObservedEntity) : List String :=
  (entities.filter fun e => (employeeFields e).isNone).map fun e =>
    "employee " ++ e.entityId ++ " has incomplete guidance fields"

/-! ## The payroll -/

/-- `a + b` of two `Decimal`s: half to even at the 28th digit, and not beyond the largest exponent. -/
def addDecimal (a b : ℚ) : Except UIError ℚ :=
  let unit : ℚ := 10 ^ max (Int.log 10 |a + b| - 27) (-1000026)
  let rounded := roundEven ((a + b) / unit) * unit
  if |rounded| < 10 ^ 1000000 then .ok rounded else .error .external

/-- `sum(amounts, start=Decimal("0"))` -/
def sumDecimal (amounts : List ℚ) : Except UIError ℚ := amounts.foldlM addDecimal 0

/-- The recurring payroll, when the surface is complete and no employee was dropped. -/
def payroll (complete : Bool) (employees : List EmployeeSummary) (entities : List ObservedEntity) :
    Except UIError (Option ℚ) :=
  if complete && employees.length = entities.length then do
    let total ← sumDecimal (employees.map (·.monthlySalary))
    if total < 0 then .error .model else .ok (some total)
  else .ok none

theorem payroll_ok {employees : List EmployeeSummary} {entities : List ObservedEntity} {amount : Option ℚ}
    (hall : employees.length = entities.length) (h : payroll true employees entities = .ok amount) :
    ∃ total, amount = some total ∧ sumDecimal (employees.map (·.monthlySalary)) = .ok total := by
  simp only [payroll, hall, decide_true, Bool.and_self, ↓reduceIte] at h
  obtain ⟨total, htotal, h⟩ := Except.bind_eq_ok.mp h
  split_ifs at h
  cases h
  exact ⟨total, rfl, htotal⟩

/-! ## The projection -/

/-- `game_state.get("simulation_speed") in {"0", "0.0"}`: a list or an object has no hash. -/
def speedStopped (gameState : Members) : Except UIError Bool :=
  match gameState.get "simulation_speed" with
  | some (.array _) | some (.object _) => .error .external
  | some (.string s) => .ok (s = "0" || s = "0.0")
  | _ => .ok false

/-- Whether the game is paused; `True or …` does not look at the speed. -/
def gamePaused (gameState : Members) : Except UIError Bool :=
  if flagAt gameState "force_pause" = some true then .ok true else speedStopped gameState

section
variable (fold digest : String → String)

/-- `sorted(items, key=lambda item: (item.name.casefold(), item.id))` -/
def sortedByName {α : Type} (name id : α → String) (items : List α) : List α :=
  items.insertionSort fun a b => fold (name a) < fold (name b) ∨ (fold (name a) = fold (name b) ∧ ¬ id b < id a)

def projectState (snapshot : GameSnapshot) : Except UIError StateView := do
  let company := surfaceNamed snapshot "company"
  let finances := surfaceNamed snapshot "finances"
  let teamsSurface := surfaceNamed snapshot "teams"
  let employeesSurface := surfaceNamed snapshot "employees"
  let teamsComplete := completes teamsSurface
  let employeesComplete := completes employeesSurface
  let teamsRead := if teamsComplete then entitiesOf teamsSurface else []
  let employeesRead := if employeesComplete then entitiesOf employeesSurface else []
  let teams := (← teamsRead.mapM teamSummary).reduceOption
  let employees := (← employeesRead.mapM employeeSummary).reduceOption
  let recurringPayroll ← payroll employeesComplete employees (entitiesOf employeesSurface)
  let paused ← gamePaused snapshot.gameState
  return {
    snapshotId := "snapshot:" ++ digest (snapshot.bridgeInstanceId ++ "|" ++ snapshot.gameSessionId ++ "|" ++
      snapshot.saveIdentity.value.getD "None" ++ "|" ++ toString snapshot.bridgeSequence)
    gameVersion := snapshot.gameVersion
    adapterVersion := snapshot.adapterVersion
    bridgeInstanceId := snapshot.bridgeInstanceId
    gameSessionId := snapshot.gameSessionId
    saveIdentity := snapshot.saveIdentity.value
    bridgeSequence := snapshot.bridgeSequence
    paused := paused
    companyName := firstString company "name"
    cash := firstDecimal finances "cash"
    valuation := firstDecimal finances "valuation"
    teamsComplete := teamsComplete
    employeesComplete := employeesComplete
    financesPartial := finances.any fun s => s.coverage.status = .observedPartial
    teams := sortedByName fold (·.name) (·.teamId) teams
    employees := sortedByName fold (·.name) (·.employeeId) employees
    recurringPayroll := recurringPayroll
    warnings := teamWarnings teamsRead ++ employeeWarnings employeesRead }

end

/-! ## What is dropped -/

/-- A team that is not dropped. -/
def ReadableTeam (e : ObservedEntity) : Prop := (teamFields e).isSome

/-- An employee that is not dropped. -/
def ReadableEmployee (e : ObservedEntity) : Prop := (employeeFields e).isSome

theorem teamSummary_isSome {e : ObservedEntity} {t : Option TeamSummary} (h : teamSummary e = .ok t) :
    t.isSome ↔ ReadableTeam e := by
  unfold teamSummary at h
  unfold ReadableTeam
  cases hfields : teamFields e with
  | none =>
    rw [hfields] at h
    cases h
    simp
  | some fields =>
    obtain ⟨name, count⟩ := fields
    rw [hfields] at h
    simp only at h
    split_ifs at h
    cases h
    simp

/-- A team that is kept has the identity and the name of its entity. -/
theorem teamSummary_some {e : ObservedEntity} {t : TeamSummary} (h : teamSummary e = .ok (some t)) :
    t.teamId = e.entityId ∧ stringAt e.values "name" = some t.name := by
  unfold teamSummary at h
  cases hfields : teamFields e with
  | none =>
    rw [hfields] at h
    cases h
  | some fields =>
    obtain ⟨name, count⟩ := fields
    obtain ⟨n, hname, hrest⟩ := Option.bind_eq_some_iff.mp hfields
    obtain ⟨c, hcount, hpair⟩ := Option.bind_eq_some_iff.mp hrest
    cases hpair
    rw [hfields] at h
    simp only at h
    split_ifs at h
    cases h
    exact ⟨rfl, hname⟩

theorem employeeSummary_isSome {e : ObservedEntity} {t : Option EmployeeSummary} (h : employeeSummary e = .ok t) :
    t.isSome ↔ ReadableEmployee e := by
  unfold employeeSummary at h
  unfold ReadableEmployee
  cases hfields : employeeFields e with
  | none =>
    rw [hfields] at h
    cases h
    simp
  | some fields =>
    obtain ⟨name, role, team, salary⟩ := fields
    rw [hfields] at h
    simp only at h
    split_ifs at h
    cases h
    simp

/-- An employee that is kept has the salary of its entity. -/
theorem employeeSummary_some {e : ObservedEntity} {t : EmployeeSummary} (h : employeeSummary e = .ok (some t)) :
    decimal e.values "salary" = some t.monthlySalary := by
  unfold employeeSummary at h
  cases hfields : employeeFields e with
  | none =>
    rw [hfields] at h
    cases h
  | some fields =>
    obtain ⟨name, role, team, salary⟩ := fields
    obtain ⟨n, hname, hrest⟩ := Option.bind_eq_some_iff.mp hfields
    obtain ⟨r, hrole, hrest⟩ := Option.bind_eq_some_iff.mp hrest
    obtain ⟨t', hteam, hrest⟩ := Option.bind_eq_some_iff.mp hrest
    obtain ⟨s, hsalary, hfour⟩ := Option.bind_eq_some_iff.mp hrest
    cases hfour
    rw [hfields] at h
    simp only at h
    split_ifs at h
    cases h
    exact hsalary

end SimPilot.SoftwareInc.Guidance
