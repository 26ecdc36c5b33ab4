import SimPilot.SoftwareInc.Operator
/-!
# The education workflow and its approvals (software_inc/training)

One employee takes three courses, each with an approval of its own. What the game shows moves
the workflow from course to course. Its fingerprint, and the id derived from it, are the
material they are taken of; what only a time of day tells is left out.

| here | there |
|---|---|
| `TrainingCandidate`, …, `TrainingWorkflow` | models.py:27-135 |
| `trainingCandidates`, `exactEmployeeTraining`, `currentCash` | projection.py:21, :62, :83 |
| `createTrainingWorkflow`, …, `nextStageApproval` | workflow.py:23-216 |
-/

namespace SimPilot.SoftwareInc.Training

open GameBridge

inductive TrainingWorkflowStatus where
  | planned | waitingForApproval | active | blocked | completed
  deriving DecidableEq, Repr

structure EmployeeTrainingObservation where
  employeeId : String
  employeeName : String
  teamName : String
  role : String
  specialization : String
  level : Int
  baseSkill : ℚ
  monthlySalary : ℚ
  takingCourses : Bool
  activeCourses : List String
  oneTimeCost : ℚ
  deriving DecidableEq, Repr

/-- What a workflow is created from; `requested_months` is 3 and a course takes one month. -/
structure TrainingCandidate where
  employee : EmployeeTrainingObservation
  currentCourseCost : ℚ
  projectedDirectCost : ℚ
  payrollDuringTraining : ℚ
  observedCash : ℚ
  minimumCashReserve : ℚ
  eligible : Bool
  deriving DecidableEq, Repr

/-- What the fingerprint of a plan is taken of (workflow.py:30-41). -/
structure Material where
  gameSessionId : String
  saveIdentity : String
  employeeId : String
  role : String
  specialization : String
  projectedCost : ℚ
  reserve : ℚ
  initialLevel : Int
  deriving DecidableEq, Repr

/-- The id `uuid5` derives from a fingerprint. -/
abbrev WorkflowId := Material

structure TrainingApproval where
  approvalId : Nat
  workflowId : WorkflowId
  actionSummary : String
  employeeId : String
  employeeName : String
  teamName : String
  stageNumber : Int
  levelBefore : Int
  levelAfter : Int
  directCost : ℚ
  payrollDuringTraining : ℚ
  cashAfterDirectCost : ℚ
  minimumCashReserve : ℚ
  planFingerprint : Material
  approved : Option Bool
  deriving DecidableEq, Repr

/-- The fields of `TrainingApproval` (models.py:78). -/
def TrainingApproval.valid (a : TrainingApproval) : Bool :=
  sized 1 1024 a.actionSummary && 1 ≤ a.stageNumber && a.stageNumber ≤ 3 && 0 ≤ a.levelBefore && a.levelBefore ≤ 2 &&
    1 ≤ a.levelAfter && a.levelAfter ≤ 3 && 0 ≤ a.directCost && 0 ≤ a.payrollDuringTraining &&
    0 ≤ a.minimumCashReserve

structure TrainingWorkflow where
  workflowId : WorkflowId
  gameSessionId : String
  saveIdentity : String
  employeeId : String
  employeeName : String
  teamName : String
  completedCourses : Int
  projectedDirectCost : ℚ
  actualDirectCost : ℚ
  payrollDuringTraining : ℚ
  minimumCashReserve : ℚ
  initialCash : ℚ
  initialLevel : Int
  currentLevel : Int
  status : TrainingWorkflowStatus
  pendingApproval : Option TrainingApproval
  planFingerprint : Material
  startedAtGameTime : Option String
  completedAtGameTime : Option String
  lastBridgeSequence : Int
  deriving DecidableEq, Repr

/-- `requested_months` -/
def requestedMonths : Nat := 3

/-- `target_level` -/
def targetLevel : Int := 3

/-! ## Projections -/

def surface (snapshot : GameSnapshot) (name : String) : Except UIError ObservationSurface :=
  match surfacesNamed snapshot name with
  | [s] => .ok s
  | _ => .error (.validation (name ++ " surface is missing or duplicated"))

def requireCompleteSurface (snapshot : GameSnapshot) (name : String) : Except UIError ObservationSurface := do
  let s ← surface snapshot name
  if s.coverage.status ≠ .observedComplete then
    .error (.validation (name ++ " is not completely observed: " ++ s.coverage.detail.getD "None"))
  else return s

/-- `_text` -/
def text (e : ObservedEntity) (field : String) (empty : Bool) : Except UIError String :=
  match textOf e.values field empty with
  | some s => .ok s
  | none => .error (.validation (e.entityId ++ "." ++ field ++ " is not observed text"))

/-- `_decimal` -/
def decimal (e : ObservedEntity) (field : String) : Except UIError ℚ :=
  match numberAt e.values field with
  | some q => .ok q
  | none => .error (.validation (e.entityId ++ "." ++ field ++ " is not observed numeric"))

/-- `_integer` -/
def integer (e : ObservedEntity) (field : String) : Except UIError Int :=
  match integerAt e.values field with
  | some i => .ok i
  | none => .error (.validation (e.entityId ++ "." ++ field ++ " is not an integer"))

/-- `_boolean` -/
def boolean (e : ObservedEntity) (field : String) : Except UIError Bool :=
  match flagAt e.values field with
  | some b => .ok b
  | none => .error (.validation (e.entityId ++ "." ++ field ++ " is not boolean"))

def employeeNamed (employees : ObservationSurface) (employeeId : String) : List ObservedEntity :=
  employees.entities.filter fun e => e.entityType = "employee" ∧ e.entityId = employeeId

/-- The turn of `training_candidates` over one entity: `none` where it is skipped. -/
def candidateOf (employees : ObservationSurface) (teamName role specialization : String) (spec : ObservedEntity) :
    Except UIError (Option EmployeeTrainingObservation) := do
  if spec.entityType ≠ "employee_specialization" then return none else
  if casefold (← text spec "team" false) ≠ casefold teamName then return none else
  if casefold (← text spec "role" false) ≠ casefold role then return none else
  if casefold (← text spec "specialization" false) ≠ casefold specialization then return none else
  let employeeId ← text spec "employee_id" false
  match (employeeNamed employees employeeId).getLast? with
  | none => .error (.validation "education references an unknown employee")
  | some employee =>
    let activeCourses := splitParts '|' (← text employee "courses" true)
    let observed : EmployeeTrainingObservation :=
      { employeeId
        employeeName := ← text employee "name" false
        teamName := ← text employee "team" false
        role
        specialization
        level := ← integer spec "level"
        baseSkill := ← decimal employee "skill_designer"
        monthlySalary := ← decimal employee "salary"
        takingCourses := ← boolean employee "taking_courses"
        activeCourses
        oneTimeCost := ← decimal spec "one_time_cost" }
    if 0 ≤ observed.level ∧ 0 ≤ observed.baseSkill ∧ 0 ≤ observed.monthlySalary ∧ 0 ≤ observed.oneTimeCost then
      return some observed
    else .error .model

def trainingCandidates (snapshot : GameSnapshot) (teamName role specialization : String) :
    Except UIError (List EmployeeTrainingObservation) := do
  let education ← requireCompleteSurface snapshot "education"
  let employees ← requireCompleteSurface snapshot "employees"
  let found ← education.entities.mapM (candidateOf employees teamName role specialization)
  return (found.filterMap id).insertionSort fun a b => a.employeeId ≤ b.employeeId

/-- `_employee_team` -/
def employeeTeam (snapshot : GameSnapshot) (employeeId : String) : Except UIError String := do
  match employeeNamed (← requireCompleteSurface snapshot "employees") employeeId with
  | [employee] => text employee "team" false
  | _ => .error (.validation "employee identity is stale or ambiguous")

/-- `exact_employee_training` for the Designer role and the System specialization, which every caller asks for. -/
def exactEmployeeTraining (snapshot : GameSnapshot) (employeeId : String) : Except UIError EmployeeTrainingObservation := do
  let candidates ← trainingCandidates snapshot (← employeeTeam snapshot employeeId) "Designer" "System"
  match candidates.filter (·.employeeId = employeeId) with
  | [employee] => return employee
  | _ => .error (.validation "exact employee education state is unavailable")

def currentCash (snapshot : GameSnapshot) : Except UIError ℚ := do
  let finances ← surface snapshot "finances"
  if finances.coverage.status ≠ .observedComplete ∧ finances.coverage.status ≠ .observedPartial then
    .error (.validation "current finances are not observed")
  else match finances.entities with
    | [e] => decimal e "cash"
    | _ => .error (.validation "current cash did not resolve exactly once")

/-- Whether the course of the workflow is among the active ones. -/
def EmployeeTrainingObservation.courseActive (e : EmployeeTrainingObservation) : Bool :=
  e.activeCourses.any fun course => casefold course = "designer:system"

/-! ## Transitions -/

/-- A `TrainingApproval`, whose fields are checked where it is built. -/
def checkedApproval (a : TrainingApproval) : Except UIError TrainingApproval :=
  if a.valid then .ok a else .error .model

def createTrainingWorkflow (snapshot : GameSnapshot) (candidate : TrainingCandidate) (approvalId : Nat) :
    Except UIError TrainingWorkflow :=
  if candidate.eligible = false then .error (.validation "an ineligible employee cannot start education")
  else do
    let employee := candidate.employee
    let saveIdentity := saveIdentityText snapshot.saveIdentity
    let material : Material :=
      { gameSessionId := snapshot.gameSessionId
        saveIdentity
        employeeId := employee.employeeId
        role := employee.role
        specialization := employee.specialization
        projectedCost := candidate.projectedDirectCost
        reserve := candidate.minimumCashReserve
        initialLevel := employee.level }
    let approval ← checkedApproval
      { approvalId
        workflowId := material
        actionSummary := "Educate " ++ strRepr employee.employeeName ++ " from " ++ employee.teamName ++
          " in Designer/System for course 1 of 3 (one in-game month), level " ++ toString employee.level ++ " -> " ++
          toString (employee.level + 1) ++ "; exact direct cost $" ++ usd candidate.currentCourseCost ++
          ", one-month continuing payroll $" ++ usd employee.monthlySalary ++ ", cash after this course $" ++
          usd (candidate.observedCash - candidate.currentCourseCost) ++ ", required reserve $" ++
          usd candidate.minimumCashReserve ++ ". The full three-course curriculum is projected to cost $" ++
          usd candidate.projectedDirectCost ++ "; later courses require fresh approval."
        employeeId := employee.employeeId
        employeeName := employee.employeeName
        teamName := employee.teamName
        stageNumber := 1
        levelBefore := employee.level
        levelAfter := employee.level + 1
        directCost := candidate.currentCourseCost
        payrollDuringTraining := employee.monthlySalary
        cashAfterDirectCost := candidate.observedCash - candidate.currentCourseCost
        minimumCashReserve := candidate.minimumCashReserve
        planFingerprint := material
        approved := none }
    return {
      workflowId := material
      gameSessionId := snapshot.gameSessionId
      saveIdentity
      employeeId := employee.employeeId
      employeeName := employee.employeeName
      teamName := employee.teamName
      completedCourses := 0
      projectedDirectCost := candidate.projectedDirectCost
      actualDirectCost := 0
      payrollDuringTraining := candidate.payrollDuringTraining
      minimumCashReserve := candidate.minimumCashReserve
      initialCash := candidate.observedCash
      initialLevel := employee.level
      currentLevel := employee.level
      status := .waitingForApproval
      pendingApproval := some approval
      planFingerprint := material
      startedAtGameTime := none
      completedAtGameTime := none
      lastBridgeSequence := snapshot.bridgeSequence }

def resolveTrainingApproval (w : TrainingWorkflow) (approved : Bool) : Except UIError TrainingWorkflow :=
  match w.pendingApproval with
  | some approval =>
    if approval.approved.isSome then .error (.validation "education workflow has no pending approval")
    else .ok
      { w with
        pendingApproval := some { approval with approved := some approved }
        status := if approved then .planned else .blocked }
  | none => .error (.validation "education workflow has no pending approval")

/-- `_next_stage_approval` -/
def nextStageApproval (w : TrainingWorkflow) (employeeLevel : Int) (directCost cash : ℚ) (stageNumber : Int)
    (approvalId : Nat) : Except UIError TrainingApproval :=
  let payroll := w.payrollDuringTraining / requestedMonths
  let cashAfter := cash - directCost
  if cashAfter < w.minimumCashReserve then
    .error (.validation "next education course would violate the persisted cash reserve")
  else checkedApproval
    { approvalId
      workflowId := w.workflowId
      actionSummary := "Continue " ++ strRepr w.employeeName ++ " in Designer/System with course " ++
        toString stageNumber ++ " of 3 (one in-game month), level " ++ toString employeeLevel ++ " -> " ++
        toString (employeeLevel + 1) ++ "; exact direct cost $" ++ usd directCost ++
        ", one-month continuing payroll $" ++ usd payroll ++ ", cash after this course $" ++ usd cashAfter ++
        ", required reserve $" ++ usd w.minimumCashReserve ++ "."
      employeeId := w.employeeId
      employeeName := w.employeeName
      teamName := w.teamName
      stageNumber
      levelBefore := employeeLevel
      levelAfter := employeeLevel + 1
      directCost
      payrollDuringTraining := payroll
      cashAfterDirectCost := cashAfter
      minimumCashReserve := w.minimumCashReserve
      planFingerprint := w.planFingerprint
      approved := none }

/-- What every synchronization takes from a snapshot. -/
def TrainingWorkflow.observed (w : TrainingWorkflow) (snapshot : GameSnapshot) (level : Int) : TrainingWorkflow :=
  { w with currentLevel := level, lastBridgeSequence := snapshot.bridgeSequence }

/-- `started or observed_time`, where an empty text counts for none. -/
def orTime (started observed : Option String) : Option String :=
  match started with
  | some s => if s = "" then observed else some s
  | none => observed

/-- What an employee's state makes of a workflow. -/
def applyEmployee (w : TrainingWorkflow) (snapshot : GameSnapshot) (employee : EmployeeTrainingObservation)
    (approvalId : Nat) : Except UIError TrainingWorkflow :=
  let observedTime := stringAt snapshot.gameState "current_time"
  let observed := w.observed snapshot employee.level
  if employee.courseActive then
    .ok { observed with status := .active, startedAtGameTime := orTime w.startedAtGameTime observedTime }
  else if w.status ≠ .active then .ok observed
  else if employee.level ≠ w.initialLevel + w.completedCourses + 1 then
    .error (.validation "education course disappeared without exactly one approved specialization gain")
  else if targetLevel ≤ employee.level then
    .ok { observed with
      completedCourses := w.completedCourses + 1
      status := .completed
      completedAtGameTime := observedTime
      pendingApproval := none }
  else do
    let cash ← currentCash snapshot
    let approval ← nextStageApproval w employee.level employee.oneTimeCost cash (w.completedCourses + 1 + 1) approvalId
    return { observed with
      completedCourses := w.completedCourses + 1
      status := .waitingForApproval
      pendingApproval := some approval }

def synchronizeTraining (w : TrainingWorkflow) (snapshot : GameSnapshot) (approvalId : Nat) :
    Except UIError TrainingWorkflow :=
  if w.gameSessionId ≠ snapshot.gameSessionId ∨ w.saveIdentity ≠ saveIdentityText snapshot.saveIdentity then
    .error (.validation "education workflow save or session identity is stale")
  else if snapshot.bridgeSequence ≤ w.lastBridgeSequence then
    .error (.validation "education workflow requires a fresh bridge sequence")
  else do
    applyEmployee w snapshot (← exactEmployeeTraining snapshot w.employeeId) approvalId

end SimPilot.SoftwareInc.Training
