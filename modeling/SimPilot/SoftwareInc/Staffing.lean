import SimPilot.SoftwareInc.Observation
/-!
# Staffing plans and their approval (software_inc/ui/staffing.py)

A plan names what an operator is asked to approve, as it was observed; the approval is
checked against a later observation before the commitment input is sent.

| here | there |
|---|---|
| `applicantObservations`, …, `selectApplicant` | staffing.py:115-231 |
| `buildStaffingPlan`, `requireValidApproval` | staffing.py:234-415 |

The fingerprint of a plan is the material it is the SHA-256 of.
-/

namespace SimPilot.SoftwareInc.Staffing

open GameBridge

inductive Action where
  | createTeam | observeApplicants | hireEmployee
  deriving DecidableEq, Repr

/-- Whether the action hires, or pays for a search. -/
def Action.hiring : Action → Bool
  | createTeam => false
  | observeApplicants | hireEmployee => true

/-- `Decimal` of at most twelve digits, two of them behind the point, above zero. -/
def isAmount (q : ℚ) : Bool := 0 < q && (q * 100).den = 1 && q < 10000000000

structure StaffingIntent where
  action : Action
  teamName : String
  role : Option String
  maximumMonthlySalary : Option ℚ
  team_sized : sized 1 64 teamName = true
  role_programmer : ∀ r ∈ role, r = "Programmer"
  salary_amount : ∀ q ∈ maximumMonthlySalary, isAmount q = true
  hiring_fields : action.hiring = (role.isSome && maximumMonthlySalary.isSome)

structure ApplicantObservation where
  applicantId : String
  name : String
  role : String
  salary : ℚ
  wageBracket : String
  displayIndex : Int
  selectedTeam : String
  available : Bool
  sourceBridgeSequence : Int
  deriving DecidableEq, Repr

/-- The fields of `ApplicantObservation` (ui/models.py:112). -/
def ApplicantObservation.valid (a : ApplicantObservation) : Bool :=
  sized 1 128 a.applicantId && sized 1 256 a.name && sized 1 128 a.role && isAmount a.salary &&
    sized 1 64 a.wageBracket && 0 ≤ a.displayIndex && a.selectedTeam.length ≤ 64 && 1 ≤ a.sourceBridgeSequence

structure HiringSearchObservation where
  role : String
  wageBracket : String
  oneTimeCost : ℚ
  poolText : String
  sourceBridgeSequence : Int
  deriving DecidableEq, Repr

def HiringSearchObservation.valid (s : HiringSearchObservation) : Bool :=
  sized 1 128 s.role && sized 1 64 s.wageBracket && isAmount s.oneTimeCost && sized 1 256 s.poolText &&
    1 ≤ s.sourceBridgeSequence

/-- What a plan's fingerprint is taken of (staffing.py:290-301). -/
structure Material where
  action : Action
  applicant : Option ApplicantObservation
  gameSessionId : String
  maximumMonthlySalary : Option ℚ
  search : Option HiringSearchObservation
  saveIdentity : String
  sourceFrameId : String
  sourceProjectionId : String
  teamName : String
  deriving DecidableEq, Repr

structure StaffingPlan where
  action : Action
  gameSessionId : String
  saveIdentity : String
  teamName : String
  normalizedTeamName : String
  applicant : Option ApplicantObservation
  search : Option HiringSearchObservation
  maximumMonthlySalary : Option ℚ
  expectedOneTimeCost : ℚ
  expectedMonthlyCost : ℚ
  expectedDifferences : List String
  forbiddenDifferences : List String
  sourceFrameId : String
  sourceProjectionId : String
  createdAt : Timestamp
  expiresAt : Timestamp
  fingerprint : Material
  deriving DecidableEq, Repr

/-- The fields of `StaffingPlan` and `validate_plan_shape` (ui/models.py:143-186). -/
def StaffingPlan.valid (p : StaffingPlan) : Bool :=
  sized 1 256 p.gameSessionId && sized 1 512 p.saveIdentity && sized 1 64 p.teamName &&
    sized 1 64 p.normalizedTeamName && p.maximumMonthlySalary.all (0 < ·) && 0 ≤ p.expectedOneTimeCost &&
    0 ≤ p.expectedMonthlyCost &&
    (p.action = .hireEmployee) = (p.applicant.isSome && p.maximumMonthlySalary.isSome && 0 < p.expectedMonthlyCost) &&
    (p.action = .observeApplicants) = (p.search.isSome && 0 < p.expectedOneTimeCost) &&
    !(0 < p.expectedOneTimeCost && 0 < p.expectedMonthlyCost) && p.createdAt < p.expiresAt

inductive ApprovalStatus where
  | pending | approved | denied
  deriving DecidableEq, Repr

structure StaffingApproval where
  status : ApprovalStatus
  createdAt : Timestamp
  resolvedAt : Option Timestamp
  planFingerprint : Material
  deriving DecidableEq, Repr

/-! ## Observations -/

def normalizeTeamName (value : String) : String := casefold (normalizeSpaces value)

def completeSurface (snapshot : GameSnapshot) (name : String) : Except UIError ObservationSurface :=
  match surfacesNamed snapshot name with
  | [] => .error (.validation s!"{name} coverage must be observed_complete; found missing")
  | surface :: rest =>
    if rest ≠ [] ∨ surface.coverage.status ≠ .observedComplete then
      .error (.validation (s!"{name} coverage must be observed_complete; found " ++
        coverageText surface.coverage.status))
    else .ok surface

def teamEntities (snapshot : GameSnapshot) : Except UIError (List ObservedEntity) := do
  return (← completeSurface snapshot "teams").entities

def employeeEntities (snapshot : GameSnapshot) : Except UIError (List ObservedEntity) := do
  return (← completeSurface snapshot "employees").entities

/-- `_text` -/
def text (values : Members) (key : String) (allowEmpty : Bool) : Except UIError String :=
  match textOf values key allowEmpty with
  | some s => .ok s
  | none => .error (.validation s!"{key} is not an observed string")

/-- The applicant of an entity, `none` where a field is missing or invalid. -/
def applicantOf (entity : ObservedEntity) (bridgeSequence : Int) : Option ApplicantObservation := do
  let displayIndex ← (← entity.values.get "display_index").integer?
  let salary ← (← entity.values.get "salary").number?
  let period ← textOf entity.values "salary_period" false
  guard (period = "monthly")
  let applicant : ApplicantObservation :=
    { applicantId := entity.entityId
      name := ← textOf entity.values "name" false
      role := ← textOf entity.values "role" false
      salary
      wageBracket := ← textOf entity.values "wage_bracket" false
      displayIndex
      selectedTeam := ← textOf entity.values "selected_team" true
      available := ← (← entity.values.get "available").boolean?
      sourceBridgeSequence := bridgeSequence }
  guard applicant.valid
  return applicant

/-- The loop of `applicant_observations`. -/
def collectApplicants (bridgeSequence : Int) (seen : List ApplicantObservation) :
    List ObservedEntity → Except UIError (List ApplicantObservation)
  | [] => .ok seen
  | entity :: rest =>
    if entity.entityType ≠ "applicant" then collectApplicants bridgeSequence seen rest
    else match applicantOf entity bridgeSequence with
      | none => .error (.validation (s!"applicant " ++ strRepr entity.entityId ++
          " has incomplete or invalid observed fields"))
      | some applicant =>
        if seen.any fun a => a.applicantId = applicant.applicantId ∨ a.displayIndex = applicant.displayIndex then
          .error (.validation "applicant coverage contains duplicate identity or display index")
        else collectApplicants bridgeSequence (seen ++ [applicant]) rest

def applicantObservations (snapshot : GameSnapshot) : Except UIError (List ApplicantObservation) := do
  let surface ← completeSurface snapshot "applicants"
  let applicants ← collectApplicants snapshot.bridgeSequence [] surface.entities
  return applicants.insertionSort fun a b => a.displayIndex ≤ b.displayIndex

/-- `[\d][\d,]*(?:\.\d{1,2})?` at the start of a text. -/
def amountAt (cs : List Char) : List Char :=
  let whole := cs.takeWhile fun c => isDigit c || c = ','
  match cs.drop whole.length with
  | '.' :: d :: rest =>
    if ¬ isDigit d then whole
    else match rest with
      | e :: _ => if isDigit e then whole ++ ['.', d, e] else whole ++ ['.', d]
      | [] => whole ++ ['.', d]
  | _ => whole

/-- `re.findall(r"(?<![\d.])[\d][\d,]*(?:\.\d{1,2})?", text)`: the matches from here on, when
the first `n` characters belong to the one before and `prior` is the character before. -/
def findAmounts : Nat → Option Char → List Char → List (List Char)
  | _, _, [] => []
  | n + 1, _, c :: cs => findAmounts n (some c) cs
  | 0, prior, c :: cs =>
    if isDigit c && !(prior.any fun p => isDigit p || p = '.') then
      amountAt (c :: cs) :: findAmounts ((amountAt (c :: cs)).length - 1) (some c) cs
    else findAmounts 0 (some c) cs

/-- `Decimal(value.replace(",", ""))` of a match. -/
def amountValue (cs : List Char) : ℚ :=
  let kept := cs.filter (· ≠ ',')
  let whole := kept.takeWhile isDigit
  let fraction := (kept.drop whole.length).filter isDigit
  digitsValue whole + digitsValue fraction / 10 ^ fraction.length

/-- `_money` of a match. -/
def money (cs : List Char) : Except UIError ℚ :=
  if amountValue cs ≤ 0 then .error (.validation "salary cap must be positive") else .ok (amountValue cs)

def hiringSearchObservation (snapshot : GameSnapshot) : Except UIError HiringSearchObservation := do
  let surface ← completeSurface snapshot "staffing_ui"
  match surface.entities.filter fun e => e.entityType = "staffing_ui_state" ∧ e.entityId = "current" with
  | [state] =>
    let scene ← text state.values "scene" false
    if scene ≠ "hiring_setup" then .error (.validation "paid applicant search is not visibly configured") else
    let role ← text state.values "role" false
    let wageBracket ← text state.values "wage_bracket" false
    let poolText ← text state.values "pool_text" false
    let costText ← text state.values "search_cost_text" false
    match (findAmounts 0 none costText.toList).getLast? with
    | none => .error (.validation "visible applicant-search cost is not a USD amount")
    | some amount =>
      let search : HiringSearchObservation :=
        { role, wageBracket, oneTimeCost := ← money amount, poolText
          sourceBridgeSequence := snapshot.bridgeSequence }
      if search.valid then .ok search else .error .model
  | _ => .error (.validation "staffing UI state did not resolve exactly once")

/-- The teams of a normalized name. -/
def teamsNamed (snapshot : GameSnapshot) (requested : String) : Except UIError (List ObservedEntity) := do
  let teams ← teamEntities snapshot
  teams.filterM fun team => do
    return normalizeTeamName (← text team.values "name" false) = normalizeTeamName requested

def requireUniqueTeam (snapshot : GameSnapshot) (requested : String) : Except UIError ObservedEntity := do
  match ← teamsNamed snapshot requested with
  | [] => .error (.validation ("team " ++ strRepr requested ++ " does not exist"))
  | [team] => .ok team
  | _ => .error (.validation ("team " ++ strRepr requested ++ " is ambiguous"))

def requireTeamAbsent (snapshot : GameSnapshot) (requested : String) : Except UIError Unit := do
  match ← teamsNamed snapshot requested with
  | [] => .ok ()
  | _ => .error (.validation ("team " ++ strRepr requested ++ " already exists; duplicate creation rejected"))

/-- The order `min` goes by (staffing.py:231). -/
def cheaper (a b : ApplicantObservation) : Bool :=
  a.salary < b.salary || (a.salary = b.salary && a.applicantId < b.applicantId)

def selectApplicant (snapshot : GameSnapshot) (teamName role : String) (maximumMonthlySalary : ℚ) :
    Except UIError ApplicantObservation := do
  let _ ← requireUniqueTeam snapshot teamName
  let employed := (← employeeEntities snapshot).map (·.entityId)
  let eligible := (← applicantObservations snapshot).filter fun a =>
    a.available && casefold a.role = casefold role && a.salary ≤ maximumMonthlySalary &&
      a.applicantId ∉ employed &&
      (a.selectedTeam = "" || normalizeTeamName a.selectedTeam = normalizeTeamName teamName)
  match eligible with
  | [] => .error (.validation (s!"no available {role} applicant was observed at or below $" ++
      usd maximumMonthlySalary ++ " per month"))
  | first :: rest => .ok (rest.foldl (fun best a => if cheaper a best then a else best) first)

/-! ## Plans -/

/-- `_PLAN_TTL`, in seconds. -/
def planTtl : Nat := 120

def forbiddenSurfaces : List String := ["company", "offices", "products", "work_items"]

/-- What the branches of `build_staffing_plan` fill in (staffing.py:244-288). -/
structure Branch where
  expected : List String
  applicant : Option ApplicantObservation := none
  search : Option HiringSearchObservation := none
  maximum : Option ℚ := none
  oneTimeCost : ℚ := 0
  monthlyCost : ℚ := 0

/-- `applicant or select_applicant(…)` (staffing.py:270) -/
def applicantOrSelected (intent : StaffingIntent) (snapshot : GameSnapshot) (role : String) (maximum : ℚ) :
    Option ApplicantObservation → Except UIError ApplicantObservation
  | some applicant => .ok applicant
  | none => selectApplicant snapshot intent.teamName role maximum

def planBranch (intent : StaffingIntent) (snapshot : GameSnapshot) (applicant : Option ApplicantObservation) :
    Except UIError Branch :=
  match intent.action with
  | .createTeam => do
    requireTeamAbsent snapshot intent.teamName
    return { expected := ["teams.add:" ++ normalizeTeamName intent.teamName] }
  | .observeApplicants =>
    match intent.role, intent.maximumMonthlySalary with
    | some role, some maximum => do
      let _ ← requireUniqueTeam snapshot intent.teamName
      let search ← hiringSearchObservation snapshot
      if casefold search.role ≠ casefold role then
        .error (.validation "visible applicant-search role is not Programmer")
      else
        return { expected := ["finances.cash:-" ++ floatRepr search.oneTimeCost, "applicants.replace:visible_pool"]
                 search := some search, maximum := some maximum, oneTimeCost := search.oneTimeCost }
    | _, _ => .error (.validation "applicant-search intent lacks role or salary limit")
  | .hireEmployee =>
    match intent.role, intent.maximumMonthlySalary with
    | some role, some maximum => do
      let selected ← applicantOrSelected intent snapshot role maximum applicant
      if maximum < selected.salary then .error (.validation "selected applicant exceeds the salary limit")
      else
        return { expected :=
                   ["employees.add:" ++ selected.applicantId,
                     "employees.team:" ++ selected.applicantId ++ ":" ++ normalizeTeamName intent.teamName,
                     "employees.salary:" ++ selected.applicantId ++ ":" ++ floatRepr selected.salary]
                 applicant := some selected, maximum := some maximum, monthlyCost := selected.salary }
    | _, _ => .error (.validation "hire intent lacks role or salary limit")

def buildStaffingPlan (intent : StaffingIntent) (o : Observation) (applicant : Option ApplicantObservation)
    (now : Timestamp) : Except UIError StaffingPlan := do
  let snapshot := o.semanticAfter
  let saveIdentity := saveIdentityText snapshot.saveIdentity
  let branch ← planBranch intent snapshot applicant
  let plan : StaffingPlan :=
    { action := intent.action
      gameSessionId := snapshot.gameSessionId
      saveIdentity
      teamName := intent.teamName
      normalizedTeamName := normalizeTeamName intent.teamName
      applicant := branch.applicant
      search := branch.search
      maximumMonthlySalary := branch.maximum
      expectedOneTimeCost := branch.oneTimeCost
      expectedMonthlyCost := branch.monthlyCost
      expectedDifferences := branch.expected
      forbiddenDifferences := forbiddenSurfaces.map (· ++ ".*")
      sourceFrameId := o.frame.frameId
      sourceProjectionId := o.projectionId
      createdAt := now
      expiresAt := now + planTtl
      fingerprint :=
        { action := intent.action, applicant := branch.applicant, gameSessionId := snapshot.gameSessionId
          maximumMonthlySalary := branch.maximum, search := branch.search, saveIdentity
          sourceFrameId := o.frame.frameId, sourceProjectionId := o.projectionId, teamName := intent.teamName } }
  if plan.valid then .ok plan else .error .model

def pendingApproval (plan : StaffingPlan) : StaffingApproval where
  status := .pending
  createdAt := plan.createdAt
  resolvedAt := none
  planFingerprint := plan.fingerprint

def resolveApproval (approval : StaffingApproval) (approved : Bool) (now : Timestamp) : StaffingApproval :=
  { approval with status := if approved then .approved else .denied, resolvedAt := some now }

def requireValidApproval (plan : StaffingPlan) (approval : StaffingApproval) (o : Observation) (now : Timestamp) :
    Except UIError Unit := do
  if approval.status ≠ .approved then .error (.validation "exact staffing approval was not granted")
  if approval.planFingerprint ≠ plan.fingerprint then
    .error (.validation "approval belongs to a different staffing plan")
  if plan.expiresAt ≤ now then .error (.validation "staffing approval expired before commitment")
  let snapshot := o.semanticAfter
  if snapshot.gameSessionId ≠ plan.gameSessionId then
    .error (.validation "game session changed after staffing approval")
  if saveIdentityText snapshot.saveIdentity ≠ plan.saveIdentity then
    .error (.validation "save identity changed after staffing approval")
  match plan.action with
  | .createTeam => requireTeamAbsent snapshot plan.teamName
  | .observeApplicants =>
    let current ← hiringSearchObservation snapshot
    if some current ≠ plan.search then
      .error (.validation "applicant-search role, bracket, pool, or cost changed after approval")
  | .hireEmployee =>
    match plan.applicant, plan.maximumMonthlySalary with
    | some applicant, some maximum =>
      let current ← selectApplicant snapshot plan.teamName applicant.role maximum
      if current ≠ applicant then
        .error (.validation "applicant identity, salary, order, or availability changed after approval")
    | _, _ => .error .assertion

/-! ## What an approval outlives -/

theorem applicantOf_sequence {entity : ObservedEntity} {n : Int} {a : ApplicantObservation}
    (h : applicantOf entity n = some a) : a.sourceBridgeSequence = n := by
  simp only [applicantOf, Option.bind_eq_bind, Option.bind_eq_some_iff] at h
  obtain ⟨_, -, _, -, _, -, _, -, _, -, _, -, _, -, _, -, _, -, _, -, _, -, _, -, _, -, h⟩ := h
  rw [← Option.some.inj h]

theorem collectApplicants_sequence {n : Int} {entities : List ObservedEntity} : ∀ {seen as : List ApplicantObservation},
    (∀ a ∈ seen, a.sourceBridgeSequence = n) → collectApplicants n seen entities = .ok as →
      ∀ a ∈ as, a.sourceBridgeSequence = n := by
  induction entities with
  | nil =>
    intro seen as hseen h
    cases h
    exact hseen
  | cons entity rest ih =>
    intro seen as hseen h
    rw [collectApplicants] at h
    split_ifs at h with htype
    · exact ih hseen h
    · cases hof : applicantOf entity n with
      | none =>
        rw [hof] at h
        cases h
      | some applicant =>
        simp only [hof] at h
        split_ifs at h with hdup
        refine ih (fun a ha => ?_) h
        rcases List.mem_append.1 ha with ha | ha
        · exact hseen a ha
        · rw [List.mem_singleton.1 ha]
          exact applicantOf_sequence hof

theorem applicantObservations_sequence {snapshot : GameSnapshot} {as : List ApplicantObservation}
    (h : applicantObservations snapshot = .ok as) : ∀ a ∈ as, a.sourceBridgeSequence = snapshot.bridgeSequence := by
  obtain ⟨surface, -, h⟩ := Except.bind_eq_ok.1 h
  obtain ⟨applicants, hcollect, h⟩ := Except.bind_eq_ok.1 h
  cases h
  intro a ha
  rw [List.mem_insertionSort] at ha
  exact collectApplicants_sequence (by simp) hcollect a ha

/-- The applicant that is selected is one of those observed. -/
theorem selectApplicant_mem {snapshot : GameSnapshot} {teamName role : String} {maximum : ℚ} {a : ApplicantObservation}
    (h : selectApplicant snapshot teamName role maximum = .ok a) :
    ∃ as, applicantObservations snapshot = .ok as ∧ a ∈ as := by
  obtain ⟨team, -, h⟩ := Except.bind_eq_ok.1 h
  obtain ⟨employees, -, h⟩ := Except.bind_eq_ok.1 h
  obtain ⟨as, has, h⟩ := Except.bind_eq_ok.1 h
  refine ⟨as, has, ?_⟩
  have hfold : ∀ (rest : List ApplicantObservation) (best : ApplicantObservation), best ∈ as → (∀ b ∈ rest, b ∈ as) →
      rest.foldl (fun best a => if cheaper a best then a else best) best ∈ as := by
    intro rest
    induction rest with
    | nil =>
      intro best hbest _
      exact hbest
    | cons b rest ih =>
      intro best hbest hrest
      rw [List.foldl_cons]
      refine ih _ ?_ fun c hc => hrest c (List.mem_cons_of_mem _ hc)
      split_ifs
      · exact hrest b (List.mem_cons_self ..)
      · exact hbest
  dsimp only at h
  split at h
  · cases h
  · rename_i first rest heligible
    cases h
    have hsub : ∀ b ∈ first :: rest, b ∈ as := by
      intro b hb
      rw [← heligible] at hb
      exact (List.mem_filter.1 hb).1
    exact hfold rest first (hsub first (List.mem_cons_self ..)) fun b hb => hsub b (List.mem_cons_of_mem _ hb)

theorem hiringSearchObservation_sequence {snapshot : GameSnapshot} {search : HiringSearchObservation}
    (h : hiringSearchObservation snapshot = .ok search) : search.sourceBridgeSequence = snapshot.bridgeSequence := by
  obtain ⟨surface, -, h⟩ := Except.bind_eq_ok.1 h
  split at h
  · obtain ⟨scene, -, h⟩ := Except.bind_eq_ok.1 h
    split_ifs at h
    obtain ⟨role, -, h⟩ := Except.bind_eq_ok.1 h
    obtain ⟨wageBracket, -, h⟩ := Except.bind_eq_ok.1 h
    obtain ⟨poolText, -, h⟩ := Except.bind_eq_ok.1 h
    obtain ⟨costText, -, h⟩ := Except.bind_eq_ok.1 h
    split at h
    · cases h
    · obtain ⟨cost, -, h⟩ := Except.bind_eq_ok.1 h
      dsimp only at h
      split_ifs at h
      cases h
      rfl
  · cases h

/-- What a plan names of an applicant or a search is what the snapshot shows. -/
def StaffingPlan.Shown (plan : StaffingPlan) (snapshot : GameSnapshot) : Prop :=
  match plan.action with
  | .createTeam => True
  | .observeApplicants => ∃ approved search, plan.search = some approved ∧
      hiringSearchObservation snapshot = .ok search ∧ search.role = approved.role ∧
      search.wageBracket = approved.wageBracket ∧ search.poolText = approved.poolText ∧
      search.oneTimeCost = approved.oneTimeCost
  | .hireEmployee => ∃ approved applicants applicant, plan.applicant = some approved ∧
      applicantObservations snapshot = .ok applicants ∧ applicant ∈ applicants ∧
      applicant.applicantId = approved.applicantId ∧ applicant.salary = approved.salary ∧
      applicant.displayIndex = approved.displayIndex ∧ applicant.available = approved.available

/-- The approved approval of a plan, on every later observation of the session before it
expires: it is accepted when no surface has changed, and only when what it names is shown. -/
def StaffingPlan.Honoured (plan : StaffingPlan) (o : Observation) : Prop :=
  ∀ (later : Observation) (resolvedAt now : Timestamp),
    later.semanticAfter.gameSessionId = o.semanticAfter.gameSessionId →
    later.semanticAfter.saveIdentity = o.semanticAfter.saveIdentity →
    o.semanticAfter.bridgeSequence < later.semanticAfter.bridgeSequence → now < plan.expiresAt →
    let result := requireValidApproval plan (resolveApproval (pendingApproval plan) true resolvedAt) later now
    (later.semanticAfter.surfaces = o.semanticAfter.surfaces → result = .ok ()) ∧
      (result = .ok () → plan.Shown later.semanticAfter)

theorem buildStaffingPlan_ok {intent : StaffingIntent} {o : Observation} {applicant : Option ApplicantObservation}
    {now : Timestamp} {plan : StaffingPlan} (h : buildStaffingPlan intent o applicant now = .ok plan) :
    ∃ branch, planBranch intent o.semanticAfter applicant = .ok branch ∧ plan.action = intent.action ∧
      plan.gameSessionId = o.semanticAfter.gameSessionId ∧
      plan.saveIdentity = saveIdentityText o.semanticAfter.saveIdentity ∧ plan.teamName = intent.teamName ∧
      plan.applicant = branch.applicant ∧ plan.search = branch.search ∧
      plan.maximumMonthlySalary = branch.maximum ∧ now < plan.expiresAt := by
  obtain ⟨branch, hbranch, h⟩ := Except.bind_eq_ok.1 h
  dsimp only at h
  split_ifs at h
  cases h
  exact ⟨branch, hbranch, rfl, rfl, rfl, rfl, rfl, rfl, rfl, by simp [planTtl]⟩

/-- The team of a create-team plan is absent. -/
theorem planBranch_createTeam {intent : StaffingIntent} {snapshot : GameSnapshot}
    {applicant : Option ApplicantObservation} {branch : Branch} (haction : intent.action = .createTeam)
    (h : planBranch intent snapshot applicant = .ok branch) : requireTeamAbsent snapshot intent.teamName = .ok () := by
  rw [planBranch, haction] at h
  obtain ⟨_, habsent, -⟩ := Except.bind_eq_ok.1 h
  exact habsent

/-- The search of a plan is the one observed. -/
theorem planBranch_search {intent : StaffingIntent} {snapshot : GameSnapshot}
    {applicant : Option ApplicantObservation} {branch : Branch} (haction : intent.action = .observeApplicants)
    (h : planBranch intent snapshot applicant = .ok branch) :
    ∃ search, branch.search = some search ∧ search.sourceBridgeSequence = snapshot.bridgeSequence := by
  rw [planBranch, haction] at h
  dsimp only at h
  split at h
  · obtain ⟨_, -, h⟩ := Except.bind_eq_ok.1 h
    obtain ⟨search, hsearch, h⟩ := Except.bind_eq_ok.1 h
    split_ifs at h
    cases h
    exact ⟨search, rfl, hiringSearchObservation_sequence hsearch⟩
  · cases h

/-- The applicant of a plan was observed no later than the plan. -/
theorem planBranch_applicant {intent : StaffingIntent} {snapshot : GameSnapshot}
    {applicant : Option ApplicantObservation} {branch : Branch} (haction : intent.action = .hireEmployee)
    (hprior : ∀ a ∈ applicant, a.sourceBridgeSequence ≤ snapshot.bridgeSequence)
    (h : planBranch intent snapshot applicant = .ok branch) :
    ∃ selected maximum, branch.applicant = some selected ∧ branch.maximum = some maximum ∧
      selected.sourceBridgeSequence ≤ snapshot.bridgeSequence := by
  rw [planBranch, haction] at h
  dsimp only at h
  split at h
  · obtain ⟨selected, hselected, h⟩ := Except.bind_eq_ok.1 h
    split_ifs at h
    cases h
    refine ⟨selected, _, rfl, rfl, ?_⟩
    cases applicant with
    | some a =>
      cases hselected
      exact hprior _ rfl
    | none =>
      obtain ⟨as, has, hmem⟩ := selectApplicant_mem hselected
      exact le_of_eq (applicantObservations_sequence has _ hmem)
  · cases h

/-- The checks before the last one, which depends on the action. -/
theorem requireValidApproval_eq {plan : StaffingPlan} {o : Observation} {resolvedAt now : Timestamp}
    (hsession : o.semanticAfter.gameSessionId = plan.gameSessionId)
    (hsave : saveIdentityText o.semanticAfter.saveIdentity = plan.saveIdentity) (hnow : now < plan.expiresAt) :
    requireValidApproval plan (resolveApproval (pendingApproval plan) true resolvedAt) o now =
      match plan.action with
      | .createTeam => requireTeamAbsent o.semanticAfter plan.teamName
      | .observeApplicants => do
        let current ← hiringSearchObservation o.semanticAfter
        if some current ≠ plan.search then
          .error (.validation "applicant-search role, bracket, pool, or cost changed after approval")
      | .hireEmployee =>
        match plan.applicant, plan.maximumMonthlySalary with
        | some applicant, some maximum => do
          let current ← selectApplicant o.semanticAfter plan.teamName applicant.role maximum
          if current ≠ applicant then
            .error (.validation "applicant identity, salary, order, or availability changed after approval")
        | _, _ => .error .assertion := by
  have hexpires : ¬ plan.expiresAt ≤ now := Nat.not_le.2 hnow
  simp only [requireValidApproval, resolveApproval, pendingApproval, if_true, hsession, hsave, hexpires, ne_eq,
    not_true_eq_false, if_false]

theorem completeSurface_congr {s t : GameSnapshot} (h : s.surfaces = t.surfaces) :
    completeSurface s = completeSurface t := by
  funext name
  rw [completeSurface, completeSurface, surfacesNamed, surfacesNamed, h]

theorem requireTeamAbsent_congr {s t : GameSnapshot} (h : s.surfaces = t.surfaces) (requested : String) :
    requireTeamAbsent s requested = requireTeamAbsent t requested := by
  simp only [requireTeamAbsent, teamsNamed, teamEntities, completeSurface_congr h]

/-- On a later observation the approval of a search is refused. -/
theorem search_refused {plan : StaffingPlan} {o : Observation} {resolvedAt now : Timestamp}
    {search : HiringSearchObservation} (haction : plan.action = .observeApplicants) (hsearch : plan.search = some search)
    (hlater : search.sourceBridgeSequence < o.semanticAfter.bridgeSequence)
    (hsession : o.semanticAfter.gameSessionId = plan.gameSessionId)
    (hsave : saveIdentityText o.semanticAfter.saveIdentity = plan.saveIdentity) (hnow : now < plan.expiresAt) :
    requireValidApproval plan (resolveApproval (pendingApproval plan) true resolvedAt) o now ≠ .ok () := by
  rw [requireValidApproval_eq hsession hsave hnow, haction, hsearch]
  intro h
  obtain ⟨current, hcurrent, h⟩ := Except.bind_eq_ok.1 h
  split_ifs at h with hne
  have hsequence := hiringSearchObservation_sequence hcurrent
  have heq : current = search := by simpa using hne
  rw [heq] at hsequence
  omega

/-- On a later observation the approval of a hire is refused. -/
theorem hire_refused {plan : StaffingPlan} {o : Observation} {resolvedAt now : Timestamp}
    {applicant : ApplicantObservation} {maximum : ℚ} (haction : plan.action = .hireEmployee)
    (happlicant : plan.applicant = some applicant) (hmaximum : plan.maximumMonthlySalary = some maximum)
    (hlater : applicant.sourceBridgeSequence < o.semanticAfter.bridgeSequence)
    (hsession : o.semanticAfter.gameSessionId = plan.gameSessionId)
    (hsave : saveIdentityText o.semanticAfter.saveIdentity = plan.saveIdentity) (hnow : now < plan.expiresAt) :
    requireValidApproval plan (resolveApproval (pendingApproval plan) true resolvedAt) o now ≠ .ok () := by
  rw [requireValidApproval_eq hsession hsave hnow, haction, happlicant, hmaximum]
  intro h
  obtain ⟨current, hcurrent, h⟩ := Except.bind_eq_ok.1 h
  split_ifs at h with hne
  obtain ⟨as, has, hmem⟩ := selectApplicant_mem hcurrent
  have hsequence := applicantObservations_sequence has current hmem
  have heq : current = applicant := by simpa using hne
  rw [heq] at hsequence
  omega

/-- The next observation of a game nothing happens in. -/
def Observation.next (o : Observation) : Observation :=
  { o with semanticAfter := { o.semanticAfter with bridgeSequence := o.semanticAfter.bridgeSequence + 1 } }

/-- **The approvals that outlive an observation.** They are those that create a team: the
sequence number of the observation is part of the applicants and searches that are compared. -/
theorem approval_honoured_iff {intent : StaffingIntent} {o : Observation} {applicant : Option ApplicantObservation}
    {now : Timestamp} {plan : StaffingPlan} (hplan : buildStaffingPlan intent o applicant now = .ok plan)
    (hprior : ∀ a ∈ applicant, a.sourceBridgeSequence ≤ o.semanticAfter.bridgeSequence) :
    plan.Honoured o ↔ intent.action = .createTeam := by
  obtain ⟨branch, hbranch, haction, hsession, hsave, hteam, happlicant, hsearch, hmaximum, hnow⟩ :=
    buildStaffingPlan_ok hplan
  constructor
  · intro h
    have haccepted := (h (Observation.next o) now now rfl rfl (by simp [Observation.next]) hnow).1 rfl
    have hnext : (Observation.next o).semanticAfter.bridgeSequence = o.semanticAfter.bridgeSequence + 1 := rfl
    cases hintent : intent.action with
    | createTeam => rfl
    | observeApplicants =>
      obtain ⟨search, hs, hsequence⟩ := planBranch_search hintent hbranch
      exact absurd haccepted (search_refused (haction.trans hintent) (hsearch.trans hs) (by omega) hsession.symm
        hsave.symm hnow)
    | hireEmployee =>
      obtain ⟨selected, maximum, ha, hm, hsequence⟩ := planBranch_applicant hintent hprior hbranch
      exact absurd haccepted (hire_refused (haction.trans hintent) (happlicant.trans ha) (hmaximum.trans hm) (by omega)
        hsession.symm hsave.symm hnow)
  · intro hintent later resolvedAt instant hgame hidentity _ hexpires
    have hlater : saveIdentityText later.semanticAfter.saveIdentity = plan.saveIdentity := by rw [hidentity, hsave]
    have hresult := @requireValidApproval_eq plan later resolvedAt instant (hgame.trans hsession.symm) hlater hexpires
    rw [haction, hintent] at hresult
    refine ⟨fun hsurfaces => ?_, fun _ => ?_⟩
    · rw [hresult, requireTeamAbsent_congr hsurfaces, hteam]
      exact planBranch_createTeam hintent hbranch
    · rw [StaffingPlan.Shown, haction, hintent]
      trivial

section Example

def complete (name : String) (entities : List ObservedEntity) : ObservationSurface where
  coverage := { surface := name, status := .observedComplete, fields := [], detail := none }
  entities

/-- A paused game with the team "Core" and one programmer to hire. -/
def applicantsShown : Observation where
  semanticAfter :=
    { captureTimestamp := "2026-01-01T12:00:00Z"
      captureStartedMarker := "sample"
      captureCompletedMarker := "sample"
      bridgeSequence := 7
      bridgeInstanceId := "bridge"
      gameSessionId := "session"
      gameId := "software-inc"
      gameVersion := "1.8.41"
      adapterVersion := "software-inc-v1"
      platform := .macos
      architecture := .x86_64
      mapIdentity := ⟨.unavailable, none, none, none⟩
      saveIdentity := ⟨.observed, some "save", none, none⟩
      gameState := []
      surfaces :=
        [complete "applicants" [⟨"applicant", "10",
            [("name", .string "Ada"), ("role", .string "Programmer"), ("salary", .integer 6200),
              ("salary_period", .string "monthly"), ("wage_bracket", .string "Low"), ("display_index", .integer 0),
              ("selected_team", .string ""), ("available", .boolean true)]⟩],
          complete "employees" [],
          complete "teams" [⟨"team", "core", [("name", .string "Core")]⟩]]
      warnings := []
      limitations := [] }
  frame := ⟨"f", 1, "window"⟩
  scene := .applicantList
  modalState := .none
  projectionId := "p"
  targets := []

def createTeamAlpha : StaffingIntent where
  action := .createTeam
  teamName := "Alpha"
  role := none
  maximumMonthlySalary := none
  team_sized := by decide
  role_programmer := by simp
  salary_amount := by simp
  hiring_fields := by decide

def hireProgrammer : StaffingIntent where
  action := .hireEmployee
  teamName := "Core"
  role := some "Programmer"
  maximumMonthlySalary := some 8000
  team_sized := by decide
  role_programmer := by simp
  salary_amount := by decide +kernel
  hiring_fields := by decide

theorem approval_honoured_iff_create : ∃ plan, buildStaffingPlan createTeamAlpha applicantsShown none 0 = .ok plan ∧
    (plan.Honoured applicantsShown ↔ createTeamAlpha.action = .createTeam) := by
  obtain ⟨plan, hplan⟩ := Except.exists_ok
    (show (buildStaffingPlan createTeamAlpha applicantsShown none 0).isOk = true by decide +kernel)
  exact ⟨plan, hplan, approval_honoured_iff hplan (by simp)⟩

/-- The approval of a hire is refused on the next observation, where nothing has changed. -/
theorem unchanged_hire_refused : ∃ plan, buildStaffingPlan hireProgrammer applicantsShown none 0 = .ok plan ∧
    (Observation.next applicantsShown).semanticAfter.surfaces = applicantsShown.semanticAfter.surfaces ∧
    requireValidApproval plan (resolveApproval (pendingApproval plan) true 1) (Observation.next applicantsShown) 1 =
      .error (.validation "applicant identity, salary, order, or availability changed after approval") := by
  have hrefused : (buildStaffingPlan hireProgrammer applicantsShown none 0).toOption.map
      (fun plan => requireValidApproval plan (resolveApproval (pendingApproval plan) true 1)
        (Observation.next applicantsShown) 1) = some (.error
          (.validation "applicant identity, salary, order, or availability changed after approval")) := by
    decide +kernel
  cases hplan : buildStaffingPlan hireProgrammer applicantsShown none 0 with
  | error e =>
    rw [hplan] at hrefused
    cases hrefused
  | ok plan =>
    rw [hplan] at hrefused
    exact ⟨plan, rfl, rfl, Option.some.inj hrefused⟩

end Example

end SimPilot.SoftwareInc.Staffing
