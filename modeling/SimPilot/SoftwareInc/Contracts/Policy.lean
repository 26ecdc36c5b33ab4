import SimPilot.Data.Ranking
import SimPilot.SoftwareInc.Workstation.Catalog
/-!
# The recommendation of a contract (software_inc/contracts/policy.py)

A contract is judged against what is read of one team, and the first eligible ones are
recommended. `fold` is `str.casefold`. The fingerprint of a recommendation is the material it is
taken of, and decimals are exact, as they are up to 28 digits.

The team itself is found whatever the white space of the reference. Its employees, work and
offices are looked up under the reference as it is spelled.

| here | there |
|---|---|
| `assessContract`, `recommendContracts` | policy.py:24-190 |
| `uniqueNamedTeam`, …, `cash` | policy.py:193-289 |
| `MeetsPolicy` | docs/034-software-inc-first-contract.md:78 |
-/

namespace SimPilot.SoftwareInc.Contracts.Advisor

open GameBridge TextOrder Ranking
open Workstation (listing)

structure TeamContractAssessment where
  teamId : String
  teamName : String
  employeeCount : Int
  requiredRoles : List String
  observedRoles : List String
  missingRoles : List String
  activeWorkItems : List String
  currentWorkspaceCapacity : Option Int
  requiredWorkspaceCapacity : Int
  conservativeRequiredDays : Int
  deadlineBufferDays : ℚ
  suitable : Bool
  reasons : List String
  deriving DecidableEq, Repr

/-- The fields of `TeamContractAssessment` (models.py:107). -/
def TeamContractAssessment.valid (a : TeamContractAssessment) : Bool :=
  0 ≤ a.employeeCount && a.currentWorkspaceCapacity.all (0 ≤ ·) && 0 ≤ a.requiredWorkspaceCapacity &&
    0 ≤ a.conservativeRequiredDays

structure ContractCandidate where
  contract : ContractObservation
  team : TeamContractAssessment
  observedCash : ℚ
  worstCaseCashAfterPenalty : ℚ
  minimumReward : ℚ
  minimumCashReserve : ℚ
  eligible : Bool
  reasons : List String
  deriving DecidableEq, Repr

/-- What a fingerprint is taken of (policy.py:64-73). -/
structure Material where
  adapter : String
  gameSessionId : String
  saveIdentity : String
  sequence : Int
  team : String
  minimumReward : ℚ
  minimumCashReserve : ℚ
  candidates : List ContractCandidate
  deriving DecidableEq, Repr

structure ContractRecommendation where
  gameSessionId : String
  saveIdentity : String
  sourceBridgeSequence : Int
  capabilityFingerprint : Material
  recommended : Option ContractCandidate
  alternatives : List ContractCandidate
  rejectedCount : Nat
  rejectionReasons : List String
  materialUnknowns : List String
  createdAt : Timestamp
  expiresAt : Timestamp
  deriving DecidableEq

/-- The fields of `ContractRecommendation` and `validate_expiry` (models.py:134). -/
def ContractRecommendation.valid (r : ContractRecommendation) : Bool :=
  1 ≤ r.sourceBridgeSequence && r.alternatives.length ≤ 2 && r.createdAt < r.expiresAt &&
    r.recommended.all (·.eligible)

/-- `_RECOMMENDATION_TTL`, in seconds. -/
def recommendationTtl : Nat := 180

/-! ## Reading -/

section
variable (fold : String → String)

/-- `" ".join(value.casefold().split())` -/
def normalized (value : String) : String := normalizeSpaces (fold value)

/-- `_unique_named_team` -/
def uniqueNamedTeam (snapshot : GameSnapshot) (requested : String) : Except UIError ObservedEntity := do
  let surface ← requireCompleteSurface snapshot "teams"
  let found ← listing (fun e => do return normalized fold (← text e "name" false) = normalized fold requested)
    (surface.entities.filter (·.entityType = "team"))
  match found with
  | [team] => return team
  | _ => .error (.validation ("team " ++ strRepr requested ++ " did not resolve exactly once in complete observations"))

/-- `_team_employees` -/
def teamEmployees (snapshot : GameSnapshot) (teamName : String) : Except UIError (List ObservedEntity) := do
  let surface ← requireCompleteSurface snapshot "employees"
  listing
    (fun e => do return fold (← text e "team" true) = fold teamName && flagAt e.values "dismissed" = some false)
    (surface.entities.filter (·.entityType = "employee"))

/-- `_nonnegative_number` -/
def nonnegativeNumber (e : ObservedEntity) (field : String) : Except UIError ℚ :=
  match numberAt e.values field with
  | some q => if q < 0 then .error (.validation (e.entityId ++ "." ++ field ++ " is invalid")) else .ok q
  | none => .error (.validation (e.entityId ++ "." ++ field ++ " is not observed numeric"))

def skillFields : List (String × String) :=
  [("Designer", "skill_designer"), ("Programmer", "skill_programmer"), ("Artist", "skill_artist"),
    ("Lead", "skill_lead"), ("Service", "skill_service")]

/-- `_observed_roles` -/
def observedRoles (employee : ObservedEntity) : Except UIError (List String) := do
  let role ← text employee "role" false
  if inText "any role" (fold role) then
    let skills ← skillFields.mapM fun skill => do
      return (skill.1, decide (0 < (← nonnegativeNumber employee skill.2)))
    let observed := (skills.filter (·.2)).map (·.1)
    return if observed = [] then [role] else observed
  else
    let named := ["Lead", "Programmer", "Designer", "Artist", "Service"].filter fun name =>
      inText (fold name) (fold role)
    return if named = [] then [role] else named

/-- `active` of `assess_contract`: the names of the unfinished contract work (policy.py:121). -/
def activeWork (snapshot : GameSnapshot) (teamName : String) : Except UIError (List String) := do
  let work ← activeContractWork snapshot
  return (work.filter fun item => fold teamName ∈ item.assignedTeams.map fold && !item.done).map (·.contractName)

/-- The turn of `_workspace_capacity` over one room: `none` where it is skipped. -/
def roomCapacity (teamName : String) (room : ObservedEntity) : Except UIError (Option Int) := do
  let teams := splitParts '|' (← text room "assigned_teams" true)
  if fold teamName ∈ teams.map fold then return some (← integer room "valid_workstations") else return none

/-- `_workspace_capacity` -/
def workspaceCapacity (snapshot : GameSnapshot) (teamName : String) : Except UIError (Option Int) := do
  let surface ← requireCompleteSurface snapshot "offices"
  let rooms ← (surface.entities.filter (·.entityType = "office_room")).mapM (roomCapacity fold teamName)
  let matched := rooms.reduceOption
  return if matched = [] then none else some matched.sum

/-- `_days_per_month` -/
def daysPerMonth (snapshot : GameSnapshot) : Except UIError Int :=
  match integerAt snapshot.gameState "days_per_month" with
  | some i => if 0 < i then .ok i else unobserved
  | none => unobserved
where
  unobserved : Except UIError Int := .error (.validation "days_per_month is not observed from the current save")

/-- `_cash` -/
def cash (snapshot : GameSnapshot) : Except UIError ℚ :=
  match surfacesNamed snapshot "finances" with
  | [finances] =>
    if finances.coverage.status ∈ [.observedComplete, .observedPartial] then
      match finances.entities with
      | [company] => match numberAt company.values "cash" with
        | some q => .ok q
        | none => .error (.validation "current cash is not observed")
      | _ => .error (.validation "current cash did not resolve exactly once")
    else unobserved
  | _ => unobserved
where
  unobserved : Except UIError ℚ := .error (.validation "current finances are not observed")

/-- What `assess_contract` reads under a reference to a team (policy.py:102-129). -/
structure Reading where
  team : ObservedEntity
  observedRoles : List String
  active : List String
  employeeCount : Int
  capacity : Option Int
  daysPerMonth : Int

def readTeam (snapshot : GameSnapshot) (teamName : String) : Except UIError Reading := do
  let team ← uniqueNamedTeam fold snapshot teamName
  let employees ← teamEmployees fold snapshot teamName
  let roles ← employees.mapM (observedRoles fold)
  let active ← activeWork fold snapshot teamName
  let employeeCount ← integer team "employee_count"
  let capacity ← workspaceCapacity fold snapshot teamName
  return { team, observedRoles := sortedSet roles.flatten, active, employeeCount, capacity,
           daysPerMonth := ← daysPerMonth snapshot }

/-! ## Judging -/

/-- `required_roles` -/
def requiredRoles (contract : ContractObservation) : List String :=
  ["Designer"] ++ (if contract.artRatio < 1 then ["Programmer"] else []) ++
    (if 0 < contract.artRatio then ["Artist"] else [])

/-- `missing_roles` -/
def missingRoles (contract : ContractObservation) (observed : List String) : List String :=
  (requiredRoles contract).filter fun role => fold role ∉ observed.map fold

/-- `conservative_required_days` -/
def conservativeRequiredDays (contract : ContractObservation) (daysPerMonth : Int) : Int :=
  ⌈contract.developmentTime * daysPerMonth⌉

def deadlineBuffer (contract : ContractObservation) (daysPerMonth : Int) : ℚ :=
  contract.daysRemaining - conservativeRequiredDays contract daysPerMonth

/-- `if holds: reasons.append(reason)` -/
def reasonIf (holds : Prop) [Decidable holds] (reason : String) : List String := if holds then [reason] else []

def noEmployees : String := "the team has no observed employees"

def rolesMissing (missing : List String) : String := "missing required observed roles: " ++ ", ".intercalate missing

def workDisplaced (active : List String) : String :=
  "higher-priority existing work would be displaced: " ++ ", ".intercalate active

def notAttributable : String := "workspace capacity is not completely attributable to the team"

def capacityBelow (capacity employeeCount : Int) : String :=
  "workspace capacity " ++ toString capacity ++ " is below employee count " ++ toString employeeCount

def workspaceReasons (capacity : Option Int) (employeeCount : Int) : List String :=
  match capacity with
  | none => [notAttributable]
  | some capacity => reasonIf (capacity < employeeCount) (capacityBelow capacity employeeCount)

/-- The reasons in which the spelling shows. -/
def attributedReasons (contract : ContractObservation) (reading : Reading) : List String :=
  reasonIf (missingRoles fold contract reading.observedRoles ≠ [])
      (rolesMissing (missingRoles fold contract reading.observedRoles)) ++
    reasonIf (reading.active ≠ []) (workDisplaced reading.active) ++
    workspaceReasons reading.capacity reading.employeeCount

/-- `team_reasons`; the window is a whole number of days. -/
def teamReasons (contract : ContractObservation) (reading : Reading) : List String :=
  reasonIf (reading.employeeCount < 1) noEmployees ++ attributedReasons fold contract reading ++
    reasonIf (deadlineBuffer contract reading.daysPerMonth < 0)
      ("completion window has " ++ toString contract.daysRemaining.num ++
        " in-game days but the conservative budget is " ++
        toString (conservativeRequiredDays contract reading.daysPerMonth) ++ " days")

/-- What `reasons` gets behind the reasons of the team. -/
def contractReasons (contract : ContractObservation) (cash minimumReward minimumCashReserve : ℚ) : List String :=
  reasonIf (contract.reward < minimumReward)
      ("reward $" ++ usd contract.reward ++ " is below the requested $" ++ usd minimumReward ++ " minimum") ++
    reasonIf (cash - contract.penalty < minimumCashReserve)
      ("reserving the full $" ++ usd contract.penalty ++ " penalty leaves $" ++ usd (cash - contract.penalty) ++
        ", below the $" ++ usd minimumCashReserve ++ " reserve") ++
    reasonIf (contract.daysRemaining ≤ 0) "the observed relative completion window is not positive"

def assessmentOf (contract : ContractObservation) (reading : Reading) : TeamContractAssessment where
  teamId := reading.team.entityId
  teamName := (stringAt reading.team.values "name").getD ""
  employeeCount := reading.employeeCount
  requiredRoles := requiredRoles contract
  observedRoles := reading.observedRoles
  missingRoles := missingRoles fold contract reading.observedRoles
  activeWorkItems := reading.active
  currentWorkspaceCapacity := reading.capacity
  requiredWorkspaceCapacity := reading.employeeCount
  conservativeRequiredDays := conservativeRequiredDays contract reading.daysPerMonth
  deadlineBufferDays := deadlineBuffer contract reading.daysPerMonth
  suitable := teamReasons fold contract reading = []
  reasons := teamReasons fold contract reading

def candidateOf (contract : ContractObservation) (reading : Reading) (cash minimumReward minimumCashReserve : ℚ) :
    ContractCandidate :=
  let reasons := teamReasons fold contract reading ++ contractReasons contract cash minimumReward minimumCashReserve
  { contract
    team := assessmentOf fold contract reading
    observedCash := cash
    worstCaseCashAfterPenalty := cash - contract.penalty
    minimumReward
    minimumCashReserve
    eligible := reasons = []
    reasons }

/-- The fields of a candidate itself are in range where the constraints are not negative. -/
def assessContract (snapshot : GameSnapshot) (contract : ContractObservation) (teamName : String)
    (minimumReward minimumCashReserve : ℚ) : Except UIError ContractCandidate := do
  let reading ← readTeam fold snapshot teamName
  if (assessmentOf fold contract reading).valid then
    return candidateOf fold contract reading (← cash snapshot) minimumReward minimumCashReserve
  else .error .model

/-- The key of `eligible`. -/
def ContractCandidate.rank (a : ContractCandidate) : ℚ ×ₗ ℚ ×ₗ ℚ ×ₗ String :=
  toLex (-a.contract.reward, toLex (-a.team.deadlineBufferDays, toLex (a.contract.difficulty, a.contract.contractId)))

def unknownWindow : String :=
  "Before acceptance, Software Inc. exposes a relative completion window rather than an absolute deadline. " ++
    "The estimate compares that generated window with the observed employee-month workload and current " ++
    "days-per-month setting; it does not predict interruptions or employee effectiveness."

def unknownCashFlow : String :=
  "Detailed future operating cash flow is unavailable, so the policy reserves the full observed contract penalty."

/-- The candidates that are eligible, the first one first. -/
def eligibleOf (candidates : List ContractCandidate) : List ContractCandidate :=
  ranked ContractCandidate.rank (candidates.filter (·.eligible))

def recommendationOf (snapshot : GameSnapshot) (candidates : List ContractCandidate) (teamName : String)
    (minimumReward minimumCashReserve : ℚ) (now : Timestamp) : ContractRecommendation where
  gameSessionId := snapshot.gameSessionId
  saveIdentity := saveIdentityText snapshot.saveIdentity
  sourceBridgeSequence := snapshot.bridgeSequence
  capabilityFingerprint :=
    { adapter := snapshot.adapterVersion
      gameSessionId := snapshot.gameSessionId
      saveIdentity := saveIdentityText snapshot.saveIdentity
      sequence := snapshot.bridgeSequence
      team := teamName
      minimumReward
      minimumCashReserve
      candidates }
  recommended := (eligibleOf candidates).head?
  alternatives := ((eligibleOf candidates).drop 1).take 2
  rejectedCount := (candidates.filter (!·.eligible)).length
  rejectionReasons := sortedSet ((candidates.filter (!·.eligible)).flatMap (·.reasons))
  materialUnknowns := [unknownWindow, unknownCashFlow]
  createdAt := now
  expiresAt := now + recommendationTtl

def recommendContracts (snapshot : GameSnapshot) (teamName : String) (minimumReward minimumCashReserve : ℚ)
    (now : Timestamp) : Except UIError ContractRecommendation := do
  if minimumReward < 0 ∨ minimumCashReserve < 0 then
    .error (.validation "reward and cash reserve constraints cannot be negative")
  else
    let contracts ← availableContracts snapshot
    let candidates ← contracts.mapM fun contract =>
      assessContract fold snapshot contract teamName minimumReward minimumCashReserve
    let recommendation := recommendationOf snapshot candidates teamName minimumReward minimumCashReserve now
    if recommendation.valid then return recommendation else .error .model

end

/-! ## The published policy -/

/-- The entities of a type on the surface of a name. -/
def entitiesOf (snapshot : GameSnapshot) (name type : String) : List ObservedEntity :=
  ((surfacesNamed snapshot name).flatMap (·.entities)).filter (·.entityType = type)

/-- A text of an entity, empty where there is none. -/
def textAt (e : ObservedEntity) (field : String) : String := (stringAt e.values field).getD ""

/-- The teams of a room or a work item. -/
def teamsOf (e : ObservedEntity) : List String := splitParts '|' (textAt e "assigned_teams")

def ContractRecommendation.candidates (r : ContractRecommendation) : List ContractCandidate :=
  r.capabilityFingerprint.candidates

/-- The recommended contract and the alternatives. -/
def ContractRecommendation.listed (r : ContractRecommendation) : List ContractCandidate :=
  r.recommended.toList ++ r.alternatives

/-- What a contract is told to be, and why. -/
def ContractRecommendation.advice (r : ContractRecommendation) : List (ContractObservation × Bool × List String) :=
  r.candidates.map fun a => (a.contract, a.eligible, a.reasons)

/-- The better reward, then the larger buffer, then the smaller difficulty, then the smaller identity. -/
def Before (a b : ContractCandidate) : Prop :=
  b.contract.reward < a.contract.reward ∨ a.contract.reward = b.contract.reward ∧
    (b.team.deadlineBufferDays < a.team.deadlineBufferDays ∨ a.team.deadlineBufferDays = b.team.deadlineBufferDays ∧
      (a.contract.difficulty < b.contract.difficulty ∨ a.contract.difficulty = b.contract.difficulty ∧
        a.contract.contractId < b.contract.contractId))

/-- The first three of the eligible candidates, in their order. -/
structure FirstThree (candidates listed : List ContractCandidate) : Prop where
  eligible : ∀ a ∈ listed, a ∈ candidates ∧ a.eligible = true
  length : listed.length = min 3 (candidates.filter (·.eligible)).length
  ordered : listed.Pairwise Before
  first : ∀ a ∈ candidates, a.eligible = true → a ∉ listed → ∀ b ∈ listed, Before b a

section
variable (fold : String → String)

/-- The text names the team, as a reference does. -/
def Names (team : ObservedEntity) (name : String) : Prop := normalized fold name = normalized fold (textAt team "name")

instance (team : ObservedEntity) : DecidablePred (Names fold team) := fun _ => inferInstanceAs (Decidable (_ = _))

/-- The employees of the team that are not dismissed. -/
def members (snapshot : GameSnapshot) (team : ObservedEntity) : List ObservedEntity :=
  (entitiesOf snapshot "employees" "employee").filter fun e =>
    Names fold team (textAt e "team") ∧ flagAt e.values "dismissed" = some false

/-- The offices assigned to the team. -/
def officesOf (snapshot : GameSnapshot) (team : ObservedEntity) : List ObservedEntity :=
  (entitiesOf snapshot "offices" "office_room").filter fun e => ∃ name ∈ teamsOf e, Names fold team name

/-- The unfinished work assigned to the team, of any kind. -/
def unfinishedWork (snapshot : GameSnapshot) (team : ObservedEntity) : List ObservedEntity :=
  (entitiesOf snapshot "work_items" "work_item").filter fun e =>
    (∃ name ∈ teamsOf e, Names fold team name) ∧ flagAt e.values "done" ≠ some true

def employeeCount (team : ObservedEntity) : Int := (integerAt team.values "employee_count").getD 0

def validWorkstations (room : ObservedEntity) : Int := (integerAt room.values "valid_workstations").getD 0

/-- The conditions of the policy on a contract for a team. -/
structure MeetsPolicy (snapshot : GameSnapshot) (team : ObservedEntity) (contract : ContractObservation)
    (minimumReward minimumCashReserve : ℚ) : Prop where
  people : 1 ≤ employeeCount team
  roles : ∀ role ∈ requiredRoles contract, ∃ e ∈ members fold snapshot team, ∃ observed,
    observedRoles fold e = .ok observed ∧ fold role ∈ observed.map fold
  workspace : employeeCount team ≤ ((officesOf fold snapshot team).map validWorkstations).sum
  free : unfinishedWork fold snapshot team = []
  reward : minimumReward ≤ contract.reward
  reserve : ∃ amount, cash snapshot = .ok amount ∧ minimumCashReserve ≤ amount - contract.penalty
  window : ∃ days, daysPerMonth snapshot = .ok days ∧ ⌈contract.developmentTime * days⌉ ≤ contract.daysRemaining

/-- A recommendation implements the policy: every contract on the market is judged by it, the
first three are listed, and every reference to the team gets the same advice. -/
structure ImplementsPolicy (snapshot : GameSnapshot) (teamName : String) (minimumReward minimumCashReserve : ℚ)
    (now : Timestamp) (r : ContractRecommendation) : Prop where
  judged : availableContracts snapshot = .ok (r.candidates.map (·.contract))
  eligible_iff : ∀ team, uniqueNamedTeam fold snapshot teamName = .ok team → ∀ a ∈ r.candidates,
    (a.eligible = true ↔ MeetsPolicy fold snapshot team a.contract minimumReward minimumCashReserve)
  first : FirstThree r.candidates r.listed
  spelling : ∀ team other, uniqueNamedTeam fold snapshot teamName = .ok team →
    uniqueNamedTeam fold snapshot other = .ok team →
    ∃ r', recommendContracts fold snapshot other minimumReward minimumCashReserve now = .ok r' ∧ r'.advice = r.advice

/-- Nothing is attributed to the team in any spelling: no office and no unfinished contract
work names it, and its members have no role that a contract on the market requires. -/
structure Unattributed (snapshot : GameSnapshot) (team : ObservedEntity) : Prop where
  members : ∀ e ∈ members fold snapshot team, ∃ observed, observedRoles fold e = .ok observed ∧
    ∀ contracts, availableContracts snapshot = .ok contracts → ∀ contract ∈ contracts,
      ∀ role ∈ requiredRoles contract, fold role ∉ observed.map fold
  work : ∀ e ∈ unfinishedWork fold snapshot team, flagAt e.values "is_contract" ≠ some true
  offices : officesOf fold snapshot team = []

end

end SimPilot.SoftwareInc.Contracts.Advisor
