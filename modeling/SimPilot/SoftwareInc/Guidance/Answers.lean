import Mathlib.Data.List.Infix
import SimPilot.Data.Digits
import SimPilot.SoftwareInc.Guidance.State
/-!
# The answers about teams, employees and payroll (software_inc/guidance/read_service.py)

A question is put under the topic of the first test it passes; the answers read of the view are
here. `elsewhere` gives those read of the knowledge catalog, the capabilities, the offices and the
infrastructure.

| here | there |
|---|---|
| `topics`, `topicOf` | the tests of `answer`, read_service.py:38-304 |
| `answer`, `status` | read_service.py:37, 314 |
| `QuestionResponse.valid`, `EvidenceReference.valid` | guidance/models.py:83-131 |
-/

namespace SimPilot.SoftwareInc.Guidance
open GameBridge Contracts

/-! ## Responses -/

inductive GuidanceStatus where
  | answered | completed | insufficientData | unsupported | clarificationRequired | blocked
  deriving DecidableEq, Repr

inductive EvidenceKind where
  | liveObservation | deterministicCalculation | verifiedRepositoryKnowledge | boundedInference | unavailable
  deriving DecidableEq, Repr

structure EvidenceReference where
  evidenceId : String
  kind : EvidenceKind
  summary : String
  source : String
  observedValue : Option String := none
  limitations : List String := []
  deriving DecidableEq, Repr

def EvidenceReference.valid (e : EvidenceReference) : Bool :=
  sized 1 256 e.evidenceId && sized 1 1024 e.summary && sized 1 512 e.source && e.observedValue.all (sized 0 512)

structure QuestionResponse where
  question : String
  status : GuidanceStatus
  answer : String
  evidence : List EvidenceReference
  limitation : Option String := none
  followUp : Option String := none
  deriving DecidableEq, Repr

def QuestionResponse.valid (r : QuestionResponse) : Bool :=
  sized 1 4096 r.question && sized 1 4096 r.answer && r.limitation.all (sized 1 2048) && r.followUp.all (sized 1 1024)

/-- A response is built of its evidence, and both are refused when a field is too long. -/
def respond (r : QuestionResponse) : Except UIError QuestionResponse :=
  if r.evidence.all EvidenceReference.valid && r.valid then .ok r else .error .model

structure GuidanceContext where
  state : Option StateView
  snapshotError : Option String

/-- `_state_evidence` -/
def stateEvidence (state : StateView) (field value : String) : EvidenceReference where
  evidenceId := state.snapshotId ++ ":" ++ field
  kind := .liveObservation
  summary := "Observed " ++ field
  source := state.snapshotId
  observedValue := some value

/-- `text or default` -/
def orElse (text : Option String) (default : String) : String :=
  match text with
  | none | some "" => default
  | some s => s

/-- `_unavailable` -/
def unavailable (question : String) (context : GuidanceContext) (message : String) : Except UIError QuestionResponse :=
  let detail := orElse context.snapshotError "required fields are unavailable"
  respond {
    question := question
    status := .insufficientData
    answer := "Insufficient data: " ++ message
    evidence := [{
      evidenceId := "unavailable:live_state"
      kind := .unavailable
      summary := detail
      source := "SoftwareIncGuidanceContext" }]
    limitation := some detail
    followUp := some "Run `software-inc crash-course --testing` to inspect the live boundary." }

/-! ## Topics -/

inductive Topic where
  | hours | desks | equipment | server | contracts | products | runway | suitability | training | trainee
  | notWorking | teamPurpose | programmer | hiring | approvals | payroll | capabilities | teamCount | teamList
  | employeeCount | membership | cash | paused | teamExists | financialHealth | unknown
  deriving DecidableEq, Repr

/-- `re.search(before + "(.+?)" + after, text)`, on one line -/
def surrounds (before after text : List Char) : Bool :=
  text.tails.any fun rest => before <+: rest && after <:+: rest.drop (before.length + 1)

/-- The tests of a normalized question, in the order they are made. -/
def topics : List (Topic × (String → Bool)) := [
  (.hours, fun q => surrounds "what hours does ".toList " work".toList q.toList),
  (.desks, fun q => surrounds "does ".toList " have enough desks".toList q.toList ||
    surrounds "does ".toList " have enough workspace".toList q.toList),
  (.equipment, inText "what office equipment are we missing"),
  (.server, inText "need a server"),
  (.contracts, fun q => inText "what are contracts" q || inText "how do contracts work" q),
  (.products, fun q => inText "how do products work" q || inText "what is a game engine" q ||
    inText "how does product development work" q),
  (.runway, fun q => inText "can i afford atlas" q || inText "atlas runway" q),
  (.suitability, fun q => inText "when is a contract unsuitable" q || inText "contract unsuitable" q),
  (.training, fun q => inText "how does training work" q || inText "how does education work" q ||
    inText "what is system design" q),
  (.trainee, fun q => inText "who should" q && (inText "train" q || inText "educat" q)),
  (.notWorking, fun q => inText "why isn't this employee working" q || inText "why isnt this employee working" q),
  (.teamPurpose, fun q => inText "what do teams do" q || inText "what are teams" q),
  (.programmer, fun q => inText "why would i hire a programmer" q || inText "why hire a programmer" q),
  (.hiring, inText "how does hiring work"),
  (.approvals, fun q => inText "separate approval" q || inText "search need" q),
  (.payroll, fun q => inText "recurring payroll" q || inText "monthly payroll" q),
  (.capabilities, fun q => inText "what can sim pilot" q || inText "currently control" q),
  (.teamCount, inText "how many teams"),
  (.teamList, fun q => inText "what are my teams" q || inText "list my teams" q),
  (.employeeCount, inText "how many employees"),
  (.membership, fun q => inText "who works for each team" q || inText "team membership" q),
  (.cash, fun q => inText "how much cash" q || inText "cash do i have" q),
  (.paused, fun q => inText "is the game paused" q || q = "am i paused"),
  (.teamExists, fun q => inText "support alpha" q && (inText "already" q || inText "present" q)),
  (.financialHealth, fun q => inText "financial trouble" q || inText "afford another employee" q)]

/-! ## Texts -/

/-- `_money` -/
def money (q : ℚ) : String := "$" ++ usd q

def plural (n : Nat) : String := if n = 1 then "" else "s"

def countText (kind : String) (n : Nat) : String :=
  "You have " ++ toString n ++ " observed " ++ kind ++ plural n ++ "."

def teamCountText (n : Nat) : String := countText "team" n

def employeeCountText (n : Nat) : String := countText "employee" n

def teamRow (t : TeamSummary) : String :=
  t.name ++ " (" ++ toString t.employeeCount ++ " employee" ++ plural t.employeeCount ++ ")"

def teamRows (teams : List TeamSummary) : String := orElse (some (", ".intercalate (teams.map teamRow))) "none"

def teamListText (teams : List TeamSummary) : String := "Observed teams: " ++ teamRows teams ++ "."

def membershipRow (employees : List EmployeeSummary) (t : TeamSummary) : String :=
  let names := (employees.filter (·.team = t.name)).map (·.name)
  t.name ++ ": " ++ if names = [] then "no observed employees" else ", ".intercalate names

def membershipText (teams : List TeamSummary) (employees : List EmployeeSummary) : String :=
  "; ".intercalate (teams.map (membershipRow employees)) ++ "."

def payrollText (amount : String) : String := "Observed recurring employee payroll is " ++ amount ++ " per month."

def financialText (cash payroll : String) : String :=
  "Insufficient data for a complete financial-health verdict. Observed cash is " ++ cash ++
    " and recurring employee payroll is " ++ payroll ++ " per month."

def statusText (company paused cash teams employees : String) : String :=
  company ++ ": " ++ paused ++ "; cash " ++ cash ++ "; teams " ++ teams ++ "; employees " ++ employees ++ "."

def runningText (state : StateView) : String := if state.paused then "paused" else "running"

/-! ## The service -/

section
variable (fold : String → String) (elsewhere : Topic → String → GuidanceContext → Except UIError QuestionResponse)

/-- `" ".join(question.strip().casefold().replace("-", " ").split())` -/
def normalized (question : String) : String :=
  normalizeSpaces ((fold (strip question)).map fun c => if c = '-' then ' ' else c)

def topicOf (question : String) : Topic :=
  ((topics.find? fun entry => entry.2 (normalized fold question)).map (·.1)).getD .unknown

def payrollAnswer (question : String) (context : GuidanceContext) : Except UIError QuestionResponse :=
  match context.state.bind fun state => state.recurringPayroll.map fun total => (state, total) with
  | some (state, total) => respond {
      question := question
      status := .answered
      answer := payrollText (money total)
      evidence := [stateEvidence state "employees.salary" "payroll"]
      limitation := some "This excludes unobserved rent and other expense categories."
      followUp := some "Ask “Am I in financial trouble?” for the bounded health view." }
  | none => unavailable question context
      "Complete employee salaries are unavailable, so payroll cannot be calculated."

def teamCountAnswer (question : String) (context : GuidanceContext) : Except UIError QuestionResponse :=
  match context.state.filter (·.teamsComplete) with
  | some state => respond {
      question := question
      status := .answered
      answer := teamCountText state.teams.length
      evidence := [stateEvidence state "teams" (toString state.teams.length)]
      followUp := some "Ask “What are my teams?” for their names and staffing." }
  | none => unavailable question context "Complete team coverage is unavailable."

def teamListAnswer (question : String) (context : GuidanceContext) : Except UIError QuestionResponse :=
  match context.state.filter (·.teamsComplete) with
  | some state => respond {
      question := question
      status := .answered
      answer := teamListText state.teams
      evidence := [stateEvidence state "teams" (teamRows state.teams)]
      followUp := some "Ask “Who works for each team?” for observed membership." }
  | none => unavailable question context "Complete team coverage is unavailable."

def employeeCountAnswer (question : String) (context : GuidanceContext) : Except UIError QuestionResponse :=
  match context.state.filter (·.employeesComplete) with
  | some state => respond {
      question := question
      status := .answered
      answer := employeeCountText state.employees.length
      evidence := [stateEvidence state "employees" (toString state.employees.length)]
      followUp := some "Ask “Who works for each team?” for observed membership." }
  | none => unavailable question context "Complete employee coverage is unavailable."

/-- `_membership_answer` -/
def membershipAnswer (question : String) (context : GuidanceContext) : Except UIError QuestionResponse :=
  match context.state.filter fun state => state.teamsComplete && state.employeesComplete with
  | some state => respond {
      question := question
      status := .answered
      answer := membershipText state.teams state.employees
      evidence := [stateEvidence state "employees.team" (toString state.employees.length)]
      limitation := some "Membership does not prove project suitability."
      followUp := some "Use `/recommend` for one bounded next objective." }
  | none => unavailable question context "Complete team and employee coverage is required."

def cashAnswer (question : String) (context : GuidanceContext) : Except UIError QuestionResponse :=
  match context.state.bind fun state => state.cash.map fun cash => (state, cash) with
  | some (state, cash) => respond {
      question := question
      status := .answered
      answer := "Observed company cash is " ++ money cash ++ "."
      evidence := [stateEvidence state "finances.cash" (money cash)]
      limitation := some "Cash is not a complete runway or affordability forecast."
      followUp := some "Ask “Am I in financial trouble?” for the known limits." }
  | none => unavailable question context "Observed company cash is unavailable."

def pausedAnswer (question : String) (context : GuidanceContext) : Except UIError QuestionResponse :=
  match context.state with
  | some state => respond {
      question := question
      status := .answered
      answer := "The observed simulation is " ++ runningText state ++ "."
      evidence := [stateEvidence state "game_state" (runningText state)]
      followUp := some ("Use `/operate " ++ (if state.paused then "resume" else "pause") ++
        " the game` to change it.") }
  | none => unavailable question context "Live game state is unavailable."

/-- `_team_exists_answer` -/
def teamExistsAnswer (question : String) (context : GuidanceContext) (name : String) :
    Except UIError QuestionResponse :=
  match context.state.filter (·.teamsComplete) with
  | some state => respond {
      question := question
      status := .answered
      answer := match state.teams.filter fun t => fold t.name = fold name with
        | [t] => "Yes. " ++ t.name ++ " is an observed team with " ++ toString t.employeeCount ++ " employees."
        | _ => "No observed team is named " ++ name ++ "."
      evidence := [stateEvidence state "teams.name" name]
      followUp := some "Use `/status` or ask “What are my teams?” for current staffing." }
  | none => unavailable question context "Complete team coverage is unavailable."

/-- `_financial_health_answer` -/
def financialHealthAnswer (question : String) (context : GuidanceContext) : Except UIError QuestionResponse :=
  match context.state.bind fun state => state.cash.map fun cash => (state, cash) with
  | some (state, cash) =>
    let payroll := (state.recurringPayroll.map money).getD "unavailable"
    respond {
      question := question
      status := .insufficientData
      answer := financialText (money cash) payroll
      evidence := [stateEvidence state "finances.cash" (money cash), stateEvidence state "employees.salary" payroll]
      limitation := some ("Rent, scheduled payments, projected income, commitments, and complete runway " ++
        "are not observed.")
      followUp := some "Set an explicit reserve and salary ceiling before delegating a hire." }
  | none => unavailable question context "Observed company cash is unavailable."

/-- What no test knows. -/
def unknownAnswer (question : String) : Except UIError QuestionResponse :=
  respond {
    question := question
    status := .unsupported
    answer := "I cannot answer that question from the current verified knowledge and observations."
    evidence := [{
      evidenceId := "unavailable:question_catalog"
      kind := .unavailable
      summary := "The requested concept is outside the current Software Inc. question catalog."
      source := "software-inc-guidance-v1" }]
    limitation := some "Model recall is not used as game evidence."
    followUp := some "Try `/help`, `/crash_course`, or `/capabilities`." }

def answer (question : String) (context : GuidanceContext) : Except UIError QuestionResponse :=
  match topicOf fold question with
  | .notWorking => unavailable question context ("“this employee” is ambiguous; name the employee and team. " ++
      "Current observations can check role, team, schedule, and workspace but not every absence or task cause.")
  | .payroll => payrollAnswer question context
  | .teamCount => teamCountAnswer question context
  | .teamList => teamListAnswer question context
  | .employeeCount => employeeCountAnswer question context
  | .membership => membershipAnswer question context
  | .cash => cashAnswer question context
  | .paused => pausedAnswer question context
  | .teamExists => teamExistsAnswer fold question context "Support Alpha"
  | .financialHealth => financialHealthAnswer question context
  | .unknown => unknownAnswer question
  | topic => elsewhere topic question context

def status (context : GuidanceContext) : Except UIError QuestionResponse :=
  match context.state with
  | none => unavailable "status" context "Current-save status is unavailable; generic guidance still works."
  | some state => respond {
      question := "status"
      status := .answered
      answer := statusText (orElse state.companyName "the observed company") (runningText state)
        ((state.cash.map money).getD "unavailable")
        (if state.teamsComplete then toString state.teams.length else "unknown")
        (if state.employeesComplete then toString state.employees.length else "unknown")
      evidence := [stateEvidence state "game_state/company/teams/employees" state.snapshotId]
      limitation := some "Finances are partial; this is an observed status, not a complete health forecast."
      followUp := some "Use `/recommend` for one evidence-grounded next objective." }

end

end SimPilot.SoftwareInc.Guidance
