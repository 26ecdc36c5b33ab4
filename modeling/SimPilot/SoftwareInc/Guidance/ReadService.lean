import SimPilot.SoftwareInc.Guidance.Coverage
import SimPilot.SoftwareInc.Guidance.Delegation
import SimPilot.SoftwareInc.Workstation.Readiness
/-!
# The whole read guidance service (software_inc/guidance/read_service.py)

The answers that need more than the view: of the knowledge catalog, the capabilities, the offices and
the infrastructure; and the recommendation. Each is a response, built or refused for its lengths.

| here | there |
|---|---|
| `knowledgeAnswer`, `hiringAnswer`, `capabilityAnswer`, `serverAnswer` | read_service.py:608-690, 137-166, 866 |
| `teamReadinessAnswer` | read_service.py:776 |
| `recommend`, `recommendation` | read_service.py:440, 921 |
| `answerElsewhere` | the branches of `answer` that `elsewhere` stands for |
| `texts.error`, `texts.decimal` | `str` of an exception, and of the `Decimal` of a value |
-/

namespace SimPilot.SoftwareInc.Guidance
open GameBridge
open Workstation.Office (readiness TeamOfficeReadiness projectTeamReadiness)

/-! ## Knowledge -/

structure KnowledgeClaim where
  claimId : String
  supportedVersions : List String
  supportedBuilds : List String
  claim : String
  provenanceLocator : String
  verificationStage : String
  limitations : List String
  id_sized : sized 3 128 claimId = true
  claim_sized : sized 1 2048 claim = true
  provenance_sized : sized 1 1024 provenanceLocator = true
  stage_sized : sized 1 32 verificationStage = true

structure ReadContext extends GuidanceContext where
  snapshot : Option GameSnapshot
  productVersion : Option String
  steamBuildId : Option String
  capabilities : GuidedCapabilityView

/-- What Python makes of an exception and of a `Decimal` when it prints them. -/
structure Texts where
  error : UIError → String
  decimal : GameBridge.JsonValue → String

/-- `_claim_evidence` -/
def claimEvidence (c : KnowledgeClaim) : EvidenceReference where
  evidenceId := "knowledge:" ++ c.claimId
  kind := .verifiedRepositoryKnowledge
  summary := c.claim
  source := c.provenanceLocator
  observedValue := some c.verificationStage
  limitations := c.limitations

/-- `_knowledge_version` -/
def knowledgeVersion (context : ReadContext) : String :=
  match context.state, context.productVersion with
  | some state, _ => state.gameVersion
  | none, some version => version
  | none, none => if context.steamBuildId = some "23094975" then "1.8.41" else "unknown"

/-- `_applicable_claim`; a catalog without the claim raises. -/
def applicableClaim (catalog : List KnowledgeClaim) (claimId : String) (context : ReadContext) :
    Except UIError (Option KnowledgeClaim) :=
  match catalog.filter (·.claimId = claimId) with
  | [c] => .ok (if knowledgeVersion context ∉ c.supportedVersions then none
      else if c.supportedBuilds ≠ [] ∧ ¬ context.steamBuildId.any (· ∈ c.supportedBuilds) then none
      else some c)
  | _ => .error .external

/-- `" ".join(texts) if texts else None` -/
def joinedTexts (texts : List String) : Option String := if texts = [] then none else some (" ".intercalate texts)

/-- The response of a claim. -/
def knowledgeResponse (question followUp : String) (c : KnowledgeClaim) : QuestionResponse where
  question := question
  status := .answered
  answer := c.claim
  evidence := [claimEvidence c]
  limitation := joinedTexts c.limitations
  followUp := some followUp

/-- `_knowledge_answer` -/
def knowledgeAnswer (catalog : List KnowledgeClaim) (question claimId : String) (context : ReadContext)
    (followUp : String) : Except UIError QuestionResponse :=
  match applicableClaim catalog claimId context with
  | .error e => .error e
  | .ok none => unavailable question context.toGuidanceContext
      "The requested knowledge is not verified for the detected game identity."
  | .ok (some c) => respond (knowledgeResponse question followUp c)

/-- The claim and the follow-up of a topic that is answered with one claim. -/
def claimOf (normalizedQuestion : String) : Topic → Option (String × String)
  | .contracts => some ("software-inc.contracts.lifecycle", "Use `software-inc contracts recommend --team <team> " ++
      "--minimum-reward <amount>` for current-save advice.")
  | .products => some (if inText "development" normalizedQuestion then "software-inc.development.current-lifecycle"
      else "software-inc.products.current-configuration",
      "Use `software-inc crash-course products` or `software-inc crash-course development`.")
  | .runway => some ("software-inc.products.runway-policy",
      "Open the New software window and use `software-inc products recommend --minimum-cash-reserve 50000`.")
  | .suitability => some ("software-inc.contracts.suitability",
      "Open the Contracts window before requesting a recommendation.")
  | .training => some ("software-inc.training.education-model", "Use `software-inc training recommend --team Core " ++
      "--minimum-cash-reserve <amount>` for current-save advice.")
  | .trainee => some ("software-inc.training.suitability-and-cost",
      "Name an exact team and cash reserve with `software-inc training recommend`.")
  | .teamPurpose => some ("software-inc.teams.purpose", "Ask “What are my teams?” to inspect the current company.")
  | .programmer => some ("software-inc.hiring.programmer",
      "Ask “How does hiring work?” for the bounded approval workflow.")
  | .approvals => some ("software-inc.hiring.separate-approvals",
      "Ask “What can Sim Pilot currently control?” before delegating.")
  | _ => none

def claimAnswer (catalog : List KnowledgeClaim) (question : String) (context : ReadContext) :
    Option (String × String) → Except UIError QuestionResponse
  | some (claimId, followUp) => knowledgeAnswer catalog question claimId context followUp
  | none => .error .assertion

def hiringResponse (question : String) (first second : KnowledgeClaim) : QuestionResponse where
  question := question
  status := .answered
  answer := "The bounded workflow observes a paid Programmer applicant search first, " ++
    "then selects one eligible applicant under your monthly salary ceiling. " ++
    "The search charge and recurring salary require separate exact approvals."
  evidence := [claimEvidence first, claimEvidence second]
  limitation := some "The Phase 4 staffing workflow is not live-enabled yet."
  followUp := some "Use `software-inc crash-course hiring` for the complete boundary."

def hiringAnswer (catalog : List KnowledgeClaim) (question : String) (context : ReadContext) :
    Except UIError QuestionResponse :=
  match applicableClaim catalog "software-inc.hiring.programmer" context,
    applicableClaim catalog "software-inc.hiring.separate-approvals" context with
  | .error e, _ => .error e
  | _, .error e => .error e
  | .ok (some c), .ok (some c') => respond (hiringResponse question c c')
  | _, _ => unavailable question context.toGuidanceContext
      "Hiring knowledge is not verified for the detected game identity."

/-! ## Capabilities and infrastructure -/

/-- Actions by name, or `none`. -/
def actionNames (actions : List GuidedActionCapability) : String :=
  orElse (some (", ".intercalate (actions.map (·.action)))) "none"

def controlText (actions : List GuidedActionCapability) : String :=
  "Live-proven direct UI actions: " ++ actionNames (actions.filter fun a => a.directUiAction && a.liveVerified) ++
    ". Offline-only staffing actions: " ++ actionNames (actions.filter fun a => a.directUiAction && !a.liveVerified) ++
    ". The semantic bridge has no gameplay actions, and the generic Software Inc. task runtime is unavailable."

def capabilityResponse (question : String) (view : GuidedCapabilityView) : QuestionResponse where
  question := question
  status := .answered
  answer := controlText view.actions
  evidence := [{
    evidenceId := "capability:" ++ String.ofList (view.capabilityFingerprint.toList.take 20)
    kind := .verifiedRepositoryKnowledge
    summary := "Unified capability view"
    source := "SoftwareIncGuidedCapabilityView" }]
  limitation := some "Every delegated action still performs current live preflight."
  followUp := some "Use `/capabilities` for the complete evidence stages."

/-- The server groups of the only infrastructure surface. -/
def serverGroups (snapshot : Option GameSnapshot) : Nat :=
  match snapshot.map (surfacesNamed · "infrastructure") with
  | some [surface] => (surface.entities.filter (·.entityType = "server_group")).length
  | _ => 0

def serverResponse (question : String) (groups : Nat) (c : KnowledgeClaim) : QuestionResponse where
  question := question
  status := .answered
  answer := "No universal team source-control-server requirement is verified for 1.8.41. The current save exposes " ++
    toString groups ++ " server group(s); Sim Pilot will only recommend one when a selected workflow proves it is " ++
    "required."
  evidence := [claimEvidence c]
  limitation := some "The Alpha 10 guide's SCM recommendation is historical, not authority."
  followUp := some "Use `/crash_course servers` for the evidence boundary."

def serverAnswer (catalog : List KnowledgeClaim) (question : String) (context : ReadContext) :
    Except UIError QuestionResponse :=
  match applicableClaim catalog "software-inc.servers.current-boundary" context with
  | .error e => .error e
  | .ok none => unavailable question context.toGuidanceContext
      "Server requirements are not verified for this game identity."
  | .ok (some c) => respond (serverResponse question (serverGroups context.snapshot) c)

/-! ## Offices -/

inductive ReadinessMode where
  | hours | capacity | equipment
  deriving DecidableEq, Repr

/-- The texts of the hours of a team, as its entity has them. -/
def hoursTexts (texts : Texts) (fold : String → String) (snapshot : GameSnapshot) (teamName : String) :
    String × String :=
  match Workstation.complete snapshot "teams" >>= fun s => readiness.uniqueNamed fold s "team" "name" teamName with
  | .ok team => (texts.decimal ((team.values.get "work_start").getD .null),
      texts.decimal ((team.values.get "work_end").getD .null))
  | .error _ => ("", "")

def readinessField : ReadinessMode → String
  | .hours => "teams.work_start/work_end"
  | .capacity => "offices.valid_workstations"
  | .equipment => "offices.assignable_workstations"

def readinessText (hours : String × String) (r : TeamOfficeReadiness) : ReadinessMode → String
  | .hours => r.teamName ++ " works from " ++ hours.1 ++ " to " ++ hours.2 ++ "."
  | .capacity => (if r.missingWorkstations = 0 then "Yes" else "No") ++ ". " ++ r.teamName ++ " has " ++
      toString r.currentCapacity ++ " observed valid assignable workstation(s) for " ++
      toString r.requiredCapacity ++ " employee(s)."
  | .equipment => match r.exactMissingResource with
    | none => r.teamName ++ " has no observed workstation shortage."
    | some resource => r.teamName ++ " is missing " ++ resource ++ "."

/-- Where capacity is free already. -/
def capacityText (rooms : List String) : String :=
  if rooms = [] then "" else " Unassigned existing capacity is visible in room(s) " ++ ", ".intercalate rooms ++
    "; prefer assignment before purchase."

def readinessResponse (question : String) (context : ReadContext) (snapshot : GameSnapshot) (mode : ReadinessMode)
    (hours : String × String) (r : TeamOfficeReadiness) : QuestionResponse where
  question := question
  status := .answered
  answer := readinessText hours r mode ++ capacityText r.cheaperExistingCapacity
  evidence := [{
    evidenceId := (context.state.map (·.snapshotId)).getD "snapshot" ++ ":" ++ readinessField mode
    kind := .liveObservation
    summary := "Observed office readiness for " ++ r.teamName
    source := (context.state.map (·.snapshotId)).getD ("bridge-sequence:" ++ toString snapshot.bridgeSequence)
    observedValue := some (toString r.currentCapacity ++ "/" ++ toString r.requiredCapacity) }]
  limitation := some (" ".intercalate r.materialUnknowns)
  followUp := some ("Run `software-inc office readiness " ++ r.teamName ++ "` for full detail.")

/-- `_team_readiness_answer` -/
def teamReadinessAnswer (texts : Texts) (fold : String → String) (question : String) (context : ReadContext)
    (teamName : String) (mode : ReadinessMode) : Except UIError QuestionResponse :=
  match context.snapshot with
  | none => unavailable question context.toGuidanceContext "Live office state is unavailable."
  | some snapshot => match projectTeamReadiness fold snapshot teamName with
    | .error e => unavailable question context.toGuidanceContext (texts.error e)
    | .ok r => respond (readinessResponse question context snapshot mode (hoursTexts texts fold snapshot teamName) r)

/-- The text between the words of `surrounds`, up to the first place where the later words follow. -/
def between (before after text : List Char) : Option (List Char) :=
  (text.tails.find? fun rest => before <+: rest && after <:+: rest.drop (before.length + 1)).bind fun rest =>
    let behind := rest.drop before.length
    ((List.range behind.length).find? fun n => 0 < n && after <+: behind.drop n).map fun n => behind.take n

/-- `_single_team_name` -/
def singleTeamName (context : ReadContext) : Option String :=
  match context.state.filter (·.teamsComplete) with
  | some state => match state.teams with
    | [t] => some t.name
    | _ => none
  | none => none

/-- The first of the two phrases about desks that matches, with the team: the alternation stands behind the team. -/
def desksTeam (q : List Char) : Option (List Char) :=
  (q.tails.find? fun rest => "does ".toList <+: rest && (" have enough desks".toList <:+: rest.drop 6 ||
      " have enough workspace".toList <:+: rest.drop 6)).bind fun rest =>
    let behind := rest.drop 5
    ((List.range behind.length).find? fun n => 0 < n && (" have enough desks".toList <+: behind.drop n ||
      " have enough workspace".toList <+: behind.drop n)).map fun n => behind.take n

section
variable (texts : Texts) (catalog : List KnowledgeClaim) (fold : String → String)

/-- The answers to the topics that need more than the view. -/
def answerElsewhere (context : ReadContext) (topic : Topic) (question : String) (_ : GuidanceContext) :
    Except UIError QuestionResponse :=
  let q := normalized fold question
  match topic with
  | .hours => teamReadinessAnswer texts fold question context
      (String.ofList ((between "what hours does ".toList " work".toList q.toList).getD [])) .hours
  | .desks => teamReadinessAnswer texts fold question context (String.ofList ((desksTeam q.toList).getD [])) .capacity
  | .equipment => match singleTeamName context with
    | none => unavailable question context.toGuidanceContext ("Name one exact team because the current company " ++
        "does not resolve a single team.")
    | some team => teamReadinessAnswer texts fold question context team .equipment
  | .server => serverAnswer catalog question context
  | .hiring => hiringAnswer catalog question context
  | .capabilities => respond (capabilityResponse question context.capabilities)
  | topic => claimAnswer catalog question context (claimOf q topic)

/-- `answer`, with all its branches. -/
def answerAll (question : String) (context : ReadContext) : Except UIError QuestionResponse :=
  answer fold (answerElsewhere texts catalog fold context) question context.toGuidanceContext

end

/-! ## Recommending -/

/-- A recommendation with its response, as far as their lengths are checked. -/
structure Advice where
  ruleId : String
  title : String
  objective : String
  benefit : String
  risk : String
  action : Option String
  evidence : List EvidenceReference
  unknowns : List String
  gameSessionId : String
  saveIdentity : Option String
  sourceSnapshotId : String
  deriving DecidableEq, Repr

/-- `why` -/
def Advice.explanation (a : Advice) : String :=
  "Recommended: " ++ a.title ++ ". Rule " ++ a.ruleId ++ " matched the current observed state. Expected benefit: " ++
    a.benefit ++ " Risk: " ++ a.risk

def Advice.valid (a : Advice) : Bool :=
  sized 1 128 a.ruleId && sized 1 256 a.title && sized 1 1024 a.objective && sized 1 1024 a.benefit &&
    sized 1 1024 a.risk && a.action.all (sized 1 128) && a.evidence.all EvidenceReference.valid &&
    sized 0 128 a.gameSessionId && a.saveIdentity.all (sized 0 256) && sized 0 128 a.sourceSnapshotId &&
    sized 1 4096 a.explanation

/-- A response without a recommendation. -/
structure NoAdvice where
  ruleId : String
  explanation : String
  /-- The session, the save and the snapshot it was made of. -/
  source : Option (String × Option String × String)
  deriving DecidableEq, Repr

def NoAdvice.valid (n : NoAdvice) : Bool :=
  sized 1 128 n.ruleId && sized 1 4096 n.explanation && n.source.all fun s =>
    sized 0 128 s.1 && s.2.1.all (sized 0 256) && sized 0 128 s.2.2

/-- The first team whose workstations do not suffice; a team that cannot be projected is passed over. -/
def shortTeam (fold : String → String) (snapshot : GameSnapshot) (teams : List TeamSummary) :
    Option (TeamSummary × TeamOfficeReadiness) :=
  teams.findSome? fun t => match projectTeamReadiness fold snapshot t.name with
    | .ok r => if 0 < r.missingWorkstations then some (t, r) else none
    | .error _ => none

/-- `_recommendation`: the action is kept when it can be executed. -/
def advise (context : ReadContext) (state : StateView) (ruleId title objective action benefit risk : String)
    (evidence : List EvidenceReference) (unknowns : List String) : Advice where
  ruleId := ruleId
  title := title
  objective := objective
  benefit := benefit
  risk := risk
  action := if (actionCapability context.capabilities action).any fun c =>
      c.directUiAction && c.liveVerified && c.compatible then some action else none
  evidence := evidence
  unknowns := unknowns
  gameSessionId := state.gameSessionId
  saveIdentity := state.saveIdentity
  sourceSnapshotId := state.snapshotId

def pauseAdvice (context : ReadContext) (state : StateView) : Advice :=
  advise context state "pause_before_management" "Pause before management review" "pause the game" "pause"
    "Prevents uncontrolled progression while you inspect and configure the company."
    "Pausing advances no game time and is reversible." [stateEvidence state "game_state" "running"] []

def shortageAdvice (context : ReadContext) (state : StateView) (t : TeamSummary) (r : TeamOfficeReadiness) : Advice :=
  let field := "offices." ++ t.teamId ++ ".capacity"
  let seen := toString r.currentCapacity ++ "/" ++ toString r.requiredCapacity
  match r.cheaperExistingCapacity with
  | room :: _ => advise context state "repair_workspace_shortage"
      ("Resolve " ++ t.name ++ "'s observed workspace shortage")
      ("assign existing room " ++ room ++ " to " ++ t.name) "assign_existing_room" r.expectedBenefit
      ("Existing unassigned capacity costs $0 in the current projection; " ++
        "room suitability still needs visible confirmation.") [stateEvidence state field seen] r.materialUnknowns
  | [] => advise context state "repair_workspace_shortage" ("Resolve " ++ t.name ++ "'s observed workspace shortage")
      ("review office capacity for " ++ t.name) "review_office_capacity" r.expectedBenefit
      ("No purchase is recommended because exact catalog price and placement are not observed.")
      [stateEvidence state field seen] r.materialUnknowns

def emptyTeamAdvice (context : ReadContext) (state : StateView) (t : TeamSummary) : Advice :=
  advise context state "review_empty_team" ("Review staffing for " ++ t.name) "open manage teams" "open_manage_teams"
    ("Lets you inspect why " ++ t.name ++ " currently has no observed employees.")
    "This opens a read-only management view; hiring remains unavailable here."
    [stateEvidence state ("teams." ++ t.teamId ++ ".employee_count") "0"]
    ["An empty team alone does not prove that another employee should be hired.",
      "A monthly salary ceiling is required before any later hiring plan."]

def structureAdvice (context : ReadContext) (state : StateView) : Advice :=
  advise context state "review_team_structure" "Review the current team structure" "open manage teams"
    "open_manage_teams" "Shows the current team structure before you choose a staffing objective."
    "This only opens Manage Teams and does not change employees or finances."
    [stateEvidence state "teams" (toString state.teams.length),
      stateEvidence state "employees" (toString state.employees.length)]
    ["Current observations do not establish that another team or hire is needed."]

def incompleteCoverage (state : StateView) : NoAdvice where
  ruleId := "staffing_coverage_incomplete"
  explanation := "Insufficient data: complete teams and employees are required for a staffing recommendation."
  source := some (state.gameSessionId, state.saveIdentity, state.snapshotId)

def withheld (n : NoAdvice) : Except UIError (NoAdvice ⊕ Advice) := if n.valid then .ok (.inl n) else .error .model

def advised (a : Advice) : Except UIError (NoAdvice ⊕ Advice) := if a.valid then .ok (.inr a) else .error .model

def recommend (fold : String → String) (context : ReadContext) : Except UIError (NoAdvice ⊕ Advice) :=
  match context.state with
  | none => withheld {
      ruleId := "state_unavailable"
      explanation := "Insufficient data: a compatible current-save observation is required before " ++
        "recommending a gameplay objective."
      source := none }
  | some state =>
    if !state.paused then advised (pauseAdvice context state)
    else if !state.teamsComplete || !state.employeesComplete then withheld (incompleteCoverage state)
    else match context.snapshot.bind fun snapshot => shortTeam fold snapshot state.teams with
      | some (t, r) => advised (shortageAdvice context state t r)
      | none => match state.teams.find? (·.employeeCount = 0) with
        | some t => advised (emptyTeamAdvice context state t)
        | none => advised (structureAdvice context state)

end SimPilot.SoftwareInc.Guidance
