import SimPilot.Analysis.Catalog
import Mathlib.Data.List.Infix
/-!
# The deterministic compiler of questions (analysis/compiler.py)

A question is classified by the words in it. The compiler looks for them in the lower-cased
question (compiler.py:125), the gate behind a model provider in the case-folded one
(compiler.py:621). Both are functions of Python's `str` (`PyText`): nothing here depends on
how they treat a character.

| here | there |
|---|---|
| `PyText` | `str.lower`, `str.casefold`, the whitespace of `str.split` and `str.strip` |
| `mentions` | `term in question` |
| `resolveReference` | the resolution of a phrase in `compile` (compiler.py:151-180) |
| `vehicleType` | the search for a vehicle type in `compile` (compiler.py:192-208) |
-/

namespace SimPilot.Analysis

/-! ## Texts -/

structure PyText where
  lower : String → String
  casefold : String → String
  isSpace : Char → Bool

namespace PyText
variable (py : PyText)

/-- `s.split()` -/
def split (s : String) : List String :=
  ((s.toList.splitOnP py.isSpace).filter (· ≠ [])).map String.ofList

/-- `s.strip()` -/
def strip (s : String) : String :=
  String.ofList ((s.toList.dropWhile py.isSpace).reverse.dropWhile py.isSpace).reverse

/-- `" ".join(question.lower().split())` -/
def lowered (question : String) : String := " ".intercalate (py.split (py.lower question))

/-- `" ".join(question.casefold().split())` -/
def folded (question : String) : String := " ".intercalate (py.split (py.casefold question))

end PyText

/-- `s.rstrip("?")` -/
def rstripQuestionMark (s : String) : String := String.ofList (s.toList.reverse.dropWhile (· = '?')).reverse

def mentions (question term : String) : Bool := term.toList <:+: question.toList

/-- `any(term in question for term in terms)` -/
def mentionsAny (question : String) (terms : List String) : Bool := terms.any (mentions question)

/-! ## The context and the outcome -/

@[ext] structure AnalysisEntityContext where
  subjectType : AnalysisSubjectType
  canonicalId : String
  canonicalId_nonempty : canonicalId ≠ ""
  deriving Repr

instance : DecidableEq AnalysisEntityContext := fun _ _ => decidable_of_iff _ AnalysisEntityContext.ext_iff.symm

@[ext] structure AnalysisFindingContext where
  findingId : String
  entityIds : List String
  findingId_nonempty : findingId ≠ ""
  entityIds_size : entityIds.length ≤ 10
  deriving Repr

instance : DecidableEq AnalysisFindingContext := fun _ _ => decidable_of_iff _ AnalysisFindingContext.ext_iff.symm

structure AnalysisCompilerContext where
  comparisonSnapshotId : Option String := none
  priorAnalysisId : Option String := none
  focusEntities : List AnalysisEntityContext := []
  priorFindings : List AnalysisFindingContext := []
  comparison_nonempty : comparisonSnapshotId ≠ some "" := by decide
  prior_ok : ∀ id ∈ priorAnalysisId, isAnalysisId id = true := by decide
  focus_size : focusEntities.length ≤ 10 := by decide
  findings_size : priorFindings.length ≤ 5 := by decide
  deriving DecidableEq, Repr

/-- `AnalysisCompilation`: exactly one outcome. -/
inductive AnalysisCompilation where
  | request (request : AnalysisRequest)
  | clarification (text : String)
  | unsupported (reason : String)
  deriving DecidableEq, Repr

/-! ## Classification -/

/-- `rules`, the first that matches counts. -/
def typeRules : List (List String × AnalysisType) :=
  [(["changed", "what changed", "improving", "getting worse", "gained", "became unprofitable", "become unprofitable"],
      .worldChanges),
    (["unusual", "anomal"], .anomalyDetection),
    (["pay attention", "inspect first", "what next", "priority"], .priorityReview),
    (["station", "waiting cargo", "capacity"], .stationPerformance),
    (["route"], .routePerformance),
    (["industry"], .industryOpportunities),
    (["town"], .townCoverage),
    (["coverage", "cargo types are missing", "service opportunity"], .serviceCoverage),
    (["vehicle", "train", "truck", "bus", "ship", "aircraft", "plane"], .vehiclePerformance),
    (["fleet", "concentrated"], .fleetSummary),
    (["debt", "cash", "financial summary", "finances"], .financialSummary),
    (["losing money", "company health", "healthy is", "health"], .companyHealth)]

/-- `_analysis_type` -/
def analysisType (question : String) : Option AnalysisType :=
  if mentions question "vehicle type" ∧ mentionsAny question ["dragging", "loses", "loss", "least profitable"] then
    some .fleetSummary
  else (typeRules.find? fun rule => mentionsAny question rule.1).map (·.2)

/-- `_ranking` -/
def rankingOf (question : String) (type : AnalysisType) : Option RankingRequest :=
  match type with
  | .vehiclePerformance =>
    if mentionsAny question ["least", "losing", "lost", "worst", "underperform"] then
      some { metric := .profitLastYear, direction := .ascending }
    else if mentionsAny question ["best", "most profitable"] then
      some { metric := .profitLastYear, direction := .descending }
    else none
  | .stationPerformance =>
    if mentions question "most" then some { metric := .waitingCargo, direction := .descending } else none
  | .routePerformance =>
    if mentions question "losing vehicles" then
      some { metric := .routeNegativeVehicleCount, direction := .descending }
    else if mentionsAny question ["worst", "losing", "least", "bad"] then
      some { metric := .routeAggregateProfit, direction := .ascending }
    else if mentionsAny question ["best", "most money", "most profitable"] then
      some { metric := .routeAggregateProfit, direction := .descending }
    else none
  | .fleetSummary =>
    if mentions question "vehicle type" then some { metric := .vehicleTypeAggregateProfit, direction := .ascending }
    else none
  | .priorityReview => some { metric := .priorityScore, direction := .descending }
  | _ => none

def subjectRules (type : AnalysisType) : List (List String × AnalysisSubjectType) :=
  match type with
  | .worldChanges =>
    [(["vehicle", "train", "truck", "bus", "ship", "aircraft"], .vehicle), (["town"], .town), (["station"], .station),
      (["route"], .route), (["industry"], .industry), (["company"], .company)]
  | .priorityReview =>
    [(["station"], .station), (["vehicle", "train", "truck", "bus", "ship", "aircraft"], .vehicle), (["route"], .route),
      (["industry"], .industry), (["town"], .town)]
  | .fleetSummary => [(["vehicle type"], .vehicle)]
  | _ => []

/-- `_subject_scope` -/
def subjectScope (question : String) (type : AnalysisType) : Option AnalysisSubjectType :=
  ((subjectRules type).find? fun rule => mentionsAny question rule.1).map (·.2)

/-- `_conversation_reference` -/
def conversationReference (question : String) : Option (ConversationReferenceKind × String) :=
  (([("that vehicle", .vehicle), ("this vehicle", .vehicle), ("that route", .route), ("this route", .route),
    ("that station", .station), ("this station", .station), ("that finding", .finding), ("this finding", .finding),
    ("the top opportunity", .topOpportunity)] : List (String × ConversationReferenceKind)).find? fun rule =>
      mentions question rule.1).map fun rule => (rule.2, rule.1)

/-- `_reference_subject` -/
def referenceSubject : ConversationReferenceKind → Option AnalysisSubjectType
  | .vehicle => some .vehicle
  | .route => some .route
  | .station => some .station
  | _ => none

/-- `_reference_clarification` -/
def referenceClarification (kind : ConversationReferenceKind) : String :=
  let label := kind.label
  s!"Which {label} do you mean? Name one or continue from one displayed result."

def vehicleTypes : List (String × String) :=
  [("train", "rail"), ("rail", "rail"), ("road", "road"), ("truck", "road"), ("bus", "road"), ("ship", "water"),
    ("aircraft", "air"), ("plane", "air")]

def vehicleType (question : String) : Option String :=
  (vehicleTypes.find? fun (word, _) => mentions question word).map (·.2)

/-! ## The intent of the answer -/

/-- `_period` -/
def periodOf : Option AnswerMetric → Option AnswerPeriod
  | some .profitThisYear => some .thisYear
  | some .profitLastYear | some .vehicleTypeAggregateProfit | some .routeAggregateProfit | some .routeMedianProfit
  | some .routeNegativeVehicleCount => some .lastYear
  | some _ => some .currentSnapshot
  | none => none

/-- `_evidence_requirements` -/
def evidenceRequirements (forms : List QuestionForm) (metric : Option AnswerMetric)
    (subjectType : Option AnalysisSubjectType) : List EvidenceRequirement :=
  [{ kind := .currentSnapshot }] ++
    (if .comparison ∈ forms then
      [{ kind := .comparisonSnapshot }, { kind := .compatibleIdentity }] ++
        if metric.isSome then [{ kind := .metricBothSnapshots, metric, subjectType }] else []
    else if metric.isSome then [{ kind := .metricCurrent, metric, subjectType }] else []) ++
    (if .ranking ∈ forms then [{ kind := .eligiblePopulation, metric, subjectType }] else []) ++
    (if .cause ∈ forms then [{ kind := .candidateContributors, metric, subjectType }] else []) ++
    if .drillDown ∈ forms then [{ kind := .resolvedSubject, subjectType }] else []

/-- The concept of the types that have none of their own (compiler.py:574-581). -/
def conceptOf : AnalysisType → AnswerConcept
  | .stationPerformance | .priorityReview => .priority
  | .serviceCoverage | .townCoverage => .coverage
  | .industryOpportunities => .opportunity
  | .entitySummary => .entity
  | _ => .performance

section Intent
variable (question : String)

def comparisonRequired : Bool :=
  mentionsAny question ["changed", "change", "since", "before", "improving", "worse", "unusual"]

def companyHealthIntent : AnswerIntent :=
  if mentions question "losing money" ∨ mentions question "loss" then
    { concept := .loss, kind := .explanation, questionForms := [.premiseCheck, .cause]
      requestedMetric := some .netOperatingResult, period := some .current, premise := some .companyLosing
      premiseAsserted := true
      evidenceRequirements := evidenceRequirements [.premiseCheck, .cause] (some .netOperatingResult) (some .company) }
  else
    { concept := .health, kind := .fact, questionForms := [.status, .summary], requestedMetric := some .netOperatingResult
      period := some .current
      evidenceRequirements := evidenceRequirements [.status, .summary] (some .netOperatingResult) (some .company) }

/-- A question about debt or cash. -/
def financialIntent : Option AnswerIntent :=
  if mentions question "debt" ∨ mentions question "loan" then
    some { concept := .debt, kind := .fact
           questionForms := if mentions question "how much" then [.quantity] else [.status]
           requestedMetric := some .loan, period := some .current, premiseAsserted := mentions question "too much"
           evidenceRequirements := evidenceRequirements [.status] (some .loan) (some .company) }
  else if mentions question "cash" then
    some { concept := .availableCash, kind := .fact, questionForms := [.quantity], requestedMetric := some .cash
           period := some .current
           evidenceRequirements := evidenceRequirements [.quantity] (some .cash) (some .company) }
  else none

def changesIntent (type : AnalysisType) (subjectType : Option AnalysisSubjectType) : AnswerIntent :=
  let metric : Option AnswerMetric :=
    if mentions question "population" ∨ mentions question "town" then some .population
    else if mentions question "profit" ∨ mentions question "unprofitable" then some .profitLastYear
    else none
  { concept := if type = .anomalyDetection then .anomaly else .change
    kind := .ranking, questionForms := [.comparison], requestedMetric := metric
    period := some .betweenSnapshots, comparisonRequired := true
    evidenceRequirements := evidenceRequirements [.comparison] metric (some (subjectType.getD .world)) }

def vehicleIntent (ranking : Option RankingRequest) (subjectType : Option AnalysisSubjectType) : AnswerIntent :=
  if mentions question "flag" ∧ mentionsAny question ["this vehicle", "that vehicle"] then
    { concept := .entity, kind := .entityFollowUp, questionForms := [.drillDown, .evidence]
      period := some .currentSnapshot, referenceKind := some .vehicle
      evidenceRequirements := evidenceRequirements [.drillDown, .evidence] none (some .vehicle) }
  else if mentions question "idle" ∨ mentions question "sitting" then
    { concept := .idle, kind := .fact, questionForms := [.existence], requestedMetric := some .runningState
      period := some .currentSnapshot
      evidenceRequirements := evidenceRequirements [.existence] (some .runningState) (some .vehicle) }
  else
    let metric := ranking.map (·.metric)
    let forms : List QuestionForm := if ranking.isSome then [.ranking] else [.summary]
    { concept := .performance, kind := if ranking.isSome then .ranking else .fact, questionForms := forms
      requestedMetric := metric, period := periodOf metric, comparisonRequired := comparisonRequired question
      evidenceRequirements := evidenceRequirements forms metric (some (subjectType.getD .vehicle)) }

def routeIntent (ranking : Option RankingRequest) : AnswerIntent :=
  let metric := ranking.map (·.metric)
  let reference : Option ConversationReferenceKind :=
    if mentionsAny question ["this route", "that route"] then some .route else none
  let premise : Option PremiseType := if mentions question "losing money" then some .routeLosing else none
  let forms : List QuestionForm :=
    if premise.isSome then [.premiseCheck, .cause, .drillDown]
    else if mentions question "contribute" ∧ reference.isSome then [.drillDown, .evidence]
    else [.ranking]
  { concept := .performance, kind := if mentions question "this route" then .entityFollowUp else .ranking
    questionForms := forms, requestedMetric := metric, period := some .lastYear, premise
    premiseAsserted := premise.isSome, comparisonRequired := comparisonRequired question, referenceKind := reference
    evidenceRequirements := evidenceRequirements forms (some (metric.getD .routeAggregateProfit)) (some .route) }

def vehicleTypeIntent : AnswerIntent where
  concept := .performance
  kind := .ranking
  questionForms := [.ranking]
  requestedMetric := some .vehicleTypeAggregateProfit
  period := some .lastYear
  evidenceRequirements := evidenceRequirements [.ranking] (some .vehicleTypeAggregateProfit) (some .vehicle)

/-- The other questions (compiler.py:574-614). -/
def generalIntent (type : AnalysisType) (ranking : Option RankingRequest) (subjectType : Option AnalysisSubjectType) :
    AnswerIntent :=
  let metric := if type = .serviceCoverage ∧ mentions question "cargo type" then some .cargoTypeCoverage
    else ranking.map (·.metric)
  let stationReference := type = .stationPerformance ∧ mentionsAny question ["this station", "that station"]
  let forms : List QuestionForm :=
    if stationReference ∧ mentionsAny question ["why", "what makes"] then [.drillDown, .evidence, .cause]
    else if type = .priorityReview then [.recommendation, .ranking]
    else if ranking.isSome then [.ranking] else [.summary]
  { concept := conceptOf type
    kind := if stationReference then .entityFollowUp else if ranking.isSome then .ranking else .fact
    questionForms := forms, requestedMetric := metric, period := periodOf metric
    comparisonRequired := comparisonRequired question
    referenceKind := if stationReference then some .station else none
    evidenceRequirements := evidenceRequirements forms metric subjectType }

/-- `answer_intent_for_question` -/
def answerIntentForQuestion (type : AnalysisType) (ranking : Option RankingRequest)
    (subjectType : Option AnalysisSubjectType) : AnswerIntent :=
  match type with
  | .companyHealth => companyHealthIntent question
  | .financialSummary => (financialIntent question).getD (generalIntent question type ranking subjectType)
  | .worldChanges | .anomalyDetection => changesIntent question type subjectType
  | .vehiclePerformance => vehicleIntent question ranking subjectType
  | .routePerformance => routeIntent question ranking
  | .fleetSummary =>
    if mentions question "vehicle type" then vehicleTypeIntent else generalIntent question type ranking subjectType
  | _ => generalIntent question type ranking subjectType

end Intent

/-! ## Compilation -/

/-- What a phrase of the question was resolved to. -/
structure Resolution where
  kind : ConversationReferenceKind
  phrase : String
  entity : AnalysisEntityContext
  finding : Option AnalysisFindingContext

/-- The entity a phrase stands for, or what has to be asked first. -/
def resolveReference (context : Option AnalysisCompilerContext) (question : String) :
    Except String (Option Resolution) :=
  match conversationReference question with
  | none => .ok none
  | some (kind, phrase) =>
    match context with
    | none => .error (referenceClarification kind)
    | some context =>
      if kind = .finding then
        match context.priorFindings with
        | [finding] =>
          match context.focusEntities.filter (·.canonicalId ∈ finding.entityIds) with
          | [entity] => .ok (some ⟨kind, phrase, entity, some finding⟩)
          | _ => .error (referenceClarification kind)
        | _ => .error "Which displayed finding do you mean?"
      else
        match context.focusEntities.filter fun item => (referenceSubject kind).all (item.subjectType = ·) with
        | [entity] => .ok (some ⟨kind, phrase, entity, none⟩)
        | _ => .error (referenceClarification kind)

def Resolution.reference (resolution : Resolution) (priorAnalysisId : String) : ResolvedConversationReference where
  kind := resolution.kind
  phrase := resolution.phrase
  priorAnalysisId := priorAnalysisId
  subjectType := some resolution.entity.subjectType
  entityId := some resolution.entity.canonicalId
  findingId := resolution.finding.map (·.findingId)

/-- `resolved_reference`, which only a question with a prior analysis gets. -/
def compileReference (resolution : Option Resolution) (priorAnalysisId : Option String) :
    Except PyError (Option ResolvedConversationReference) :=
  match resolution, priorAnalysisId with
  | some resolution, some priorAnalysisId =>
    (construct ResolvedConversationReference.fieldError (resolution.reference priorAnalysisId)).map some
  | _, _ => .ok none

/-- The type of an analysis, where a question without one is about the entity it refers to. -/
def compiledType (question : String) (resolution : Option Resolution) : Option AnalysisType :=
  match analysisType question with
  | some type => some type
  | none => if resolution.isSome then some .entitySummary else none

def compiledSubject (question : String) (type : AnalysisType) (resolution : Option Resolution) :
    Option AnalysisSubjectType :=
  match resolution with
  | some resolution => some resolution.entity.subjectType
  | none => subjectScope question type

def vehicleTypeFilter (vehicleType : String) : AnalysisFilter where
  field := .vehicleType
  operator := .equal
  values := [.str vehicleType]
  size := ⟨le_refl 1, by simp⟩
  arity _ := rfl

section Compile
variable (py : PyText) (question : String) (context : Option AnalysisCompilerContext)

/-- The request of a question with a type and a resolution (compiler.py:191-244). -/
def compileRequest (type : AnalysisType) (resolution : Option Resolution) : Except PyError AnalysisRequest := do
  let normalized := py.lowered question
  let filters := match vehicleType normalized with
    | some vehicleType => if type = .vehiclePerformance then [vehicleTypeFilter vehicleType] else []
    | none => []
  let ranking := rankingOf normalized type
  let subjectType := compiledSubject normalized type resolution
  let resolvedReference ← compileReference resolution (context.bind (·.priorAnalysisId))
  let answerIntent ← construct AnswerIntent.fieldError (answerIntentForQuestion normalized type ranking subjectType)
  let request ← construct AnalysisRequest.fieldError {
    analysisType := type, question := py.strip question, subjectType
    subjectIds := (resolution.map (·.entity.canonicalId)).toList
    filters, ranking, comparisonSnapshotId := context.bind (·.comparisonSnapshotId)
    answerIntent := some answerIntent, resolvedReference }
  let _ ← validateAnalysisRequest request
  return request

/-- `DeterministicAnalysisCompiler.compile` -/
def compile : Except PyError AnalysisCompilation := do
  let normalized := py.lowered question
  if normalized = "" then throw (.valueError "question must not be empty")
  if mentionsAny normalized ["ten years", "will be profitable", "future profit"] then
    return .unsupported "Future profit prediction requires a forecasting model and additional evidence."
  if mentions normalized "crash" ∧ mentions normalized "why" then
    return .unsupported "Crash causality is not present in the canonical world snapshot."
  if mentionsAny normalized ["fix ", "build ", "buy ", "change orders"] then
    return .unsupported "Phase 8B analysis is read-only and cannot perform gameplay actions."
  if mentions normalized "which route is bad" ∨ normalized = "which route is weak?" then
    return .clarification "Name a route or ask for a ranked review of all observed routes."
  if rstripQuestionMark normalized ∈ ["what should i do", "is this okay"] then
    return .clarification "Ask about company health, vehicles, stations, routes, coverage, or changes."
  match resolveReference context normalized with
  | .error text => return .clarification text
  | .ok resolution =>
    match compiledType normalized resolution with
    | none => return .unsupported "The question does not map to the supported deterministic analysis catalog."
    | some type => return .request (← compileRequest py question context type resolution)

end Compile

end SimPilot.Analysis
