import SimPilot.Runtime.Errors
/-!
# Contracts of the analysis (analysis/contracts.py)

The request of an analysis, the semantics of its answer, and what the validators of the
models ask. `model_copy` skips the validators of a model, so a request is a plain record;
only a construction (`construct`) asks them.

| here | there |
|---|---|
| `AnswerMetric` | `RankingMetric`, of which `AnswerMetric` is another name |
| `AnalysisRequest.construct` | `AnalysisRequest(...)` |
-/

namespace SimPilot.Analysis

/-! ## Enumerations -/

inductive AnalysisType where
  | companyHealth | financialSummary | vehiclePerformance | stationPerformance | routePerformance | serviceCoverage
  | industryOpportunities | townCoverage | fleetSummary | worldChanges | anomalyDetection | priorityReview | entitySummary
  deriving DecidableEq, Repr

def AnalysisType.value : AnalysisType → String
  | companyHealth => "company_health"
  | financialSummary => "financial_summary"
  | vehiclePerformance => "vehicle_performance"
  | stationPerformance => "station_performance"
  | routePerformance => "route_performance"
  | serviceCoverage => "service_coverage"
  | industryOpportunities => "industry_opportunities"
  | townCoverage => "town_coverage"
  | fleetSummary => "fleet_summary"
  | worldChanges => "world_changes"
  | anomalyDetection => "anomaly_detection"
  | priorityReview => "priority_review"
  | entitySummary => "entity_summary"

inductive AnalysisSubjectType where
  | world | company | town | industry | station | vehicle | route
  deriving DecidableEq, Repr

def AnalysisSubjectType.value : AnalysisSubjectType → String
  | world => "world"
  | company => "company"
  | town => "town"
  | industry => "industry"
  | station => "station"
  | vehicle => "vehicle"
  | route => "route"

inductive AnalysisFilterField where
  | entityId | ownerId | vehicleType | routeId | runningState | inDepot | profitThisYear | profitLastYear | ageDays
  | stationId | townId | industryId
  deriving DecidableEq, Repr

def AnalysisFilterField.value : AnalysisFilterField → String
  | entityId => "entity_id"
  | ownerId => "owner_id"
  | vehicleType => "vehicle_type"
  | routeId => "route_id"
  | runningState => "running_state"
  | inDepot => "in_depot"
  | profitThisYear => "profit_this_year"
  | profitLastYear => "profit_last_year"
  | ageDays => "age_days"
  | stationId => "station_id"
  | townId => "town_id"
  | industryId => "industry_id"

inductive AnalysisFilterOperator where
  | equal | notEqual | isIn | lessThan | lessThanOrEqual | greaterThan | greaterThanOrEqual
  deriving DecidableEq, Repr

inductive AnalysisScalar where
  | str (s : String)
  | int (i : Int)
  | bool (b : Bool)
  deriving DecidableEq, Repr

structure AnalysisFilter where
  field : AnalysisFilterField
  operator : AnalysisFilterOperator
  values : List AnalysisScalar
  size : 1 ≤ values.length ∧ values.length ≤ 50
  arity : operator ≠ .isIn → values.length = 1
  deriving DecidableEq, Repr

inductive RankingDirection where
  | ascending | descending
  deriving DecidableEq, Repr

inductive AnswerMetric where
  | cash | loan | companyValue | income | expenses | netOperatingResult | profitThisYear | profitLastYear | ageDays
  | runningState | waitingCargo | cargoPerVehicle | cargoTypeCoverage | vehicleCount | negativeProfitVehicleCount
  | vehicleTypeAggregateProfit | routeAggregateProfit | routeMedianProfit | routeNegativeVehicleCount | population
  | production | opportunityScore | priorityScore | materiality
  deriving DecidableEq, Repr

def AnswerMetric.value : AnswerMetric → String
  | cash => "cash"
  | loan => "loan"
  | companyValue => "company_value"
  | income => "income"
  | expenses => "expenses"
  | netOperatingResult => "net_operating_result"
  | profitThisYear => "profit_this_year"
  | profitLastYear => "profit_last_year"
  | ageDays => "age_days"
  | runningState => "running_state"
  | waitingCargo => "waiting_cargo"
  | cargoPerVehicle => "cargo_per_vehicle"
  | cargoTypeCoverage => "cargo_type_coverage"
  | vehicleCount => "vehicle_count"
  | negativeProfitVehicleCount => "negative_profit_vehicle_count"
  | vehicleTypeAggregateProfit => "vehicle_type_aggregate_profit"
  | routeAggregateProfit => "route_aggregate_profit"
  | routeMedianProfit => "route_median_profit"
  | routeNegativeVehicleCount => "route_negative_vehicle_count"
  | population => "population"
  | production => "production"
  | opportunityScore => "opportunity_score"
  | priorityScore => "priority_score"
  | materiality => "materiality"

theorem one_item : 1 ≤ 1 ∧ 1 ≤ 20 := by decide

structure RankingRequest where
  metric : AnswerMetric
  direction : RankingDirection
  limit : Nat := 1
  limit_ok : 1 ≤ limit ∧ limit ≤ 20 := by first | exact one_item | decide
  deriving DecidableEq, Repr

/-! ## The answer -/

inductive AnswerConcept where
  | health | loss | debt | availableCash | change | performance | idle | coverage | opportunity | priority | anomaly | entity
  deriving DecidableEq, Repr

inductive AnswerKind where
  | fact | ranking | explanation | entityFollowUp
  deriving DecidableEq, Repr

inductive QuestionForm where
  | status | existence | quantity | ranking | comparison | cause | recommendation | summary | evidence | drillDown
  | premiseCheck
  deriving DecidableEq, Repr

inductive AnswerPeriod where
  | observed | current | thisYear | currentYear | lastYear | currentSnapshot | previousSnapshot | betweenSnapshots
  deriving DecidableEq, Repr

inductive PremiseType where
  | companyLosing | routeLosing | stationCongested | performanceWorse
  deriving DecidableEq, Repr

inductive ConversationReferenceKind where
  | vehicle | route | station | finding | topOpportunity
  deriving DecidableEq, Repr

/-- `kind.value.replace("_", " ")` -/
def ConversationReferenceKind.label : ConversationReferenceKind → String
  | vehicle => "vehicle"
  | route => "route"
  | station => "station"
  | finding => "finding"
  | topOpportunity => "top opportunity"

inductive EvidenceRequirementKind where
  | currentSnapshot | comparisonSnapshot | compatibleIdentity | metricCurrent | metricBothSnapshots | eligiblePopulation
  | resolvedSubject | candidateContributors
  deriving DecidableEq, Repr

structure EvidenceRequirement where
  kind : EvidenceRequirementKind
  metric : Option AnswerMetric := none
  subjectType : Option AnalysisSubjectType := none
  deriving DecidableEq, Repr

structure AnswerIntent where
  concept : AnswerConcept
  kind : AnswerKind
  questionForms : List QuestionForm := []
  requestedMetric : Option AnswerMetric := none
  period : Option AnswerPeriod := none
  premise : Option PremiseType := none
  premiseAsserted : Bool := false
  comparisonRequired : Bool := false
  referenceKind : Option ConversationReferenceKind := none
  evidenceRequirements : List EvidenceRequirement := []
  deriving DecidableEq, Repr

/-- A bound that does not hold, or what `validate_semantics` raises. -/
def AnswerIntent.fieldError (intent : AnswerIntent) : Option String :=
  if 4 < intent.questionForms.length then some "question_forms"
  else if 10 < intent.evidenceRequirements.length then some "evidence_requirements"
  else if ¬ intent.questionForms.Nodup then some "question forms must be unique"
  else if intent.premise.isSome ∧ .premiseCheck ∉ intent.questionForms then
    some "a premise requires premise_check question form"
  else none

/-! ## The request -/

/-- `^analysis:[0-9a-f]{20}$` -/
def isAnalysisId (id : String) : Bool :=
  let hex := id.toList.drop 9
  id.toList.take 9 = "analysis:".toList && hex.length = 20 &&
    hex.all fun c => ('0' ≤ c && c ≤ '9') || ('a' ≤ c && c ≤ 'f')

structure ResolvedConversationReference where
  kind : ConversationReferenceKind
  phrase : String
  priorAnalysisId : String
  subjectType : Option AnalysisSubjectType := none
  entityId : Option String := none
  findingId : Option String := none
  deriving DecidableEq, Repr

def ResolvedConversationReference.fieldError (reference : ResolvedConversationReference) : Option String :=
  if reference.phrase.length = 0 ∨ 100 < reference.phrase.length then some "phrase"
  else if ¬ isAnalysisId reference.priorAnalysisId then some "prior_analysis_id"
  else if reference.entityId = some "" then some "entity_id"
  else if reference.findingId = some "" then some "finding_id"
  else if reference.entityId.isNone ∧ reference.findingId.isNone then
    some "a resolved conversational reference requires a target"
  else if reference.entityId.isSome ∧ reference.subjectType.isNone then some "an entity reference requires subject_type"
  else none

structure AnalysisRequest where
  analysisType : AnalysisType
  question : String
  subjectType : Option AnalysisSubjectType := none
  subjectIds : List String := []
  filters : List AnalysisFilter := []
  ranking : Option RankingRequest := none
  comparisonSnapshotId : Option String := none
  maximumFindings : Nat := 5
  includeRecommendations : Bool := true
  answerIntent : Option AnswerIntent := none
  resolvedReference : Option ResolvedConversationReference := none
  deriving DecidableEq, Repr

/-- A bound that does not hold, or what `validate_subject` raises. -/
def AnalysisRequest.fieldError (request : AnalysisRequest) : Option String :=
  if request.question.length = 0 ∨ 2000 < request.question.length then some "question"
  else if 100 < request.subjectIds.length then some "subject_ids"
  else if 20 < request.filters.length then some "filters"
  else if request.comparisonSnapshotId = some "" then some "comparison_snapshot_id"
  else if request.maximumFindings = 0 ∨ 20 < request.maximumFindings then some "maximum_findings"
  else if request.subjectIds ≠ [] ∧ request.subjectType.isNone then some "subject_ids require subject_type"
  else if request.analysisType = .entitySummary ∧ request.subjectIds = [] then some "entity_summary requires subject IDs"
  else if ¬ request.subjectIds.Nodup then some "subject_ids must be unique"
  else none

/-- A model's constructor: it runs the validators. -/
def construct {α : Type} (fieldError : α → Option String) (model : α) : Except PyError α :=
  match fieldError model with
  | some message => .error (.other "ValidationError" message)
  | none => .ok model

theorem construct_ok {α : Type} {fieldError : α → Option String} {model result : α}
    (h : construct fieldError model = .ok result) : result = model := by
  unfold construct at h
  split at h
  · cases h
  · cases h
    rfl

end SimPilot.Analysis
