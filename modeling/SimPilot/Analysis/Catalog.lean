import SimPilot.Analysis.Contracts
import Mathlib.Data.List.Sort
/-!
# The catalog of the analyses (analysis/catalog.py)

`required_coverage` and `comparison` of a capability are left out: the validation of a
request does not look at them.
-/

namespace SimPilot.Analysis

structure AnalysisCapability where
  analysisType : AnalysisType
  subjects : List AnalysisSubjectType
  filters : List AnalysisFilterField := []
  rankingMetrics : List AnswerMetric := []
  subjectRequired : Bool := false
  deriving DecidableEq, Repr

def worldCompany : List AnalysisSubjectType := [.world, .company]

def vehicleFilters : List AnalysisFilterField :=
  [.entityId, .ownerId, .vehicleType, .routeId, .runningState, .inDepot, .profitThisYear, .profitLastYear, .ageDays]

/-- `DEFAULT_ANALYSIS_CATALOG`, which has every analysis type. -/
def capabilityFor (analysisType : AnalysisType) : AnalysisCapability :=
  match analysisType with
  | .companyHealth => { analysisType, subjects := worldCompany, rankingMetrics := [.netOperatingResult] }
  | .financialSummary =>
    { analysisType, subjects := worldCompany
      rankingMetrics := [.cash, .loan, .companyValue, .income, .expenses, .netOperatingResult] }
  | .vehiclePerformance =>
    { analysisType, subjects := [.world, .company, .route, .vehicle], filters := vehicleFilters
      rankingMetrics := [.profitThisYear, .profitLastYear, .ageDays, .runningState] }
  | .stationPerformance =>
    { analysisType, subjects := [.world, .company, .station], filters := [.entityId, .ownerId, .stationId]
      rankingMetrics := [.waitingCargo, .vehicleCount, .cargoPerVehicle] }
  | .routePerformance =>
    { analysisType, subjects := [.world, .company, .route], filters := [.entityId, .ownerId, .routeId, .vehicleType]
      rankingMetrics := [.routeAggregateProfit, .routeMedianProfit, .vehicleCount, .routeNegativeVehicleCount] }
  | .serviceCoverage =>
    { analysisType, subjects := worldCompany, filters := [.townId, .industryId]
      rankingMetrics := [.population, .production, .opportunityScore, .cargoTypeCoverage] }
  | .industryOpportunities =>
    { analysisType, subjects := [.world, .industry], filters := [.entityId, .industryId]
      rankingMetrics := [.production, .opportunityScore] }
  | .townCoverage =>
    { analysisType, subjects := [.world, .town], filters := [.entityId, .townId]
      rankingMetrics := [.population, .opportunityScore] }
  | .fleetSummary =>
    { analysisType, subjects := worldCompany ++ [.vehicle], filters := vehicleFilters
      rankingMetrics := [.vehicleCount, .negativeProfitVehicleCount, .vehicleTypeAggregateProfit] }
  | .worldChanges =>
    { analysisType, subjects := [.world, .company, .vehicle, .station, .route, .industry, .town]
      rankingMetrics := [.materiality, .population, .profitLastYear] }
  | .anomalyDetection => { analysisType, subjects := worldCompany, rankingMetrics := [.materiality] }
  | .priorityReview =>
    { analysisType, subjects := [.world, .company, .vehicle, .station, .route, .industry, .town]
      rankingMetrics := [.priorityScore] }
  | .entitySummary =>
    { analysisType, subjects := [.company, .town, .industry, .station, .vehicle, .route], filters := [.entityId]
      subjectRequired := true }

def requestError (message : String) : PyError := .other "AnalysisRequestError" message

/-- The filters of a request its capability does not have, each once and by name. -/
def unsupportedFilters (request : AnalysisRequest) : List AnalysisFilterField :=
  let fields := ((request.filters.map (·.field)).dedup).filter (· ∉ (capabilityFor request.analysisType).filters)
  fields.insertionSort fun a b => a.value ≤ b.value

def validateAnalysisRequest (request : AnalysisRequest) : Except PyError AnalysisCapability := do
  let capability := capabilityFor request.analysisType
  let name := request.analysisType.value
  if capability.subjectRequired ∧ request.subjectType.isNone then
    throw (requestError s!"{name} requires an explicit subject")
  if let some subject := request.subjectType then
    if subject ∉ capability.subjects then
      let subject := subject.value
      throw (requestError s!"{subject} is not a supported subject for {name}")
  if unsupportedFilters request ≠ [] then
    let names := ", ".intercalate ((unsupportedFilters request).map (·.value))
    throw (requestError s!"unsupported filters for {name}: {names}")
  if let some ranking := request.ranking then
    if ranking.metric ∉ capability.rankingMetrics then
      let metric := ranking.metric.value
      throw (requestError s!"ranking metric {metric} is unsupported for {name}")
  if let some metric := request.answerIntent.bind (·.requestedMetric) then
    if metric ∉ capability.rankingMetrics then
      let metric := metric.value
      throw (requestError s!"answer metric {metric} is unsupported for {name}")
    if let some ranking := request.ranking then
      if metric ≠ ranking.metric then
        throw (requestError "answer intent metric does not match the requested ranking metric")
  return capability

end SimPilot.Analysis
