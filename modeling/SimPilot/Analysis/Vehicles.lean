import SimPilot.Analysis.Service
/-!
# The analyzer of the vehicles (analysis/analyzers/vehicles.py, analyzers/support.py)

`VehiclePerformanceAnalyzer` as an analyzer of the service, with the helpers all analyzers
share. It reads no maximum. An idle vehicle of the observed fleet is one of its findings,
but behind every finding on a loss of last year, so the listed ones may leave it out.

| here | there |
|---|---|
| `FindingDraft` | the keyword arguments of `make_finding` |
| `reported` | what one vehicle adds in the loop of `analyze` (vehicles.py:53-151) |
| `vehiclePerformance` | an instance of `VehiclePerformanceAnalyzer` |
-/

namespace SimPilot.Analysis

/-! ## Shared helpers -/

section
variable (py : PyFormat) (snapshot : WorldSnapshot)

def FindingSeverity.base : FindingSeverity → Nat
  | informational => 0
  | opportunity => 25
  | warning => 50
  | critical => 75

def EvidenceConfidence.points : EvidenceConfidence → Nat
  | low => 5
  | medium => 15
  | high => 25

def priorityScore (severity : FindingSeverity) (confidence : EvidenceConfidence) : Nat :=
  severity.base + confidence.points

structure FindingDraft where
  analysisType : AnalysisType
  code : String
  entityIds : List String
  kind : FindingKind
  severity : FindingSeverity
  title : String
  summary : String
  confidence : EvidenceConfidence
  evidence : List EvidenceReference
  metricName : Option String := none
  metricValue : JsonValue := .null
  comparisonValue : JsonValue := .null
  limitations : List String := []
  recommendationCode : Option String := none

/-- The recommendation `make_finding` builds of a draft under a code. -/
def FindingDraft.recommendation (draft : FindingDraft) (findingId code : String) : Except PyError AnalysisRecommendation :=
  construct AnalysisRecommendation.fieldError
    { recommendationId := stableRecommendationId py snapshot.metadata.snapshotId code [findingId]
      title := "Inspect " ++ py.lower draft.title, rationale := draft.summary
      priority := priorityScore draft.severity draft.confidence, affectedEntityIds := draft.entityIds
      supportingFindingIds := [findingId], limitations := draft.limitations }

/-- A finding and the recommendation that goes with it. -/
abbrev Reported := AnalysisFinding × Option AnalysisRecommendation

def makeFinding (draft : FindingDraft) : Except PyError Reported := do
  let findingId := stableFindingId py draft.analysisType snapshot.metadata.snapshotId draft.code draft.entityIds
  let recommendation ← draft.recommendationCode.mapM (draft.recommendation py snapshot findingId)
  let finding ← construct AnalysisFinding.fieldError
    { findingId, findingCode := draft.code, analysisType := draft.analysisType, kind := draft.kind
      severity := draft.severity, title := draft.title, summary := draft.summary, metricName := draft.metricName
      metricValue := draft.metricValue, comparisonValue := draft.comparisonValue, confidence := draft.confidence
      evidence := draft.evidence, limitations := draft.limitations
      recommendationIds := (recommendation.map (·.recommendationId)).toList }
  return (finding, recommendation)

/-- `requested_ids(request, subject)` -/
def requestedIds (request : AnalysisRequest) (subject : AnalysisSubjectType) : Option (List String) :=
  if request.subjectType = some subject ∧ request.subjectIds ≠ [] then some request.subjectIds else none

/-! ## The vehicles -/

/-- `_vehicle_field(snapshot, vehicle, field)` -/
def vehicleField (vehicle : Vehicle) (field : String) (value : JsonValue) : Except PyError EvidenceReference :=
  construct EvidenceReference.fieldError
    { sourceType := .snapshotField, snapshotId := snapshot.metadata.snapshotId, entityType := some .vehicle
      entityId := some vehicle.id, field, observedValue := value }

def selectedVehicles (request : AnalysisRequest) : Except PyError (List Vehicle) := do
  let company ← observerCompany snapshot
  let selected := snapshot.vehicles.filter fun vehicle =>
    vehicle.ownerId = company.id ∧
      ((requestedIds request .vehicle).all fun ids => vehicle.id ∈ ids) ∧
      ((requestedIds request .route).all fun ids => vehicle.routeId.any (· ∈ ids)) ∧
      matchesFilters request.filters vehicle
  return selected.insertionSort fun a b => a.id ≤ b.id

/-- A loss of last year, or one of this year. -/
def reportedLoss (vehicle : Vehicle) : Except PyError (List Reported) :=
  let name := vehicle.name
  if vehicle.profitLastYear < 0 then do
    let evidence ← vehicleField snapshot vehicle "profit_last_year" (.int vehicle.profitLastYear)
    let lost := grouped vehicle.profitLastYear.natAbs
    let reported ← makeFinding py snapshot
      { analysisType := .vehiclePerformance, code := "negative_last_year_profit", entityIds := [vehicle.id]
        kind := .observedFact, severity := .warning, title := s!"Unprofitable vehicle {name}"
        summary := s!"{name} lost £{lost} last year.", metricName := some "profit_last_year"
        metricValue := .int vehicle.profitLastYear, confidence := .high, evidence := [evidence]
        limitations := ["New, redirected, or subsidized vehicles can be false positives."]
        recommendationCode := some "inspect_unprofitable_vehicle" }
    return [reported]
  else if vehicle.profitThisYear < 0 then do
    let evidence ← vehicleField snapshot vehicle "profit_this_year" (.int vehicle.profitThisYear)
    let profit := vehicle.profitThisYear
    let reported ← makeFinding py snapshot
      { analysisType := .vehiclePerformance, code := "negative_current_profit", entityIds := [vehicle.id]
        kind := .observedFact, severity := .informational, title := s!"Current-year loss for {name}"
        summary := s!"Current-year profit is {profit}.", metricName := some "profit_this_year"
        metricValue := .int profit, confidence := .high, evidence := [evidence]
        limitations := ["The current accounting year may be incomplete."] }
    return [reported]
  else return []

def reportedAge (vehicle : Vehicle) : Except PyError (List Reported) :=
  let name := vehicle.name
  let age := vehicle.ageDays
  if 7305 ≤ age then do
    let evidence ← vehicleField snapshot vehicle "age_days" (.int age)
    let reported ← makeFinding py snapshot
      { analysisType := .vehiclePerformance, code := "old_vehicle", entityIds := [vehicle.id]
        kind := .inferredFinding, severity := .opportunity, title := s!"Older vehicle {name}"
        summary := s!"The vehicle is {age} days old.", metricName := some "age_days", metricValue := .int age
        confidence := .medium, evidence := [evidence]
        limitations := ["Some vehicle sets have no meaningful obsolescence."]
        recommendationCode := some "review_old_vehicle" }
    return [reported]
  else return []

def Vehicle.isIdle (vehicle : Vehicle) : Bool :=
  vehicle.inDepot || py.lower vehicle.runningState ∈ ["stopped", "idle"]

def reportedIdle (vehicle : Vehicle) : Except PyError (List Reported) :=
  let name := vehicle.name
  let state := vehicle.runningState
  if vehicle.isIdle py then do
    let severity := if vehicle.profitLastYear < 0 then FindingSeverity.warning else .informational
    let running ← vehicleField snapshot vehicle "running_state" (.str state)
    let depot ← vehicleField snapshot vehicle "in_depot" (.bool vehicle.inDepot)
    let inDepot := valueText (.bool vehicle.inDepot)
    let reported ← makeFinding py snapshot
      { analysisType := .vehiclePerformance, code := "idle_vehicle", entityIds := [vehicle.id], kind := .observedFact
        severity, title := s!"Idle or depot vehicle {name}"
        summary := s!"Observed state is {state}; in_depot={inDepot}.", metricName := some "running_state"
        metricValue := .str state, confidence := .high, evidence := [running, depot]
        recommendationCode := if severity = .warning then some "inspect_idle_loss" else none }
    return [reported]
  else return []

def reportedRoute (vehicle : Vehicle) : Except PyError (List Reported) :=
  let name := vehicle.name
  if vehicle.routeId.isNone then do
    let evidence ← vehicleField snapshot vehicle "route_id" .null
    let reported ← makeFinding py snapshot
      { analysisType := .vehiclePerformance, code := "route_unavailable", entityIds := [vehicle.id], kind := .dataQuality
        severity := .informational, title := s!"No usable route inference for {name}"
        summary := "The canonical snapshot does not associate this vehicle with a route.", confidence := .high
        evidence := [evidence] }
    return [reported]
  else return []

def reported (vehicle : Vehicle) : Except PyError (List Reported) := do
  return (← reportedLoss py snapshot vehicle) ++ (← reportedAge py snapshot vehicle) ++
    (← reportedIdle py snapshot vehicle) ++ (← reportedRoute py snapshot vehicle)

/-- The names of the metrics a ranking of vehicles has, with their values. -/
def rankedField : AnswerMetric → Option (String × (Vehicle → Int))
  | .profitThisYear => some ("profit_this_year", fun vehicle => vehicle.profitThisYear)
  | .profitLastYear => some ("profit_last_year", fun vehicle => vehicle.profitLastYear)
  | .ageDays => some ("age_days", fun vehicle => vehicle.ageDays)
  | _ => none

/-- The value of a finding under the metric that is ranked by. -/
def matchedValue (expected : Option String) (item : AnalysisFinding) : Option ℚ :=
  if item.metricName = expected then observedValue? item.metricValue else none

/-- The order of the keys of `_rank_findings`: what has the metric, by its value, then by the id. -/
def rankedAhead (expected : Option String) (direction : RankingDirection) (a b : AnalysisFinding) : Bool :=
  let key := fun item : AnalysisFinding =>
    match direction with
    | .ascending => (matchedValue expected item).getD 0
    | .descending => -(matchedValue expected item).getD 0
  ((matchedValue expected a).isSome && (matchedValue expected b).isNone) ||
    ((matchedValue expected a).isSome = (matchedValue expected b).isSome &&
      (key a < key b || (key a = key b && a.findingId ≤ b.findingId)))

/-- `_rank_findings(findings, request)` -/
def rankFindings (findings : List AnalysisFinding) (request : AnalysisRequest) : List AnalysisFinding :=
  let metric := (request.ranking.map (·.metric)).getD .profitLastYear
  let direction := (request.ranking.map (·.direction)).getD .ascending
  findings.insertionSort fun a b => rankedAhead ((rankedField metric).map Prod.fst) direction a b

/-- `_ranked_vehicle_result`: the state of a vehicle is a metric of the catalog, and none here. -/
def rankedVehicleResult (ranking : RankingRequest) (vehicles : List Vehicle) : Except PyError AnalyzerResult := do
  match rankedField ranking.metric with
  | none =>
    let name := ranking.metric.value
    throw (.other "KeyError" name)
  | some (field, value) =>
    let ranked := vehicles.insertionSort fun a b => rankedBefore ranking.direction value a b
    let results ← ((ranked.take ranking.limit).zipIdx 1).mapM fun item => do
      let vehicle := item.1
      let position := item.2
      let name := vehicle.name
      let number := value vehicle
      let label := spaced field
      let losing := field ≠ "age_days" ∧ number < 0
      let evidence ← vehicleField snapshot vehicle field (.int number)
      makeFinding py snapshot
        { analysisType := .vehiclePerformance, code := s!"ranked_{field}_{position}", entityIds := [vehicle.id]
          kind := .observedFact, severity := .informational, title := s!"#{position} {name} by {label}"
          summary := s!"{name} ranks #{position} with {field}={number}.", metricName := some ranking.metric.value
          metricValue := .int number, confidence := .high, evidence := [evidence]
          limitations :=
            if losing then ["A negative accounting result warrants inspection before any action."] else []
          recommendationCode := if losing then some "inspect_ranked_unprofitable_vehicle" else none }
    let population ← construct AnalysisPopulation.fieldError
      { eligibleCount := vehicles.length, evaluatedCount := vehicles.length, excludedCount := 0
        metric := some ranking.metric, direction := some ranking.direction }
    let count := vehicles.length
    let name := ranking.metric.value
    return { status := if vehicles = [] then .insufficientData else .completed
             answer := s!"Ranked {count} eligible vehicles by {name}."
             findings := results.map Prod.fst, recommendations := results.filterMap Prod.snd
             limitations := ["Vehicle classes are not normalized against each other unless filtered by type."]
             population := some population }

/-- The result without a ranking (vehicles.py:152-181). -/
def vehicleResult (request : AnalysisRequest) (vehicles : List Vehicle) : Except PyError AnalyzerResult := do
  let results ← vehicles.mapM (reported py snapshot)
  let findings := rankFindings (results.flatten.map Prod.fst) request
  let company ← observerCompany snapshot
  let cleanNoMatch := vehicles = [] ∧ request.filters ≠ [] ∧ snapshot.vehicles.any fun item => item.ownerId = company.id
  let population ← construct AnalysisPopulation.fieldError
    { eligibleCount := vehicles.length, evaluatedCount := vehicles.length, excludedCount := 0 }
  let count := vehicles.length
  let produced := findings.length
  return { status := if vehicles ≠ [] ∨ cleanNoMatch then .completed else .insufficientData
           answer :=
             if cleanNoMatch then "No observed vehicles matched the requested filters."
             else s!"Analyzed {count} vehicles and produced {produced} findings."
           findings, recommendations := results.flatten.filterMap Prod.snd
           limitations := ["Vehicle classes are not normalized against each other unless filtered by type."]
           population := some population }

/-- `VehiclePerformanceAnalyzer.analyze` -/
def analyzeVehicles (request : AnalysisRequest) : Except PyError AnalyzerResult := do
  let vehicles ← selectedVehicles snapshot request
  match request.ranking with
  | some ranking => rankedVehicleResult py snapshot ranking vehicles
  | none => vehicleResult py snapshot request vehicles

end

/-! ## What is made -/

section
variable {py : PyFormat} {snapshot : WorldSnapshot} {evidence : Except PyError EvidenceReference}
  {draft : EvidenceReference → FindingDraft} {items : List Reported}

/-- What is made of one piece of evidence. -/
theorem listed_made (h : (do return [← makeFinding py snapshot (draft (← evidence))]) = Except.ok items) :
    ∀ item ∈ items, ∃ e, evidence = .ok e ∧ makeFinding py snapshot (draft e) = .ok item := by
  obtain ⟨e, he, h⟩ := Except.bind_eq_ok.mp h
  obtain ⟨made, hmade, h⟩ := Except.bind_eq_ok.mp h
  cases h
  intro item hitem
  rw [List.mem_singleton.mp hitem]
  exact ⟨e, he, hmade⟩

/-- What is made of one piece of evidence where a condition holds. -/
theorem optional_made {c : Prop} [Decidable c]
    (h : (if c then (do return [← makeFinding py snapshot (draft (← evidence))]) else return []) = Except.ok items) :
    ∀ item ∈ items, ∃ e, evidence = .ok e ∧ makeFinding py snapshot (draft e) = .ok item := by
  by_cases hc : c
  · rw [if_pos hc] at h
    exact listed_made h
  · rw [if_neg hc] at h
    cases h
    simp

end

theorem analyzeVehicles_upTo (py : PyFormat) (request : AnalysisRequest) (snapshot : WorldSnapshot)
    (_ : Option WorldSnapshot) (m : Nat) :
    analyzeVehicles py snapshot (request.upTo m) = analyzeVehicles py snapshot request := rfl

def vehiclePerformance (py : PyFormat) : Analyzer :=
  .unbounded (fun request snapshot _ => analyzeVehicles py snapshot request) (analyzeVehicles_upTo py)

end SimPilot.Analysis
