import SimPilot.Analysis.Interaction
/-!
# The answer of an analysis (analysis/interaction.py:60-263)

`compose_interaction` and the texts it answers with. Beside the model, what a composed
answer is of the findings it was composed from (`composeInteraction_ok`).

| here | there |
|---|---|
| `Interaction` | the three values `compose_interaction` returns |
| `noChange`, `blocked`, `noneIdle`, `metricMissing`, `unanswered`, `decided` | its returns, in their order |
| `Verdict` | which of them is taken |
-/

namespace SimPilot.Analysis

section
variable (py : PyFormat)

/-! ## The direct answer -/

/-- `_primary_label(finding, snapshot)` -/
def primaryLabel (finding : AnalysisFinding) (snapshot : WorldSnapshot) : Except PyError String :=
  finding.evidence.foldr
    (fun evidence rest =>
      match evidence.entityType, evidence.entityId with
      | some kind, some id => do
        match ← displayLabel py snapshot kind id with
        | some label => pure label
        | none => rest
      | _, _ => rest)
    (pure (withoutRank finding.title))

def lossAnswer (value : JsonValue) : String :=
  let text := currency value
  if (observedValue? value).any fun v => 0 ≤ v then
    "You are not losing money at company level in the observed accounting period; " ++
      s!"income plus expenses is {text}."
  else
    "The company is losing money at company level in the observed accounting period; " ++
      s!"income plus expenses is {text}."

def healthAnswer (value : JsonValue) : String :=
  let direction := if (observedValue? value).any fun v => 0 ≤ v then "positive" else "negative"
  let text := currency value
  s!"The observed company-level operating result is {direction} at {text}; " ++
    "this is a financial health signal, not a complete company-health verdict."

def debtAnswer (value : JsonValue) (snapshot : WorldSnapshot) : String :=
  if observedValue? value = some 0 then "There is no observed outstanding company loan." else
  let text := currency value
  let company := snapshot.companies.find? fun item => some item.id = snapshot.metadata.observerCompanyId
  match company.bind (·.companyValue) with
  | none | some 0 => s!"Your outstanding loan is {text}."
  | some companyValue =>
    let share := percentage ((observedValue? value).getD 0 / companyValue)
    s!"Your outstanding loan is {text}, equal to {share} of observed company value."

def changeAnswer (request : AnalysisRequest) (finding : AnalysisFinding) : String :=
  let summary := finding.summary
  if mentionsAny (py.lower request.question) ["improving", "getting worse"] then
    "I cannot determine the company's overall direction from this interval; " ++
      s!"the most material observed change is: {summary}"
  else s!"The most material evaluated change is: {summary}"

def currencyMetrics : List String :=
  ["cash", "loan", "profit_last_year", "aggregate_profit_last_year", AnswerMetric.routeAggregateProfit.value]

def anomalyAnswer (finding : AnalysisFinding) (label : String) : String :=
  let metric := spaced (orElse (finding.metricName.getD "") "observed value")
  let text := fun value : JsonValue =>
    if finding.metricName.any (· ∈ currencyMetrics) ∧ (observedValue? value).isSome then currency value
    else valueText value
  let before := text finding.comparisonValue
  let after := text finding.metricValue
  let direction :=
    match observedValue? finding.comparisonValue, observedValue? finding.metricValue with
    | some b, some a => if a < b then "fell from" else "rose from"
    | _, _ => "rose from"
  s!"Yes. {label}'s {metric} {direction} {before} to {after}, meeting the bounded anomaly threshold."

def profitMetrics : List String :=
  [AnswerMetric.profitLastYear.value, AnswerMetric.profitThisYear.value, AnswerMetric.routeAggregateProfit.value,
    AnswerMetric.vehicleTypeAggregateProfit.value]

/-- The answer to a ranking, under the label of what ranks first. -/
def rankedAnswer (ranking : RankingRequest) (finding : AnalysisFinding) (label : String) : String :=
  let value := finding.metricValue
  let text := valueText value
  let price := currency value
  match finding.metricName with
  | none => s!"{label} ranks first by requested metric: {text}."
  | some metric =>
    if metric ∈ profitMetrics then
      match ranking.direction, observedValue? value with
      | .ascending, some v =>
        if v < 0 then
          let loss := pounds |v|
          s!"{label} ranks lowest, losing {loss} last year."
        else s!"{label} ranks lowest at {price} for the requested period."
      | _, _ => s!"{label} ranks first at {price} for the requested period."
    else if metric = AnswerMetric.routeNegativeVehicleCount.value then
      s!"{label} has the most losing vehicles: {text}."
    else if metric = AnswerMetric.waitingCargo.value then s!"{label} has the most waiting cargo: {text} units."
    else if metric = AnswerMetric.priorityScore.value then
      s!"{label} should be inspected first based on the observed priority evidence."
    else
      let metric := spaced (orElse metric "requested metric")
      s!"{label} ranks first by {metric}: {text}."

/-- The answer where a vehicle type ranks lowest and no type lost money. -/
def noTypeLost (request : AnalysisRequest) (finding : AnalysisFinding) (label : String) : Option String :=
  if (observedValue? finding.metricValue).any (fun v => 0 ≤ v) ∧
      mentionsAny (py.lower request.question) ["dragging", "losing", "loss"] then
    let lowered := py.lower label
    let price := currency finding.metricValue
    some (s!"No vehicle type lost money overall; {lowered} had the lowest " ++
      s!"aggregate last-year profit at {price}.")
  else none

def rankingAnswer (request : AnalysisRequest) (ranking : RankingRequest) (finding : AnalysisFinding)
    (snapshot : WorldSnapshot) : Except PyError String := do
  let label ← primaryLabel py finding snapshot
  if finding.metricName = some AnswerMetric.vehicleTypeAggregateProfit.value then
    let label := py.title ((metricInput finding "vehicle_type").getD "unknown") ++ " vehicles"
    return (noTypeLost py request finding label).getD (rankedAnswer ranking finding label)
  else return rankedAnswer ranking finding label

def stationAnswer (finding : AnalysisFinding) (snapshot : WorldSnapshot) : Except PyError String := do
  let label ← primaryLabel py finding snapshot
  if finding.summary = "" then throw (.other "IndexError" "string index out of range")
  let detail := lowerFirst py.toPyText finding.summary
  return s!"{label} is worth inspecting because {detail}"

def routeAnswer (finding : AnalysisFinding) (value : ℚ) (snapshot : WorldSnapshot) : Except PyError String := do
  let label ← primaryLabel py finding snapshot
  if 0 ≤ value then
    let price := currency finding.metricValue
    return s!"{label} is not losing money; it earned {price} last year."
  else
    let loss := pounds |value|
    return s!"{label} lost {loss} last year."

/-- The answers that hang on the concept of the question alone. -/
def conceptAnswer (request : AnalysisRequest) (finding : AnalysisFinding) (snapshot : WorldSnapshot) :
    Option (Except PyError String) :=
  let value := finding.metricValue
  let price := currency value
  match intentConcept request with
  | some .loss => if finding.metricName = some "net_operating_result" then some (.ok (lossAnswer value)) else none
  | some .health => if finding.metricName = some "net_operating_result" then some (.ok (healthAnswer value)) else none
  | some .debt => if finding.metricName = some "loan" then some (.ok (debtAnswer value snapshot)) else none
  | some .availableCash =>
    if finding.metricName = some "cash" then
      some (.ok s!"The observed company cash balance available in this snapshot is {price}.")
    else none
  | some .change => some (.ok (changeAnswer py request finding))
  | some .idle => some do
    let label ← primaryLabel py finding snapshot
    return s!"At least one idle vehicle was detected: {label}."
  | some .anomaly => some do return anomalyAnswer finding (← primaryLabel py finding snapshot)
  | _ => none

def directAnswer (request : AnalysisRequest) (finding : AnalysisFinding) (snapshot : WorldSnapshot) :
    Except PyError String :=
  match conceptAnswer py request finding snapshot with
  | some answer => answer
  | none =>
    if request.answerIntent.any (·.referenceKind = some .station) ∧ request.subjectIds ≠ [] then
      stationAnswer py finding snapshot
    else
      let losing := request.answerIntent.any (·.premise = some .routeLosing) ∧
        finding.metricName = some AnswerMetric.routeAggregateProfit.value
      match (if losing then observedValue? finding.metricValue else none), request.ranking with
      | some value, _ => routeAnswer py finding value snapshot
      | none, some ranking => rankingAnswer py request ranking finding snapshot
      | none, none => .ok finding.summary

/-! ## What goes with it -/

/-- `_supported_recommendation`: the first of the most urgent. -/
def supportedRecommendation (finding : AnalysisFinding) (recommendations : List AnalysisRecommendation) :
    Option AnalysisRecommendation :=
  let supported := recommendations.filter fun item =>
    finding.findingId ∈ item.supportingFindingIds ∧ item.recommendationId ∈ finding.recommendationIds
  match supported with
  | [] => none
  | first :: rest => some (rest.foldl
      (fun best item =>
        if item.priority < best.priority ∨
            item.priority = best.priority ∧ item.recommendationId < best.recommendationId then item
        else best)
      first)

def materialLimitation (request : AnalysisRequest) (finding : AnalysisFinding) (limitations : List String) :
    Option String :=
  if intentConcept request = some .availableCash then
    some "The snapshot does not expose committed future costs or infrastructure liabilities."
  else if intentConcept request = some .debt then
    some "The snapshot does not expose loan terms or repayment burden."
  else if finding.metricName = some AnswerMetric.vehicleTypeAggregateProfit.value then
    some "Aggregate profit does not account for fleet size or capital cost."
  else if routeMetrics.contains finding.metricName then
    some "Routes are inferred from normalized orders; order changes can change route identity."
  else (finding.limitations ++ limitations).head?

def followUp (request : AnalysisRequest) : Option String :=
  if intentConcept request = some .loss then some "Inspect the vehicle with the largest observed loss last year."
  else if intentConcept request = some .change then some "Inspect the evidence for this change before acting on it."
  else if request.ranking.isSome then some "Review the displayed entity and its supporting evidence."
  else none

def defaultSubject : AnalysisType → Option AnalysisSubjectType
  | .vehiclePerformance => some .vehicle
  | .stationPerformance => some .station
  | .routePerformance => some .route
  | .townCoverage => some .town
  | .industryOpportunities => some .industry
  | _ => none

/-- `_selected_count` -/
def selectedCount (ids subjectIds : List String) : Nat :=
  if subjectIds = [] then ids.length else (ids.filter (· ∈ subjectIds)).length

/-- `_ranking_counts`: the evaluated and the excluded. -/
def rankingCounts (request : AnalysisRequest) (snapshot : WorldSnapshot) (population : Option AnalysisPopulation) :
    Option Nat × Option Nat :=
  match population with
  | some population => (some population.evaluatedCount, some population.excludedCount)
  | none =>
    if request.ranking.isNone then (none, none) else
    let counted := fun ids : List String => (some (selectedCount ids request.subjectIds), some 0)
    match request.subjectType.or (defaultSubject request.analysisType) with
    | some .vehicle =>
      let selected := rankedPopulation request snapshot
      let missing := (selected.filter fun item => (vehicleMetric item (requiredMetric request)).isNone).length
      (some (selected.length - missing), some missing)
    | some .company => counted (snapshot.companies.map (·.id))
    | some .station => counted (snapshot.stations.map (·.id))
    | some .route => counted (snapshot.routes.map (·.id))
    | some .town => counted (snapshot.towns.map (·.id))
    | some .industry => counted (snapshot.industries.map (·.id))
    | _ => (some 0, some 0)

/-- `_owned_vehicle_count` -/
def ownedVehicleCount (snapshot : WorldSnapshot) : Nat :=
  (snapshot.vehicles.filter fun item => some item.ownerId = snapshot.metadata.observerCompanyId).length

/-! ## The composition -/

structure Interaction where
  status : AnalysisStatus
  answer : String
  presentation : AnalysisPresentation
  deriving DecidableEq, Repr

/-- A status, the direct answer of a presentation and the presentation. -/
def present (status : AnalysisStatus) (guidance : Except PyError InspectionGuidance)
    (presentation : InspectionGuidance → AnalysisPresentation) : Except PyError Interaction := do
  let presentation ← construct AnalysisPresentation.fieldError (presentation (← guidance))
  return { status, answer := presentation.directAnswer, presentation }

variable (request : AnalysisRequest) (snapshot : WorldSnapshot)

def noChangeText : String := "No observed change met the bounded anomaly thresholds."

def noChange : Except PyError Interaction :=
  present .completed
    (inspectionGuidance py request none snapshot .completed "no bounded anomaly identified a specific target")
    fun inspectionGuidance =>
      { directAnswer := noChangeText, basis := .confirmedFact, inspectionGuidance
        limitation := some "These are fixed change alerts, not statistical anomalies or learned baselines."
        evaluatedCount := some 0, excludedCount := some 0 }

def blockedText (problem : String) : String := "I cannot answer the comparison because " ++ problem

def blocked (problem : String) : Except PyError Interaction :=
  present .insufficientData
    (inspectionGuidance py request none snapshot .insufficientData
      "a compatible prior snapshot with evaluated change evidence is missing")
    fun inspectionGuidance =>
      { directAnswer := blockedText problem, basis := .insufficientData, inspectionGuidance
        limitation := some "A compatible snapshot pair is not evidence that a change was evaluated."
        followUp := some "Supply a compatible prior snapshot with --comparison PATH."
        evaluatedCount := some 0, excludedCount := some 0 }

def noneIdleText : String := "No idle vehicles were detected in the observed company fleet."

def noneIdle (status : AnalysisStatus) : Except PyError Interaction :=
  present status
    (inspectionGuidance py request none snapshot status "no idle vehicle was identified as a specific target")
    fun inspectionGuidance =>
      { directAnswer := noneIdleText, basis := .confirmedFact, inspectionGuidance
        limitation := some
          "Idle means a vehicle was observed in a depot or with running state idle or stopped."
        evaluatedCount := some (ownedVehicleCount snapshot), excludedCount := some 0 }

def metricMissingText (metric : String) : String :=
  if metric = AnswerMetric.cargoTypeCoverage.value then
    "I cannot identify missing cargo types because observed network cargo coverage is unavailable."
  else
    "I cannot answer this question because no evaluated finding contains the requested " ++ spaced metric ++ " metric."

def metricMissing (metric : String) (population : Option AnalysisPopulation) : Except PyError Interaction :=
  let counts := rankingCounts request snapshot population
  let reason :=
    if metric = AnswerMetric.cargoTypeCoverage.value then "route cargo coverage is unavailable"
    else "the requested " ++ spaced metric ++ " evidence is missing"
  present .insufficientData (inspectionGuidance py request none snapshot .insufficientData reason)
    fun inspectionGuidance =>
      { directAnswer := metricMissingText metric, basis := .insufficientData, inspectionGuidance
        limitation := some "A nearby metric was not substituted for the requested metric."
        followUp := some "Collect the missing evidence or choose a supported observed metric."
        evaluatedCount := counts.1, excludedCount := counts.2 }

def unansweredText (status : AnalysisStatus) (fallbackAnswer : String) : String :=
  if status = .insufficientData then
    "Insufficient data: the snapshot did not contain enough supported evidence to answer this question."
  else fallbackAnswer

def unansweredBasis (status : AnalysisStatus) : AnswerBasis :=
  if status = .insufficientData then .insufficientData else .finding

def unanswered (status : AnalysisStatus) (limitations : List String) (fallbackAnswer : String) :
    Except PyError Interaction :=
  present status (inspectionGuidance py request none snapshot status none) fun inspectionGuidance =>
    { directAnswer := unansweredText status fallbackAnswer, basis := unansweredBasis status, inspectionGuidance
      limitation := limitations.head? }

def decidedBasis (decisive : AnalysisFinding) : AnswerBasis :=
  if decisive.kind = .observedFact then .confirmedFact else .inference

def decided (status : AnalysisStatus) (decisive : AnalysisFinding) (recommendations : List AnalysisRecommendation)
    (limitations : List String) (population : Option AnalysisPopulation) : Except PyError Interaction := do
  let direct ← directAnswer py request decisive snapshot
  let counts := rankingCounts request snapshot population
  present status (inspectionGuidance py request (some decisive) snapshot status none) fun inspectionGuidance =>
    { directAnswer := direct, basis := decidedBasis decisive, inspectionGuidance
      decisiveFindingId := some decisive.findingId
      recommendationId := (supportedRecommendation decisive recommendations).map (·.recommendationId)
      limitation := materialLimitation request decisive limitations, followUp := followUp request
      evaluatedCount := counts.1, excludedCount := counts.2 }

variable (comparison : Option WorldSnapshot)

def needsComparison : Bool := request.answerIntent.any (·.comparisonRequired)

/-- No anomaly among the snapshots the request names. -/
def nothingAnomalous (findings : List AnalysisFinding) : Bool :=
  needsComparison request ∧ request.analysisType = .anomalyDetection ∧
    (comparison.any fun other => request.comparisonSnapshotId = some other.metadata.snapshotId) ∧ findings.isEmpty

inductive Verdict where
  | noChange
  | blocked (problem : String)
  | noneIdle
  | metricMissing (metric : String)
  | unanswered
  | decided (decisive : AnalysisFinding)

/-- Which return is taken. -/
def verdict (findings : List AnalysisFinding) : Verdict :=
  if nothingAnomalous request comparison findings then .noChange else
  match (if needsComparison request then comparisonProblem request comparison findings else none) with
  | some problem => .blocked problem
  | none =>
    match selectDecisive request findings (requiredMetric request) snapshot with
    | some decisive => .decided decisive
    | none =>
      if intentConcept request = some .idle then .noneIdle else
      match requiredMetric request with
      | some metric => .metricMissing metric
      | none => .unanswered

def composeInteraction (status : AnalysisStatus) (findings : List AnalysisFinding)
    (recommendations : List AnalysisRecommendation) (limitations : List String) (fallbackAnswer : String)
    (population : Option AnalysisPopulation) : Except PyError Interaction :=
  match verdict request snapshot comparison findings with
  | .noChange => noChange py request snapshot
  | .blocked problem => blocked py request snapshot problem
  | .noneIdle => noneIdle py request snapshot status
  | .metricMissing metric => metricMissing py request snapshot metric population
  | .unanswered => unanswered py request snapshot status limitations fallbackAnswer
  | .decided decisive => decided py request snapshot status decisive recommendations limitations population

/-! ## What is composed -/

/-- The status, the direct answer and the basis of a return. -/
def Verdict.shown (status : AnalysisStatus) (fallbackAnswer : String) :
    Verdict → Except PyError (AnalysisStatus × String × AnswerBasis)
  | .noChange => .ok (.completed, noChangeText, .confirmedFact)
  | .blocked problem => .ok (.insufficientData, blockedText problem, .insufficientData)
  | .noneIdle => .ok (status, noneIdleText, .confirmedFact)
  | .metricMissing metric => .ok (.insufficientData, metricMissingText metric, .insufficientData)
  | .unanswered => .ok (status, unansweredText status fallbackAnswer, unansweredBasis status)
  | .decided decisive => do return (status, ← directAnswer py request decisive snapshot, decidedBasis decisive)

def Interaction.shown (interaction : Interaction) : AnalysisStatus × String × AnswerBasis :=
  (interaction.status, interaction.answer, interaction.presentation.basis)

end

variable {py : PyFormat} {request : AnalysisRequest} {snapshot : WorldSnapshot} {comparison : Option WorldSnapshot}

theorem present_ok {status : AnalysisStatus} {guidance : Except PyError InspectionGuidance}
    {presentation : InspectionGuidance → AnalysisPresentation} {interaction : Interaction}
    (h : present status guidance presentation = .ok interaction) :
    ∃ g, interaction = { status, answer := (presentation g).directAnswer, presentation := presentation g } := by
  unfold present at h
  cases hg : guidance with
  | error e =>
    rw [hg] at h
    cases h
  | ok g =>
    rw [hg] at h
    cases hp : construct AnalysisPresentation.fieldError (presentation g) with
    | error e =>
      simp only [hp, bind, Except.bind] at h
      cases h
    | ok built =>
      simp only [hp, bind, Except.bind] at h
      cases h
      rw [construct_ok hp]
      exact ⟨g, rfl⟩

/-- A composed answer shows what its verdict does. -/
theorem composeInteraction_ok {status : AnalysisStatus} {findings : List AnalysisFinding}
    {recommendations : List AnalysisRecommendation} {limitations : List String} {fallbackAnswer : String}
    {population : Option AnalysisPopulation} {interaction : Interaction}
    (h : composeInteraction py request snapshot comparison status findings recommendations limitations fallbackAnswer
      population = .ok interaction) :
    (verdict request snapshot comparison findings).shown py request snapshot status fallbackAnswer =
      .ok interaction.shown := by
  unfold composeInteraction at h
  cases hv : verdict request snapshot comparison findings with
  | noChange =>
    rw [hv] at h
    obtain ⟨g, rfl⟩ := present_ok h
    rfl
  | blocked problem =>
    rw [hv] at h
    obtain ⟨g, rfl⟩ := present_ok h
    rfl
  | noneIdle =>
    rw [hv] at h
    obtain ⟨g, rfl⟩ := present_ok h
    rfl
  | metricMissing metric =>
    rw [hv] at h
    obtain ⟨g, rfl⟩ := present_ok h
    rfl
  | unanswered =>
    rw [hv] at h
    obtain ⟨g, rfl⟩ := present_ok h
    rfl
  | decided decisive =>
    rw [hv] at h
    simp only [decided] at h
    cases hd : directAnswer py request decisive snapshot with
    | error e =>
      rw [hd] at h
      cases h
    | ok direct =>
      rw [hd] at h
      obtain ⟨g, rfl⟩ := present_ok h
      simp only [Verdict.shown, hd]
      rfl

end SimPilot.Analysis
