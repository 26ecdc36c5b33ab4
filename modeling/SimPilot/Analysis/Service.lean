import SimPilot.Analysis.Composition
import SimPilot.Data.Except
/-!
# The service of the analysis (analysis/service.py, analysis/compatibility.py)

The service is built over a registry of analyzers, and so is the model. What it relies on
is that `maximum_findings` bounds how much an analyzer lists and nothing else
(`Analyzer.bounds`): of the analyzers of the source the priority review alone reads it,
and cuts its candidates at it (changes.py:442).

| here | there |
|---|---|
| `Analyzer` | an implementation of the protocol `Analyzer` (analyzers/base.py:35) |
| `requiredCoverage` | `required_coverage` of the capabilities in catalog.py |
| `AnalysisFinding.retain` | the copy with the recommendations that are left (service.py:69) |
| `clock` | `self._clock()` |
-/

namespace SimPilot.Analysis

/-! ## Analyzers -/

structure AnalyzerResult where
  status : AnalysisStatus
  answer : String
  findings : List AnalysisFinding := []
  recommendations : List AnalysisRecommendation := []
  assumptions : List String := []
  limitations : List String := []
  unsupportedParts : List String := []
  population : Option AnalysisPopulation := none
  deriving Repr

/-- The request with another maximum. -/
def AnalysisRequest.upTo (request : AnalysisRequest) (m : Nat) : AnalysisRequest := { request with maximumFindings := m }

/-- Two results of one analysis of which `m` and `m'` findings are listed. -/
structure SameAnalysis (m m' : Nat) (result result' : AnalyzerResult) : Prop where
  status : result'.status = result.status
  limitations : result'.limitations = result.limitations
  findings : ∃ every : List AnalysisFinding, result.findings.take m = every.take m ∧ result'.findings.take m' = every.take m'
  answer : result.findings.take m = [] → result'.findings.take m' = [] → result'.answer = result.answer

structure Analyzer where
  analyze : AnalysisRequest → WorldSnapshot → Option WorldSnapshot → Except PyError AnalyzerResult
  bounds : ∀ (request : AnalysisRequest) snapshot comparison m m' result result',
    analyze (request.upTo m) snapshot comparison = .ok result →
    analyze (request.upTo m') snapshot comparison = .ok result' → SameAnalysis m m' result result'

/-- An analysis that does not read the maximum. -/
theorem SameAnalysis.of_eq {m m' : Nat} {result result' : AnalyzerResult} (h : result = result') :
    SameAnalysis m m' result result' := by
  subst h
  exact ⟨rfl, rfl, ⟨result.findings, rfl, rfl⟩, fun _ _ => rfl⟩

/-- The analyzer of a function that does not read the maximum. -/
def Analyzer.unbounded (analyze : AnalysisRequest → WorldSnapshot → Option WorldSnapshot → Except PyError AnalyzerResult)
    (ignores : ∀ (request : AnalysisRequest) snapshot comparison m,
      analyze (request.upTo m) snapshot comparison = analyze request snapshot comparison) : Analyzer where
  analyze := analyze
  bounds request snapshot comparison m m' result result' h h' := by
    rw [ignores] at h h'
    exact .of_eq (Except.ok.inj (h.symm.trans h'))

def comparisonError (message : String) : PyError := .other "AnalysisComparisonError" message

def resultError (message : String) : PyError := .other "AnalyzerResultError" message

/-- `AnalyzerRegistry.get` -/
def registered (registry : Assoc AnalysisType Analyzer) (analysisType : AnalysisType) : Except PyError Analyzer :=
  match registry.get analysisType with
  | some analyzer => .ok analyzer
  | none =>
    let name := analysisType.value
    .error (.other "AnalyzerRegistrationError" s!"no analyzer registered for {name}")

/-! ## The comparison -/

/-- `validate_comparison`: the limitations of a comparison that is accepted. -/
def validateComparison (current comparison : WorldSnapshot) (expected : String) : Except PyError (List String) := do
  let now := current.metadata
  let before := comparison.metadata
  if before.snapshotId ≠ expected then
    throw (comparisonError "comparison snapshot does not match the requested ID")
  if now.snapshotId = before.snapshotId then
    throw (comparisonError "current and comparison snapshots must be different")
  if now.worldId ≠ before.worldId then
    throw (comparisonError "cannot compare snapshots from different worlds")
  if now.game ≠ before.game then
    throw (comparisonError "cannot compare snapshots from different games")
  if now.gameVersion ≠ before.gameVersion then
    throw (comparisonError "cannot compare snapshots from different game versions")
  if now.capabilityFingerprint ≠ before.capabilityFingerprint then
    throw (comparisonError "cannot compare snapshots with different capabilities")
  if ¬ now.complete ∨ ¬ before.complete then
    throw (comparisonError "comparison requires two complete snapshots")
  if now.gameDate < before.gameDate then
    throw (comparisonError "comparison snapshot must not be newer than current snapshot")
  if now.observerCompanyId.isSome ∧ before.observerCompanyId.isSome ∧
      now.observerCompanyId ≠ before.observerCompanyId then
    throw (comparisonError "observer company changed between snapshots")
  if now.saveGeneration ≠ before.saveGeneration then
    return ["The comparison crosses a save/load generation; world identity remained stable."]
  return []

def comparisonLimitations (request : AnalysisRequest) (snapshot : WorldSnapshot) (comparison : Option WorldSnapshot) :
    Except PyError (List String) :=
  match request.comparisonSnapshotId, comparison with
  | some _, none => .error (comparisonError "the requested comparison snapshot was not supplied")
  | some expected, some comparison => validateComparison snapshot comparison expected
  | none, some _ => .error (comparisonError "comparison input requires an explicit snapshot ID")
  | none, none => .ok []

def requiredCoverage : AnalysisType → List String
  | .companyHealth => ["companies", "vehicles"]
  | .financialSummary => ["companies"]
  | .vehiclePerformance => ["vehicles"]
  | .stationPerformance => ["stations", "cargo"]
  | .routePerformance => ["routes", "vehicles"]
  | .serviceCoverage => ["towns", "industries", "stations"]
  | .industryOpportunities => ["industries", "stations", "cargo"]
  | .townCoverage => ["towns", "stations"]
  | .fleetSummary => ["companies", "vehicles", "routes"]
  | .priorityReview => ["companies", "vehicles", "stations", "routes", "towns", "industries"]
  | .worldChanges | .anomalyDetection | .entitySummary => []

/-- The status of a category, the last that is given. -/
def coverageOf (snapshot : WorldSnapshot) (category : String) : Option CoverageStatus :=
  (snapshot.coverage.reverse.find? fun item => item.category = category).map fun item => item.status

/-- `_quality_limitations` -/
def qualityLimitations (snapshot : WorldSnapshot) (required : List String) : List String :=
  let incomplete := if snapshot.metadata.complete then [] else ["The world snapshot is incomplete."]
  incomplete ++ (required.insertionSort fun a b => a ≤ b).filterMap fun category =>
    match coverageOf snapshot category with
    | some .available => none
    | some .partially => some s!"{category} coverage is partial."
    | some .unavailable | none => some s!"{category} coverage is unavailable."

/-! ## The result of an analyzer -/

def validateResult (request : AnalysisRequest) (snapshot : WorldSnapshot) (comparison : Option WorldSnapshot)
    (result : AnalyzerResult) : Except PyError Unit := do
  let findings := result.findings.map (·.findingId)
  let recommendations : List String := result.recommendations.map (·.recommendationId)
  if ¬ findings.Nodup then throw (resultError "analyzer returned duplicate finding IDs")
  if ¬ recommendations.Nodup then throw (resultError "analyzer returned duplicate recommendation IDs")
  let allowed := snapshot.metadata.snapshotId :: (comparison.map (·.metadata.snapshotId)).toList
  result.findings.forM fun finding => do
    if finding.analysisType ≠ request.analysisType then
      throw (resultError "finding analysis type does not match the request")
    if ¬ finding.recommendationIds ⊆ recommendations then
      throw (resultError "finding references an unknown recommendation")
    finding.evidence.forM fun evidence => do
      if evidence.snapshotId ∉ allowed then throw (resultError "evidence references an unknown snapshot")
      if evidence.comparisonSnapshotId.any fun id => id ∉ allowed then
        throw (resultError "evidence references an unknown comparison snapshot")
  result.recommendations.forM fun recommendation => do
    if ¬ recommendation.supportingFindingIds ⊆ findings then
      throw (resultError "recommendation references an unknown finding")

/-- A finding with those of its recommendations that are left. -/
def AnalysisFinding.retain (retained : List String) (finding : AnalysisFinding) : AnalysisFinding :=
  { finding with recommendationIds := finding.recommendationIds.filter (· ∈ retained) }

/-- The recommendations that rest on listed findings alone. -/
def retainedRecommendations (request : AnalysisRequest) (findings : List AnalysisFinding)
    (recommendations : List AnalysisRecommendation) : List AnalysisRecommendation :=
  if request.includeRecommendations then
    recommendations.filter fun item => item.supportingFindingIds ⊆ findings.map (·.findingId)
  else []

/-- The status of a result whose limitations are known. -/
def limitedStatus (status : AnalysisStatus) (limitations : List String) : AnalysisStatus :=
  if limitations ≠ [] ∧ status = .completed then .completedWithLimitations else status

/-! ## The analysis -/

structure AnalysisService where
  registry : Assoc AnalysisType Analyzer
  clock : Timestamp

def snapshotMetadata (metadata : WorldSnapshotMetadata) (generatedAt : Timestamp) : AnalysisSnapshotMetadata where
  snapshotAgeSeconds := max 0 ((generatedAt : ℚ) - metadata.capturedAt)
  collectionIntervalGameDays := metadata.captureCompletedGameDate - metadata.captureStartedGameDate
  worldId := metadata.worldId
  observerCompanyId := metadata.observerCompanyId
  saveGeneration := metadata.saveGeneration
  capabilityFingerprint := metadata.capabilityFingerprint
  snapshotBridgeSequence := metadata.bridgeSequence
  openttdVersion := some metadata.gameVersion

def AnalysisService.analyze (py : PyFormat) (service : AnalysisService) (request : AnalysisRequest)
    (snapshot : WorldSnapshot) (comparison : Option WorldSnapshot) : Except PyError AnalysisResponse := do
  let capability ← validateAnalysisRequest request
  let compared ← comparisonLimitations request snapshot comparison
  let quality := qualityLimitations snapshot (requiredCoverage capability.analysisType)
  let analyzer ← registered service.registry request.analysisType
  let result ← analyzer.analyze request snapshot comparison
  validateResult request snapshot comparison result
  let listed := result.findings.take request.maximumFindings
  let recommendations := retainedRecommendations request listed result.recommendations
  let findings := listed.map (·.retain (recommendations.map (·.recommendationId)))
  let limitations := (result.limitations ++ quality ++ compared).eraseDups
  let interaction ← composeInteraction py request snapshot comparison (limitedStatus result.status limitations) findings
    recommendations limitations result.answer result.population
  construct (AnalysisResponse.fieldError py.toPyText)
    { request, snapshotId := snapshot.metadata.snapshotId
      snapshotMetadata := snapshotMetadata snapshot.metadata service.clock
      status := interaction.status, answer := interaction.answer, findings, recommendations
      assumptions := result.assumptions, limitations, unsupportedParts := result.unsupportedParts
      presentation := interaction.presentation, population := result.population, generatedAt := service.clock }

/-- What the display of a response shows of the analysis. -/
def AnalysisResponse.shown (response : AnalysisResponse) : AnalysisStatus × String × AnswerBasis :=
  (response.status, response.answer, response.presentation.basis)

/-! ## What the service does -/

section
variable {py : PyFormat} {service : AnalysisService} {request : AnalysisRequest} {snapshot : WorldSnapshot}
  {comparison : Option WorldSnapshot} {response : AnalysisResponse}

/-- A response shows what is composed of the findings of an analyzer that are listed. -/
theorem analyze_ok (h : service.analyze py request snapshot comparison = .ok response) :
    ∃ capability compared analyzer result retained, validateAnalysisRequest request = .ok capability ∧
      comparisonLimitations request snapshot comparison = .ok compared ∧
      registered service.registry request.analysisType = .ok analyzer ∧
      analyzer.analyze request snapshot comparison = .ok result ∧
      let limitations := (result.limitations ++
        qualityLimitations snapshot (requiredCoverage capability.analysisType) ++ compared).eraseDups
      (verdict request snapshot comparison
          ((result.findings.take request.maximumFindings).map (·.retain retained))).shown
        py request snapshot (limitedStatus result.status limitations) result.answer = .ok response.shown := by
  obtain ⟨capability, hcapability, h⟩ := Except.bind_eq_ok.mp h
  obtain ⟨compared, hcompared, h⟩ := Except.bind_eq_ok.mp h
  obtain ⟨analyzer, hanalyzer, h⟩ := Except.bind_eq_ok.mp h
  obtain ⟨result, hresult, h⟩ := Except.bind_eq_ok.mp h
  obtain ⟨_, _, h⟩ := Except.bind_eq_ok.mp h
  obtain ⟨interaction, hinteraction, h⟩ := Except.bind_eq_ok.mp h
  have hresponse := construct_ok h
  refine ⟨capability, compared, analyzer, result,
    (retainedRecommendations request (result.findings.take request.maximumFindings) result.recommendations).map
      (·.recommendationId), hcapability, hcompared, hanalyzer, hresult, ?_⟩
  have hshown : response.shown = interaction.shown := by
    rw [hresponse]
    rfl
  rw [hshown]
  exact composeInteraction_ok hinteraction

end

end SimPilot.Analysis
