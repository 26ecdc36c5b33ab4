import SimPilot.Analysis.World
/-!
# Findings and responses (analysis/contracts.py, analysis/evidence.py)

The records of an analysis and what their validators ask. A record is a plain value; the
functions that build one in the source construct it here (`construct`), and the copies
(`model_copy`) are record updates.

| here | there |
|---|---|
| `fieldError` | a bound of a field, or what the `model_validator` of the class raises |
| `stableFindingId` | `stable_finding_id` (evidence.py:19) |
| `assertsCausality` | the `re.search` of `validate_guidance_shape` |
-/

namespace SimPilot.Analysis

/-! ## Evidence -/

inductive EvidenceSourceType where
  | snapshotField | derivedMetric | snapshotChange | capabilityCoverage
  deriving DecidableEq, Repr

structure EvidenceReference where
  sourceType : EvidenceSourceType
  snapshotId : String
  entityType : Option AnalysisSubjectType := none
  entityId : Option String := none
  field : String
  observedValue : JsonValue
  comparisonSnapshotId : Option String := none
  comparisonValue : JsonValue := .null
  metricInputs : Dict := []
  deriving Repr

def EvidenceReference.fieldError (evidence : EvidenceReference) : Option String :=
  if evidence.snapshotId = "" then some "snapshot_id"
  else if evidence.entityId = some "" then some "entity_id"
  else if evidence.field = "" then some "field"
  else if evidence.comparisonSnapshotId = some "" then some "comparison_snapshot_id"
  else if evidence.entityType.isNone ≠ evidence.entityId.isNone then
    some "entity_type and entity_id must be supplied together"
  else
    match evidence.comparisonValue, evidence.comparisonSnapshotId with
    | .null, _ | _, some _ => none
    | _, none => some "comparison_value requires comparison_snapshot_id"

/-! ## Findings and recommendations -/

inductive FindingKind where
  | observedFact | inferredFinding | dataQuality
  deriving DecidableEq, Repr

inductive FindingSeverity where
  | informational | opportunity | warning | critical
  deriving DecidableEq, Repr

inductive EvidenceConfidence where
  | high | medium | low
  deriving DecidableEq, Repr

structure AnalysisFinding where
  findingId : String
  findingCode : String
  analysisType : AnalysisType
  kind : FindingKind
  severity : FindingSeverity
  title : String
  summary : String
  metricName : Option String := none
  metricValue : JsonValue := .null
  comparisonValue : JsonValue := .null
  confidence : EvidenceConfidence
  evidence : List EvidenceReference
  limitations : List String := []
  recommendationIds : List String := []
  deriving Repr

def AnalysisFinding.fieldError (finding : AnalysisFinding) : Option String :=
  if finding.findingId = "" then some "finding_id"
  else if finding.findingCode = "" then some "finding_code"
  else if finding.title = "" then some "title"
  else if finding.summary = "" then some "summary"
  else if finding.metricName = some "" then some "metric_name"
  else if finding.evidence = [] ∨ 20 < finding.evidence.length then some "evidence"
  else none

structure AnalysisRecommendation where
  recommendationId : String
  title : String
  rationale : String
  priority : Nat
  affectedEntityIds : List String := []
  supportingFindingIds : List String
  limitations : List String := []
  deriving DecidableEq, Repr

def AnalysisRecommendation.fieldError (recommendation : AnalysisRecommendation) : Option String :=
  if recommendation.recommendationId = "" then some "recommendation_id"
  else if recommendation.title = "" then some "title"
  else if recommendation.rationale = "" then some "rationale"
  else if recommendation.priority = 0 ∨ 100 < recommendation.priority then some "priority"
  else if recommendation.supportingFindingIds = [] then some "supporting_finding_ids"
  else none

structure AnalysisPopulation where
  eligibleCount : Nat
  evaluatedCount : Nat
  excludedCount : Nat
  exclusionReasons : List String := []
  metric : Option AnswerMetric := none
  direction : Option RankingDirection := none
  deriving DecidableEq, Repr

def AnalysisPopulation.fieldError (population : AnalysisPopulation) : Option String :=
  if population.evaluatedCount + population.excludedCount ≠ population.eligibleCount then
    some "evaluated and excluded counts must equal eligible count"
  else if population.excludedCount ≠ 0 ∧ population.exclusionReasons = [] then
    some "excluded entities require an exclusion reason"
  else none

def stableFindingId (py : PyFormat) (analysisType : AnalysisType) (snapshotId findingCode : String)
    (entityIds : List String) : String :=
  let material := "|".intercalate
    (analysisType.value :: snapshotId :: findingCode :: entityIds.insertionSort fun a b => a ≤ b)
  "finding:" ++ String.ofList ((py.sha256 material).toList.take 24)

def stableRecommendationId (py : PyFormat) (snapshotId code : String) (findingIds : List String) : String :=
  let material := "|".intercalate (snapshotId :: code :: findingIds.insertionSort fun a b => a ≤ b)
  "recommendation:" ++ String.ofList ((py.sha256 material).toList.take 24)

/-! ## Status and presentation -/

inductive AnalysisStatus where
  | completed | completedWithLimitations | clarificationRequired | unsupported | insufficientData | failed
  deriving DecidableEq, Repr

inductive AnswerBasis where
  | confirmedFact | finding | inference | insufficientData
  deriving DecidableEq, Repr

inductive InspectionGuidanceStatus where
  | recommended | notResponsible
  deriving DecidableEq, Repr

structure InspectionGuidance where
  status : InspectionGuidanceStatus
  targetEntityType : Option AnalysisSubjectType := none
  targetEntityId : Option String := none
  targetLabel : Option String := none
  observation : Option String := none
  diagnosticValue : Option String := none
  unavailableReason : Option String := none
  supportingFindingIds : List String := []
  deriving DecidableEq, Repr

def isWordCharacter (c : Char) : Bool := c.isAlphanum || c = '_'

/-- A phrase at a word's boundaries somewhere in a lower-cased text, `previous` before it. -/
def occursAsWords (phrase : List Char) : List Char → Bool → Bool
  | [], _ => false
  | c :: rest, previous =>
    let following := (c :: rest).drop phrase.length
    (¬ previous ∧ phrase <+: c :: rest ∧ ¬ (following.head?.any isWordCharacter)) ||
      occursAsWords phrase rest (isWordCharacter c)

def assertsCausality (text : String) : Bool :=
  ["prove", "proves", "is caused by", "is due to", "guarantee", "guarantees"].any fun phrase =>
    occursAsWords phrase.toList (text.toList.map Char.toLower) false

/-- `text.casefold().strip(" .")` -/
def bareObservation (py : PyText) (text : String) : String :=
  let mark := fun c : Char => c = ' ' || c = '.'
  String.ofList (((py.casefold text).toList.dropWhile mark).reverse.dropWhile mark).reverse

def vagueObservations : List String :=
  ["inspect", "inspect further", "investigate", "investigate further", "review", "review further"]

/-- What `validate_guidance_shape` raises for a recommended inspection. -/
def recommendedError (py : PyText) (guidance : InspectionGuidance) : Option String :=
  match guidance.targetLabel, guidance.observation, guidance.diagnosticValue with
  | some _, some observation, some diagnosticValue =>
    if guidance.unavailableReason.isSome then
      some "recommended inspection guidance cannot have an unavailable reason"
    else if bareObservation py observation ∈ vagueObservations then
      some "inspection guidance requires a concrete observation"
    else if 18 < (py.split observation).length ∨ 18 < (py.split diagnosticValue).length then
      some "inspection guidance exceeds the compact interaction budget"
    else if assertsCausality (observation ++ " " ++ diagnosticValue) then
      some "inspection guidance asserts unsupported causal certainty"
    else none
  | _, _, _ => some "recommended inspection guidance requires a target, observation, and diagnostic value"

/-- What it raises where no inspection is recommended. -/
def unavailableError (guidance : InspectionGuidance) : Option String :=
  if guidance.targetEntityType.isSome ∨ guidance.targetEntityId.isSome ∨ guidance.targetLabel.isSome ∨
      guidance.observation.isSome ∨ guidance.diagnosticValue.isSome then
    some "unavailable inspection guidance cannot name an inspection target"
  else if guidance.unavailableReason.isNone then some "unavailable inspection guidance requires an explicit reason"
  else none

def InspectionGuidance.fieldError (py : PyText) (guidance : InspectionGuidance) : Option String :=
  if guidance.targetEntityId = some "" then some "target_entity_id"
  else if guidance.targetLabel = some "" then some "target_label"
  else if guidance.observation = some "" then some "observation"
  else if guidance.diagnosticValue = some "" then some "diagnostic_value"
  else if guidance.unavailableReason = some "" then some "unavailable_reason"
  else
    let shape := match guidance.status with
      | .recommended => recommendedError py guidance
      | .notResponsible => unavailableError guidance
    match shape with
    | some message => some message
    | none =>
      if guidance.targetEntityId.isSome ∧ guidance.targetEntityType.isNone then
        some "an inspection entity ID requires an entity type"
      else none

structure AnalysisPresentation where
  directAnswer : String
  basis : AnswerBasis
  decisiveFindingId : Option String := none
  recommendationId : Option String := none
  inspectionGuidance : InspectionGuidance
  limitation : Option String := none
  followUp : Option String := none
  evaluatedCount : Option Nat := none
  excludedCount : Option Nat := none
  deriving DecidableEq, Repr

def AnalysisPresentation.fieldError (presentation : AnalysisPresentation) : Option String :=
  if presentation.directAnswer = "" then some "direct_answer"
  else if presentation.decisiveFindingId = some "" then some "decisive_finding_id"
  else if presentation.recommendationId = some "" then some "recommendation_id"
  else if presentation.limitation = some "" then some "limitation"
  else if presentation.followUp = some "" then some "follow_up"
  else none

/-! ## The response -/

structure AnalysisSnapshotMetadata where
  snapshotAgeSeconds : ℚ
  collectionIntervalGameDays : Int
  worldId : String
  observerCompanyId : Option String
  saveGeneration : Nat
  capabilityFingerprint : String
  snapshotBridgeSequence : Nat
  openttdVersion : Option String
  deriving DecidableEq, Repr

def AnalysisSnapshotMetadata.fieldError (metadata : AnalysisSnapshotMetadata) : Option String :=
  if metadata.snapshotAgeSeconds < 0 then some "snapshot_age_seconds"
  else if metadata.collectionIntervalGameDays < 0 then some "collection_interval_game_days"
  else if metadata.worldId = "" then some "world_id"
  else if metadata.observerCompanyId = some "" then some "observer_company_id"
  else if metadata.capabilityFingerprint = "" then some "capability_fingerprint"
  else if metadata.snapshotBridgeSequence = 0 then some "snapshot_bridge_sequence"
  else if metadata.openttdVersion = some "" then some "openttd_version"
  else none

structure AnalysisResponse where
  request : AnalysisRequest
  snapshotId : String
  snapshotMetadata : AnalysisSnapshotMetadata
  status : AnalysisStatus
  answer : String
  findings : List AnalysisFinding := []
  recommendations : List AnalysisRecommendation := []
  assumptions : List String := []
  limitations : List String := []
  unsupportedParts : List String := []
  presentation : AnalysisPresentation
  population : Option AnalysisPopulation := none
  generatedAt : Timestamp
  deriving Repr

/-- `" ".join(text.casefold().rstrip(".").split())` -/
def bareSentence (py : PyText) (text : String) : String :=
  " ".intercalate (py.split (String.ofList ((py.casefold text).toList.reverse.dropWhile (· = '.')).reverse))

/-- `" ".join(text.casefold().split()).rstrip(".")` -/
def foldedSentence (py : PyText) (text : String) : String :=
  String.ofList ((" ".intercalate (py.split (py.casefold text))).toList.reverse.dropWhile (· = '.')).reverse

/-- What the guidance of a presentation is checked for against the findings. -/
def guidanceError (py : PyText) (response : AnalysisResponse) : Option String :=
  let presentation := response.presentation
  let guidance := presentation.inspectionGuidance
  match guidance.status with
  | .notResponsible => none
  | .recommended =>
    match presentation.decisiveFindingId.bind fun id =>
        if id ∈ guidance.supportingFindingIds then response.findings.find? (·.findingId = id) else none with
    | none => some "inspection guidance must support the decisive finding"
    | some decisive =>
      if guidance.targetEntityId.any fun id => ¬ decisive.evidence.any (·.entityId = some id) then
        some "inspection guidance refers to the wrong entity"
      else if (guidance.observation.map (foldedSentence py)).any fun text =>
          text = bareSentence py response.answer || text = bareSentence py decisive.summary then
        some "inspection guidance repeats the finding"
      else none

/-- A bound that does not hold, or what `validate_references` raises. -/
def AnalysisResponse.fieldError (py : PyText) (response : AnalysisResponse) : Option String :=
  let findings := response.findings.map (·.findingId)
  let recommendations := response.recommendations.map (·.recommendationId)
  let presentation := response.presentation
  if response.snapshotId = "" then some "snapshot_id"
  else if response.answer = "" then some "answer"
  else if ¬ findings.Nodup then some "finding IDs must be unique"
  else if ¬ recommendations.Nodup then some "recommendation IDs must be unique"
  else if response.findings.any fun item => ¬ item.recommendationIds ⊆ recommendations then
    some "finding references an unknown recommendation"
  else if response.recommendations.any fun item => ¬ item.supportingFindingIds ⊆ findings then
    some "recommendation references an unknown finding"
  else if presentation.decisiveFindingId.any fun id => id ∉ findings then
    some "presentation references an unknown finding"
  else if presentation.recommendationId.any fun id => id ∉ recommendations then
    some "presentation references an unknown recommendation"
  else if ¬ presentation.inspectionGuidance.supportingFindingIds ⊆ findings then
    some "inspection guidance references an unknown finding"
  else guidanceError py response

end SimPilot.Analysis
