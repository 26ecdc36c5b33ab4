import SimPilot.Analysis.Findings
/-!
# The composition of an answer (analysis/interaction.py, analysis/inspection.py)

One finding decides the answer: it is selected among the findings that are listed, and the
direct answer, the basis and the guidance for an inspection are made of it.

| here | there |
|---|---|
| `observedValue?` | `value` where `isinstance(value, (int, float))`: a `bool` is an `int` |
| `requiredMetric` | `_required_metric`; `_RANKING_METRICS` maps each metric to its own value |
| `Interaction` | the three values `compose_interaction` returns |
| `noChange`, `blocked`, `noneIdle`, `metricMissing`, `unanswered`, `decided` | its six returns, in their order |
-/

namespace SimPilot.Analysis

/-! ## Values -/

def observedValue? : JsonValue → Option ℚ
  | .int i => some i
  | .float q => some q
  | .bool b => some (if b then 1 else 0)
  | _ => none

/-- `str(value)` -/
def valueText : JsonValue → String
  | .str s => s
  | value => value.repr

/-- Groups of three digits, the last digit first. -/
def groupDigits : List Char → List Char
  | a :: b :: c :: d :: rest => a :: b :: c :: ',' :: groupDigits (d :: rest)
  | digits => digits

/-- `f"{n:,}"` -/
def grouped (n : Nat) : String := String.ofList (groupDigits (toString n).toList.reverse).reverse

/-- `f"£{q:,.0f}"` -/
def pounds (q : ℚ) : String :=
  "£" ++ (if q < 0 then "-" else "") ++ grouped (roundEven |q|).toNat

/-- `_currency(value)` -/
def currency : JsonValue → String
  | .int i => pounds i
  | .float q => pounds q
  | value => valueText value

/-- `f"{share:.1%}"` -/
def percentage (share : ℚ) : String :=
  let tenths := (roundEven (|share| * 1000)).toNat
  (if share < 0 then "-" else "") ++ toString (tenths / 10) ++ "." ++ toString (tenths % 10) ++ "%"

/-- `text.replace("_", " ")` -/
def spaced (text : String) : String := String.ofList (text.toList.map fun c => if c = '_' then ' ' else c)

/-- `title.removeprefix("#1 ")` -/
def withoutRank (title : String) : String :=
  if "#1 ".toList <+: title.toList then String.ofList (title.toList.drop 3) else title

/-- `summary[0].lower() + summary[1:]` -/
def lowerFirst (py : PyText) (summary : String) : String :=
  py.lower (String.ofList (summary.toList.take 1)) ++ String.ofList (summary.toList.drop 1)

/-! ## Inspection guidance -/

section
variable (py : PyFormat)

/-- `_unavailable(reason)` -/
def unavailable (reason : String) : Except PyError InspectionGuidance :=
  construct (InspectionGuidance.fieldError py.toPyText) { status := .notResponsible, unavailableReason := some reason }

def recommended (finding : AnalysisFinding) (targetLabel observation diagnosticValue : String)
    (targetType : Option AnalysisSubjectType) (targetId : Option String) : Except PyError InspectionGuidance :=
  construct (InspectionGuidance.fieldError py.toPyText)
    { status := .recommended, targetEntityType := targetType, targetEntityId := targetId
      targetLabel := some targetLabel, observation := some observation, diagnosticValue := some diagnosticValue
      supportingFindingIds := [finding.findingId] }

/-- The entity the first evidence with one names. -/
def firstEntity (finding : AnalysisFinding) : Option (AnalysisSubjectType × String) :=
  finding.evidence.findSome? fun evidence =>
    match evidence.entityType, evidence.entityId with
    | some kind, some id => some (kind, id)
    | _, _ => none

/-- `_metric_input(finding, name)` -/
def metricInput (finding : AnalysisFinding) (name : String) : Option String :=
  finding.evidence.findSome? fun evidence =>
    match evidence.metricInputs.get name with
    | some (.str value) => some value
    | _ => none

/-- `text in name` -/
def within (text name : String) : Bool := text.toList <:+: name.toList

def routeMetrics : List (Option String) :=
  [some AnswerMetric.routeAggregateProfit.value, some AnswerMetric.routeNegativeVehicleCount.value]

/-- What to observe, and what it tells apart, for a target with a label. -/
def inspectionOf (finding : AnalysisFinding) (targetType : Option AnalysisSubjectType) : String × String :=
  let code := finding.findingCode
  let metric := finding.metricName
  if targetType = some .vehicle then
    if within "idle_vehicle" code then
      ("check its current order, depot state, and whether service resumes",
        "an intentional hold from interrupted or obsolete service")
    else if metric ∈ [some "profit_last_year", some "profit_this_year"] ∨ within "profit" code then
      ("compare its orders, loading waits, and empty return legs",
        "low demand from inefficient orders or repeated empty running")
    else
      ("compare its current orders, running state, and assigned route",
        "an isolated vehicle issue from a route-level pattern")
  else if targetType = some .station ∨ metric = some AnswerMetric.waitingCargo.value then
    ("compare vehicle frequency, waiting cargo types, and route destinations",
      "insufficient service from cargo the current routes do not accept")
  else if targetType = some .route ∨ metric ∈ routeMetrics then
    ("compare member vehicles' profits, orders, loading waits, and empty legs",
      "one weak vehicle from a route-wide operating pattern")
  else if targetType = some .industry then
    ("check produced cargo, possible destinations, and nearby station catchments",
      "an observable service gap from a connection the current evidence cannot assess")
  else if targetType = some .town then
    ("check passenger and mail demand, nearby stations, and reachable destinations",
      "an observable service gap from proximity without useful demand")
  else if targetType = some .company ∧ (metric = some "net_operating_result" ∨ within "operating_result" code) then
    ("compare losing vehicles, high-waiting stations, and route results",
      "a localized service problem from a company-wide shortfall")
  else
    ("compare the cited metric with its orders, service state, or prior snapshot",
      "a transient observation from a persistent operating issue")

def intentConcept (request : AnalysisRequest) : Option AnswerConcept := request.answerIntent.map (·.concept)

/-- `isinstance(value, int) and value >= 0` -/
def nonnegativeInt : JsonValue → Bool
  | .int i => 0 ≤ i
  | .bool _ => true
  | _ => false

/-- The reason for which no inspection is recommended. -/
def inspectionDeclined (request : AnalysisRequest) (finding : AnalysisFinding) : Option String :=
  let concept := intentConcept request
  if concept = some .availableCash ∨ concept = some .debt then
    some "this factual balance does not identify a problem or inspection target"
  else if concept = some .health ∧
      (finding.findingCode = "operating_result" ∨ nonnegativeInt finding.metricValue) then
    some "the current company evidence shows no urgent problem to inspect"
  else if concept = some .loss ∧ (observedValue? finding.metricValue).any fun value => 0 ≤ value then
    some "the observed result corrects the loss premise and identifies no loss to inspect"
  else none

def inspectionGuidance (request : AnalysisRequest) (finding : Option AnalysisFinding) (snapshot : WorldSnapshot)
    (status : AnalysisStatus) (unavailableReason : Option String) : Except PyError InspectionGuidance := do
  let declined :=
    unavailable py (unavailableReason.getD "the current evidence does not identify a responsible, specific target")
  match finding with
  | none => declined
  | some finding =>
    if status ∈ [.insufficientData, .clarificationRequired, .unsupported, .failed] then declined else
    let target := firstEntity finding
    let targetLabel ← match target with
      | some (kind, id) => displayLabel py snapshot kind id
      | none => pure none
    match inspectionDeclined request finding with
    | some reason => unavailable py reason
    | none =>
      if finding.metricName = some AnswerMetric.vehicleTypeAggregateProfit.value then
        let label := match metricInput finding "vehicle_type" with
          | some vehicleType =>
            if vehicleType = "" then "the ranked vehicle type" else py.title vehicleType ++ " vehicles"
          | none => "the ranked vehicle type"
        recommended py finding label "compare member vehicles' orders, loading waits, and empty legs"
          "one outlier vehicle from a type-wide operating pattern" none none
      else
        match targetLabel with
        | none => unavailable py "the finding does not resolve to a named entity in the current snapshot"
        | some label =>
          let inspection := inspectionOf finding (target.map Prod.fst)
          recommended py finding label inspection.1 inspection.2 (target.map Prod.fst) (target.map Prod.snd)

end

/-! ## The selection -/

def requiredMetric (request : AnalysisRequest) : Option String :=
  match request.answerIntent.bind (·.requestedMetric) with
  | some metric => some metric.value
  | none => request.ranking.map (·.metric.value)

/-- An evaluated change between the snapshot and the comparison. -/
def EvidenceReference.isChangeFrom (evidence : EvidenceReference) (comparisonId : String) : Bool :=
  evidence.sourceType = .snapshotChange ∧ evidence.comparisonSnapshotId = some comparisonId

def comparisonProblem (request : AnalysisRequest) (comparison : Option WorldSnapshot) (findings : List AnalysisFinding) :
    Option String :=
  match comparison, request.comparisonSnapshotId with
  | some comparison, some requested =>
    let comparisonId := comparison.metadata.snapshotId
    if requested ≠ comparisonId then some "the supplied comparison identity does not match the request."
    else if (findings.flatMap (·.evidence)).all fun evidence => ¬ evidence.isChangeFrom comparisonId then
      some "the compatible snapshots contain no evaluated typed change evidence."
    else none
  | _, _ => some "the requested comparison snapshot was not supplied."

def FindingSeverity.rank : FindingSeverity → Nat
  | informational => 0
  | opportunity => 1
  | warning => 2
  | critical => 3

/-- `(-_severity(f.severity), f.finding_id) < (-_severity(g.severity), g.finding_id)` -/
def AnalysisFinding.before (f g : AnalysisFinding) : Bool :=
  g.severity.rank < f.severity.rank ∨ f.severity.rank = g.severity.rank ∧ f.findingId < g.findingId

/-- `min(candidates, key=…)`: the first of the least. -/
def mostSevere : List AnalysisFinding → Option AnalysisFinding
  | [] => none
  | first :: rest => some (rest.foldl (fun best item => if item.before best then item else best) first)

/-- `_compare` (support.py:145): between integers alone, of which a `bool` is one. -/
def AnalysisScalar.int? : AnalysisScalar → Option Int
  | .int i => some i
  | .bool b => some (if b then 1 else 0)
  | .str _ => none

/-- `value == candidate` -/
def AnalysisScalar.pyEq (value candidate : AnalysisScalar) : Bool :=
  match value.int?, candidate.int? with
  | some a, some b => a = b
  | none, none => value = candidate
  | _, _ => false

/-- A value of a vehicle, `None` for a route it does not have. -/
abbrev FieldValue := Option AnalysisScalar

def FieldValue.pyEq (value : FieldValue) (candidate : AnalysisScalar) : Bool := value.any (·.pyEq candidate)

def FieldValue.compare (value : FieldValue) (candidate : AnalysisScalar) (relation : Int → Int → Bool) : Bool :=
  match value.bind AnalysisScalar.int?, candidate.int? with
  | some a, some b => relation a b
  | _, _ => false

/-- A filter against a value of its field. -/
def AnalysisFilter.admits (item : AnalysisFilter) (value : FieldValue) : Bool :=
  match item.values with
  | [] => true
  | candidate :: _ =>
    match item.operator with
    | .equal => FieldValue.pyEq value candidate
    | .notEqual => ¬ FieldValue.pyEq value candidate
    | .isIn => item.values.any (FieldValue.pyEq value)
    | .lessThan => FieldValue.compare value candidate (· < ·)
    | .lessThanOrEqual => FieldValue.compare value candidate (· ≤ ·)
    | .greaterThan => FieldValue.compare value candidate (· > ·)
    | .greaterThanOrEqual => FieldValue.compare value candidate (· ≥ ·)

/-- `filter_value(filters, field, value)` (support.py:114) -/
def filterValue (filters : List AnalysisFilter) (field : AnalysisFilterField) (value : FieldValue) : Bool :=
  filters.all fun item => item.field ≠ field || item.admits value

/-- The fields of a vehicle that filters are asked for. -/
def vehicleFields (vehicle : Vehicle) : List (AnalysisFilterField × FieldValue) :=
  [(.entityId, some (.str vehicle.id)), (.ownerId, some (.str vehicle.ownerId)), (.vehicleType, some (.str vehicle.type)),
    (.routeId, vehicle.routeId.map .str), (.runningState, some (.str vehicle.runningState)),
    (.inDepot, some (.bool vehicle.inDepot)), (.profitThisYear, some (.int vehicle.profitThisYear)),
    (.profitLastYear, some (.int vehicle.profitLastYear)), (.ageDays, some (.int vehicle.ageDays))]

def matchesFilters (filters : List AnalysisFilter) (vehicle : Vehicle) : Bool :=
  (vehicleFields vehicle).all fun item => filterValue filters item.1 item.2

/-- The vehicles `_ranking_counts` and `_matches_actual_ranking_top` select. -/
def rankedPopulation (request : AnalysisRequest) (snapshot : WorldSnapshot) : List Vehicle :=
  snapshot.vehicles.filter fun item =>
    some item.ownerId = snapshot.metadata.observerCompanyId ∧
      (request.subjectIds = [] ∨ item.id ∈ request.subjectIds) ∧ matchesFilters request.filters item

/-- `_vehicle_metric(vehicle, metric)` -/
def vehicleMetric (vehicle : Vehicle) (metric : Option String) : Option Int :=
  if metric = some "profit_this_year" then some vehicle.profitThisYear
  else if metric = some "profit_last_year" then some vehicle.profitLastYear
  else if metric = some "age_days" then some vehicle.ageDays
  else none

/-- The order of a ranking: by a value, from above where it descends, then by the id. -/
def rankedBefore (direction : RankingDirection) (value : Vehicle → Int) (a b : Vehicle) : Bool :=
  let low := match direction with
    | .descending => -value a
    | .ascending => value a
  let high := match direction with
    | .descending => -value b
    | .ascending => value b
  low < high ∨ low = high ∧ a.id ≤ b.id

def matchesActualRankingTop (request : AnalysisRequest) (snapshot : WorldSnapshot) (candidate : AnalysisFinding)
    (metric : String) : Bool :=
  if request.analysisType ≠ .vehiclePerformance then true else
  let ranked := (rankedPopulation request snapshot).filter fun item => (vehicleMetric item (some metric)).isSome
  match request.ranking with
  | none => false
  | some ranking =>
    let value := fun item : Vehicle => (vehicleMetric item (some metric)).getD 0
    match ranked.insertionSort fun a b => rankedBefore ranking.direction value a b with
    | [] => false
    | top :: _ => candidate.evidence.any fun evidence =>
      evidence.entityType = some .vehicle ∧ evidence.entityId = some top.id

def selectDecisive (request : AnalysisRequest) (findings : List AnalysisFinding) (metric : Option String)
    (snapshot : WorldSnapshot) : Option AnalysisFinding :=
  if intentConcept request = some .idle then findings.find? (·.findingCode = "idle_vehicle") else
  match metric with
  | some metric =>
    match findings.find? (·.metricName = some metric) with
    | none => none
    | some candidate =>
      if request.ranking.isSome ∧ ¬ matchesActualRankingTop request snapshot candidate metric then none
      else some candidate
  | none =>
    match findings.find? (·.metricName = some "net_operating_result") with
    | some operating => if intentConcept request = some .health then some operating else mostSevere findings
    | none => mostSevere findings

end SimPilot.Analysis
