import SimPilot.Analysis.Vehicles
/-!
# The priority review (analysis/analyzers/changes.py:396-475)

The one analyzer that reads `maximum_findings`: it asks the analyzers it is built from,
sorts what they find and makes a finding of each of the first candidates. The maximum
bounds the list and nothing else (`priorityReview`), as the service asks of an analyzer.

| here | there |
|---|---|
| `Source` | an element of `_sources` with its `_source_subjects` entry |
| `candidatesOf` | the findings and the limitations the loop of `analyze` collects |
| `prioritized` | the finding made of a candidate |
-/

namespace SimPilot.Analysis

structure Source where
  analysisType : AnalysisType
  subject : AnalysisSubjectType
  analyze : AnalysisRequest → WorldSnapshot → Option WorldSnapshot → Except PyError AnalyzerResult
  ignores : ∀ (request : AnalysisRequest) snapshot comparison m,
    analyze (request.upTo m) snapshot comparison = analyze request snapshot comparison

/-! ## The review -/

section
variable (py : PyFormat) (sources : List Source)

/-- Whether a source speaks of what is asked about. -/
def Source.included (request : AnalysisRequest) (source : Source) : Bool :=
  request.subjectType = none || request.subjectType = some .world || request.subjectType = some source.subject

def Source.result (request : AnalysisRequest) (snapshot : WorldSnapshot) (comparison : Option WorldSnapshot)
    (source : Source) : Except PyError AnalyzerResult := do
  let sourceRequest ← construct AnalysisRequest.fieldError
    { analysisType := source.analysisType, question := request.question
      comparisonSnapshotId := request.comparisonSnapshotId, maximumFindings := request.maximumFindings
      includeRecommendations := false }
  source.analyze sourceRequest snapshot comparison

/-- `_priority_sort(a) <= _priority_sort(b)` -/
def prioritySorted (a b : AnalysisFinding) : Bool :=
  let score := fun item : AnalysisFinding => priorityScore item.severity item.confidence
  score b < score a || (score a = score b && a.findingId ≤ b.findingId)

def candidatesOf (results : List AnalyzerResult) : List AnalysisFinding :=
  (results.flatMap (·.findings)).insertionSort fun a b => prioritySorted a b

def prioritized (snapshot : WorldSnapshot) (source : AnalysisFinding) : Except PyError Reported :=
  let score := priorityScore source.severity source.confidence
  let code := source.findingCode
  let summary := source.summary
  makeFinding py snapshot
    { analysisType := .priorityReview, code := s!"priority_{code}"
      entityIds := ((source.evidence.filterMap (·.entityId)).dedup).insertionSort fun a b => a ≤ b
      kind := source.kind, severity := source.severity, title := source.title
      summary := s!"Priority score {score}: {summary}", metricName := some "priority_score", metricValue := .int score
      confidence := source.confidence, evidence := source.evidence, limitations := source.limitations
      recommendationCode := some "inspect_priority_item" }

def analyzePriorities (request : AnalysisRequest) (snapshot : WorldSnapshot) (comparison : Option WorldSnapshot) :
    Except PyError AnalyzerResult := do
  let results ← (sources.filter (·.included request)).mapM (·.result request snapshot comparison)
  let candidates := candidatesOf results
  let reported ← (candidates.take request.maximumFindings).mapM (prioritized py snapshot)
  let population ← construct AnalysisPopulation.fieldError
    { eligibleCount := candidates.length, evaluatedCount := candidates.length, excludedCount := 0
      metric := some .priorityScore, direction := some .descending }
  let count := reported.length
  return { status := .completed, answer := s!"Ranked {count} inspection targets from deterministic findings."
           findings := reported.map Prod.fst, recommendations := reported.filterMap Prod.snd
           limitations := (results.flatMap (·.limitations)).eraseDups, population := some population }

variable {py sources} {request : AnalysisRequest} {snapshot : WorldSnapshot} {comparison : Option WorldSnapshot}

/-- Where a source answers under two maxima it answers the same. -/
theorem Source.result_upTo {source : Source} {m m' : Nat} {result result' : AnalyzerResult}
    (h : source.result (request.upTo m) snapshot comparison = .ok result)
    (h' : source.result (request.upTo m') snapshot comparison = .ok result') : result = result' := by
  obtain ⟨asked, hasked, h⟩ := Except.bind_eq_ok.mp h
  obtain ⟨asked', hasked', h'⟩ := Except.bind_eq_ok.mp h'
  have hsame : asked = asked'.upTo m := by
    rw [construct_ok hasked, construct_ok hasked']
    rfl
  rw [hsame, source.ignores] at h
  cases h.symm.trans h'
  rfl

theorem analyzePriorities_ok {result : AnalyzerResult}
    (h : analyzePriorities py sources request snapshot comparison = .ok result) :
    ∃ results reported,
      (sources.filter (·.included request)).mapM (·.result request snapshot comparison) = .ok results ∧
      ((candidatesOf results).take request.maximumFindings).mapM (prioritized py snapshot) = .ok reported ∧
      result.status = .completed ∧ result.limitations = (results.flatMap (·.limitations)).eraseDups ∧
      result.findings = reported.map Prod.fst ∧
      let count := reported.length
      result.answer = s!"Ranked {count} inspection targets from deterministic findings." := by
  obtain ⟨results, hresults, h⟩ := Except.bind_eq_ok.mp h
  obtain ⟨reported, hreported, h⟩ := Except.bind_eq_ok.mp h
  obtain ⟨population, -, h⟩ := Except.bind_eq_ok.mp h
  cases h
  exact ⟨results, reported, hresults, hreported, rfl, rfl, rfl, rfl⟩

/-- Two reviews differ in how many of the candidates they take. -/
theorem sameAnalysis_priorities {m m' : Nat} {result result' : AnalyzerResult}
    (h : analyzePriorities py sources (request.upTo m) snapshot comparison = .ok result)
    (h' : analyzePriorities py sources (request.upTo m') snapshot comparison = .ok result') :
    SameAnalysis m m' result result' := by
  obtain ⟨results, reported, hresults, hreported, hstatus, hlimitations, hfindings, hanswer⟩ := analyzePriorities_ok h
  obtain ⟨results', reported', hresults', hreported', hstatus', hlimitations', hfindings', hanswer'⟩ :=
    analyzePriorities_ok h'
  have hsame : results = results' :=
    Except.mapM_ok_congr (fun source _ _ _ hone htwo => Source.result_upTo hone htwo) hresults hresults'
  subst hsame
  have hlength : reported.length ≤ m := by
    rw [Except.length_mapM hreported]
    exact List.length_take_le _ _
  have hlength' : reported'.length ≤ m' := by
    rw [Except.length_mapM hreported']
    exact List.length_take_le _ _
  have htake : result.findings.take m = result.findings := List.take_of_length_le (by simpa [hfindings] using hlength)
  have htake' : result'.findings.take m' = result'.findings :=
    List.take_of_length_le (by simpa [hfindings'] using hlength')
  refine ⟨hstatus'.trans hstatus.symm, hlimitations'.trans hlimitations.symm, ?_, ?_⟩
  · -- the longer of the two lists starts with the shorter
    rcases Nat.le_total m m' with hle | hle
    · refine ⟨result'.findings, ?_, rfl⟩
      rw [htake, hfindings, hfindings', Except.mapM_take hle hreported hreported', List.map_take]
    · refine ⟨result.findings, rfl, ?_⟩
      rw [htake', hfindings, hfindings', Except.mapM_take hle hreported' hreported, List.map_take]
  · intro hnil hnil'
    rw [htake, hfindings, List.map_eq_nil_iff] at hnil
    rw [htake', hfindings', List.map_eq_nil_iff] at hnil'
    rw [hanswer, hanswer', hnil, hnil']

end

def priorityReview (py : PyFormat) (sources : List Source) : Analyzer where
  analyze := analyzePriorities py sources
  bounds _ _ _ _ _ _ _ h h' := sameAnalysis_priorities h h'

end SimPilot.Analysis
