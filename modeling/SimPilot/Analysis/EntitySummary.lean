import SimPilot.Analysis.Fleet
/-!
# The summary of entities (analysis/analyzers/changes.py:341-393)

A finding for each entity of the subject that is asked for, with all its fields. What an
entity is dumped as is a parameter: most of the fields are not modelled.

| here | there |
|---|---|
| `collectionIds` | the ids of `collections[request.subject_type]` |
| `dump subject id` | `item.model_dump(mode="json")` |
| `entitySummary` | an instance of `EntitySummaryAnalyzer` |
-/

namespace SimPilot.Analysis

def collectionIds (snapshot : WorldSnapshot) : AnalysisSubjectType → Except PyError (List String)
  | .world => .error (.other "KeyError" "AnalysisSubjectType.WORLD")
  | .company => .ok (snapshot.companies.map (·.id))
  | .town => .ok (snapshot.towns.map (·.id))
  | .industry => .ok (snapshot.industries.map (·.id))
  | .station => .ok (snapshot.stations.map (·.id))
  | .vehicle => .ok (snapshot.vehicles.map (·.id))
  | .route => .ok (snapshot.routes.map (·.id))

section
variable (py : PyFormat) (dump : AnalysisSubjectType → String → JsonValue) (snapshot : WorldSnapshot)

def reportedEntity (subject : AnalysisSubjectType) (id : String) : Except PyError Reported := do
  let evidence ← construct EvidenceReference.fieldError
    { sourceType := .snapshotField, snapshotId := snapshot.metadata.snapshotId, entityType := some subject
      entityId := some id, field := "canonical_entity", observedValue := dump subject id }
  let kind := py.title subject.value
  makeFinding py snapshot
    { analysisType := .entitySummary, code := "entity_summary", entityIds := [id], kind := .observedFact
      severity := .informational, title := s!"{kind} {id}", summary := s!"Observed canonical summary for {id}."
      confidence := .high, evidence := [evidence] }

/-- `EntitySummaryAnalyzer.analyze` -/
def analyzeEntities (request : AnalysisRequest) : Except PyError AnalyzerResult := do
  match request.subjectType with
  | none => throw (.other "AssertionError" "")
  | some subject =>
    let ids ← collectionIds snapshot subject
    let values := ids.filter (· ∈ request.subjectIds)
    let results ← (values.insertionSort fun a b => a ≤ b).mapM (reportedEntity py dump snapshot subject)
    let missing := (request.subjectIds.filter (· ∉ values)).insertionSort fun a b => a ≤ b
    let found := results.length
    let asked := request.subjectIds.length
    return { status := if results = [] then .insufficientData else .completed
             answer := s!"Found {found} of {asked} requested entities."
             findings := results.map Prod.fst
             limitations := missing.map fun id => s!"Entity {id} was not observed." }

end

def entitySummary (py : PyFormat) (dump : AnalysisSubjectType → String → JsonValue) : Analyzer :=
  .unbounded (fun request snapshot _ => analyzeEntities py dump snapshot request) fun _ _ _ _ => rfl

end SimPilot.Analysis
