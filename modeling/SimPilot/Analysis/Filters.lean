import SimPilot.Analysis.Population
import SimPilot.Analysis.PriorityReview
import SimPilot.Analysis.Truncation
/-!
# The filters of a request (analysis/registry.py, analysis/service.py)

A response of the default registry: every finding on the population is on an entity that
satisfies the filters where each entity looked at does, or the analyzer applies them. Where
nothing is cut off and no two entities share an id it is so in no other case
(`filters_honoured`). A question for one station is answered with another
(`not_filters_honoured_stations`).

| here | there |
|---|---|
| `OtherAnalyzers` | the analyzers of the default registry that are not modelled |
| `defaultSources` | `PriorityReviewAnalyzer._sources` with `_source_subjects` |
-/

namespace SimPilot.Analysis

/-! ## The registry -/

structure OtherAnalyzers where
  dump : AnalysisSubjectType → String → JsonValue
  companyHealth : Source
  financialSummary : Analyzer
  worldChanges : Analyzer
  anomalyDetection : Analyzer

section
variable (py : PyFormat) (others : OtherAnalyzers)

def defaultSources : List Source :=
  [others.companyHealth,
    ⟨.vehiclePerformance, .vehicle, fun request snapshot _ => analyzeVehicles py snapshot request,
      analyzeVehicles_upTo py⟩,
    ⟨.stationPerformance, .station, fun request snapshot _ => analyzeStations py snapshot request,
      analyzeStations_upTo py⟩,
    ⟨.routePerformance, .route, fun request snapshot _ => analyzeRoutes py snapshot request,
      analyzeRoutes_upTo py⟩,
    ⟨.townCoverage, .town, fun request snapshot _ => townAnalysis py snapshot request .townCoverage,
      townAnalysis_upTo py⟩,
    ⟨.industryOpportunities, .industry,
      fun request snapshot _ => industryAnalysis py snapshot request .industryOpportunities,
      industryAnalysis_upTo py⟩]

def defaultAnalyzerRegistry : Assoc AnalysisType Analyzer :=
  [(.companyHealth, .unbounded others.companyHealth.analyze others.companyHealth.ignores),
    (.financialSummary, others.financialSummary), (.vehiclePerformance, vehiclePerformance py),
    (.stationPerformance, stationPerformance py), (.routePerformance, routePerformance py),
    (.serviceCoverage, serviceCoverage py), (.industryOpportunities, industryOpportunities py),
    (.townCoverage, townCoverage py), (.fleetSummary, fleetSummary py), (.worldChanges, others.worldChanges),
    (.anomalyDetection, others.anomalyDetection), (.priorityReview, priorityReview py (defaultSources py others)),
    (.entitySummary, entitySummary py others.dump)]

end

/-! ## Entities that are looked at -/

section
variable {request : AnalysisRequest} {snapshot : WorldSnapshot}

@[simp] theorem mem_membersOf (member : Member) :
    member ∈ membersOf snapshot ↔ (∃ item ∈ snapshot.vehicles, item.member = member) ∨
      (∃ item ∈ snapshot.stations, item.member = member) ∨ (∃ item ∈ snapshot.routes, item.member = member) ∨
      (∃ item ∈ snapshot.towns, item.member = member) ∨ ∃ item ∈ snapshot.industries, item.member = member := by
  simp [membersOf]

theorem mem_map_filter {α : Type} {xs : List α} {p : α → Bool} {f : α → Member} {member : Member}
    (h : member ∈ (xs.filter p).map f) : ∃ item ∈ xs, p item = true ∧ f item = member := by
  obtain ⟨item, hitem, rfl⟩ := List.mem_map.mp h
  exact ⟨item, (List.mem_filter.mp hitem).1, (List.mem_filter.mp hitem).2, rfl⟩

theorem lookedAt_subset : lookedAt request snapshot ⊆ membersOf snapshot := by
  intro member hmember
  rw [mem_membersOf]
  unfold lookedAt at hmember
  split at hmember
  · obtain ⟨item, hitem, -, hmember⟩ := mem_map_filter hmember
    exact .inl ⟨item, hitem, hmember⟩
  · obtain ⟨item, hitem, -, hmember⟩ := mem_map_filter hmember
    exact .inl ⟨item, hitem, hmember⟩
  · obtain ⟨item, hitem, -, hmember⟩ := mem_map_filter hmember
    exact .inr (.inl ⟨item, hitem, hmember⟩)
  · obtain ⟨item, hitem, -, hmember⟩ := mem_map_filter hmember
    exact .inr (.inr (.inl ⟨item, hitem, hmember⟩))
  · obtain ⟨item, hitem, -, hmember⟩ := mem_map_filter hmember
    exact .inr (.inr (.inr (.inl ⟨item, hitem, hmember⟩)))
  · obtain ⟨item, hitem, -, hmember⟩ := mem_map_filter hmember
    exact .inr (.inr (.inr (.inr ⟨item, hitem, hmember⟩)))
  · rcases List.mem_append.mp hmember with hmember | hmember
    · obtain ⟨item, hitem, -, hmember⟩ := mem_map_filter hmember
      exact .inr (.inr (.inr (.inl ⟨item, hitem, hmember⟩)))
    · obtain ⟨item, hitem, -, hmember⟩ := mem_map_filter hmember
      exact .inr (.inr (.inr (.inr ⟨item, hitem, hmember⟩)))
  · exact mem_membersOf member |>.mp (List.mem_filter.mp hmember).1
  · cases hmember

/-- The kinds that the members of a snapshot have. -/
theorem kind_of_mem {member : Member} (h : member ∈ membersOf snapshot) :
    member.kind ∈ [AnalysisSubjectType.vehicle, .station, .route, .town, .industry] := by
  rw [mem_membersOf] at h
  rcases h with ⟨item, -, rfl⟩ | ⟨item, -, rfl⟩ | ⟨item, -, rfl⟩ | ⟨item, -, rfl⟩ | ⟨item, -, rfl⟩ <;>
    simp [Vehicle.member, Station.member, Route.member, Town.member, Industry.member]

theorem kind_of_lookedAt {member : Member} (h : member ∈ lookedAt request snapshot) :
    member.kind ∈ populationKinds request := by
  have hkind := kind_of_mem (lookedAt_subset h)
  unfold lookedAt at h
  unfold populationKinds
  split at h
  · obtain ⟨item, -, -, rfl⟩ := mem_map_filter h
    exact List.mem_singleton_self _
  · obtain ⟨item, -, -, rfl⟩ := mem_map_filter h
    exact List.mem_singleton_self _
  · obtain ⟨item, -, -, rfl⟩ := mem_map_filter h
    exact List.mem_singleton_self _
  · obtain ⟨item, -, -, rfl⟩ := mem_map_filter h
    exact List.mem_singleton_self _
  · obtain ⟨item, -, -, rfl⟩ := mem_map_filter h
    exact List.mem_singleton_self _
  · obtain ⟨item, -, -, rfl⟩ := mem_map_filter h
    exact List.mem_singleton_self _
  · rcases List.mem_append.mp h with h | h
    · obtain ⟨item, -, -, rfl⟩ := mem_map_filter h
      exact List.mem_cons_self ..
    · obtain ⟨item, -, -, rfl⟩ := mem_map_filter h
      exact List.mem_cons_of_mem _ (List.mem_singleton_self _)
  · have hsubject := (List.mem_filter.mp h).2
    rw [decide_eq_true_eq] at hsubject
    rw [← hsubject.1]
    simpa using hkind
  · cases h

/-! ## What the registry finds -/

variable {py : PyFormat} {others : OtherAnalyzers} {comparison : Option WorldSnapshot} {analyzer : Analyzer}
  {result : AnalyzerResult}

/-- The summary of entities finds what is asked for, and of that only what is asked for. -/
theorem mem_lookedAt_summary (htype : request.analysisType = .entitySummary) {subject : AnalysisSubjectType}
    {ids : List String} (hsubject : request.subjectType = some subject)
    (hids : collectionIds snapshot subject = .ok ids) (hkind : subject ∈ populationKinds request) {id : String}
    (hid : id ∈ ids) (hasked : id ∈ request.subjectIds) :
    ∃ member ∈ lookedAt request snapshot, member.kind = subject ∧ member.id = id := by
  suffices ∃ member ∈ membersOf snapshot, member.kind = subject ∧ member.id = id by
    obtain ⟨member, hmember, rfl, rfl⟩ := this
    refine ⟨member, ?_, rfl, rfl⟩
    simp only [lookedAt, htype]
    rw [List.mem_filter, decide_eq_true_eq]
    exact ⟨hmember, hsubject.symm, hasked⟩
  cases subject with
  | world => cases hids
  | company => simp [populationKinds, htype] at hkind
  | town =>
    cases hids
    obtain ⟨item, hitem, rfl⟩ := List.mem_map.mp hid
    exact ⟨item.member, by simpa using .inr (.inr (.inr (.inl ⟨item, hitem, rfl⟩))), rfl, rfl⟩
  | industry =>
    cases hids
    obtain ⟨item, hitem, rfl⟩ := List.mem_map.mp hid
    exact ⟨item.member, by simpa using .inr (.inr (.inr (.inr ⟨item, hitem, rfl⟩))), rfl, rfl⟩
  | station =>
    cases hids
    obtain ⟨item, hitem, rfl⟩ := List.mem_map.mp hid
    exact ⟨item.member, by simpa using .inr (.inl ⟨item, hitem, rfl⟩), rfl, rfl⟩
  | vehicle =>
    cases hids
    obtain ⟨item, hitem, rfl⟩ := List.mem_map.mp hid
    exact ⟨item.member, by simpa using .inl ⟨item, hitem, rfl⟩, rfl, rfl⟩
  | route =>
    cases hids
    obtain ⟨item, hitem, rfl⟩ := List.mem_map.mp hid
    exact ⟨item.member, by simpa using .inr (.inr (.inl ⟨item, hitem, rfl⟩)), rfl, rfl⟩

/-- A finding on the population is on an entity that is looked at and named. -/
theorem found_of_analyzed (hregistered : registered (defaultAnalyzerRegistry py others) request.analysisType = .ok analyzer)
    (hresult : analyzer.analyze request snapshot comparison = .ok result)
    (hvehicles : request.analysisType ≠ .vehiclePerformance) (hfleet : request.analysisType ≠ .fleetSummary) :
    ∀ item ∈ result.findings, ∀ kind ∈ populationKinds request, ∀ id, item.About kind id →
      FoundIn (lookedAt request snapshot) request item := by
  intro item hitem kind hkind id habout
  cases htype : request.analysisType with
  | vehiclePerformance => exact absurd htype hvehicles
  | fleetSummary => exact absurd htype hfleet
  | stationPerformance =>
    rw [htype] at hregistered
    cases hregistered
    simpa only [lookedAt, htype] using analyzeStations_about hresult item hitem
  | routePerformance =>
    rw [htype] at hregistered
    cases hregistered
    simpa only [lookedAt, htype] using analyzeRoutes_about hresult item hitem
  | townCoverage =>
    rw [htype] at hregistered
    cases hregistered
    simpa only [lookedAt, htype] using townAnalysis_about hresult item hitem
  | industryOpportunities =>
    rw [htype] at hregistered
    cases hregistered
    simpa only [lookedAt, htype] using industryAnalysis_about hresult item hitem
  | serviceCoverage =>
    rw [htype] at hregistered
    cases hregistered
    simpa only [lookedAt, htype] using analyzeServices_about hresult item hitem
  | entitySummary =>
    rw [htype] at hregistered
    cases hregistered
    obtain ⟨subject, ids, hsubject, hids, hfound⟩ := analyzeEntities_about hresult
    obtain ⟨id', hid', hasked, honly⟩ := hfound item hitem
    obtain ⟨rfl, rfl⟩ := honly.eq habout
    obtain ⟨member, hmember, hmkind, hmid⟩ := mem_lookedAt_summary htype hsubject hids hkind hid' hasked
    refine ⟨member, hmember, fun _ _ => hmid ▸ hasked, ?_⟩
    rw [hmkind, hmid]
    exact honly
  | companyHealth | financialSummary | worldChanges | anomalyDetection | priorityReview =>
    simp [populationKinds, htype] at hkind

theorem mem_ids_of_summary {member : Member} (h : member ∈ membersOf snapshot) {ids : List String}
    (hids : collectionIds snapshot member.kind = .ok ids) : member.id ∈ ids := by
  rw [mem_membersOf] at h
  rcases h with ⟨item, hitem, rfl⟩ | ⟨item, hitem, rfl⟩ | ⟨item, hitem, rfl⟩ | ⟨item, hitem, rfl⟩ | ⟨item, hitem, rfl⟩
  all_goals
    cases hids
    exact List.mem_map_of_mem hitem

/-- An entity that is looked at and named has a finding. -/
theorem covers_of_analyzed (hregistered : registered (defaultAnalyzerRegistry py others) request.analysisType = .ok analyzer)
    (hresult : analyzer.analyze request snapshot comparison = .ok result)
    (hvehicles : request.analysisType ≠ .vehiclePerformance) (hfleet : request.analysisType ≠ .fleetSummary)
    {member : Member} (hmember : member ∈ lookedAt request snapshot) (hnamed : member.named request) :
    ∃ item ∈ result.findings, item.About member.kind member.id := by
  cases htype : request.analysisType with
  | vehiclePerformance => exact absurd htype hvehicles
  | fleetSummary => exact absurd htype hfleet
  | stationPerformance =>
    rw [htype] at hregistered
    cases hregistered
    simp only [lookedAt, htype] at hmember
    obtain ⟨station, hmem, howner, rfl⟩ := mem_map_filter hmember
    exact analyzeStations_covers hresult hmem howner hnamed
  | routePerformance =>
    rw [htype] at hregistered
    cases hregistered
    simp only [lookedAt, htype] at hmember
    obtain ⟨route, hmem, hlooked, rfl⟩ := mem_map_filter hmember
    rw [decide_eq_true_eq] at hlooked
    exact analyzeRoutes_covers hresult hmem hlooked.1 hlooked.2 hnamed
  | townCoverage =>
    rw [htype] at hregistered
    cases hregistered
    simp only [lookedAt, htype] at hmember
    obtain ⟨town, hmem, hunserved, rfl⟩ := mem_map_filter hmember
    exact townAnalysis_covers hresult hmem hunserved hnamed
  | industryOpportunities =>
    rw [htype] at hregistered
    cases hregistered
    simp only [lookedAt, htype] at hmember
    obtain ⟨industry, hmem, hunserved, rfl⟩ := mem_map_filter hmember
    exact industryAnalysis_covers hresult hmem hunserved hnamed
  | serviceCoverage =>
    rw [htype] at hregistered
    cases hregistered
    simp only [lookedAt, htype] at hmember
    obtain ⟨towns, htowns, hresult⟩ := Except.bind_eq_ok.mp hresult
    obtain ⟨industries, hindustries, hresult⟩ := Except.bind_eq_ok.mp hresult
    cases hresult
    simp only [(List.perm_insertionSort _ _).mem_iff]
    rcases List.mem_append.mp hmember with hmember | hmember
    · obtain ⟨town, hmem, hunserved, rfl⟩ := mem_map_filter hmember
      obtain ⟨item, hitem, habout⟩ := townAnalysis_covers htowns hmem hunserved hnamed
      exact ⟨item, List.mem_append_left _ hitem, habout⟩
    · obtain ⟨industry, hmem, hunserved, rfl⟩ := mem_map_filter hmember
      obtain ⟨item, hitem, habout⟩ := industryAnalysis_covers hindustries hmem hunserved hnamed
      exact ⟨item, List.mem_append_right _ hitem, habout⟩
  | entitySummary =>
    rw [htype] at hregistered
    cases hregistered
    simp only [lookedAt, htype] at hmember
    rw [List.mem_filter, decide_eq_true_eq] at hmember
    obtain ⟨hmem, hsubject, hasked⟩ := hmember
    obtain ⟨subject, ids, hsubject', hids, -⟩ := analyzeEntities_about hresult
    have hkind : subject = member.kind := Option.some.inj (hsubject'.symm.trans hsubject.symm)
    subst hkind
    exact analyzeEntities_covers hresult hsubject' hids (mem_ids_of_summary hmem hids) hasked
  | companyHealth | financialSummary | worldChanges | anomalyDetection | priorityReview =>
    simp [lookedAt, htype] at hmember

/-! ## Responses -/

def defaultService (py : PyFormat) (others : OtherAnalyzers) (clock : Timestamp) : AnalysisService where
  registry := defaultAnalyzerRegistry py others
  clock := clock

/-- Whether no two entities of a kind have one id. -/
def DistinctIds (snapshot : WorldSnapshot) : Prop :=
  ∀ a ∈ membersOf snapshot, ∀ b ∈ membersOf snapshot, a.kind = b.kind → a.id = b.id → a = b

/-- Whether a response lists all that the analyzer of the request finds. -/
def AllListed (service : AnalysisService) (request : AnalysisRequest) (snapshot : WorldSnapshot)
    (comparison : Option WorldSnapshot) : Prop :=
  ∀ analyzer result, registered service.registry request.analysisType = .ok analyzer →
    analyzer.analyze request snapshot comparison = .ok result → result.findings.length ≤ request.maximumFindings

theorem analyze_findings {service : AnalysisService} {response : AnalysisResponse}
    (h : service.analyze py request snapshot comparison = .ok response) :
    ∃ analyzer result retained, registered service.registry request.analysisType = .ok analyzer ∧
      analyzer.analyze request snapshot comparison = .ok result ∧
      response.findings = (result.findings.take request.maximumFindings).map (·.retain retained) := by
  obtain ⟨capability, -, h⟩ := Except.bind_eq_ok.mp h
  obtain ⟨compared, -, h⟩ := Except.bind_eq_ok.mp h
  obtain ⟨analyzer, hanalyzer, h⟩ := Except.bind_eq_ok.mp h
  obtain ⟨result, hresult, h⟩ := Except.bind_eq_ok.mp h
  obtain ⟨_, _, h⟩ := Except.bind_eq_ok.mp h
  obtain ⟨interaction, -, h⟩ := Except.bind_eq_ok.mp h
  rw [construct_ok h]
  exact ⟨analyzer, result, _, hanalyzer, hresult, rfl⟩

theorem about_retain {item : AnalysisFinding} {retained : List String} {kind : AnalysisSubjectType} {id : String} :
    (item.retain retained).About kind id ↔ item.About kind id := Iff.rfl

theorem honoured_of_idle {clock : Timestamp} {response : AnalysisResponse}
    (h : (defaultService py others clock).analyze py request snapshot comparison = .ok response)
    (hidle : FiltersIdle request snapshot) : Honoured request snapshot response.findings := by
  obtain ⟨analyzer, result, retained, hregistered, hresult, hfindings⟩ := analyze_findings h
  intro listed hlisted kind hkind id habout
  rw [hfindings] at hlisted
  obtain ⟨item, hitem, rfl⟩ := List.mem_map.mp hlisted
  have hitem := List.mem_of_mem_take hitem
  rw [about_retain] at habout
  by_cases hvehicles : request.analysisType = .vehiclePerformance
  · rw [hvehicles] at hregistered
    cases hregistered
    obtain ⟨vehicle, hmem, hnamed, hadmitted, honly⟩ := analyzeVehicles_about hresult item hitem
    obtain ⟨rfl, rfl⟩ := honly.eq habout
    exact ⟨vehicle.member, by simpa using .inl ⟨vehicle, hmem, rfl⟩, rfl, rfl, hnamed, hadmitted⟩
  by_cases hfleet : request.analysisType = .fleetSummary
  · -- the findings on the fleet are on the company
    rw [hfleet] at hregistered
    cases hregistered
    obtain ⟨company, honly⟩ := analyzeFleet_about hresult item hitem
    obtain ⟨rfl, rfl⟩ := honly.eq habout
    simp [populationKinds, hfleet] at hkind
  obtain ⟨member, hmember, hnamed, honly⟩ :=
    found_of_analyzed hregistered hresult hvehicles hfleet item hitem kind hkind id habout
  obtain ⟨rfl, rfl⟩ := honly.eq habout
  have hadmitted := ((hidle.resolve_left hvehicles).resolve_left hfleet) member hmember hnamed
  exact ⟨member, lookedAt_subset hmember, rfl, rfl, hnamed, hadmitted⟩

theorem idle_of_honoured {clock : Timestamp} {response : AnalysisResponse}
    (h : (defaultService py others clock).analyze py request snapshot comparison = .ok response)
    (hdistinct : DistinctIds snapshot) (hall : AllListed (defaultService py others clock) request snapshot comparison)
    (hhonoured : Honoured request snapshot response.findings) : FiltersIdle request snapshot := by
  obtain ⟨analyzer, result, retained, hregistered, hresult, hfindings⟩ := analyze_findings h
  unfold FiltersIdle
  by_cases hvehicles : request.analysisType = .vehiclePerformance
  · exact .inl hvehicles
  by_cases hfleet : request.analysisType = .fleetSummary
  · exact .inr (.inl hfleet)
  refine .inr (.inr fun member hmember hnamed => ?_)
  obtain ⟨item, hitem, habout⟩ := covers_of_analyzed hregistered hresult hvehicles hfleet hmember hnamed
  have hlisted : item.retain retained ∈ response.findings := by
    rw [hfindings, List.take_of_length_le (hall analyzer result hregistered hresult)]
    exact List.mem_map_of_mem hitem
  obtain ⟨other, hother, hkind, hid, -, hadmitted⟩ :=
    hhonoured _ hlisted member.kind (kind_of_lookedAt hmember) member.id (about_retain.mpr habout)
  rw [← hdistinct other hother member (lookedAt_subset hmember) hkind hid]
  exact hadmitted

end

section Example

def stationFormat : PyFormat where
  toPyText := asciiFormat.toPyText
  title := asciiFormat.title
  sha256 material :=
    if material = "station_performance|snapshot-1|station_waiting_pressure|station-1" then
      "28011ecc080aed634e8e52c00f573a9bfc334e7e72cb711b95ec1f8e48905b1b"
    else if material = "station_performance|snapshot-1|station_waiting_pressure|station-2" then
      "3ccf7c49ebf62719ec1885e711645e6dbc7b6594812b8a549cd7480b571858f0"
    else material

def twoStations : WorldSnapshot where
  metadata := twoBuses.metadata
  coverage := [⟨"stations", .available⟩, ⟨"cargo", .available⟩]
  companies := [{ id := "company-1", name := "Transport" }]
  stations :=
    [{ id := "station-1", name := "North", ownerId := "company-1", coordinates := ⟨1, 1⟩, waitingCargo := [{ waiting := some 40 }]
       vehicleCount := 2 },
      { id := "station-2", name := "South", ownerId := "company-1", coordinates := ⟨9, 9⟩
        waitingCargo := [{ waiting := some 90 }], vehicleCount := 1 }]

def stationQuestion : AnalysisRequest where
  analysisType := .stationPerformance
  question := "How much cargo waits at the northern station?"
  filters := [{ field := .stationId, operator := .equal, values := [.str "station-1"], size := by decide, arity := by decide }]

def noOthers : OtherAnalyzers where
  dump _ _ := .null
  companyHealth := ⟨.companyHealth, .company, fun _ _ _ => .error (.other "" ""), fun _ _ _ _ => rfl⟩
  financialSummary := .unbounded (fun _ _ _ => .error (.other "" "")) fun _ _ _ _ => rfl
  worldChanges := .unbounded (fun _ _ _ => .error (.other "" "")) fun _ _ _ _ => rfl
  anomalyDetection := .unbounded (fun _ _ _ => .error (.other "" "")) fun _ _ _ _ => rfl

def stationResponse : Except PyError AnalysisResponse :=
  (defaultService stationFormat noOthers 0).analyze stationFormat stationQuestion twoStations none

/-- The entities the findings of the response are about, in their order. -/
theorem stationResponse_entities : stationResponse.toOption.map (fun response =>
      response.findings.map fun item => item.evidence.map fun e => (e.entityType, e.entityId)) =
    some [[(some .station, some "station-2")], [(some .station, some "station-1")]] := by
  decide +kernel

theorem exists_stationResponse : ∃ response, stationResponse = .ok response ∧
    ∃ item ∈ response.findings, item.About .station "station-2" := by
  have hentities := stationResponse_entities
  cases hresponse : stationResponse with
  | error e =>
    rw [hresponse] at hentities
    cases hentities
  | ok response =>
    rw [hresponse] at hentities
    have hlist : (response.findings.map fun item => item.evidence.map fun e => (e.entityType, e.entityId)) =
        [[(some .station, some "station-2")], [(some .station, some "station-1")]] := Option.some.inj hentities
    have hmem : [(some AnalysisSubjectType.station, some "station-2")] ∈
        response.findings.map fun item => item.evidence.map fun e => (e.entityType, e.entityId) := by
      rw [hlist]
      exact List.mem_cons_self ..
    obtain ⟨item, hitem, hevidence⟩ := List.mem_map.mp hmem
    have hfirst : (some AnalysisSubjectType.station, some "station-2") ∈
        item.evidence.map fun e => (e.entityType, e.entityId) := by
      rw [hevidence]
      exact List.mem_cons_self ..
    obtain ⟨e, he, hentity⟩ := List.mem_map.mp hfirst
    exact ⟨response, rfl, item, hitem, e, he, congrArg Prod.fst hentity, congrArg Prod.snd hentity⟩

/-- The filter of the question rules the southern station out. -/
theorem not_honoured_stations {response : AnalysisResponse}
    (h : ∃ item ∈ response.findings, item.About .station "station-2") :
    ¬ Honoured stationQuestion twoStations response.findings := by
  intro hhonoured
  obtain ⟨item, hitem, habout⟩ := h
  obtain ⟨member, hmember, -, hid, -, hadmitted⟩ :=
    hhonoured item hitem .station (List.mem_singleton_self _) "station-2" habout
  have hothers : ∀ member ∈ membersOf twoStations, member.id = "station-2" →
      member.admitted stationQuestion.filters = false := by decide
  rw [hothers member hmember hid] at hadmitted
  cases hadmitted

end Example

end SimPilot.Analysis
