import SimPilot.Analysis.EntitySummary
/-!
# Filters and subjects (catalog.py, analyzers/*.py)

The catalog admits filters for eight of the analyses. The analyzers of the vehicles apply
them (`_selected_vehicles`), the others do not look at them, so a finding may be about an
entity a filter rules out. The named subjects all of them apply. What a finding is about is
what its evidence is about.

| here | there |
|---|---|
| `populationKinds request` | the kinds of entity an analysis that admits filters is about |
| `Member` | an entity with the fields `filter_value` is asked for |
| `lookedAt request snapshot` | the entities the analyzer of the request has findings on, its filters and subjects apart |
-/

namespace SimPilot.Analysis

/-! ## Entities -/

structure Member where
  kind : AnalysisSubjectType
  id : String
  fields : List (AnalysisFilterField × FieldValue)

def Member.admitted (filters : List AnalysisFilter) (member : Member) : Bool :=
  member.fields.all fun item => filterValue filters item.1 item.2

/-- Whether a request names an entity, where it names some of its kind. -/
def Member.named (request : AnalysisRequest) (member : Member) : Prop :=
  request.subjectType = some member.kind → request.subjectIds ≠ [] → member.id ∈ request.subjectIds

def Vehicle.member (vehicle : Vehicle) : Member := ⟨.vehicle, vehicle.id, vehicleFields vehicle⟩

def Station.member (station : Station) : Member :=
  ⟨.station, station.id, [(.entityId, some (.str station.id)), (.ownerId, some (.str station.ownerId)),
    (.stationId, some (.str station.id))]⟩

def Route.member (route : Route) : Member :=
  ⟨.route, route.id, [(.entityId, some (.str route.id)), (.ownerId, some (.str route.ownerId)),
    (.routeId, some (.str route.id)), (.vehicleType, some (.str route.inferredRouteType))]⟩

def Town.member (town : Town) : Member :=
  ⟨.town, town.id, [(.entityId, some (.str town.id)), (.townId, some (.str town.id))]⟩

def Industry.member (industry : Industry) : Member :=
  ⟨.industry, industry.id, [(.entityId, some (.str industry.id)), (.industryId, some (.str industry.id))]⟩

def membersOf (snapshot : WorldSnapshot) : List Member :=
  snapshot.vehicles.map (·.member) ++ snapshot.stations.map (·.member) ++ snapshot.routes.map (·.member) ++
    snapshot.towns.map (·.member) ++ snapshot.industries.map (·.member)

/-! ## What is asked -/

def populationKinds (request : AnalysisRequest) : List AnalysisSubjectType :=
  match request.analysisType with
  | .vehiclePerformance | .fleetSummary => [.vehicle]
  | .stationPerformance => [.station]
  | .routePerformance => [.route]
  | .townCoverage => [.town]
  | .industryOpportunities => [.industry]
  | .serviceCoverage => [.town, .industry]
  | .entitySummary => request.subjectType.toList.filter (· ∈ [.vehicle, .station, .route, .town, .industry])
  | _ => []

/-- An entity one of the pieces of evidence of a finding is about. -/
def AnalysisFinding.About (item : AnalysisFinding) (kind : AnalysisSubjectType) (id : String) : Prop :=
  ∃ evidence ∈ item.evidence, evidence.entityType = some kind ∧ evidence.entityId = some id

/-- Every finding on the population is on an entity that the filters admit and the subjects name. -/
def Honoured (request : AnalysisRequest) (snapshot : WorldSnapshot) (findings : List AnalysisFinding) : Prop :=
  ∀ item ∈ findings, ∀ kind ∈ populationKinds request, ∀ id, item.About kind id →
    ∃ member ∈ membersOf snapshot, member.kind = kind ∧ member.id = id ∧ member.named request ∧
      member.admitted request.filters = true

def ownedByObserver (snapshot : WorldSnapshot) (ownerId : String) : Bool :=
  (observerCompany snapshot).toOption.any fun company => ownerId = company.id

def lookedAt (request : AnalysisRequest) (snapshot : WorldSnapshot) : List Member :=
  match request.analysisType with
  | .vehiclePerformance | .fleetSummary =>
    (snapshot.vehicles.filter fun item => ownedByObserver snapshot item.ownerId).map (·.member)
  | .stationPerformance =>
    (snapshot.stations.filter fun item => ownedByObserver snapshot item.ownerId).map (·.member)
  | .routePerformance =>
    (snapshot.routes.filter fun item =>
      ownedByObserver snapshot item.ownerId ∧ routeMembers snapshot item ≠ []).map (·.member)
  | .townCoverage => (snapshot.towns.filter (·.unserved)).map (·.member)
  | .industryOpportunities => (snapshot.industries.filter (·.unserved)).map (·.member)
  | .serviceCoverage =>
    (snapshot.towns.filter (·.unserved)).map (·.member) ++ (snapshot.industries.filter (·.unserved)).map (·.member)
  | .entitySummary =>
    (membersOf snapshot).filter fun member => some member.kind = request.subjectType ∧ member.id ∈ request.subjectIds
  | _ => []

/-- Whether a filter that is not applied would take nothing away. -/
def FiltersIdle (request : AnalysisRequest) (snapshot : WorldSnapshot) : Prop :=
  request.analysisType = .vehiclePerformance ∨ request.analysisType = .fleetSummary ∨
    ∀ member ∈ lookedAt request snapshot, member.named request → member.admitted request.filters = true

/-! ## What a finding is about -/

section
variable {py : PyFormat} {snapshot : WorldSnapshot}

def AnalysisFinding.OnlyAbout (item : AnalysisFinding) (kind : AnalysisSubjectType) (id : String) : Prop :=
  ∀ evidence ∈ item.evidence, evidence.entityType = some kind ∧ evidence.entityId = some id

theorem AnalysisFinding.OnlyAbout.eq {item : AnalysisFinding} {kind kind' : AnalysisSubjectType} {id id' : String}
    (honly : item.OnlyAbout kind id) (habout : item.About kind' id') : kind' = kind ∧ id' = id := by
  obtain ⟨evidence, hevidence, hkind, hid⟩ := habout
  obtain ⟨hkind', hid'⟩ := honly evidence hevidence
  exact ⟨Option.some.inj (hkind.symm.trans hkind'), Option.some.inj (hid.symm.trans hid')⟩

theorem AnalysisFinding.OnlyAbout.about {item : AnalysisFinding} {kind : AnalysisSubjectType} {id : String}
    (honly : item.OnlyAbout kind id) (hevidence : item.evidence ≠ []) : item.About kind id := by
  obtain ⟨evidence, hmem⟩ := List.exists_mem_of_ne_nil _ hevidence
  exact ⟨evidence, hmem, honly evidence hmem⟩

theorem makeFinding_about {draft : FindingDraft} {item : Reported} (h : makeFinding py snapshot draft = .ok item)
    {kind : AnalysisSubjectType} {id : String}
    (hevidence : ∀ e ∈ draft.evidence, e.entityType = some kind ∧ e.entityId = some id) : item.1.OnlyAbout kind id := by
  obtain ⟨recommendation, -, h⟩ := Except.bind_eq_ok.mp h
  obtain ⟨finding, hfinding, h⟩ := Except.bind_eq_ok.mp h
  cases h
  rw [construct_ok hfinding]
  exact hevidence

theorem construct_valid {α : Type} {fieldError : α → Option String} {model result : α}
    (h : construct fieldError model = .ok result) : fieldError result = none := by
  have hresult := construct_ok h
  unfold construct at h
  split at h
  · cases h
  · rename_i hvalid
    rw [hresult, hvalid]

theorem AnalysisFinding.evidence_ne_nil {item : AnalysisFinding} (h : item.fieldError = none) : item.evidence ≠ [] := by
  intro hnil
  unfold AnalysisFinding.fieldError at h
  split_ifs at h with _ _ _ _ _ hevidence
  exact hevidence (.inl hnil)

theorem makeFinding_evidence {draft : FindingDraft} {item : Reported} (h : makeFinding py snapshot draft = .ok item) :
    item.1.evidence ≠ [] := by
  obtain ⟨recommendation, -, h⟩ := Except.bind_eq_ok.mp h
  obtain ⟨finding, hfinding, h⟩ := Except.bind_eq_ok.mp h
  cases h
  exact AnalysisFinding.evidence_ne_nil (construct_valid hfinding)

theorem metricEvidence_entity {kind : AnalysisSubjectType} {id field : String} {value : JsonValue} {inputs : Dict}
    {e : EvidenceReference} (h : metricEvidence snapshot kind id field value inputs = .ok e) :
    e.entityType = some kind ∧ e.entityId = some id := by
  rw [construct_ok h]
  exact ⟨rfl, rfl⟩

theorem fieldEvidence_entity {kind : AnalysisSubjectType} {id field : String} {value : JsonValue}
    {e : EvidenceReference} (h : fieldEvidence snapshot kind id field value = .ok e) :
    e.entityType = some kind ∧ e.entityId = some id := by
  rw [construct_ok h]
  exact ⟨rfl, rfl⟩

theorem vehicleField_entity {vehicle : Vehicle} {field : String} {value : JsonValue} {e : EvidenceReference}
    (h : vehicleField snapshot vehicle field value = .ok e) :
    e.entityType = some .vehicle ∧ e.entityId = some vehicle.id := by
  rw [construct_ok h]
  exact ⟨rfl, rfl⟩

theorem made_about {evidence : Except PyError EvidenceReference} {draft : EvidenceReference → FindingDraft}
    {item : Reported} (h : ∃ e, evidence = .ok e ∧ makeFinding py snapshot (draft e) = .ok item)
    {kind : AnalysisSubjectType} {id : String}
    (hevidence : ∀ e, evidence = .ok e → e.entityType = some kind ∧ e.entityId = some id)
    (hdraft : ∀ e, (draft e).evidence = [e]) : item.1.OnlyAbout kind id := by
  obtain ⟨e, he, h⟩ := h
  refine makeFinding_about h fun e' he' => ?_
  rw [hdraft, List.mem_singleton] at he'
  rw [he']
  exact hevidence e he

/-- What is made of one piece of evidence is about its entity. -/
theorem single_about {evidence : Except PyError EvidenceReference} {draft : EvidenceReference → FindingDraft}
    {item : Reported} (h : (do makeFinding py snapshot (draft (← evidence))) = Except.ok item)
    {kind : AnalysisSubjectType} {id : String}
    (hevidence : ∀ e, evidence = .ok e → e.entityType = some kind ∧ e.entityId = some id)
    (hdraft : ∀ e, (draft e).evidence = [e]) : item.1.OnlyAbout kind id :=
  made_about (Except.bind_eq_ok.mp h) hevidence hdraft

/-! ### Vehicles -/

theorem reportedLoss_about {vehicle : Vehicle} {items : List Reported} (h : reportedLoss py snapshot vehicle = .ok items) :
    ∀ item ∈ items, item.1.OnlyAbout .vehicle vehicle.id := by
  unfold reportedLoss at h
  dsimp only at h
  by_cases hlast : vehicle.profitLastYear < 0
  · rw [if_pos hlast] at h
    exact fun item hitem => made_about (listed_made h item hitem) (fun _ => vehicleField_entity) fun _ => rfl
  · rw [if_neg hlast] at h
    by_cases hthis : vehicle.profitThisYear < 0
    · rw [if_pos hthis] at h
      exact fun item hitem => made_about (listed_made h item hitem) (fun _ => vehicleField_entity) fun _ => rfl
    · rw [if_neg hthis] at h
      cases h
      simp

theorem reportedAge_about {vehicle : Vehicle} {items : List Reported} (h : reportedAge py snapshot vehicle = .ok items) :
    ∀ item ∈ items, item.1.OnlyAbout .vehicle vehicle.id :=
  fun item hitem => made_about (optional_made h item hitem) (fun _ => vehicleField_entity) fun _ => rfl

theorem reportedIdle_about {vehicle : Vehicle} {items : List Reported} (h : reportedIdle py snapshot vehicle = .ok items) :
    ∀ item ∈ items, item.1.OnlyAbout .vehicle vehicle.id := by
  unfold reportedIdle at h
  dsimp only at h
  by_cases hidle : vehicle.isIdle py = true
  · rw [if_pos hidle] at h
    obtain ⟨running, hrunning, h⟩ := Except.bind_eq_ok.mp h
    obtain ⟨depot, hdepot, h⟩ := Except.bind_eq_ok.mp h
    obtain ⟨made, hmade, h⟩ := Except.bind_eq_ok.mp h
    cases h
    intro item hitem
    rw [List.mem_singleton.mp hitem]
    refine makeFinding_about hmade ?_
    simp [vehicleField_entity hrunning, vehicleField_entity hdepot]
  · rw [if_neg hidle] at h
    cases h
    simp

theorem reportedRoute_about {vehicle : Vehicle} {items : List Reported}
    (h : reportedRoute py snapshot vehicle = .ok items) : ∀ item ∈ items, item.1.OnlyAbout .vehicle vehicle.id :=
  fun item hitem => made_about (optional_made h item hitem) (fun _ => vehicleField_entity) fun _ => rfl

theorem reported_about {vehicle : Vehicle} {items : List Reported} (h : reported py snapshot vehicle = .ok items) :
    ∀ item ∈ items, item.1.OnlyAbout .vehicle vehicle.id := by
  obtain ⟨loss, hloss, h⟩ := Except.bind_eq_ok.mp h
  obtain ⟨age, hage, h⟩ := Except.bind_eq_ok.mp h
  obtain ⟨idle, hidle, h⟩ := Except.bind_eq_ok.mp h
  obtain ⟨route, hroute, h⟩ := Except.bind_eq_ok.mp h
  cases h
  intro item hitem
  simp only [List.mem_append] at hitem
  rcases hitem with ((hitem | hitem) | hitem) | hitem
  · exact reportedLoss_about hloss item hitem
  · exact reportedAge_about hage item hitem
  · exact reportedIdle_about hidle item hitem
  · exact reportedRoute_about hroute item hitem

/-! ### Stations and routes -/

theorem reportedPressure_about {station : Station} {item : Reported}
    (h : reportedPressure py snapshot station = .ok item) : item.1.OnlyAbout .station station.id :=
  single_about h (fun _ => metricEvidence_entity) fun _ => rfl

theorem reportedShortage_about {station : Station} {items : List Reported}
    (h : reportedShortage py snapshot station = .ok items) : ∀ item ∈ items, item.1.OnlyAbout .station station.id := by
  unfold reportedShortage at h
  dsimp only at h
  by_cases hnone : 500 ≤ waitingCargo station ∧ station.vehicleCount = 0
  · rw [if_pos hnone] at h
    obtain ⟨count, hcount, h⟩ := Except.bind_eq_ok.mp h
    obtain ⟨total, htotal, h⟩ := Except.bind_eq_ok.mp h
    obtain ⟨made, hmade, h⟩ := Except.bind_eq_ok.mp h
    cases h
    intro item hitem
    rw [List.mem_singleton.mp hitem]
    refine makeFinding_about hmade ?_
    simp [fieldEvidence_entity hcount, metricEvidence_entity htotal]
  · rw [if_neg hnone] at h
    by_cases hone : 1000 ≤ waitingCargo station ∧ station.vehicleCount = 1
    · rw [if_pos hone] at h
      exact fun item hitem => made_about (listed_made h item hitem) (fun _ => fieldEvidence_entity) fun _ => rfl
    · rw [if_neg hone] at h
      cases h
      simp

theorem reportedStation_about {station : Station} {items : List Reported}
    (h : reportedStation py snapshot station = .ok items) : ∀ item ∈ items, item.1.OnlyAbout .station station.id := by
  obtain ⟨pressure, hpressure, h⟩ := Except.bind_eq_ok.mp h
  obtain ⟨shortage, hshortage, h⟩ := Except.bind_eq_ok.mp h
  cases h
  intro item hitem
  rcases List.mem_cons.mp hitem with rfl | hitem
  · exact reportedPressure_about hpressure
  · exact reportedShortage_about hshortage item hitem

theorem reportedProfit_about {route : Route} {item : Reported} (h : reportedProfit py snapshot route = .ok item) :
    item.1.OnlyAbout .route route.id :=
  single_about h (fun _ => metricEvidence_entity) fun _ => rfl

variable {request : AnalysisRequest}

theorem reportedLosers_about {route : Route} {items : List Reported}
    (h : reportedLosers py snapshot route request = .ok items) : ∀ item ∈ items, item.1.OnlyAbout .route route.id :=
  fun item hitem => made_about (optional_made h item hitem) (fun _ => metricEvidence_entity) fun _ => rfl

theorem reportedShare_about {route : Route} {items : List Reported} (h : reportedShare py snapshot route = .ok items) :
    ∀ item ∈ items, item.1.OnlyAbout .route route.id :=
  fun item hitem => made_about (optional_made h item hitem) (fun _ => metricEvidence_entity) fun _ => rfl

theorem reportedSingle_about {route : Route} {items : List Reported} (h : reportedSingle py snapshot route = .ok items) :
    ∀ item ∈ items, item.1.OnlyAbout .route route.id :=
  fun item hitem => made_about (optional_made h item hitem) (fun _ => fieldEvidence_entity) fun _ => rfl

/-- A route without an observed vehicle has no finding. -/
theorem reportedRouteOf_about {route : Route} {items : List Reported}
    (h : reportedRouteOf py snapshot route request = .ok items) :
    ∀ item ∈ items, routeMembers snapshot route ≠ [] ∧ item.1.OnlyAbout .route route.id := by
  unfold reportedRouteOf at h
  by_cases hnone : routeMembers snapshot route = []
  · rw [if_pos hnone] at h
    cases h
    simp
  · rw [if_neg hnone] at h
    obtain ⟨profit, hprofit, h⟩ := Except.bind_eq_ok.mp h
    obtain ⟨losers, hlosers, h⟩ := Except.bind_eq_ok.mp h
    obtain ⟨share, hshare, h⟩ := Except.bind_eq_ok.mp h
    obtain ⟨single, hsingle, h⟩ := Except.bind_eq_ok.mp h
    cases h
    intro item hitem
    refine ⟨hnone, ?_⟩
    simp only [List.cons_append, List.mem_cons, List.mem_append] at hitem
    rcases hitem with rfl | (hitem | hitem) | hitem
    · exact reportedProfit_about hprofit
    · exact reportedLosers_about hlosers item hitem
    · exact reportedShare_about hshare item hitem
    · exact reportedSingle_about hsingle item hitem

/-! ### Towns, industries, types of vehicles and entities -/

theorem reportedTown_about {analysisType : AnalysisType} {stations : List Coordinates} {town : Town} {item : Reported}
    (h : reportedTown py snapshot analysisType stations town = .ok item) : item.1.OnlyAbout .town town.id :=
  single_about h (fun _ => metricEvidence_entity) fun _ => rfl

theorem reportedIndustry_about {analysisType : AnalysisType} {stations : List Coordinates} {industry : Industry}
    {item : Reported} (h : reportedIndustry py snapshot analysisType stations industry = .ok item) :
    item.1.OnlyAbout .industry industry.id :=
  single_about h (fun _ => metricEvidence_entity) fun _ => rfl

theorem reportedCount_about {company : Company} {count : String × Nat} {item : Reported}
    (h : reportedCount py snapshot company count = .ok item) : item.1.OnlyAbout .company company.id :=
  single_about h (fun _ => metricEvidence_entity) fun _ => rfl

theorem reportedTypeProfit_about {company : Company} {profit : TypeProfit × Nat} {item : Reported}
    (h : reportedTypeProfit py snapshot company profit = .ok item) : item.1.OnlyAbout .company company.id :=
  single_about h (fun _ => metricEvidence_entity) fun _ => rfl

theorem reportedEntity_about {dump : AnalysisSubjectType → String → JsonValue} {subject : AnalysisSubjectType}
    {id : String} {item : Reported} (h : reportedEntity py dump snapshot subject id = .ok item) :
    item.1.OnlyAbout subject id :=
  single_about h (fun e he => by rw [construct_ok he]; exact ⟨rfl, rfl⟩) fun _ => rfl

/-! ## The analyzers -/

def FoundIn (members : List Member) (request : AnalysisRequest) (item : AnalysisFinding) : Prop :=
  ∃ member ∈ members, member.named request ∧ item.OnlyAbout member.kind member.id

theorem requested_iff (member : Member) :
    ((requestedIds request member.kind).all fun ids => member.id ∈ ids) = true ↔ member.named request := by
  unfold requestedIds Member.named
  by_cases hsome : request.subjectType = some member.kind ∧ request.subjectIds ≠ []
  · rw [if_pos hsome]
    simp [hsome.1, hsome.2]
  · rw [if_neg hsome]
    refine iff_of_true rfl fun hkind hids => absurd ⟨hkind, hids⟩ hsome

theorem ownedByObserver_eq {company : Company} (h : observerCompany snapshot = .ok company) (ownerId : String) :
    ownedByObserver snapshot ownerId = decide (ownerId = company.id) := by
  rw [ownedByObserver, h]
  rfl

theorem selectedVehicles_ok {vehicles : List Vehicle} (h : selectedVehicles snapshot request = .ok vehicles) :
    ∀ vehicle ∈ vehicles, vehicle ∈ snapshot.vehicles ∧ vehicle.member.named request ∧
      vehicle.member.admitted request.filters = true := by
  obtain ⟨company, -, h⟩ := Except.bind_eq_ok.mp h
  cases h
  intro vehicle hvehicle
  rw [(List.perm_insertionSort _ _).mem_iff, List.mem_filter, decide_eq_true_eq] at hvehicle
  obtain ⟨hmem, -, hnamed, -, hmatches⟩ := hvehicle
  exact ⟨hmem, (requested_iff vehicle.member).mp hnamed, hmatches⟩

/-- The analyzer of the vehicles applies the filters. -/
theorem analyzeVehicles_about {result : AnalyzerResult} (h : analyzeVehicles py snapshot request = .ok result) :
    ∀ item ∈ result.findings, ∃ vehicle ∈ snapshot.vehicles, vehicle.member.named request ∧
      vehicle.member.admitted request.filters = true ∧ item.OnlyAbout .vehicle vehicle.id := by
  obtain ⟨vehicles, hvehicles, h⟩ := Except.bind_eq_ok.mp h
  have hselected := selectedVehicles_ok hvehicles
  intro item hitem
  suffices ∃ vehicle ∈ vehicles, item.OnlyAbout .vehicle vehicle.id by
    obtain ⟨vehicle, hvehicle, habout⟩ := this
    obtain ⟨hmem, hnamed, hadmitted⟩ := hselected vehicle hvehicle
    exact ⟨vehicle, hmem, hnamed, hadmitted, habout⟩
  cases hranking : request.ranking with
  | none =>
    simp only [hranking] at h
    obtain ⟨results, hresults, h⟩ := Except.bind_eq_ok.mp h
    obtain ⟨company, -, h⟩ := Except.bind_eq_ok.mp h
    obtain ⟨population, -, h⟩ := Except.bind_eq_ok.mp h
    cases h
    unfold rankFindings at hitem
    simp only [(List.perm_insertionSort _ _).mem_iff, List.mem_map, List.mem_flatten] at hitem
    obtain ⟨made, ⟨items, hitems, hmade⟩, rfl⟩ := hitem
    obtain ⟨vehicle, hvehicle, hreported⟩ := (Except.mem_mapM hresults items).mp hitems
    exact ⟨vehicle, hvehicle, reported_about hreported made hmade⟩
  | some ranking =>
    simp only [hranking] at h
    unfold rankedVehicleResult at h
    split at h
    · cases h
    · obtain ⟨results, hresults, h⟩ := Except.bind_eq_ok.mp h
      obtain ⟨population, -, h⟩ := Except.bind_eq_ok.mp h
      cases h
      obtain ⟨made, hmade, rfl⟩ := List.mem_map.mp hitem
      obtain ⟨place, hplace, hreported⟩ := (Except.mem_mapM hresults made).mp hmade
      refine ⟨place.1, ?_, single_about hreported (fun _ => vehicleField_entity) fun _ => rfl⟩
      have htaken := List.mem_of_mem_take (List.fst_mem_of_mem_zipIdx hplace)
      exact (List.perm_insertionSort _ _).mem_iff.mp htaken

theorem analyzeFleet_about {result : AnalyzerResult} (h : analyzeFleet py snapshot request = .ok result) :
    ∀ item ∈ result.findings, ∃ company : Company, item.OnlyAbout .company company.id := by
  obtain ⟨vehicles, -, h⟩ := Except.bind_eq_ok.mp h
  intro item hitem
  split at h
  · obtain ⟨company, -, h⟩ := Except.bind_eq_ok.mp h
    obtain ⟨results, hresults, h⟩ := Except.bind_eq_ok.mp h
    obtain ⟨population, -, h⟩ := Except.bind_eq_ok.mp h
    cases h
    obtain ⟨made, hmade, rfl⟩ := List.mem_map.mp hitem
    obtain ⟨profit, -, hreported⟩ := (Except.mem_mapM hresults made).mp hmade
    exact ⟨company, reportedTypeProfit_about hreported⟩
  · obtain ⟨company, -, h⟩ := Except.bind_eq_ok.mp h
    obtain ⟨results, hresults, h⟩ := Except.bind_eq_ok.mp h
    obtain ⟨population, -, h⟩ := Except.bind_eq_ok.mp h
    cases h
    obtain ⟨made, hmade, rfl⟩ := List.mem_map.mp hitem
    obtain ⟨count, -, hreported⟩ := (Except.mem_mapM hresults made).mp hmade
    exact ⟨company, reportedCount_about hreported⟩

theorem analyzeStations_about {result : AnalyzerResult} (h : analyzeStations py snapshot request = .ok result) :
    ∀ item ∈ result.findings,
      FoundIn ((snapshot.stations.filter fun item => ownedByObserver snapshot item.ownerId).map (·.member))
        request item := by
  obtain ⟨stations, hstations, h⟩ := Except.bind_eq_ok.mp h
  obtain ⟨results, hresults, h⟩ := Except.bind_eq_ok.mp h
  obtain ⟨population, -, h⟩ := Except.bind_eq_ok.mp h
  obtain ⟨company, hcompany, hselected⟩ := Except.bind_eq_ok.mp hstations
  cases h
  cases hselected
  intro item hitem
  simp only [(List.perm_insertionSort _ _).mem_iff, List.mem_map, List.mem_flatten] at hitem
  obtain ⟨made, ⟨items, hitems, hmade⟩, rfl⟩ := hitem
  obtain ⟨station, hstation, hreported⟩ := (Except.mem_mapM hresults items).mp hitems
  rw [(List.perm_insertionSort _ _).mem_iff, List.mem_filter, decide_eq_true_eq] at hstation
  obtain ⟨hmem, howner, hnamed⟩ := hstation
  refine ⟨station.member, List.mem_map_of_mem (List.mem_filter.mpr ⟨hmem, ?_⟩), (requested_iff station.member).mp hnamed,
    reportedStation_about hreported made hmade⟩
  simpa [ownedByObserver_eq hcompany] using howner

theorem analyzeRoutes_about {result : AnalyzerResult} (h : analyzeRoutes py snapshot request = .ok result) :
    ∀ item ∈ result.findings,
      FoundIn ((snapshot.routes.filter fun item =>
        ownedByObserver snapshot item.ownerId ∧ routeMembers snapshot item ≠ []).map (·.member)) request item := by
  obtain ⟨routes, hroutes, h⟩ := Except.bind_eq_ok.mp h
  obtain ⟨results, hresults, h⟩ := Except.bind_eq_ok.mp h
  obtain ⟨population, -, h⟩ := Except.bind_eq_ok.mp h
  obtain ⟨company, hcompany, hselected⟩ := Except.bind_eq_ok.mp hroutes
  cases h
  cases hselected
  intro item hitem
  simp only [(List.perm_insertionSort _ _).mem_iff, List.mem_map, List.mem_flatten] at hitem
  obtain ⟨made, ⟨items, hitems, hmade⟩, rfl⟩ := hitem
  obtain ⟨route, hroute, hreported⟩ := (Except.mem_mapM hresults items).mp hitems
  obtain ⟨hobserved, habout⟩ := reportedRouteOf_about hreported made hmade
  rw [(List.perm_insertionSort _ _).mem_iff, List.mem_filter, decide_eq_true_eq] at hroute
  obtain ⟨hmem, howner, hnamed⟩ := hroute
  refine ⟨route.member, List.mem_map_of_mem (List.mem_filter.mpr ⟨hmem, ?_⟩), (requested_iff route.member).mp hnamed,
    habout⟩
  simpa [ownedByObserver_eq hcompany] using ⟨howner, hobserved⟩

theorem townAnalysis_about {analysisType : AnalysisType} {result : AnalyzerResult}
    (h : townAnalysis py snapshot request analysisType = .ok result) :
    ∀ item ∈ result.findings, FoundIn ((snapshot.towns.filter (·.unserved)).map (·.member)) request item := by
  obtain ⟨stations, -, h⟩ := Except.bind_eq_ok.mp h
  obtain ⟨results, hresults, h⟩ := Except.bind_eq_ok.mp h
  cases h
  intro item hitem
  simp only [(List.perm_insertionSort _ _).mem_iff, List.mem_map] at hitem
  obtain ⟨made, hmade, rfl⟩ := hitem
  obtain ⟨town, htown, hreported⟩ := (Except.mem_mapM hresults made).mp hmade
  rw [selectedTowns, List.mem_filter, (List.perm_insertionSort _ _).mem_iff, decide_eq_true_eq] at htown
  obtain ⟨hmem, hnamed, hunserved⟩ := htown
  exact ⟨town.member, List.mem_map_of_mem (List.mem_filter.mpr ⟨hmem, hunserved⟩), (requested_iff town.member).mp hnamed,
    reportedTown_about hreported⟩

theorem industryAnalysis_about {analysisType : AnalysisType} {result : AnalyzerResult}
    (h : industryAnalysis py snapshot request analysisType = .ok result) :
    ∀ item ∈ result.findings, FoundIn ((snapshot.industries.filter (·.unserved)).map (·.member)) request item := by
  obtain ⟨stations, -, h⟩ := Except.bind_eq_ok.mp h
  obtain ⟨results, hresults, h⟩ := Except.bind_eq_ok.mp h
  cases h
  intro item hitem
  simp only [(List.perm_insertionSort _ _).mem_iff, List.mem_map] at hitem
  obtain ⟨made, hmade, rfl⟩ := hitem
  obtain ⟨industry, hindustry, hreported⟩ := (Except.mem_mapM hresults made).mp hmade
  rw [selectedIndustries, List.mem_filter, (List.perm_insertionSort _ _).mem_iff, decide_eq_true_eq] at hindustry
  obtain ⟨hmem, hnamed, hunserved⟩ := hindustry
  exact ⟨industry.member, List.mem_map_of_mem (List.mem_filter.mpr ⟨hmem, hunserved⟩), (requested_iff industry.member).mp hnamed,
    reportedIndustry_about hreported⟩

theorem FoundIn.mono {members members' : List Member} {item : AnalysisFinding} (h : FoundIn members request item)
    (hsub : members ⊆ members') : FoundIn members' request item := by
  obtain ⟨member, hmember, hnamed, habout⟩ := h
  exact ⟨member, hsub hmember, hnamed, habout⟩

theorem analyzeServices_about {result : AnalyzerResult} (h : analyzeServices py snapshot request = .ok result) :
    ∀ item ∈ result.findings,
      FoundIn ((snapshot.towns.filter (·.unserved)).map (·.member) ++
        (snapshot.industries.filter (·.unserved)).map (·.member)) request item := by
  obtain ⟨towns, htowns, h⟩ := Except.bind_eq_ok.mp h
  obtain ⟨industries, hindustries, h⟩ := Except.bind_eq_ok.mp h
  cases h
  intro item hitem
  simp only [(List.perm_insertionSort _ _).mem_iff, List.mem_append] at hitem
  rcases hitem with hitem | hitem
  · exact (townAnalysis_about htowns item hitem).mono (List.subset_append_left _ _)
  · exact (industryAnalysis_about hindustries item hitem).mono (List.subset_append_right _ _)

theorem analyzeEntities_about {dump : AnalysisSubjectType → String → JsonValue} {result : AnalyzerResult}
    (h : analyzeEntities py dump snapshot request = .ok result) :
    ∃ subject ids, request.subjectType = some subject ∧ collectionIds snapshot subject = .ok ids ∧
      ∀ item ∈ result.findings, ∃ id ∈ ids, id ∈ request.subjectIds ∧ item.OnlyAbout subject id := by
  unfold analyzeEntities at h
  cases hsubject : request.subjectType with
  | none =>
    rw [hsubject] at h
    cases h
  | some subject =>
    simp only [hsubject] at h
    obtain ⟨ids, hids, h⟩ := Except.bind_eq_ok.mp h
    obtain ⟨results, hresults, h⟩ := Except.bind_eq_ok.mp h
    cases h
    refine ⟨subject, ids, rfl, hids, ?_⟩
    intro item hitem
    obtain ⟨made, hmade, rfl⟩ := List.mem_map.mp hitem
    obtain ⟨id, hid, hreported⟩ := (Except.mem_mapM hresults made).mp hmade
    simp only [(List.perm_insertionSort _ _).mem_iff, List.mem_filter, decide_eq_true_eq] at hid
    exact ⟨id, hid.1, hid.2, reportedEntity_about hreported⟩

/-! ## What is looked at is found -/

theorem analyzeStations_covers {result : AnalyzerResult} (h : analyzeStations py snapshot request = .ok result)
    {station : Station} (hmem : station ∈ snapshot.stations) (howner : ownedByObserver snapshot station.ownerId = true)
    (hnamed : station.member.named request) : ∃ item ∈ result.findings, item.About .station station.id := by
  obtain ⟨stations, hstations, h⟩ := Except.bind_eq_ok.mp h
  obtain ⟨results, hresults, h⟩ := Except.bind_eq_ok.mp h
  obtain ⟨population, -, h⟩ := Except.bind_eq_ok.mp h
  obtain ⟨company, hcompany, hselected⟩ := Except.bind_eq_ok.mp hstations
  cases h
  have hstation : station ∈ stations := by
    cases hselected
    rw [(List.perm_insertionSort _ _).mem_iff, List.mem_filter, decide_eq_true_eq]
    rw [ownedByObserver_eq hcompany, decide_eq_true_eq] at howner
    exact ⟨hmem, howner, (requested_iff station.member).mpr hnamed⟩
  obtain ⟨items, hreported⟩ := Except.exists_of_mapM hresults hstation
  have hitems := (Except.mem_mapM hresults items).mpr ⟨station, hstation, hreported⟩
  obtain ⟨pressure, hpressure, hrest⟩ := Except.bind_eq_ok.mp hreported
  obtain ⟨shortage, -, hrest⟩ := Except.bind_eq_ok.mp hrest
  cases hrest
  obtain ⟨evidence, hevidence, hmade⟩ := Except.bind_eq_ok.mp hpressure
  refine ⟨pressure.1, ?_, (reportedPressure_about hpressure).about (makeFinding_evidence hmade)⟩
  simp only [(List.perm_insertionSort _ _).mem_iff, List.mem_map, List.mem_flatten]
  exact ⟨pressure, ⟨_, hitems, List.mem_cons_self ..⟩, rfl⟩

theorem analyzeRoutes_covers {result : AnalyzerResult} (h : analyzeRoutes py snapshot request = .ok result)
    {route : Route} (hmem : route ∈ snapshot.routes) (howner : ownedByObserver snapshot route.ownerId = true)
    (hobserved : routeMembers snapshot route ≠ []) (hnamed : route.member.named request) :
    ∃ item ∈ result.findings, item.About .route route.id := by
  obtain ⟨routes, hroutes, h⟩ := Except.bind_eq_ok.mp h
  obtain ⟨results, hresults, h⟩ := Except.bind_eq_ok.mp h
  obtain ⟨population, -, h⟩ := Except.bind_eq_ok.mp h
  obtain ⟨company, hcompany, hselected⟩ := Except.bind_eq_ok.mp hroutes
  cases h
  have hroute : route ∈ routes := by
    cases hselected
    rw [(List.perm_insertionSort _ _).mem_iff, List.mem_filter, decide_eq_true_eq]
    rw [ownedByObserver_eq hcompany, decide_eq_true_eq] at howner
    exact ⟨hmem, howner, (requested_iff route.member).mpr hnamed⟩
  obtain ⟨items, hreported⟩ := Except.exists_of_mapM hresults hroute
  have hitems := (Except.mem_mapM hresults items).mpr ⟨route, hroute, hreported⟩
  rw [reportedRouteOf, if_neg hobserved] at hreported
  obtain ⟨profit, hprofit, hrest⟩ := Except.bind_eq_ok.mp hreported
  obtain ⟨losers, -, hrest⟩ := Except.bind_eq_ok.mp hrest
  obtain ⟨share, -, hrest⟩ := Except.bind_eq_ok.mp hrest
  obtain ⟨single, -, hrest⟩ := Except.bind_eq_ok.mp hrest
  cases hrest
  obtain ⟨evidence, hevidence, hmade⟩ := Except.bind_eq_ok.mp hprofit
  refine ⟨profit.1, ?_, (reportedProfit_about hprofit).about (makeFinding_evidence hmade)⟩
  simp only [(List.perm_insertionSort _ _).mem_iff, List.mem_map, List.mem_flatten]
  exact ⟨profit, ⟨_, hitems, by simp⟩, rfl⟩

theorem townAnalysis_covers {analysisType : AnalysisType} {result : AnalyzerResult}
    (h : townAnalysis py snapshot request analysisType = .ok result) {town : Town} (hmem : town ∈ snapshot.towns)
    (hunserved : town.unserved = true) (hnamed : town.member.named request) :
    ∃ item ∈ result.findings, item.About .town town.id := by
  obtain ⟨stations, -, h⟩ := Except.bind_eq_ok.mp h
  obtain ⟨results, hresults, h⟩ := Except.bind_eq_ok.mp h
  cases h
  have htown : town ∈ selectedTowns snapshot request := by
    rw [selectedTowns, List.mem_filter, (List.perm_insertionSort _ _).mem_iff, decide_eq_true_eq]
    exact ⟨hmem, (requested_iff town.member).mpr hnamed, hunserved⟩
  obtain ⟨made, hreported⟩ := Except.exists_of_mapM hresults htown
  obtain ⟨evidence, hevidence, hmade⟩ := Except.bind_eq_ok.mp hreported
  refine ⟨made.1, ?_, (reportedTown_about hreported).about (makeFinding_evidence hmade)⟩
  simp only [(List.perm_insertionSort _ _).mem_iff, List.mem_map]
  exact ⟨made, (Except.mem_mapM hresults made).mpr ⟨town, htown, hreported⟩, rfl⟩

theorem industryAnalysis_covers {analysisType : AnalysisType} {result : AnalyzerResult}
    (h : industryAnalysis py snapshot request analysisType = .ok result) {industry : Industry}
    (hmem : industry ∈ snapshot.industries) (hunserved : industry.unserved = true)
    (hnamed : industry.member.named request) : ∃ item ∈ result.findings, item.About .industry industry.id := by
  obtain ⟨stations, -, h⟩ := Except.bind_eq_ok.mp h
  obtain ⟨results, hresults, h⟩ := Except.bind_eq_ok.mp h
  cases h
  have hindustry : industry ∈ selectedIndustries snapshot request := by
    rw [selectedIndustries, List.mem_filter, (List.perm_insertionSort _ _).mem_iff, decide_eq_true_eq]
    exact ⟨hmem, (requested_iff industry.member).mpr hnamed, hunserved⟩
  obtain ⟨made, hreported⟩ := Except.exists_of_mapM hresults hindustry
  obtain ⟨evidence, hevidence, hmade⟩ := Except.bind_eq_ok.mp hreported
  refine ⟨made.1, ?_, (reportedIndustry_about hreported).about (makeFinding_evidence hmade)⟩
  simp only [(List.perm_insertionSort _ _).mem_iff, List.mem_map]
  exact ⟨made, (Except.mem_mapM hresults made).mpr ⟨industry, hindustry, hreported⟩, rfl⟩

theorem analyzeEntities_covers {dump : AnalysisSubjectType → String → JsonValue} {result : AnalyzerResult}
    (h : analyzeEntities py dump snapshot request = .ok result) {subject : AnalysisSubjectType} {ids : List String}
    (hsubject : request.subjectType = some subject) (hids : collectionIds snapshot subject = .ok ids) {id : String}
    (hid : id ∈ ids) (hasked : id ∈ request.subjectIds) : ∃ item ∈ result.findings, item.About subject id := by
  unfold analyzeEntities at h
  simp only [hsubject] at h
  obtain ⟨ids', hids', h⟩ := Except.bind_eq_ok.mp h
  cases hids.symm.trans hids'
  obtain ⟨results, hresults, h⟩ := Except.bind_eq_ok.mp h
  cases h
  have hvalue : id ∈ (ids.filter (· ∈ request.subjectIds)).insertionSort fun a b => a ≤ b := by
    rw [(List.perm_insertionSort _ _).mem_iff, List.mem_filter, decide_eq_true_eq]
    exact ⟨hid, hasked⟩
  obtain ⟨made, hreported⟩ := Except.exists_of_mapM hresults hvalue
  obtain ⟨evidence, hevidence, hmade⟩ := Except.bind_eq_ok.mp hreported
  exact ⟨made.1, List.mem_map.mpr ⟨made, (Except.mem_mapM hresults made).mpr ⟨id, hvalue, hreported⟩, rfl⟩,
    (reportedEntity_about hreported).about (makeFinding_evidence hmade)⟩

end

end SimPilot.Analysis
