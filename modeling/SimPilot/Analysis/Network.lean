import SimPilot.Analysis.Vehicles
/-!
# The analyzers of the stations and of the routes (analysis/analyzers/network.py)

Both look at the entities of the observer company, of those a request names where it names
some. Neither looks at the filters of the request.

| here | there |
|---|---|
| `fixedPoint places q` | `f"{q:.1f}"` and the like |
| `roundTo places q` | `round(q, places)` |
| `stationPerformance`, `routePerformance` | instances of the two analyzer classes |
-/

namespace SimPilot.Analysis

/-! ## Numbers -/

def fixedPoint (places : Nat) (q : ℚ) : String :=
  let scaled := (roundEven (|q| * 10 ^ places)).toNat
  (if q < 0 then "-" else "") ++ toString (scaled / 10 ^ places) ++ "." ++ padLeft places (scaled % 10 ^ places)

def roundTo (places : Nat) (q : ℚ) : ℚ := roundEven (q * 10 ^ places) / 10 ^ places

/-- `statistics.median`: of an even number of values the mean of the middle two, a float. -/
def median (values : List Int) : JsonValue :=
  let sorted := values.insertionSort fun a b => a ≤ b
  let middle := sorted.length / 2
  if sorted.length % 2 = 1 then .int (sorted.getD middle 0)
  else .float ((sorted.getD (middle - 1) 0 + sorted.getD middle 0 : Int) / 2)

/-- The first findings have the largest numbers, and of equal ones the least id. -/
def largestFirst (a b : AnalysisFinding) : Bool :=
  let number := fun item : AnalysisFinding => (observedValue? item.metricValue).getD 0
  number b < number a || (number a = number b && a.findingId ≤ b.findingId)

section
variable (py : PyFormat) (snapshot : WorldSnapshot)

/-- `metric_evidence` of an entity -/
def metricEvidence (entityType : AnalysisSubjectType) (entityId field : String) (value : JsonValue) (inputs : Dict) :
    Except PyError EvidenceReference :=
  construct EvidenceReference.fieldError
    { sourceType := .derivedMetric, snapshotId := snapshot.metadata.snapshotId, entityType := some entityType
      entityId := some entityId, field, observedValue := value, metricInputs := inputs }

/-- `field_evidence` of an entity, without a comparison -/
def fieldEvidence (entityType : AnalysisSubjectType) (entityId field : String) (value : JsonValue) :
    Except PyError EvidenceReference :=
  construct EvidenceReference.fieldError
    { sourceType := .snapshotField, snapshotId := snapshot.metadata.snapshotId, entityType := some entityType
      entityId := some entityId, field, observedValue := value }

/-! ## Stations -/

def selectedStations (request : AnalysisRequest) : Except PyError (List Station) := do
  let company ← observerCompany snapshot
  let selected := snapshot.stations.filter fun station =>
    station.ownerId = company.id ∧ (requestedIds request .station).all fun ids => station.id ∈ ids
  return selected.insertionSort fun a b => a.id ≤ b.id

def waitingCargo (station : Station) : Nat := (station.waitingCargo.map fun item => item.waiting.getD 0).sum

def reportedPressure (station : Station) : Except PyError Reported := do
  let waiting := waitingCargo station
  let pressure : ℚ := waiting / (max station.vehicleCount 1 : Nat)
  let evidence ← metricEvidence snapshot .station station.id "waiting_pressure" (.float (roundTo 4 pressure))
    [("waiting_cargo", .int waiting), ("vehicle_count", .int station.vehicleCount)]
  let name := station.name
  let shown := fixedPoint 1 pressure
  makeFinding py snapshot
    { analysisType := .stationPerformance, code := "station_waiting_pressure", entityIds := [station.id]
      kind := .observedFact, severity := .informational, title := s!"Waiting cargo at {name}"
      summary := s!"Observed waiting cargo is {waiting}; descriptive cargo-per-vehicle pressure is {shown}."
      metricName := some "waiting_cargo", metricValue := .int waiting, confidence := .high, evidence := [evidence]
      limitations := ["Waiting cargo alone does not establish congestion."] }

/-- Waiting cargo without a vehicle, or much of it with one. -/
def reportedShortage (station : Station) : Except PyError (List Reported) :=
  let waiting := waitingCargo station
  let name := station.name
  if 500 ≤ waiting ∧ station.vehicleCount = 0 then do
    let count ← fieldEvidence snapshot .station station.id "vehicle_count" (.int station.vehicleCount)
    let total ← metricEvidence snapshot .station station.id "waiting_cargo_total" (.int waiting)
      [("cargo_flow_count", .int station.waitingCargo.length)]
    let reported ← makeFinding py snapshot
      { analysisType := .stationPerformance, code := "potentially_underserved_station", entityIds := [station.id]
        kind := .inferredFinding, severity := if 1000 ≤ waiting then .warning else .opportunity
        title := s!"Potentially underserved station {name}"
        summary := s!"{waiting} cargo units are waiting with no observed vehicles."
        metricName := some "waiting_cargo", metricValue := .int waiting, confidence := .medium
        evidence := [count, total]
        limitations :=
          ["Transfers, recent cargo arrivals, outages, or storage designs can be false positives."]
        recommendationCode := some "inspect_station_service" }
    return [reported]
  else if 1000 ≤ waiting ∧ station.vehicleCount = 1 then do
    let count ← fieldEvidence snapshot .station station.id "vehicle_count" (.int station.vehicleCount)
    let reported ← makeFinding py snapshot
      { analysisType := .stationPerformance, code := "single_vehicle_high_waiting", entityIds := [station.id]
        kind := .inferredFinding, severity := .opportunity
        title := s!"High waiting cargo with one vehicle at {name}"
        summary := s!"{waiting} cargo units are waiting with one observed vehicle."
        metricName := some "waiting_cargo", metricValue := .int waiting, confidence := .medium, evidence := [count]
        limitations := ["This is not a capacity or congestion measurement."]
        recommendationCode := some "inspect_station_capacity" }
    return [reported]
  else return []

def reportedStation (station : Station) : Except PyError (List Reported) := do
  return (← reportedPressure py snapshot station) :: (← reportedShortage py snapshot station)

/-- `StationPerformanceAnalyzer.analyze` -/
def analyzeStations (request : AnalysisRequest) : Except PyError AnalyzerResult := do
  let stations ← selectedStations snapshot request
  let results ← stations.mapM (reportedStation py snapshot)
  let population ← construct AnalysisPopulation.fieldError
    { eligibleCount := stations.length, evaluatedCount := stations.length, excludedCount := 0
      metric := request.ranking.map (·.metric), direction := request.ranking.map (·.direction) }
  let count := stations.length
  return { status := if stations = [] then .insufficientData else .completed
           answer := s!"Analyzed {count} stations without inferring congestion."
           findings := (results.flatten.map Prod.fst).insertionSort fun a b => largestFirst a b
           recommendations := results.flatten.filterMap Prod.snd, population := some population }

/-! ## Routes -/

def routeLimitation : String :=
  "Route identity is inferred from normalized orders and can change when orders or vehicle type " ++
    "change; vehicle renaming and snapshot ordering do not change it."

def selectedRoutes (request : AnalysisRequest) : Except PyError (List Route) := do
  let company ← observerCompany snapshot
  let selected := snapshot.routes.filter fun route =>
    route.ownerId = company.id ∧ (requestedIds request .route).all fun ids => route.id ∈ ids
  return selected.insertionSort fun a b => a.id ≤ b.id

/-- The vehicles of a route that are observed; of two with one id the later counts. -/
def routeMembers (route : Route) : List Vehicle :=
  route.vehicleIds.filterMap fun id => snapshot.vehicles.reverse.find? (·.id = id)

def missingVehicles (route : Route) : Nat :=
  ((route.vehicleIds.filter fun id => ¬ snapshot.vehicles.any (·.id = id)).dedup).length

def textList (values : List String) : JsonValue := .list (values.map .str)

section
variable (route : Route)

def reportedProfit : Except PyError Reported := do
  let members := routeMembers snapshot route
  let profits := members.map (·.profitLastYear)
  let aggregate := profits.sum
  let middle := median profits
  let negative := (profits.filter (· < 0)).length
  let evidence ← metricEvidence snapshot .route route.id "route_aggregate_profit" (.int aggregate)
    [("vehicle_ids", textList (members.map (·.id))), ("profit_last_year", .list (profits.map .int)),
      ("median_profit", middle)]
  let id := route.id
  let shown := formatG ((observedValue? middle).getD 0)
  let count := members.length
  makeFinding py snapshot
    { analysisType := .routePerformance, code := if aggregate < 0 then "negative_route_profit" else "route_profit_summary"
      entityIds := [route.id], kind := .observedFact
      severity := if aggregate < 0 then .warning else .informational, title := s!"Route {id} profit summary"
      summary := s!"Last-year aggregate profit is {aggregate}, median profit is {shown}, " ++
        s!"and {negative} of {count} vehicles lost money."
      metricName := some "route_aggregate_profit", metricValue := .int aggregate, confidence := .medium
      evidence := [evidence], limitations := [routeLimitation]
      recommendationCode := if aggregate < 0 then some "inspect_negative_route" else none }

def reportedLosers (request : AnalysisRequest) : Except PyError (List Reported) :=
  let members := routeMembers snapshot route
  let profits := members.map (·.profitLastYear)
  let negative := (profits.filter (· < 0)).length
  let metric := AnswerMetric.routeNegativeVehicleCount.value
  let id := route.id
  let count := members.length
  if request.ranking.any (·.metric = .routeNegativeVehicleCount) then do
    let evidence ← metricEvidence snapshot .route route.id metric (.int negative)
      [("vehicle_ids", textList (members.map (·.id))), ("profit_last_year", .list (profits.map .int))]
    let reported ← makeFinding py snapshot
      { analysisType := .routePerformance, code := "route_negative_vehicle_count", entityIds := [route.id]
        kind := .observedFact, severity := if 0 < negative then .warning else .informational
        title := s!"Losing vehicles on route {id}"
        summary := s!"{negative} of {count} observed vehicles on route {id} lost money last year."
        metricName := some metric, metricValue := .int negative, confidence := .high, evidence := [evidence]
        limitations := [routeLimitation] }
    return [reported]
  else return []

def reportedShare : Except PyError (List Reported) :=
  let members := routeMembers snapshot route
  let negative := ((members.map (·.profitLastYear)).filter (· < 0)).length
  let share : ℚ := negative / members.length
  let id := route.id
  let shown := percentage share
  if 2 ≤ members.length ∧ 1 / 2 ≤ share then do
    let evidence ← metricEvidence snapshot .route route.id "negative_profit_share" (.float (roundTo 4 share))
      [("negative_vehicles", .int negative), ("vehicle_count", .int members.length)]
    let reported ← makeFinding py snapshot
      { analysisType := .routePerformance, code := "negative_route_vehicle_share", entityIds := [route.id]
        kind := .inferredFinding, severity := .warning, title := s!"Many unprofitable vehicles on route {id}"
        summary := s!"{shown} of observed route vehicles lost money last year."
        metricName := some "negative_profit_share", metricValue := .float (roundTo 4 share), confidence := .medium
        evidence := [evidence], limitations := [routeLimitation]
        recommendationCode := some "inspect_route_vehicles" }
    return [reported]
  else return []

def reportedSingle : Except PyError (List Reported) :=
  let id := route.id
  if (routeMembers snapshot route).length = 1 then do
    let evidence ← fieldEvidence snapshot .route route.id "vehicle_ids" (textList route.vehicleIds)
    let reported ← makeFinding py snapshot
      { analysisType := .routePerformance, code := "single_vehicle_route", entityIds := [route.id], kind := .observedFact
        severity := .informational, title := s!"Single-vehicle route {id}"
        summary := "The inferred route has one observed vehicle.", metricName := some "vehicle_count"
        metricValue := .int 1, confidence := .high, evidence := [evidence]
        limitations := ["A single vehicle is not evidence of insufficient capacity."] }
    return [reported]
  else return []

def reportedRouteOf (request : AnalysisRequest) : Except PyError (List Reported) :=
  if routeMembers snapshot route = [] then return [] else do
    return (← reportedProfit py snapshot route) :: (← reportedLosers py snapshot route request) ++
      (← reportedShare py snapshot route) ++ (← reportedSingle py snapshot route)

end

/-- `_route_sort_key(a) <= _route_sort_key(b)` -/
def routeSorted (request : AnalysisRequest) (a b : AnalysisFinding) : Bool :=
  let expected := ((request.ranking.map RankingRequest.metric).getD .routeAggregateProfit).value
  rankedAhead (some expected) ((request.ranking.map (·.direction)).getD .ascending) a b

/-- `RoutePerformanceAnalyzer.analyze` -/
def analyzeRoutes (request : AnalysisRequest) : Except PyError AnalyzerResult := do
  let routes ← selectedRoutes snapshot request
  let results ← routes.mapM fun route => reportedRouteOf py snapshot route request
  let observed := (routes.filter fun route => routeMembers snapshot route ≠ []).length
  let population ← construct AnalysisPopulation.fieldError
    { eligibleCount := routes.length, evaluatedCount := observed, excludedCount := routes.length - observed
      exclusionReasons :=
        if observed < routes.length then ["Routes without resolved observed vehicles were excluded."] else []
      metric := request.ranking.map (·.metric), direction := request.ranking.map (·.direction) }
  let count := routes.length
  let unresolved := routes.filterMap fun route =>
    let id := route.id
    let missing := missingVehicles snapshot route
    if missing = 0 then none else some s!"Route {id} has {missing} unresolved vehicle IDs."
  return { status := if routes = [] then .insufficientData else .completed
           answer := s!"Analyzed {count} inferred routes."
           findings := (results.flatten.map Prod.fst).insertionSort fun a b => routeSorted request a b
           recommendations := results.flatten.filterMap Prod.snd
           limitations := (routeLimitation :: unresolved).eraseDups, population := some population }

end

theorem analyzeStations_upTo (py : PyFormat) (request : AnalysisRequest) (snapshot : WorldSnapshot)
    (_ : Option WorldSnapshot) (m : Nat) :
    analyzeStations py snapshot (request.upTo m) = analyzeStations py snapshot request := rfl

def stationPerformance (py : PyFormat) : Analyzer :=
  .unbounded (fun request snapshot _ => analyzeStations py snapshot request) (analyzeStations_upTo py)

theorem analyzeRoutes_upTo (py : PyFormat) (request : AnalysisRequest) (snapshot : WorldSnapshot)
    (_ : Option WorldSnapshot) (m : Nat) :
    analyzeRoutes py snapshot (request.upTo m) = analyzeRoutes py snapshot request := rfl

def routePerformance (py : PyFormat) : Analyzer :=
  .unbounded (fun request snapshot _ => analyzeRoutes py snapshot request) (analyzeRoutes_upTo py)

end SimPilot.Analysis
