import SimPilot.Analysis.Network
/-!
# The analyzers of the coverage (analysis/analyzers/coverage.py)

Towns and industries without a station near them, each with a score. A score is an integer
where all its parts are: a part that meets its bound, and the distance where it is beyond
fifty tiles. None of the three looks at the filters of the request.

| here | there |
|---|---|
| `capped weight value bound` | `weight * min(value / bound, 1)` |
| `plus`, `rounded places` | `+` and `round(·, places)` of numbers that are integers or floats |
| `townCoverage`, `industryOpportunities`, `serviceCoverage` | instances of the analyzer classes |
-/

namespace SimPilot.Analysis

/-! ## Scores -/

def capped (weight value bound : Nat) : JsonValue :=
  if bound < value then .int weight else .float (weight * value / bound)

def plus : JsonValue → JsonValue → JsonValue
  | .int a, .int b => .int (a + b)
  | a, b => .float ((observedValue? a).getD 0 + (observedValue? b).getD 0)

def rounded (places : Nat) : JsonValue → JsonValue
  | .float q => .float (roundTo places q)
  | value => value

/-- `proximity_points` -/
def proximityPoints : Option Nat → JsonValue
  | none => .float 0
  | some distance => if 50 < distance then .int 0 else .float (30 * (1 - distance / 50))

def tilesBetween (a b : Coordinates) : Nat := ((a.x : Int) - b.x).natAbs + ((a.y : Int) - b.y).natAbs

def nearestDistance (origin : Coordinates) (values : List Coordinates) : Option Nat :=
  (values.map (tilesBetween origin)).min?

def optionalNat : Option Nat → JsonValue
  | some n => .int n
  | none => .null

section
variable (py : PyFormat) (snapshot : WorldSnapshot)

def companyStationCoordinates : Except PyError (List Coordinates) := do
  let company ← observerCompany snapshot
  return (snapshot.stations.filter (·.ownerId = company.id)).map (·.coordinates)

/-! ## Towns -/

/-- A town without an observed station. -/
def Town.unserved (town : Town) : Bool := town.stationCount.getD 0 = 0

def selectedTowns (request : AnalysisRequest) : List Town :=
  (snapshot.towns.insertionSort fun a b => a.id ≤ b.id).filter fun town =>
    ((requestedIds request .town).all fun ids => town.id ∈ ids) ∧ town.unserved

def Town.growing (town : Town) : Bool :=
  town.growthState.any fun state => py.lower state ∈ ["growing", "growth", "active"]

def reportedTown (analysisType : AnalysisType) (stations : List Coordinates) (town : Town) : Except PyError Reported := do
  let distance := nearestDistance town.coordinates stations
  let populationPoints := capped 60 town.population 5000
  let bonus : Int := if town.growing py then 10 else 0
  let score := rounded 2 (plus (plus populationPoints (proximityPoints distance)) (.int bonus))
  let name := town.name
  let population := town.population
  let shown := valueText score
  let evidence ← metricEvidence snapshot .town town.id "town_opportunity_score" score
    [("population", .int population), ("nearest_station_distance", optionalNat distance),
      ("growing", .bool (town.growing py)), ("population_points", rounded 2 populationPoints),
      ("proximity_points", rounded 2 (proximityPoints distance)), ("growth_bonus", .int bonus)]
  makeFinding py snapshot
    { analysisType, code := "unserved_town_opportunity", entityIds := [town.id], kind := .inferredFinding
      severity := .opportunity, title := s!"Unserved town {name}"
      summary := s!"No selected-company station is observed for population {population}; " ++
        s!"opportunity score is {shown}."
      metricName := some "opportunity_score", metricValue := score, confidence := .medium, evidence := [evidence]
      limitations :=
        ["Population is only an investigation heuristic; terrain, authority, competitors, destinations, and " ++
          "profitability are not evaluated."]
      recommendationCode := some "investigate_unserved_town" }

/-- `_town_analysis` -/
def townAnalysis (request : AnalysisRequest) (analysisType : AnalysisType) : Except PyError AnalyzerResult := do
  let stations ← companyStationCoordinates snapshot
  let results ← (selectedTowns snapshot request).mapM (reportedTown py snapshot analysisType stations)
  let count := results.length
  return { status := if snapshot.towns = [] then .insufficientData else .completed
           answer := s!"Found {count} towns without an observed company station."
           findings := (results.map Prod.fst).insertionSort fun a b => largestFirst a b
           recommendations := results.filterMap Prod.snd
           limitations := ["Town service is proximity-based and does not prove passenger demand."] }

/-! ## Industries -/

/-- An industry without a station near it. -/
def Industry.unserved (industry : Industry) : Bool := industry.nearbyStationIds = []

def selectedIndustries (request : AnalysisRequest) : List Industry :=
  (snapshot.industries.insertionSort fun a b => a.id ≤ b.id).filter fun industry =>
    ((requestedIds request .industry).all fun ids => industry.id ∈ ids) ∧ industry.unserved

def producedCargo (industry : Industry) : Nat := (industry.production.map fun item => item.produced.getD 0).sum

def reportedIndustry (analysisType : AnalysisType) (stations : List Coordinates) (industry : Industry) :
    Except PyError Reported := do
  let production := producedCargo industry
  let distance := nearestDistance industry.coordinates stations
  let productionPoints := capped 70 production 1000
  let score := rounded 2 (plus productionPoints (proximityPoints distance))
  let name := industry.name
  let shown := valueText score
  let evidence ← metricEvidence snapshot .industry industry.id "industry_opportunity_score" score
    [("production", .int production), ("nearest_station_distance", optionalNat distance),
      ("production_points", rounded 2 productionPoints), ("proximity_points", rounded 2 (proximityPoints distance))]
  makeFinding py snapshot
    { analysisType, code := "unserved_industry_opportunity", entityIds := [industry.id], kind := .inferredFinding
      severity := .opportunity, title := s!"Unserved industry {name}"
      summary := s!"{name} has no observed selected-company nearby station; production is {production} " ++
        s!"and opportunity score is {shown}."
      metricName := some "opportunity_score", metricValue := score, confidence := .medium, evidence := [evidence]
      limitations :=
        ["Cargo compatibility, consumers, terrain, competitors, and profitability are not evaluated."]
      recommendationCode := some "investigate_unserved_industry" }

/-- `_industry_analysis` -/
def industryAnalysis (request : AnalysisRequest) (analysisType : AnalysisType) : Except PyError AnalyzerResult := do
  let stations ← companyStationCoordinates snapshot
  let results ← (selectedIndustries snapshot request).mapM (reportedIndustry py snapshot analysisType stations)
  let count := results.length
  return { status := if snapshot.industries = [] then .insufficientData else .completed
           answer := s!"Found {count} industries without an observed company station."
           findings := (results.map Prod.fst).insertionSort fun a b => largestFirst a b
           recommendations := results.filterMap Prod.snd
           limitations := ["Opportunity scores identify investigation targets, not predicted profit."] }

/-! ## Both -/

/-- `ServiceCoverageAnalyzer.analyze` -/
def analyzeServices (request : AnalysisRequest) : Except PyError AnalyzerResult := do
  let towns ← townAnalysis py snapshot request .serviceCoverage
  let industries ← industryAnalysis py snapshot request .serviceCoverage
  let townCount := towns.findings.length
  let industryCount := industries.findings.length
  return { status :=
             if towns.status = .insufficientData ∧ industries.status = .insufficientData then .insufficientData
             else .completed
           answer := s!"Found {townCount} unserved-town and {industryCount} unserved-industry opportunities."
           findings := (towns.findings ++ industries.findings).insertionSort fun a b => largestFirst a b
           recommendations := towns.recommendations ++ industries.recommendations
           limitations := (towns.limitations ++ industries.limitations).eraseDups }

end

theorem townAnalysis_upTo (py : PyFormat) (request : AnalysisRequest) (snapshot : WorldSnapshot)
    (_ : Option WorldSnapshot) (m : Nat) :
    townAnalysis py snapshot (request.upTo m) .townCoverage = townAnalysis py snapshot request .townCoverage := rfl

def townCoverage (py : PyFormat) : Analyzer :=
  .unbounded (fun request snapshot _ => townAnalysis py snapshot request .townCoverage) (townAnalysis_upTo py)

theorem industryAnalysis_upTo (py : PyFormat) (request : AnalysisRequest) (snapshot : WorldSnapshot)
    (_ : Option WorldSnapshot) (m : Nat) :
    industryAnalysis py snapshot (request.upTo m) .industryOpportunities = industryAnalysis py snapshot request .industryOpportunities := rfl

def industryOpportunities (py : PyFormat) : Analyzer :=
  .unbounded (fun request snapshot _ => industryAnalysis py snapshot request .industryOpportunities) (industryAnalysis_upTo py)

def serviceCoverage (py : PyFormat) : Analyzer :=
  .unbounded (fun request snapshot _ => analyzeServices py snapshot request) fun _ _ _ _ => rfl

end SimPilot.Analysis
