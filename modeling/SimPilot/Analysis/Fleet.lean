import SimPilot.Analysis.Coverage
/-!
# The analyzer of the fleet (analysis/analyzers/vehicles.py:184-377)

A finding for each type of the selected vehicles, about the company that owns them: how
many there are of it, or where that is ranked by what they earned together.

| here | there |
|---|---|
| `typeCounts`, `typeProfits` | the items of `counts`, and `values` of `_vehicle_type_profit_result` |
| `fleetSummary` | an instance of `FleetSummaryAnalyzer` |
-/

namespace SimPilot.Analysis

/-! ## Types of vehicles -/

structure TypeProfit where
  vehicleType : String
  profit : Int
  negative : Nat
  count : Nat

def typesOf (vehicles : List Vehicle) : List String := (vehicles.map (·.type)).dedup

def typeCounts (vehicles : List Vehicle) : List (String × Nat) :=
  ((typesOf vehicles).insertionSort fun a b => a ≤ b).map fun vehicleType =>
    (vehicleType, (vehicles.filter (·.type = vehicleType)).length)

def typeProfits (vehicles : List Vehicle) : List TypeProfit :=
  (typesOf vehicles).map fun vehicleType =>
    let members := vehicles.filter (·.type = vehicleType)
    { vehicleType, profit := (members.map (·.profitLastYear)).sum
      negative := (members.filter (·.profitLastYear < 0)).length, count := members.length }

/-- The order of the types of vehicles: by profit, from above where it descends, then by name. -/
def profitSorted (direction : RankingDirection) (a b : TypeProfit) : Bool :=
  let key := fun item : TypeProfit =>
    match direction with
    | .ascending => item.profit
    | .descending => -item.profit
  key a < key b || (key a = key b && a.vehicleType ≤ b.vehicleType)

/-! ## The analysis -/

section
variable (py : PyFormat) (snapshot : WorldSnapshot)

def reportedCount (company : Company) (item : String × Nat) : Except PyError Reported := do
  let vehicleType := item.1
  let count := item.2
  let evidence ← metricEvidence snapshot .company company.id s!"vehicle_count.{vehicleType}" (.int count)
    [("vehicle_type", .str vehicleType), ("count", .int count)]
  let shown := py.title vehicleType
  makeFinding py snapshot
    { analysisType := .fleetSummary, code := s!"fleet_count_{vehicleType}", entityIds := [company.id]
      kind := .observedFact, severity := .informational, title := s!"{shown} fleet count"
      summary := s!"Observed {count} {vehicleType} vehicles.", metricName := some "vehicle_count"
      metricValue := .int count, confidence := .high, evidence := [evidence] }

def reportedTypeProfit (company : Company) (item : TypeProfit × Nat) : Except PyError Reported := do
  let vehicleType := item.1.vehicleType
  let profit := item.1.profit
  let negative := item.1.negative
  let count := item.1.count
  let position := item.2
  let evidence ← metricEvidence snapshot .company company.id s!"vehicle_type_aggregate_profit.{vehicleType}" (.int profit)
    [("vehicle_type", .str vehicleType), ("vehicle_count", .int count), ("negative_vehicle_count", .int negative)]
  let shown := py.title vehicleType
  makeFinding py snapshot
    { analysisType := .fleetSummary, code := s!"vehicle_type_profit_{vehicleType}", entityIds := [company.id]
      kind := .observedFact, severity := if profit < 0 then .warning else .informational
      title := s!"#{position} {shown} aggregate profit"
      summary := s!"{shown} vehicles produced {profit} aggregate last-year profit; {negative} of {count} lost money."
      metricName := some AnswerMetric.vehicleTypeAggregateProfit.value, metricValue := .int profit, confidence := .high
      evidence := [evidence] }

/-- `_vehicle_type_profit_result` -/
def typeProfitResult (ranking : RankingRequest) (vehicles : List Vehicle) : Except PyError AnalyzerResult := do
  let company ← observerCompany snapshot
  let ranked := (typeProfits vehicles).insertionSort fun a b => profitSorted ranking.direction a b
  let results ← ((ranked.take ranking.limit).zipIdx 1).mapM (reportedTypeProfit py snapshot company)
  let count := (typesOf vehicles).length
  let population ← construct AnalysisPopulation.fieldError
    { eligibleCount := count, evaluatedCount := count, excludedCount := 0
      metric := some .vehicleTypeAggregateProfit, direction := some ranking.direction }
  return { status := if vehicles = [] then .insufficientData else .completed
           answer := s!"Ranked {count} vehicle types by aggregate last-year profit."
           findings := results.map Prod.fst, population := some population }

/-- The result where the profit of the types is not ranked by (vehicles.py:202-239). -/
def typeCountResult (vehicles : List Vehicle) : Except PyError AnalyzerResult := do
  let company ← observerCompany snapshot
  let results ← (typeCounts vehicles).mapM (reportedCount py snapshot company)
  let types := (typesOf vehicles).length
  let population ← construct AnalysisPopulation.fieldError
    { eligibleCount := types, evaluatedCount := types, excludedCount := 0, metric := some .vehicleCount }
  let count := vehicles.length
  return { status := if vehicles = [] then .insufficientData else .completed
           answer := s!"Observed fleet contains {count} vehicles across {types} types."
           findings := results.map Prod.fst, population := some population }

/-- `FleetSummaryAnalyzer.analyze` -/
def analyzeFleet (request : AnalysisRequest) : Except PyError AnalyzerResult := do
  let vehicles ← selectedVehicles snapshot request
  match request.ranking.filter fun ranking => ranking.metric = .vehicleTypeAggregateProfit with
  | some ranking => typeProfitResult py snapshot ranking vehicles
  | none => typeCountResult py snapshot vehicles

end

def fleetSummary (py : PyFormat) : Analyzer :=
  .unbounded (fun request snapshot _ => analyzeFleet py snapshot request) fun _ _ _ _ => rfl

end SimPilot.Analysis
