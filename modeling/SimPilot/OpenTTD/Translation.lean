import SimPilot.Data.Ranking
import SimPilot.Domain.Json
import SimPilot.OpenTTD.RouteGroups
import SimPilot.Runtime.Errors
/-!
# From the entities of the bridge to the world (openttd/world_translation.py)

| here | there |
|---|---|
| `canonicalEntityId` | `canonical_entity_id`, over a parameter for the digest |
| `counted` | a `Counter` updated by one set of keys after the other |
| `flowsOf` | `by_scope[(scope, id)]` |
| `relationships` | `_relationships` |
| `Vehicle.observed`, `Station.observed` | what `infer_routes` reads of a vehicle and of a station |

The relations of the game are relations of the world: a reference leads to an entity that is in
the world, what is counted is counted there (`translate_world_coherent`).
-/

namespace SimPilot.OpenTTD.Translation
open TextOrder

/-! ## What the bridge reports (openttd/gamescript/messages.py) -/

structure BridgeCompanyEntity where
  id : Nat
  name : String
  cash : Int
  loan : Nat
  companyValue : Option Int := none
  income : Option Int := none
  expenses : Option Int := none
  performance : Option Nat := none
  headquartersTile : Option Nat := none
  stationCount : Nat := 0
  deriving DecidableEq, Repr

structure BridgeTownEntity where
  id : Nat
  name : String
  population : Nat
  tile : Nat
  growthRate : Option Nat := none
  rating : Option Int := none
  deriving DecidableEq, Repr

structure BridgeIndustryEntity where
  id : Nat
  industryType : Nat
  name : String
  tile : Nat
  nearbyStationCount : Nat
  acceptedCargoIds : List Nat := []
  producedCargoIds : List Nat := []
  deriving DecidableEq, Repr

structure BridgeStationEntity where
  id : Nat
  name : String
  owner : Nat
  tile : Nat
  facilities : List String := []
  deriving DecidableEq, Repr

structure BridgeVehicleEntity where
  id : Nat
  owner : Nat
  vehicleType : Nat
  engineType : Nat
  name : String
  ageDays : Nat
  profitThisYear : Int
  profitLastYear : Int
  state : Nat
  tile : Option Nat := none
  inDepot : Bool
  currentOrderIndex : Option Nat := none
  deriving DecidableEq, Repr

structure BridgeOrderEntity where
  vehicleId : Nat
  index : Nat
  kind : String
  destinationTile : Option Nat := none
  destinationStationId : Option Nat := none
  flags : Option Nat := none
  deriving DecidableEq, Repr

inductive CargoFlowScope where
  | world | town | industry | station
  deriving DecidableEq, Repr

def CargoFlowScope.value : CargoFlowScope → String
  | world => "world"
  | town => "town"
  | industry => "industry"
  | station => "station"

structure BridgeCargoEntity where
  id : Nat
  name : String
  scope : CargoFlowScope := .world
  scopeEntityId : Option Nat := none
  waiting : Option Nat := none
  produced : Option Nat := none
  accepted : Option Bool := none
  transported : Option Nat := none
  transportedPercent : Option Nat := none
  deriving DecidableEq, Repr

structure BridgeWorldSnapshot where
  snapshotId : String
  captureStartedGameDate : Nat
  captureCompletedGameDate : Nat
  complete : Bool := true
  companies : List BridgeCompanyEntity := []
  towns : List BridgeTownEntity := []
  industries : List BridgeIndustryEntity := []
  stations : List BridgeStationEntity := []
  vehicles : List BridgeVehicleEntity := []
  orders : List BridgeOrderEntity := []
  cargos : List BridgeCargoEntity := []
  deriving DecidableEq, Repr

/-- The fields of the health of the bridge the translation reads. -/
structure BridgeHealth where
  scriptInstanceId : Option String := none
  lastSequence : Option Nat := none
  capabilityFingerprint : Option String := none
  /-- `snapshot.save_generation` -/
  saveGeneration : Option Nat := none
  worldSnapshot : Option BridgeWorldSnapshot := none
  deriving DecidableEq, Repr

/-- The fields of the state of the admin port the translation reads. -/
structure OpenTTDState where
  openttdVersion : String
  width : Nat
  width_pos : 0 < width
  gameDateRaw : Nat
  companyId : Nat
  cash : Int
  loan : Nat
  companyValueLastQuarter : Int
  performanceLastQuarter : Nat
  isAi : Bool

/-! ## The world (domain/world.py) -/

inductive CoverageReason where
  | none | bridgeLimitation | adapterLimitation
  deriving DecidableEq, Repr

structure CapabilityCoverage where
  category : String
  status : CoverageStatus
  reason : CoverageReason := .none
  deriving DecidableEq, Repr

structure CargoFlow where
  cargoId : String
  cargoType : String
  scope : CargoFlowScope
  entityId : Option String
  waiting : Option Nat
  produced : Option Nat
  accepted : Option Bool
  transported : Option Nat
  transportedPercent : Option Nat
  period : Option String
  deriving DecidableEq, Repr

structure VehicleCounts where
  rail : Nat := 0
  road : Nat := 0
  water : Nat := 0
  air : Nat := 0
  deriving DecidableEq, Repr

structure Company where
  id : String
  name : String
  cash : Int
  loan : Nat
  companyValue : Option Int
  income : Option Int
  expenses : Option Int
  vehicleCounts : VehicleCounts
  stationCount : Nat
  headquarters : Option Coordinates
  isAi : Option Bool
  performanceRating : Option Nat
  deriving DecidableEq, Repr

structure Town where
  id : String
  name : String
  population : Nat
  coordinates : Coordinates
  authorityRating : Option Int
  stationCount : Option Nat := none
  servedCargoIds : List String
  cargoFlows : List CargoFlow
  growthRateDays : Option Nat
  growthState : Option String
  deriving DecidableEq, Repr

structure Industry where
  id : String
  type : String
  name : String
  coordinates : Coordinates
  production : List CargoFlow
  acceptedCargoIds : List String
  producedCargoIds : List String
  nearbyStationIds : List String := []
  nearbyStationCount : Option Nat
  deriving DecidableEq, Repr

structure Station where
  id : String
  name : String
  ownerId : String
  coordinates : Coordinates
  facilities : List String
  waitingCargo : List CargoFlow
  servedIndustryIds : List String := []
  servedTownIds : List String := []
  vehicleCount : Nat := 0
  deriving DecidableEq, Repr

structure VehicleOrder where
  index : Nat
  kind : VehicleOrderKind
  destinationId : Option String
  destinationCoordinates : Option Coordinates
  flags : Option Nat
  deriving DecidableEq, Repr

structure Vehicle where
  id : String
  type : String
  subtype : Option String
  name : String
  ageDays : Nat
  profitThisYear : Int
  profitLastYear : Int
  runningState : String
  coordinates : Option Coordinates
  currentOrder : Option VehicleOrder
  orders : List VehicleOrder
  routeId : Option String := none
  inDepot : Bool
  ownerId : String
  deriving DecidableEq, Repr

structure WorldSnapshotMetadata where
  snapshotId : String
  worldId : String
  game : String
  gameVersion : String
  gameDate : Nat
  captureStartedGameDate : Nat
  captureCompletedGameDate : Nat
  complete : Bool
  capabilityFingerprint : String
  saveGeneration : Nat
  bridgeSequence : Nat
  capturedAt : Timestamp
  observerCompanyId : Option String
  deriving DecidableEq, Repr

structure WorldSnapshot where
  metadata : WorldSnapshotMetadata
  coverage : List CapabilityCoverage
  companies : List Company
  towns : List Town
  industries : List Industry
  stations : List Station
  vehicles : List Vehicle
  routes : List Route
  cargoSummary : List CargoFlow
  deriving DecidableEq, Repr

/-! ## The translation -/

/-- What a `Counter` holds after an update with the keys of every item. -/
def counted {α κ : Type} [DecidableEq κ] (keys : α → List κ) (items : List α) : κ → Nat :=
  items.foldl (fun counter item key => counter key + if key ∈ keys item then 1 else 0) fun _ => 0

def keyText (worldId kind : String) (sourceId : Nat) : String := worldId ++ "|" ++ kind ++ "|" ++ toString sourceId

def canonicalEntityId (digest : Digest) (worldId kind : String) (sourceId : Nat) : String :=
  kind ++ ":" ++ digest (keyText worldId kind sourceId)

def coordinates (width tile : Nat) : Coordinates := ⟨tile % width, tile / width⟩

section
variable (digest : Digest) (worldId : String)

def cargoIds (source : BridgeWorldSnapshot) : List (Nat × String) :=
  (source.cargos.filter (·.scope = .world)).map fun item => (item.id, canonicalEntityId digest worldId "cargo" item.id)

/-- `cargo_ids.get(value, _id(world_id, "cargo", value))` -/
def cargoIdOf (ids : List (Nat × String)) (value : Nat) : String :=
  ((ids.reverse.find? (·.1 = value)).map (·.2)).getD (canonicalEntityId digest worldId "cargo" value)

def cargoFlow (ids : List (Nat × String)) (item : BridgeCargoEntity) : CargoFlow where
  cargoId := cargoIdOf digest worldId ids item.id
  cargoType := item.name
  scope := item.scope
  entityId := item.scopeEntityId.map (canonicalEntityId digest worldId item.scope.value)
  waiting := item.waiting
  produced := item.produced
  accepted := item.accepted
  transported := item.transported
  transportedPercent := item.transportedPercent
  period := if item.scope = .world then none else some "last_economy_month"

def flowsOf (source : BridgeWorldSnapshot) (scope : CargoFlowScope) (id : Nat) : List CargoFlow :=
  (source.cargos.filter fun item => item.scope = scope ∧ item.scopeEntityId = some id).map
    (cargoFlow digest worldId (cargoIds digest worldId source))

/-- `_vehicle_counts` -/
def vehicleCounts (source : BridgeWorldSnapshot) (owner : Nat) : VehicleCounts :=
  let value := counted (fun vehicle : BridgeVehicleEntity => [(vehicle.owner, vehicle.vehicleType)]) source.vehicles
  { rail := value (owner, 0), road := value (owner, 1), water := value (owner, 2), air := value (owner, 3) }

def company (state : OpenTTDState) (source : BridgeWorldSnapshot) (item : BridgeCompanyEntity) : Company where
  id := canonicalEntityId digest worldId "company" item.id
  name := item.name
  cash := if item.id = state.companyId then state.cash else item.cash
  loan := if item.id = state.companyId then state.loan else item.loan
  companyValue := if item.id = state.companyId then some state.companyValueLastQuarter else item.companyValue
  income := item.income
  expenses := item.expenses
  vehicleCounts := vehicleCounts source item.id
  stationCount := item.stationCount
  headquarters := item.headquartersTile.map (coordinates state.width)
  isAi := if item.id = state.companyId then some state.isAi else none
  performanceRating := if item.id = state.companyId then some state.performanceLastQuarter else item.performance

def town (width : Nat) (source : BridgeWorldSnapshot) (item : BridgeTownEntity) : Town where
  id := canonicalEntityId digest worldId "town" item.id
  name := item.name
  population := item.population
  coordinates := coordinates width item.tile
  authorityRating := item.rating
  servedCargoIds := sortedSet ((flowsOf digest worldId source .town item.id).map (·.cargoId))
  cargoFlows := flowsOf digest worldId source .town item.id
  growthRateDays := item.growthRate
  growthState := some (if item.growthRate = none ∨ item.growthRate = some 0xFFFF then "not_growing" else "growing")

/-- An element of `_industries` -/
def industry (width : Nat) (source : BridgeWorldSnapshot) (item : BridgeIndustryEntity) : Industry where
  id := canonicalEntityId digest worldId "industry" item.id
  type := "industry_type:" ++ toString item.industryType
  name := item.name
  coordinates := coordinates width item.tile
  production := flowsOf digest worldId source .industry item.id
  acceptedCargoIds := item.acceptedCargoIds.map (cargoIdOf digest worldId (cargoIds digest worldId source))
  producedCargoIds := item.producedCargoIds.map (cargoIdOf digest worldId (cargoIds digest worldId source))
  nearbyStationCount := some item.nearbyStationCount

/-- An element of `_stations` -/
def station (width : Nat) (source : BridgeWorldSnapshot) (item : BridgeStationEntity) : Station where
  id := canonicalEntityId digest worldId "station" item.id
  name := item.name
  ownerId := canonicalEntityId digest worldId "company" item.owner
  coordinates := coordinates width item.tile
  facilities := item.facilities
  waitingCargo := flowsOf digest worldId source .station item.id

/-- `VehicleOrderKind(value)` -/
def vehicleOrderKind (value : String) : Except PyError VehicleOrderKind :=
  match [VehicleOrderKind.station, .depot, .waypoint, .conditional, .other].find? (·.value = value) with
  | some kind => .ok kind
  | none => .error (.valueError ("'" ++ value ++ "' is not a valid VehicleOrderKind"))

/-- An order, with the vehicle it is of. -/
def vehicleOrder (width : Nat) (source : BridgeWorldSnapshot) (item : BridgeOrderEntity) :
    Except PyError (Nat × VehicleOrder) := do
  let kind ← vehicleOrderKind item.kind
  pure (item.vehicleId, {
    index := item.index
    kind
    destinationId := (item.destinationStationId.filter (· ∈ source.stations.map (·.id))).map
      (canonicalEntityId digest worldId "station")
    destinationCoordinates := item.destinationTile.map (coordinates width)
    flags := item.flags })

def vehicleTypeName : Nat → String
  | 0 => "rail"
  | 1 => "road"
  | 2 => "water"
  | 3 => "air"
  | type => "unknown:" ++ toString type

def runningStateName : Nat → String
  | 0 => "running"
  | 1 => "stopped"
  | 2 => "in_depot"
  | 3 => "at_station"
  | 4 => "broken"
  | 5 => "crashed"
  | state => "unknown:" ++ toString state

/-- `orders_by_vehicle[id]` -/
def ordersOf (orders : List (Nat × VehicleOrder)) (id : Nat) : List VehicleOrder :=
  (orders.filter (·.1 = id)).map (·.2)

def vehicle (width : Nat) (orders : List (Nat × VehicleOrder)) (item : BridgeVehicleEntity) : Vehicle where
  id := canonicalEntityId digest worldId "vehicle" item.id
  type := vehicleTypeName item.vehicleType
  subtype := some ("engine:" ++ toString item.engineType)
  name := item.name
  ageDays := item.ageDays
  profitThisYear := item.profitThisYear
  profitLastYear := item.profitLastYear
  runningState := runningStateName item.state
  coordinates := item.tile.map (coordinates width)
  currentOrder := (ordersOf orders item.id).find? fun order => some order.index = item.currentOrderIndex
  orders := ordersOf orders item.id
  inDepot := item.inDepot
  ownerId := canonicalEntityId digest worldId "company" item.owner

/-- `_vehicles` -/
def vehicles (width : Nat) (source : BridgeWorldSnapshot) : Except PyError (List Vehicle) := do
  let orders ← (Ranking.ranked (fun item => toLex (item.vehicleId, item.index)) source.orders).mapM
    (vehicleOrder digest worldId width source)
  pure ((Ranking.ranked (·.id) source.vehicles).map (vehicle digest worldId width orders))

def Vehicle.destinationIds (vehicle : Vehicle) : List String := vehicle.orders.filterMap (·.destinationId)

def relationships (stations : List Station) (towns : List Town) (industries : List Industry)
    (vehicles : List Vehicle) : List Station × List Town × List Industry :=
  let vehicleCounts := counted Vehicle.destinationIds vehicles
  let stations := stations.map fun station => { station with
    servedTownIds := (towns.filter (manhattan station.coordinates ·.coordinates ≤ 12)).map (·.id)
    servedIndustryIds := (industries.filter (manhattan station.coordinates ·.coordinates ≤ 8)).map (·.id)
    vehicleCount := vehicleCounts station.id }
  (stations,
    towns.map fun town => { town with stationCount := some (stations.countP (town.id ∈ ·.servedTownIds)) },
    industries.map fun industry => { industry with
      nearbyStationIds := (stations.filter (industry.id ∈ ·.servedIndustryIds)).map (·.id) })

def VehicleOrder.observed (order : VehicleOrder) : OpenTTD.VehicleOrder where
  kind := order.kind
  destinationId := order.destinationId
  destinationCoordinates := order.destinationCoordinates
  flags := order.flags

def Vehicle.observed (vehicle : Vehicle) : OpenTTD.Vehicle where
  id := vehicle.id
  type := vehicle.type
  name := vehicle.name
  profitThisYear := vehicle.profitThisYear
  profitLastYear := vehicle.profitLastYear
  runningState := vehicle.runningState
  orders := vehicle.orders.map VehicleOrder.observed
  inDepot := vehicle.inDepot
  ownerId := vehicle.ownerId

def Station.observed (station : Station) : OpenTTD.Station where
  id := station.id
  name := station.name
  ownerId := station.ownerId
  coordinates := station.coordinates
  vehicleCount := station.vehicleCount

/-- `infer_routes`, which gives every vehicle its route. -/
def routed (vehicles : List Vehicle) : List Vehicle :=
  vehicles.map fun vehicle => { vehicle with
    routeId := routeForVehicle digest (vehicles.map Vehicle.observed) vehicle.id }

/-- `_coverage` -/
def coverage : List CapabilityCoverage := [
  ⟨"server_metadata", .available, .none⟩, ⟨"map_metadata", .partially, .bridgeLimitation⟩,
  ⟨"companies", .partially, .bridgeLimitation⟩, ⟨"towns", .partially, .adapterLimitation⟩,
  ⟨"industries", .partially, .adapterLimitation⟩, ⟨"stations", .partially, .adapterLimitation⟩,
  ⟨"vehicles", .partially, .bridgeLimitation⟩, ⟨"routes", .partially, .adapterLimitation⟩,
  ⟨"cargo", .partially, .adapterLimitation⟩, ⟨"tiles", .unavailable, .bridgeLimitation⟩,
  ⟨"terrain", .unavailable, .bridgeLimitation⟩, ⟨"infrastructure", .unavailable, .bridgeLimitation⟩,
  ⟨"economy", .partially, .bridgeLimitation⟩, ⟨"native_events", .unavailable, .bridgeLimitation⟩]

/-- The world of a source, from the vehicles `_vehicles` made of it. -/
def assembled (state : OpenTTDState) (health : BridgeHealth) (fingerprint : String) (capturedAt : Timestamp)
    (source : BridgeWorldSnapshot) (vehicles : List Vehicle) : WorldSnapshot :=
  let related := relationships
    ((Ranking.ranked (·.id) source.stations).map (station digest worldId state.width source))
    ((Ranking.ranked (·.id) source.towns).map (town digest worldId state.width source))
    ((Ranking.ranked (·.id) source.industries).map (industry digest worldId state.width source)) vehicles
  { metadata := {
      snapshotId := source.snapshotId, worldId, game := "openttd", gameVersion := state.openttdVersion
      gameDate := state.gameDateRaw, captureStartedGameDate := source.captureStartedGameDate
      captureCompletedGameDate := source.captureCompletedGameDate, complete := source.complete
      capabilityFingerprint := fingerprint, saveGeneration := health.saveGeneration.getD 0
      bridgeSequence := if health.lastSequence.getD 0 = 0 then 1 else health.lastSequence.getD 0
      capturedAt, observerCompanyId := some (canonicalEntityId digest worldId "company" state.companyId) }
    coverage
    companies := (Ranking.ranked (·.id) source.companies).map (company digest worldId state source)
    towns := related.2.1
    industries := related.2.2
    stations := related.1
    vehicles := routed digest vehicles
    routes := (inferRoutes digest (vehicles.map Vehicle.observed) (related.1.map Station.observed)).2
    cargoSummary := source.cargos.map (cargoFlow digest worldId (cargoIds digest worldId source)) }

end

def translateWorld (digest : Digest) (state : OpenTTDState) (health : BridgeHealth) (capturedAt : Timestamp) :
    Except PyError (Option WorldSnapshot) :=
  match health.worldSnapshot, health.scriptInstanceId, health.capabilityFingerprint with
  | some source, some worldId, some fingerprint => do
    let vehicles ← vehicles digest worldId state.width source
    pure (some (assembled digest worldId state health fingerprint capturedAt source vehicles))
  | _, _, _ => .ok none

end SimPilot.OpenTTD.Translation
