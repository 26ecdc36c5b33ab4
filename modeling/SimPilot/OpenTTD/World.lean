import Mathlib.Data.List.Basic
/-!
# The observed world (domain/world.py)

The fields of a snapshot that the comparison of two worlds and the inference of the routes read.
-/

namespace SimPilot.OpenTTD

inductive CoverageStatus where
  | available | partially | unavailable
  deriving DecidableEq, Repr

structure CapabilityCoverage where
  category : String
  status : CoverageStatus
  deriving DecidableEq, Repr

structure Coordinates where
  x : Nat
  y : Nat
  deriving DecidableEq, Repr

structure Company where
  id : String
  name : String
  cash : Int
  loan : Nat
  companyValue : Option Int := none
  income : Option Int := none
  expenses : Option Int := none
  stationCount : Nat := 0
  deriving DecidableEq, Repr

structure Town where
  id : String
  name : String
  population : Nat
  stationCount : Option Nat := none
  growthRateDays : Option Nat := none
  growthState : Option String := none
  deriving DecidableEq, Repr

structure Industry where
  id : String
  type : String
  name : String
  nearbyStationCount : Option Nat := none
  deriving DecidableEq, Repr

structure Station where
  id : String
  name : String
  ownerId : String
  coordinates : Coordinates
  vehicleCount : Nat := 0
  deriving DecidableEq, Repr

inductive VehicleOrderKind where
  | station | depot | waypoint | conditional | other
  deriving DecidableEq, Repr

def VehicleOrderKind.value : VehicleOrderKind → String
  | station => "station"
  | depot => "depot"
  | waypoint => "waypoint"
  | conditional => "conditional"
  | other => "other"

structure VehicleOrder where
  kind : VehicleOrderKind
  destinationId : Option String := none
  destinationCoordinates : Option Coordinates := none
  flags : Option Nat := none
  deriving DecidableEq, Repr

structure Vehicle where
  id : String
  type : String
  name : String
  profitThisYear : Int
  profitLastYear : Int
  runningState : String
  orders : List VehicleOrder := []
  routeId : Option String := none
  inDepot : Bool
  ownerId : String
  deriving DecidableEq, Repr

structure Route where
  id : String
  ownerId : String
  vehicleIds : List String
  orderedStationIds : List String
  estimatedDistance : Option Nat := none
  distanceMethod : Option String := none
  inferredRouteType : String
  deriving DecidableEq, Repr

/-- The value of a field that is compared. -/
inductive FieldValue where
  | none
  | str (s : String)
  | int (i : Int)
  | bool (b : Bool)
  deriving DecidableEq, Repr

inductive WorldChange where
  | entityAdded (entityType entityId : String)
  | entityRemoved (entityType entityId : String)
  | fieldChanged (entityType entityId field : String) (before after : FieldValue)
  | coverageChanged (category : String) (before after : CoverageStatus)
  deriving DecidableEq, Repr

structure WorldSnapshotMetadata where
  snapshotId : String
  worldId : String
  complete : Bool
  deriving DecidableEq, Repr

structure WorldSnapshot where
  metadata : WorldSnapshotMetadata
  coverage : List CapabilityCoverage
  companies : List Company := []
  towns : List Town := []
  industries : List Industry := []
  stations : List Station := []
  vehicles : List Vehicle := []
  routes : List Route := []
  changesFromSnapshotId : Option String := none
  changes : List WorldChange := []
  deriving DecidableEq, Repr

end SimPilot.OpenTTD
