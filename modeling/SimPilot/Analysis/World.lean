import SimPilot.Analysis.Compiler
import SimPilot.Domain.Text
/-!
# The observed world (domain/world.py) and the labels of its entities

The fields of a snapshot the service of the analysis, the analyzers of the entities and the
composition of an answer read, and the name under which an entity is shown
(evidence_view.py:24-69).

| here | there |
|---|---|
| `Entity` | an element of a collection of `_collection` |
| `displayLabel` | `entity_display_labels(snapshot, subject).get(entity_id)` |
| `PyFormat` | `str.title` and the hexadecimal digest of `hashlib.sha256` beside `PyText` |
-/

namespace SimPilot.Analysis

structure PyFormat extends PyText where
  title : String → String
  sha256 : String → String

/-! ## The snapshot -/

inductive CoverageStatus where
  | available | partially | unavailable
  deriving DecidableEq, Repr

structure CapabilityCoverage where
  category : String
  status : CoverageStatus
  deriving DecidableEq, Repr

structure Company where
  id : String
  name : String
  companyValue : Option Int := none
  deriving DecidableEq, Repr

structure Coordinates where
  x : Nat
  y : Nat
  deriving DecidableEq, Repr

structure CargoFlow where
  waiting : Option Nat := none
  produced : Option Nat := none
  deriving DecidableEq, Repr

structure Town where
  id : String
  name : String
  population : Nat
  coordinates : Coordinates
  stationCount : Option Nat := none
  growthState : Option String := none
  deriving DecidableEq, Repr

structure Industry where
  id : String
  name : String
  coordinates : Coordinates
  production : List CargoFlow := []
  nearbyStationIds : List String := []
  deriving DecidableEq, Repr

structure Station where
  id : String
  name : String
  ownerId : String
  coordinates : Coordinates
  waitingCargo : List CargoFlow := []
  vehicleCount : Nat := 0
  deriving DecidableEq, Repr

structure Vehicle where
  id : String
  type : String
  name : String
  ageDays : Nat
  profitThisYear : Int
  profitLastYear : Int
  runningState : String
  routeId : Option String := none
  inDepot : Bool
  ownerId : String
  deriving DecidableEq, Repr

structure Route where
  id : String
  ownerId : String
  vehicleIds : List String
  orderedStationIds : List String
  inferredRouteType : String
  deriving DecidableEq, Repr

structure WorldSnapshotMetadata where
  snapshotId : String
  worldId : String
  game : String
  gameVersion : String
  gameDate : Nat
  captureStartedGameDate : Nat
  captureCompletedGameDate : Nat
  complete : Bool
  capabilityFingerprint : String
  saveGeneration : Nat
  bridgeSequence : Nat
  capturedAt : Timestamp
  observerCompanyId : Option String := none
  deriving DecidableEq, Repr

structure WorldSnapshot where
  metadata : WorldSnapshotMetadata
  coverage : List CapabilityCoverage
  companies : List Company := []
  towns : List Town := []
  industries : List Industry := []
  stations : List Station := []
  vehicles : List Vehicle := []
  routes : List Route := []
  deriving DecidableEq, Repr

def inputError (message : String) : PyError := .other "AnalysisInputError" message

/-- `observer_company(snapshot)` (evidence.py:76) -/
def observerCompany (snapshot : WorldSnapshot) : Except PyError Company :=
  match snapshot.metadata.observerCompanyId with
  | none =>
    match snapshot.companies with
    | [company] => .ok company
    | _ => .error (inputError "observer company is unavailable or ambiguous")
  | some identifier =>
    match snapshot.companies.find? (·.id = identifier) with
    | some company => .ok company
    | none => .error (inputError "observer company is absent from the company collection")

/-! ## Labels -/

/-- An element of a collection: what it is shown by. -/
inductive Entity where
  | named (id name : String)
  | vehicle (id name : String)
  | route (id : String) (orderedStationIds : List String)
  deriving DecidableEq, Repr

def Entity.id : Entity → String
  | named id _ | vehicle id _ | route id _ => id

def entityCollection (snapshot : WorldSnapshot) : AnalysisSubjectType → Except PyError (List Entity)
  | .world => .error (.valueError "world is not a drill-down entity type")
  | .company => .ok (snapshot.companies.map fun item => .named item.id item.name)
  | .town => .ok (snapshot.towns.map fun item => .named item.id item.name)
  | .industry => .ok (snapshot.industries.map fun item => .named item.id item.name)
  | .station => .ok (snapshot.stations.map fun item => .named item.id item.name)
  | .vehicle => .ok (snapshot.vehicles.map fun item => .vehicle item.id item.name)
  | .route => .ok (snapshot.routes.map fun item => .route item.id item.orderedStationIds)

def aliasLetter : AnalysisSubjectType → String
  | .world => ""
  | .company => "C"
  | .town => "T"
  | .industry => "I"
  | .station => "S"
  | .vehicle => "V"
  | .route => "R"

/-- `name or text` -/
def orElse (name text : String) : String := if name = "" then text else name

def entityLabel (py : PyFormat) (snapshot : WorldSnapshot) (subject : AnalysisSubjectType) (entityAlias : String) :
    Entity → String
  | .named _ name =>
    let kind := py.title subject.value
    orElse name s!"{kind} {entityAlias}"
  | .vehicle _ name =>
    let shown := orElse name "Vehicle"
    s!"{shown} ({entityAlias})"
  | .route _ orderedStationIds =>
    -- of two stations with one id the later gives the name
    let endpoints := orderedStationIds.filterMap fun id => (snapshot.stations.reverse.find? (·.id = id)).map (·.name)
    match endpoints with
    | [] => s!"Route {entityAlias}"
    | [only] => s!"Route {entityAlias} — via {only}"
    | start :: rest =>
      let finish := rest.getLastD start
      s!"Route {entityAlias} — {start} → {finish}"

/-- The label of an entity: of two with one id the later is shown. -/
def displayLabel (py : PyFormat) (snapshot : WorldSnapshot) (subject : AnalysisSubjectType) (entityId : String) :
    Except PyError (Option String) := do
  let values ← entityCollection snapshot subject
  return ((values.zipIdx 1).reverse.find? fun item => item.1.id = entityId).map fun item =>
    entityLabel py snapshot subject (aliasLetter subject ++ "-" ++ padLeft 3 item.2) item.1

end SimPilot.Analysis
