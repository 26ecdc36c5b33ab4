import Mathlib.Algebra.GroupWithZero.Nat
import SimPilot.Data.Assoc
import Mathlib.Algebra.Order.Ring.Rat
/-!
# Messages of the GameScript bridge (openttd/gamescript/messages.py)

What the script sends is kept typed, under the names and with the literals of the payload
models. What it is sent is a table of Squirrel values: main.nut checks the types itself.

| here | there |
|---|---|
| `Squirrel` | what `GSEventAdminPort.GetObject()` builds from JSON (main.nut:29) |
| `Payload`, `BridgeMessage` | `BridgePayload`, `BridgeMessage` (messages.py:315-363) |
| `ResyncRequestPayload.slots`, `CommandRequestPayload.slots` | the payloads of client.py:106-114, 259-272 |
-/

namespace SimPilot.GameScript

/-! ## Squirrel values -/

inductive Squirrel where
  | null
  | bool (b : Bool)
  | integer (i : Int)
  | float (q : ℚ)
  | string (s : String)
  | array (xs : List Squirrel)
  | table (slots : List (String × Squirrel))
  deriving Repr, Inhabited

namespace Squirrel

/-- `typeof v == "integer"`, and the integer. -/
def integer? : Squirrel → Option Int
  | integer i => some i
  | _ => none

/-- `typeof v == "string"`, and the string. -/
def string? : Squirrel → Option String
  | string s => some s
  | _ => none

/-- `typeof v == "table"`, and its slots. -/
def table? : Squirrel → Option (List (String × Squirrel))
  | table slots => some slots
  | _ => none

/-- `HasExactKeys` (main.nut:591): the slots of a table with these keys and no other. -/
def hasExactKeys (v : Squirrel) (keys : List String) : Bool :=
  match v with
  | table slots => slots.length = keys.length && keys.all fun key => Assoc.contains slots key
  | _ => false

/-- `v.key` of a table that has the key. -/
def field (v : Squirrel) (key : String) : Squirrel :=
  match v with
  | table slots => (Assoc.get slots key).getD null
  | _ => null

end Squirrel

/-! ## What the script sends -/

inductive MessageType where
  | hello | capabilities | heartbeat | stateSnapshot | worldManifest | worldCollectionPage | worldSnapshotComplete
  | commandAccepted | commandRejected | commandCompleted | commandFailed | resyncResponse | error
  deriving DecidableEq, Repr

inductive ErrorCode where
  | unsupportedCommand | invalidCompany | invalidParameters | gameRuleRejection | staleRequest | duplicateConflict
  | contextUnavailable | protocolMismatch
  deriving DecidableEq, Repr

structure HelloPayload where
  component : String := "sim_pilot_bridge"
  openttdVersion : String := "15.3"
  gamescriptApiVersion : String := "15"
  scriptVersion : Nat := 2
  adapterVersion : String := "openttd-gamescript-v2"
  loaded : Bool
  saveGeneration : Nat
  startGeneration : Nat
  deriving DecidableEq, Repr

structure BridgeCapabilities where
  capabilityVersion : Nat
  readableResources : List String
  readableEntities : List String
  eventTypes : List String := []
  supportedActions : List String
  companyContexts : List String
  costEstimation : Bool
  independentVerification : Bool
  reconciliation : Bool
  saveLoad : Bool
  fullSnapshots : Bool
  stateDeltas : Bool := false
  maximumOutboundBytes : Nat := 1450
  maximumInboundBytes : Nat := 8999
  writeOptInRequired : Bool := true
  worldSnapshots : Bool := false
  worldCollections : List String := []
  deriving DecidableEq, Repr

structure HeartbeatPayload where
  tick : Nat
  snapshotId : Option String
  healthy : Bool := true
  deriving DecidableEq, Repr

structure BridgeCompanySnapshot where
  companyId : Int
  name : String
  cash : Int
  loan : Int
  vehicleCount : Nat
  stationCount : Nat
  deriving DecidableEq, Repr

structure BridgeSnapshot where
  snapshotId : String
  paused : Bool
  mapWidth : Nat
  mapHeight : Nat
  townCount : Nat
  industryCount : Nat
  company : Option BridgeCompanySnapshot
  saveGeneration : Nat
  deriving DecidableEq, Repr

inductive WorldCollection where
  | companies | towns | industries | stations | vehicles | orders | cargos
  deriving DecidableEq, Repr

/-- The collections in the order of the enumeration. -/
def WorldCollection.all : List WorldCollection :=
  [companies, towns, industries, stations, vehicles, orders, cargos]

/-- One entity of a collection, as the JSON text of the table main.nut:213-376 builds of it. -/
abbrev Entity := String

structure WorldManifestPayload where
  snapshotId : String
  captureStartedGameDate : Nat
  collectionCounts : Assoc WorldCollection Nat
  deriving DecidableEq, Repr

structure WorldCollectionPagePayload where
  snapshotId : String
  collection : WorldCollection
  pageIndex : Nat
  pageCount : Nat
  items : List Entity
  deriving DecidableEq, Repr

structure WorldSnapshotCompletePayload where
  snapshotId : String
  captureCompletedGameDate : Nat
  totalItems : Nat
  deriving DecidableEq, Repr

structure CommandAcceptedPayload where
  commandId : String
  actionFingerprint : String
  deriving DecidableEq, Repr

structure CommandCompletedPayload where
  commandId : String
  actionFingerprint : String
  action : String := "set_company_name"
  beforeName : String
  afterName : String
  stateChanged : Bool
  cost : Int
  duplicate : Bool
  deriving DecidableEq, Repr

structure BridgeErrorPayload where
  code : ErrorCode
  message : String
  commandId : Option String
  actionFingerprint : Option String
  retryable : Bool := false
  deriving DecidableEq, Repr

structure ResyncResponsePayload where
  snapshotFollows : Bool := true
  reason : String
  deriving DecidableEq, Repr

inductive Payload where
  | hello (p : HelloPayload)
  | capabilities (p : BridgeCapabilities)
  | heartbeat (p : HeartbeatPayload)
  | snapshot (p : BridgeSnapshot)
  | worldManifest (p : WorldManifestPayload)
  | worldPage (p : WorldCollectionPagePayload)
  | worldComplete (p : WorldSnapshotCompletePayload)
  | commandAccepted (p : CommandAcceptedPayload)
  | commandCompleted (p : CommandCompletedPayload)
  | error (p : BridgeErrorPayload)
  | resyncResponse (p : ResyncResponsePayload)
  deriving DecidableEq, Repr

structure BridgeMessage where
  protocolVersion : Nat
  sequence : Nat
  messageId : String
  correlationId : Option String
  scriptInstanceId : String
  messageType : MessageType
  gameDate : Nat
  companyId : Option Int
  payload : Payload
  deriving DecidableEq, Repr

/-- A text with at least one and at most this many characters. -/
def sized (maximum : Nat) (text : String) : Bool := 1 ≤ text.length && text.length ≤ maximum

def companyIdOk (company : Option Int) : Bool := company.all fun id => 0 ≤ id && id ≤ 14

/-- The payload is of the type of its message, with its constraints (messages.py:53-311). -/
def payloadOk (kind : MessageType) (payload : Payload) : Bool :=
  match kind, payload with
  | .hello, .hello p =>
    p.component == "sim_pilot_bridge" && p.openttdVersion == "15.3" && p.gamescriptApiVersion == "15" &&
      (p.scriptVersion == 1 || p.scriptVersion == 2) &&
      (p.adapterVersion == "openttd-gamescript-v1" || p.adapterVersion == "openttd-gamescript-v2") &&
      1 ≤ p.startGeneration
  | .capabilities, .capabilities p =>
    (p.capabilityVersion == 1 || p.capabilityVersion == 2) && !p.stateDeltas && p.maximumOutboundBytes == 1450 &&
      p.maximumInboundBytes == 8999 && p.writeOptInRequired
  | .heartbeat, .heartbeat p => p.snapshotId.all (sized 128)
  | .stateSnapshot, .snapshot p =>
    sized 128 p.snapshotId && 0 < p.mapWidth && 0 < p.mapHeight &&
      p.company.all fun c => companyIdOk (some c.companyId) && c.name != "" && 0 ≤ c.loan
  | .worldManifest, .worldManifest p => sized 128 p.snapshotId
  | .worldCollectionPage, .worldPage p => sized 128 p.snapshotId
  | .worldSnapshotComplete, .worldComplete p => sized 128 p.snapshotId
  | .commandAccepted, .commandAccepted p => sized 128 p.commandId
  | .commandCompleted, .commandCompleted p =>
    sized 128 p.commandId && p.beforeName != "" && p.afterName != "" && 0 ≤ p.cost
  | .commandRejected, .error p | .commandFailed, .error p | .error, .error p =>
    p.message != "" && p.commandId.all (sized 128)
  | .resyncResponse, .resyncResponse p => p.snapshotFollows && sized 128 p.reason
  | _, _ => false

/-- The types `validate_payload_and_correlation` wants a correlation for (messages.py:336). -/
def MessageType.correlated (kind : MessageType) : Bool :=
  kind ∈ [commandAccepted, commandRejected, commandCompleted, commandFailed, resyncResponse]

/-- The constraints of `BridgeMessage` (messages.py:315-347), but for fingerprints and entities. -/
def BridgeMessage.fieldsOk (m : BridgeMessage) : Bool :=
  (m.protocolVersion == 1 || m.protocolVersion == 2) && 1 ≤ m.sequence && sized 128 m.messageId &&
    m.correlationId.all (sized 128) && sized 128 m.scriptInstanceId && companyIdOk m.companyId &&
    payloadOk m.messageType m.payload && (!m.messageType.correlated || m.correlationId.isSome)

/-! ## What the client sends -/

structure ResyncRequestPayload where
  lastScriptInstanceId : Option String
  lastSequence : Option Nat
  reason : String
  deriving DecidableEq, Repr

def ResyncRequestPayload.slots (p : ResyncRequestPayload) : List (String × Squirrel) :=
  [("last_script_instance_id", (p.lastScriptInstanceId.map Squirrel.string).getD .null),
    ("last_sequence", (p.lastSequence.map fun n => Squirrel.integer n).getD .null),
    ("reason", .string p.reason)]

structure CommandRequestPayload where
  commandId : String
  action : String := "set_company_name"
  name : String
  actionFingerprint : String
  expectedCapabilityFingerprint : String
  expectedCompanyId : Int
  priorSnapshotId : String
  requestTimestamp : String
  deriving DecidableEq, Repr

def CommandRequestPayload.slots (p : CommandRequestPayload) : List (String × Squirrel) :=
  [("command_id", .string p.commandId), ("action", .string p.action),
    ("parameters", .table [("name", .string p.name)]), ("action_fingerprint", .string p.actionFingerprint),
    ("expected_capability_fingerprint", .string p.expectedCapabilityFingerprint),
    ("expected_company_id", .integer p.expectedCompanyId), ("prior_snapshot_id", .string p.priorSnapshotId),
    ("request_timestamp", .string p.requestTimestamp)]

/-- The envelope of `_send` (client.py:327-339). -/
def envelope (sequence : Nat) (messageId : String) (scriptInstanceId : Option String) (messageType : String)
    (companyId : Option Int) (payload : List (String × Squirrel)) : Squirrel :=
  .table
    [("protocol_version", .integer 2), ("sequence", .integer sequence), ("message_id", .string messageId),
      ("correlation_id", .null), ("script_instance_id", .string (scriptInstanceId.getD "unknown")),
      ("message_type", .string messageType), ("game_date", .integer 0),
      ("company_id", (companyId.map Squirrel.integer).getD .null), ("payload", .table payload)]

end SimPilot.GameScript
