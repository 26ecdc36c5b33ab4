import SimPilot.Data.TextOrder
import SimPilot.Domain.Text
import SimPilot.GameBridge.Json
/-!
# The bridge's side of the protocol (SimPilot.GameBridge.Core/Protocol.cs, SemanticState.cs)

An exception of the codec is `none`. Strings of the bridge are sequences of code points: one
with an unpaired surrogate has no UTF-8 form and is never written (LengthPrefixedFrame.cs:25).

| here | there |
|---|---|
| `BridgeContractDescriptor` | the active contract (Protocol.cs:37-80), with what its constructor ensures |
| `Identity`, `Envelope`, `RuntimeSnapshot` | Protocol.cs:85-138 |
| `serializeEnvelope`, `parseEnvelope` | `ProtocolCodec` (Protocol.cs:142-186), up to the text |
-/

namespace SimPilot.GameBridge.Core

open TextOrder

/-- `char.IsWhiteSpace` of the base library. -/
def isWhiteSpace (c : Char) : Bool :=
  let n := c.toNat
  (0x09 ≤ n && n ≤ 0x0D) || n == 0x20 || n == 0x85 || n == 0xA0 || n == 0x1680 || (0x2000 ≤ n && n ≤ 0x200A) ||
    n == 0x2028 || n == 0x2029 || n == 0x202F || n == 0x205F || n == 0x3000

/-- `string.IsNullOrWhiteSpace` of a string that is there. -/
def isBlank (s : String) : Bool := s.toList.all isWhiteSpace

structure BridgeContractDescriptor where
  protocolVersion : Nat
  adapterVersion : String
  gameId : String
  supportedGameVersion : String
  maximumMessageBytes : Nat
  observationSurfaces : List String
  surfaces_sorted : observationSurfaces.Pairwise OrdinalLt
  bytes_ge : 1024 ≤ maximumMessageBytes

/-- `BridgeContract.RailRoute` (Protocol.cs:9-25) -/
def railRoute : BridgeContractDescriptor where
  protocolVersion := 3
  adapterVersion := "rail-route-ui-observer-v1"
  gameId := "rail-route"
  supportedGameVersion := "2.3.24"
  maximumMessageBytes := 1048576
  observationSurfaces := ["game_state", "incoming_traffic", "platforms", "routes", "signals", "stations", "switches",
    "track_occupancy", "trains"]
  surfaces_sorted := by decide
  bytes_ge := by decide

inductive MessageType where
  | clientHello | bridgeHello | authenticationFailure | heartbeat | capabilityManifest | fullSnapshotRequest
  | fullSnapshotResponse | resynchronizationRequest | protocolError
  deriving DecidableEq, Repr

/-- `MessageTypeName` (Protocol.cs:373). -/
def MessageType.name : MessageType → String
  | clientHello => "client_hello"
  | bridgeHello => "bridge_hello"
  | authenticationFailure => "authentication_failure"
  | heartbeat => "heartbeat"
  | capabilityManifest => "capability_manifest"
  | fullSnapshotRequest => "full_snapshot_request"
  | fullSnapshotResponse => "full_snapshot_response"
  | resynchronizationRequest => "resynchronization_request"
  | protocolError => "protocol_error"

def MessageType.all : List MessageType :=
  [clientHello, bridgeHello, authenticationFailure, heartbeat, capabilityManifest, fullSnapshotRequest,
    fullSnapshotResponse, resynchronizationRequest, protocolError]

/-- `ParseMessageType` (Protocol.cs:374). -/
def MessageType.parse (name : String) : Option MessageType := all.find? (·.name = name)

inductive CoverageStatus where
  | observedComplete | observedPartial | unsupported | unavailable | failed
  deriving DecidableEq, Repr

/-- `CoverageName` (Protocol.cs:375). -/
def CoverageStatus.name : CoverageStatus → String
  | observedComplete => "observed_complete"
  | observedPartial => "observed_partial"
  | unsupported => "unsupported"
  | unavailable => "unavailable"
  | failed => "failed"

structure Identity where
  status : String := "unavailable"
  value : Option String := none
  label : Option String := none
  detail : Option String := none
  deriving DecidableEq, Repr

def daysInMonth (year month : Nat) : Nat :=
  if month = 2 then if year % 4 = 0 ∧ (year % 100 ≠ 0 ∨ year % 400 = 0) then 29 else 28
  else if month ∈ [4, 6, 9, 11] then 30 else 31

/-- A point in time with its calendar fields in UTC, and whether its own offset is zero. -/
structure DateTimeOffset where
  year : Nat
  month : Nat
  day : Nat
  hour : Nat
  minute : Nat
  second : Nat
  /-- The ticks of 100 ns within the second. -/
  ticks : Nat
  utc : Bool := true
  date_valid : (1 ≤ year ∧ year ≤ 9999) ∧ (1 ≤ month ∧ month ≤ 12) ∧ 1 ≤ day ∧ day ≤ daysInMonth year month
  time_valid : hour < 24 ∧ minute < 60 ∧ second < 60 ∧ ticks < 10000000

structure Envelope where
  protocolVersion : Nat
  adapterVersion : String
  gameId : String
  gameVersion : String
  platform : String
  architecture : String
  bridgeInstanceId : String
  gameSessionId : String
  mapIdentity : Identity
  saveIdentity : Identity
  messageId : String
  correlationId : Option String
  bridgeSequence : Int
  messageType : MessageType
  timestamp : DateTimeOffset
  payload : JsonValue

structure ObservedEntityState where
  entityType : String
  entityId : String
  values : Members

structure ObservationSurfaceState where
  surface : String
  status : CoverageStatus := .unsupported
  fields : List String := []
  detail : String := "field semantics have not been live-proven"
  entities : List ObservedEntityState := []

structure RuntimeSnapshot where
  gameVersion : String
  platform : String := "macos"
  architecture : String := "x86_64"
  gameSessionId : String
  mapIdentity : Identity := { detail := some "map identity is unavailable" }
  saveIdentity : Identity := { detail := some "save identity is unavailable" }
  paused : Option Bool := none
  currentTime : Option String := none
  simulationSpeed : Option String := none
  gameMode : Option String := none
  gameStateValues : Option Members := none
  gameStateAvailable : Bool := false
  gameStateDetail : String := "game state is unavailable"
  semanticSurfaces : List ObservationSurfaceState := []
  warnings : List String := []
  limitations : List String := []

/-! ## Reading members -/

/-- `Text`: a member that is a string with more than whitespace. -/
def text (o : Members) (key : String) : Option String := do
  let s ← (← o.get key).string?
  guard (¬ isBlank s)
  return s

/-- `OptionalText` -/
def optionalText (o : Members) (key : String) : Option (Option String) :=
  match o.get key with
  | none => none
  | some .null => some none
  | some _ => (text o key).map some

/-- `Integer` and `Integer64` -/
def integer (o : Members) (key : String) (minimum maximum : Int) : Option Int := do
  let i ← (← o.get key).integer?
  guard (minimum ≤ i ∧ i ≤ maximum)
  return i

def longMaxValue : Int := 2 ^ 63 - 1

/-- The loops that want each string behind the one before it, in ordinal order. -/
def ascends (prior : Option String) : List String → Bool
  | [] => true
  | current :: rest => prior.all (fun p => decide (OrdinalLt p current)) && ascends (some current) rest

/-- `StringArray` -/
def stringArray (v : JsonValue) : Option (List String) := do (← v.array?).mapM (·.string?)

/-- `SortedStrings` -/
def sortedStrings (v : JsonValue) : Option Unit := do
  let items ← stringArray v
  guard (ascends none items)

/-! ## Identities -/

/-- `ValidateIdentity` (Protocol.cs:348) -/
def Identity.valid (i : Identity) : Bool :=
  (i.status == "observed" || i.status == "unavailable") &&
    (!(i.status == "observed") || i.value.any (!isBlank ·)) && (!(i.status == "unavailable") || i.value.isNone)

/-- What `IdentityJson` (Protocol.cs:349) builds of an identity that is valid. -/
def Identity.tree (i : Identity) : JsonValue := .object
  [("status", .string i.status), ("value", .ofOption i.value), ("label", .ofOption i.label),
    ("detail", .ofOption i.detail)]

/-- `ParseIdentity` (Protocol.cs:347) -/
def Identity.parse (v : JsonValue) : Option Identity := do
  let item ← v.object?
  guard (Members.exact item ["detail", "label", "status", "value"])
  let status ← (← item.get "status").string?
  let value ← optionalText item "value"
  let label ← optionalText item "label"
  let detail ← optionalText item "detail"
  let result : Identity := { status, value, label, detail }
  guard result.valid
  return result

/-! ## Payloads -/

/-- `Time` (Protocol.cs:365) -/
def time (v : DateTimeOffset) : String :=
  let pre := s!"{padLeft 4 v.year}-{padLeft 2 v.month}-{padLeft 2 v.day}T{padLeft 2 v.hour}:" ++
    s!"{padLeft 2 v.minute}:{padLeft 2 v.second}"
  if v.ticks = 0 then pre ++ "Z"
  else
    let digits := (padLeft 7 v.ticks).toList.reverse.dropWhile (· = '0')
    pre ++ "." ++ String.ofList digits.reverse ++ "Z"

def strings (values : List String) : JsonValue := .array (values.map .string)

variable (contract : BridgeContractDescriptor)

/-- `BridgeHelloPayload` (Protocol.cs:267) -/
def bridgeHelloPayload : JsonValue := .object
  [("authenticated", .boolean true), ("negotiated_protocol_version", .integer contract.protocolVersion),
    ("maximum_message_bytes", .integer contract.maximumMessageBytes), ("heartbeat_interval_seconds", .number 2)]

def authenticationFailurePayload : JsonValue := .object [("reason", .string "authentication_failed")]

def heartbeatPayload : JsonValue := .object [("healthy", .boolean true), ("detail", .null)]

/-- `CapabilityPayload` (Protocol.cs:270) -/
def capabilityPayload : JsonValue := .object
  [("schema_version", .integer 1), ("observation_surfaces", strings contract.observationSurfaces),
    ("gameplay_actions", .array []), ("full_snapshots", .boolean true), ("delta_snapshots", .boolean false),
    ("resynchronization", .boolean true)]

/-- `ErrorPayload` (BridgeServer.cs:246) -/
def errorPayload (code message : String) (retryable : Bool) : JsonValue := .object
  [("code", .string code), ("message", .string message), ("retryable", .boolean retryable)]

/-- `GameStateFields` (Protocol.cs:323) -/
def gameStateFields (state : RuntimeSnapshot) : List String :=
  if ¬ state.gameStateAvailable then []
  else match state.gameStateValues with
    | some values => values.keys.insertionSort fun a b => ¬ OrdinalLt b a
    | none =>
      (if state.currentTime.isSome then ["current_time"] else []) ++
        (if state.gameMode.isSome then ["game_mode"] else []) ++ (if state.paused.isSome then ["paused"] else []) ++
        (if state.simulationSpeed.isSome then ["simulation_speed"] else [])

/-- `GameStateCoverage` (Protocol.cs:339) -/
def gameStateCoverage (state : RuntimeSnapshot) : CoverageStatus :=
  let count := (gameStateFields state).length
  if ¬ state.gameStateAvailable ∨ count = 0 then .unavailable
  else if state.gameStateValues.isSome then .observedComplete
  else if count = 4 then .observedComplete
  else .observedPartial

/-- `GameState` (Protocol.cs:303) -/
def gameState (state : RuntimeSnapshot) : JsonValue :=
  match state.gameStateValues with
  | some values => .object values
  | none => .object
    [("paused", (state.paused.map JsonValue.boolean).getD .null), ("current_time", .ofOption state.currentTime),
      ("simulation_speed", .ofOption state.simulationSpeed), ("game_mode", .ofOption state.gameMode)]

/-- One entity of `Surface` (Protocol.cs:316). -/
def ObservedEntityState.json (entity : ObservedEntityState) : JsonValue := .object
  [("entity_type", .string entity.entityType), ("entity_id", .string entity.entityId), ("values", .object entity.values)]

/-- `Surface` (Protocol.cs:309) -/
def ObservationSurfaceState.json (surface : ObservationSurfaceState) : JsonValue := .object
  [("coverage", .object
      [("surface", .string surface.surface), ("status", .string surface.status.name),
        ("fields", strings surface.fields), ("detail", .string surface.detail)]),
    ("entities", .array (surface.entities.map (·.json)))]

def gameStateSurface (state : RuntimeSnapshot) : ObservationSurfaceState where
  surface := "game_state"
  status := gameStateCoverage state
  fields := gameStateFields state
  detail := state.gameStateDetail

/-- The surface of a name, `Unsupported` when the provider has none. -/
def surfaceOf (state : RuntimeSnapshot) (name : String) : ObservationSurfaceState :=
  (state.semanticSurfaces.find? (·.surface = name)).getD { surface := name }

/-- The surfaces of a snapshot in the order they are written (Protocol.cs:286-301), when the
provider named none twice. -/
def surfaceStates (state : RuntimeSnapshot) : Option (List ObservationSurfaceState) := do
  guard (state.semanticSurfaces.map (·.surface)).Nodup
  let names := contract.observationSurfaces.filter (· ≠ "game_state")
  return (gameStateSurface state :: names.map (surfaceOf state)).insertionSort fun a b =>
    ¬ OrdinalLt b.surface a.surface

/-- The snapshot `SnapshotResponsePayload` builds, of identities that are valid. -/
def snapshotMembers (state : RuntimeSnapshot) (bridgeId : String) (bridgeSequence : Int) (captured : DateTimeOffset)
    (surfaces : List ObservationSurfaceState) : Members :=
  [("schema_version", .integer 1), ("capture_timestamp", .string (time captured)),
    ("capture_started_marker", .string "single-main-thread-sample"),
    ("capture_completed_marker", .string "single-main-thread-sample"),
    ("bridge_sequence", .integer bridgeSequence), ("bridge_instance_id", .string bridgeId),
    ("game_session_id", .string state.gameSessionId), ("game_id", .string contract.gameId),
    ("game_version", .string state.gameVersion), ("adapter_version", .string contract.adapterVersion),
    ("platform", .string state.platform), ("architecture", .string state.architecture),
    ("map_identity", state.mapIdentity.tree), ("save_identity", state.saveIdentity.tree),
    ("game_state", gameState state), ("surfaces", .array (surfaces.map (·.json))),
    ("warnings", strings state.warnings), ("limitations", strings state.limitations)]

/-- `SnapshotResponsePayload` (Protocol.cs:277) -/
def snapshotResponsePayload (state : RuntimeSnapshot) (bridgeId : String) (bridgeSequence : Int)
    (captured : DateTimeOffset) : Option JsonValue := do
  guard state.mapIdentity.valid
  guard state.saveIdentity.valid
  let surfaces ← surfaceStates contract state
  return .object [("snapshot", .object (snapshotMembers contract state bridgeId bridgeSequence captured surfaces))]

/-! ## Validation -/

/-- `ValidateEnvelope` (Protocol.cs:190) -/
def validateEnvelope (e : Envelope) : Bool :=
  e.protocolVersion == contract.protocolVersion && e.adapterVersion == contract.adapterVersion &&
    e.gameId == contract.gameId && e.gameVersion == contract.supportedGameVersion &&
    (e.platform == "macos" || e.platform == "windows" || e.platform == "linux") &&
    (e.architecture == "x86_64" || e.architecture == "arm64") &&
    !isBlank e.bridgeInstanceId && !isBlank e.gameSessionId && !isBlank e.messageId && 1 ≤ e.bridgeSequence &&
    e.mapIdentity.valid && e.saveIdentity.valid && e.timestamp.utc && e.payload.object?.isSome &&
    (!(e.messageType ∈ [.bridgeHello, .authenticationFailure, .fullSnapshotResponse, .protocolError]) ||
      e.correlationId.isSome)

/-- The entities of a surface, each behind the one before it (Protocol.cs:252-261). -/
def validateEntities (prior : Option String) : List JsonValue → Option Unit
  | [] => some ()
  | value :: rest => do
    let entity ← value.object?
    guard (Members.exact entity ["entity_id", "entity_type", "values"])
    let key := (← text entity "entity_type") ++ "\x00" ++ (← text entity "entity_id")
    guard (prior.all fun p => OrdinalLt p key)
    let _ ← (← entity.get "values").object?
    validateEntities (some key) rest

/-- The surfaces of a snapshot (Protocol.cs:243-263). -/
def validateSurfaces (prior : Option String) : List JsonValue → Option Unit
  | [] => some ()
  | item :: rest => do
    let surface ← item.object?
    guard (Members.exact surface ["coverage", "entities"])
    let coverage ← (← surface.get "coverage").object?
    guard (Members.exact coverage ["detail", "fields", "status", "surface"])
    let name ← text coverage "surface"
    guard (prior.all fun p => OrdinalLt p name)
    let status ← (← coverage.get "status").string?
    guard (status ∈ ["observed_complete", "observed_partial", "unsupported", "unavailable", "failed"])
    sortedStrings (← coverage.get "fields")
    let _ ← optionalText coverage "detail"
    let entities ← (← surface.get "entities").array?
    guard (¬ (status ∈ ["unsupported", "unavailable", "failed"] ∧ entities ≠ []))
    validateEntities none entities
    validateSurfaces (some name) rest

/-- `ValidateSnapshot` (Protocol.cs:236) -/
def validateSnapshot (o : Members) : Option Unit := do
  guard (Members.exact o
    ["adapter_version", "architecture", "bridge_instance_id", "bridge_sequence", "capture_completed_marker",
      "capture_started_marker", "capture_timestamp", "game_id", "game_session_id", "game_state", "game_version",
      "limitations", "map_identity", "platform", "save_identity", "schema_version", "surfaces", "warnings"])
  let _ ← integer o "schema_version" 1 1
  let _ ← text o "capture_timestamp"
  let _ ← text o "capture_started_marker"
  let _ ← text o "capture_completed_marker"
  let _ ← integer o "bridge_sequence" 1 longMaxValue
  let _ ← text o "bridge_instance_id"
  let _ ← text o "game_session_id"
  let _ ← text o "game_id"
  let _ ← text o "game_version"
  let _ ← text o "adapter_version"
  let _ ← text o "platform"
  let _ ← text o "architecture"
  let _ ← Identity.parse (← o.get "map_identity")
  let _ ← Identity.parse (← o.get "save_identity")
  let _ ← (← o.get "game_state").object?
  let _ ← stringArray (← o.get "warnings")
  let _ ← stringArray (← o.get "limitations")
  validateSurfaces none (← (← o.get "surfaces").array?)

/-- The codes of `ParseErrorCode` (Protocol.cs:377). -/
def errorCodes : List String :=
  ["malformed_envelope", "unknown_message_type", "message_too_large", "protocol_mismatch", "adapter_mismatch",
    "game_mismatch", "duplicate_message", "sequence_error", "stale_identity", "snapshot_failed", "internal_error"]

/-- `ValidatePayload` (Protocol.cs:201) -/
def validatePayload (type : MessageType) (o : Members) : Option Unit :=
  match type with
  | .clientHello => do
    guard (Members.exact o ["authentication_token", "client_instance_id", "expected_adapter_version",
      "expected_game_id", "expected_game_version", "requested_protocol_version"])
    guard (32 ≤ (utf16 (← text o "authentication_token")).length)
    guard ((← text o "expected_adapter_version") = contract.adapterVersion)
    guard ((← text o "expected_game_id") = contract.gameId)
    guard ((← text o "expected_game_version") = contract.supportedGameVersion)
    let _ ← integer o "requested_protocol_version" contract.protocolVersion contract.protocolVersion
    let _ ← text o "client_instance_id"
  | .bridgeHello => do
    guard (Members.exact o ["authenticated", "heartbeat_interval_seconds", "maximum_message_bytes",
      "negotiated_protocol_version"])
    guard (← (← o.get "authenticated").boolean?)
    guard (0 < (← (← o.get "heartbeat_interval_seconds").number?))
    let _ ← integer o "maximum_message_bytes" 1024 16777216
    let _ ← integer o "negotiated_protocol_version" contract.protocolVersion contract.protocolVersion
  | .authenticationFailure => do
    guard (Members.exact o ["reason"])
    guard ((← (← o.get "reason").string?) = "authentication_failed")
  | .heartbeat => do
    guard (Members.exact o ["detail", "healthy"])
    let _ ← (← o.get "healthy").boolean?
    let _ ← optionalText o "detail"
  | .capabilityManifest => do
    guard (Members.exact o ["delta_snapshots", "full_snapshots", "gameplay_actions", "observation_surfaces",
      "resynchronization", "schema_version"])
    let _ ← integer o "schema_version" 1 1
    guard (← (← o.get "full_snapshots").boolean?)
    guard (¬ (← (← o.get "delta_snapshots").boolean?))
    guard (← (← o.get "resynchronization").boolean?)
    sortedStrings (← o.get "observation_surfaces")
    sortedStrings (← o.get "gameplay_actions")
    guard ((← (← o.get "gameplay_actions").array?) = [])
  | .fullSnapshotRequest => do
    guard (Members.exact o ["expected_bridge_instance_id", "expected_game_session_id"])
    let _ ← text o "expected_bridge_instance_id"
    let _ ← text o "expected_game_session_id"
  | .fullSnapshotResponse => do
    guard (Members.exact o ["snapshot"])
    validateSnapshot (← (← o.get "snapshot").object?)
  | .resynchronizationRequest => do
    guard (Members.exact o ["last_bridge_instance_id", "last_bridge_sequence", "last_game_session_id", "reason"])
    let _ ← optionalText o "last_bridge_instance_id"
    let _ ← optionalText o "last_game_session_id"
    match ← o.get "last_bridge_sequence" with
    | .null => pure ()
    | _ =>
      let _ ← integer o "last_bridge_sequence" 1 longMaxValue
    let _ ← text o "reason"
  | .protocolError => do
    guard (Members.exact o ["code", "message", "retryable"])
    guard ((← (← o.get "code").string?) ∈ errorCodes)
    let _ ← text o "message"
    let _ ← (← o.get "retryable").boolean?

/-- The object `SerializeEnvelope` builds, of identities that are valid. -/
def Envelope.members (e : Envelope) : Members :=
  [("protocol_version", .integer e.protocolVersion), ("adapter_version", .string e.adapterVersion),
    ("game_id", .string e.gameId), ("game_version", .string e.gameVersion), ("platform", .string e.platform),
    ("architecture", .string e.architecture), ("bridge_instance_id", .string e.bridgeInstanceId),
    ("game_session_id", .string e.gameSessionId), ("map_identity", e.mapIdentity.tree),
    ("save_identity", e.saveIdentity.tree), ("message_id", .string e.messageId),
    ("correlation_id", .ofOption e.correlationId), ("bridge_sequence", .integer e.bridgeSequence),
    ("message_type", .string e.messageType.name), ("timestamp", .string (time e.timestamp)), ("payload", e.payload)]

/-- `SerializeEnvelope` (Protocol.cs:163), up to the writing of the value. The identities are
checked with the envelope, and `IdentityJson` checks them again. -/
def serializeEnvelope (e : Envelope) : Option JsonValue := do
  guard (validateEnvelope contract e)
  validatePayload contract e.messageType (← e.payload.object?)
  return .object e.members

/-- The envelope `BridgeServer.Send` fills from a captured state (BridgeServer.cs:218). -/
def envelopeOf (state : RuntimeSnapshot) (bridgeInstanceId messageId : String) (sequence : Int) (type : MessageType)
    (correlationId : Option String) (timestamp : DateTimeOffset) (payload : JsonValue) : Envelope where
  protocolVersion := contract.protocolVersion
  adapterVersion := contract.adapterVersion
  gameId := contract.gameId
  gameVersion := state.gameVersion
  platform := state.platform
  architecture := state.architecture
  bridgeInstanceId
  gameSessionId := state.gameSessionId
  mapIdentity := state.mapIdentity
  saveIdentity := state.saveIdentity
  messageId
  correlationId
  bridgeSequence := sequence
  messageType := type
  timestamp
  payload

end SimPilot.GameBridge.Core
