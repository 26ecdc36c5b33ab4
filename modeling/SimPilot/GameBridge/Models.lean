import SimPilot.Data.TextLength
import SimPilot.Data.TextOrder
import SimPilot.GameBridge.Json
import Mathlib.Data.Prod.Lex
/-!
# The client's side of the protocol (game_bridge/models.py)

`Pydantic` stands for what the models take from the library: whether its JSON reader takes a
text, and which texts are date times with an offset. The models themselves are strict and
closed to unknown keys. A payload is read as the model its message type asks for: the members
of the payload models are all different, so the union finds no other.

| here | there |
|---|---|
| `Identity`, …, `GameSnapshot` | models.py:40-129 |
| `BridgePayload`, `BridgeEnvelope` | models.py:150-280 |
| `parseEnvelope` | `parse_envelope` (models.py:296) of a frame within the size limit |
-/

namespace SimPilot.GameBridge

open TextOrder

structure Pydantic where
  /-- The JSON reader takes the text of the value. -/
  reads : JsonValue → Bool
  /-- `AwareDatetime` takes the text. -/
  awareDatetime : String → Bool

inductive Platform where
  | macos | windows | linux
  deriving DecidableEq, Repr

inductive Architecture where
  | x86_64 | arm64
  deriving DecidableEq, Repr

inductive IdentityStatus where
  | observed | unavailable
  deriving DecidableEq, Repr

structure Identity where
  status : IdentityStatus
  value : Option String
  label : Option String
  detail : Option String
  deriving DecidableEq, Repr

inductive CoverageStatus where
  | observedComplete | observedPartial | unsupported | unavailable | failed
  deriving DecidableEq, Repr

structure FieldCoverage where
  surface : String
  status : CoverageStatus
  fields : List String
  detail : Option String

structure ObservedEntity where
  entityType : String
  entityId : String
  values : Members

structure ObservationSurface where
  coverage : FieldCoverage
  entities : List ObservedEntity

structure GameSnapshot where
  captureTimestamp : String
  captureStartedMarker : String
  captureCompletedMarker : String
  bridgeSequence : Int
  bridgeInstanceId : String
  gameSessionId : String
  gameId : String
  gameVersion : String
  adapterVersion : String
  platform : Platform
  architecture : Architecture
  mapIdentity : Identity
  saveIdentity : Identity
  gameState : Members
  surfaces : List ObservationSurface
  warnings : List String
  limitations : List String

inductive MessageType where
  | clientHello | bridgeHello | authenticationFailure | heartbeat | capabilityManifest | fullSnapshotRequest
  | fullSnapshotResponse | resynchronizationRequest | protocolError
  deriving DecidableEq, Repr

inductive BridgePayload where
  | clientHello (authenticationToken clientInstanceId expectedAdapterVersion expectedGameId
      expectedGameVersion : String)
  | bridgeHello (maximumMessageBytes : Int) (heartbeatIntervalSeconds : ℚ)
  | authenticationFailure
  | heartbeat (healthy : Bool) (detail : Option String)
  | capabilityManifest (observationSurfaces : List String)
  | fullSnapshotRequest (expectedBridgeInstanceId expectedGameSessionId : String)
  | fullSnapshotResponse (snapshot : GameSnapshot)
  | resynchronizationRequest (lastBridgeInstanceId lastGameSessionId : Option String)
      (lastBridgeSequence : Option Int) (reason : String)
  | protocolError (code message : String) (retryable : Bool)

structure BridgeEnvelope where
  adapterVersion : String
  gameId : String
  gameVersion : String
  platform : Platform
  architecture : Architecture
  bridgeInstanceId : String
  gameSessionId : String
  mapIdentity : Identity
  saveIdentity : Identity
  messageId : String
  correlationId : Option String
  bridgeSequence : Int
  messageType : MessageType
  timestamp : String
  payload : BridgePayload

/-! ## Fields -/

/-- The members of a model: no unknown ones, none of the required ones missing. -/
def fieldsOf (required optional : List String) (v : JsonValue) : Option Members := do
  let o ← v.object?
  guard (o.keys.all fun key => key ∈ required ∨ key ∈ optional)
  guard (required.all fun key => o.contains key)
  return o

/-- `Field(min_length=minimum, max_length=maximum)` of a string. -/
def sized (minimum maximum : Nat) (s : String) : Bool := minimum ≤ s.length && s.length ≤ maximum

theorem sized_ofList {minimum maximum : Nat} {cs : List Char}
    (h : (minimum ≤ cs.length && cs.length ≤ maximum) = true) :
    sized minimum maximum (String.ofList cs) = true := by
  rw [sized, String.length_ofList]
  exact h

theorem sized_append_ofList {minimum maximum : Nat} {cs ds : List Char}
    (h : (minimum ≤ cs.length + ds.length && cs.length + ds.length ≤ maximum) = true) :
    sized minimum maximum (String.ofList cs ++ String.ofList ds) = true := by
  rw [sized, String.length_append, String.length_ofList, String.length_ofList]
  exact h

theorem sized_eq_countP (minimum maximum : Nat) (s : String) : sized minimum maximum s =
    (fun n => minimum ≤ n && n ≤ maximum) (s.toByteArray.data.toList.countP fun b => decide b.IsUTF8FirstByte) := by
  rw [sized, TextLength.eq_countP]

theorem all_sized_ofList {minimum maximum : Nat} {cs : List Char}
    (h : (minimum ≤ cs.length && cs.length ≤ maximum) = true) :
    (some (String.ofList cs)).all (sized minimum maximum) = true := by
  rw [Option.all_some, sized_ofList h]

def strField (minimum maximum : Nat) (o : Members) (key : String) : Option String := do
  let s ← (← o.get key).string?
  guard (sized minimum maximum s)
  return s

/-- `str | None = Field(default=None, …)` -/
def optionalField (minimum maximum : Nat) (o : Members) (key : String) : Option (Option String) :=
  match o.get key with
  | none | some .null => some none
  | some _ => (strField minimum maximum o key).map some

/-- `int = Field(ge=minimum)` -/
def intField (minimum : Int) (o : Members) (key : String) : Option Int := do
  let i ← (← o.get key).integer?
  guard (minimum ≤ i)
  return i

/-- `tuple[str, ...]` -/
def strTuple (v : JsonValue) : Option (List String) := do (← v.array?).mapM (·.string?)

/-- `tuple[str, ...] = ()` -/
def strTupleField (o : Members) (key : String) : Option (List String) :=
  match o.get key with
  | none => some []
  | some v => strTuple v

/-- `Literal[value]`, with `value` for its default. -/
def literalField (value : JsonValue → Bool) (o : Members) (key : String) : Option Unit := guard ((o.get key).all value)

def isInteger (i : Int) (v : JsonValue) : Bool := v.integer? == some i

def isBoolean (b : Bool) (v : JsonValue) : Bool := v.boolean? == some b

def Platform.parse : String → Option Platform
  | "macos" => some macos
  | "windows" => some windows
  | "linux" => some linux
  | _ => none

def Architecture.parse : String → Option Architecture
  | "x86_64" => some x86_64
  | "arm64" => some arm64
  | _ => none

def IdentityStatus.parse : String → Option IdentityStatus
  | "observed" => some observed
  | "unavailable" => some unavailable
  | _ => none

def CoverageStatus.parse : String → Option CoverageStatus
  | "observed_complete" => some observedComplete
  | "observed_partial" => some observedPartial
  | "unsupported" => some unsupported
  | "unavailable" => some unavailable
  | "failed" => some failed
  | _ => none

def MessageType.parse : String → Option MessageType
  | "client_hello" => some clientHello
  | "bridge_hello" => some bridgeHello
  | "authentication_failure" => some authenticationFailure
  | "heartbeat" => some heartbeat
  | "capability_manifest" => some capabilityManifest
  | "full_snapshot_request" => some fullSnapshotRequest
  | "full_snapshot_response" => some fullSnapshotResponse
  | "resynchronization_request" => some resynchronizationRequest
  | "protocol_error" => some protocolError
  | _ => none

/-- A member of an enumeration. -/
def enumField {α : Type} (parse : String → Option α) (o : Members) (key : String) : Option α := do
  parse (← (← o.get key).string?)

/-! ## Models -/

/-- `Identity.validate_status` (models.py:46) -/
def Identity.valid (i : Identity) : Bool :=
  match i.status with
  | .observed => i.value.isSome
  | .unavailable => i.value.isNone

def Identity.parse (v : JsonValue) : Option Identity := do
  let o ← fieldsOf ["status"] ["value", "label", "detail"] v
  let status ← enumField IdentityStatus.parse o "status"
  let value ← optionalField 1 256 o "value"
  let label ← optionalField 1 256 o "label"
  let detail ← optionalField 1 512 o "detail"
  let identity : Identity := { status, value, label, detail }
  guard identity.valid
  return identity

def FieldCoverage.parse (v : JsonValue) : Option FieldCoverage := do
  let o ← fieldsOf ["surface", "status"] ["fields", "detail"] v
  let surface ← strField 1 128 o "surface"
  let status ← enumField CoverageStatus.parse o "status"
  let fields ← strTupleField o "fields"
  let detail ← optionalField 1 1024 o "detail"
  guard (sortedSet fields = fields)
  return { surface, status, fields, detail }

def ObservedEntity.parse (v : JsonValue) : Option ObservedEntity := do
  let o ← fieldsOf ["entity_type", "entity_id", "values"] [] v
  let entityType ← strField 1 128 o "entity_type"
  let entityId ← strField 1 256 o "entity_id"
  let values ← (← o.get "values").object?
  return { entityType, entityId, values }

/-- The pair the entities of a surface are ordered by. -/
def ObservedEntity.key (e : ObservedEntity) : String ×ₗ String := toLex (e.entityType, e.entityId)

def ObservationSurface.parse (v : JsonValue) : Option ObservationSurface := do
  let o ← fieldsOf ["coverage"] ["entities"] v
  let coverage ← FieldCoverage.parse (← o.get "coverage")
  let entities ← ((← ((o.get "entities").getD (.array [])).array?)).mapM ObservedEntity.parse
  guard (¬ (coverage.status ∈ [.unsupported, .unavailable, .failed] ∧ entities.length ≠ 0))
  guard (sortedSet (entities.map (·.key)) = entities.map (·.key))
  return { coverage, entities }

def GameSnapshot.parse (pydantic : Pydantic) (v : JsonValue) : Option GameSnapshot := do
  let o ← fieldsOf
    ["capture_timestamp", "capture_started_marker", "capture_completed_marker", "bridge_sequence",
      "bridge_instance_id", "game_session_id", "game_id", "game_version", "adapter_version", "platform",
      "architecture", "map_identity", "save_identity", "game_state", "surfaces"]
    ["schema_version", "warnings", "limitations"] v
  literalField (isInteger 1) o "schema_version"
  let captureTimestamp ← (← o.get "capture_timestamp").string?
  guard (pydantic.awareDatetime captureTimestamp)
  let captureStartedMarker ← strField 1 256 o "capture_started_marker"
  let captureCompletedMarker ← strField 1 256 o "capture_completed_marker"
  let bridgeSequence ← intField 1 o "bridge_sequence"
  let bridgeInstanceId ← strField 1 128 o "bridge_instance_id"
  let gameSessionId ← strField 1 128 o "game_session_id"
  let gameId ← strField 1 128 o "game_id"
  let gameVersion ← strField 1 128 o "game_version"
  let adapterVersion ← strField 1 128 o "adapter_version"
  let platform ← enumField Platform.parse o "platform"
  let architecture ← enumField Architecture.parse o "architecture"
  let mapIdentity ← Identity.parse (← o.get "map_identity")
  let saveIdentity ← Identity.parse (← o.get "save_identity")
  let gameState ← (← o.get "game_state").object?
  let surfaces ← (← (← o.get "surfaces").array?).mapM ObservationSurface.parse
  let warnings ← strTupleField o "warnings"
  let limitations ← strTupleField o "limitations"
  guard (sortedSet (surfaces.map (·.coverage.surface)) = surfaces.map (·.coverage.surface))
  return {
    captureTimestamp, captureStartedMarker, captureCompletedMarker, bridgeSequence, bridgeInstanceId, gameSessionId
    gameId, gameVersion, adapterVersion, platform, architecture, mapIdentity, saveIdentity, gameState, surfaces
    warnings, limitations }

/-! ## Envelopes -/

/-- The codes of `ProtocolErrorCode`. -/
def protocolErrorCodes : List String :=
  ["malformed_envelope", "unknown_message_type", "message_too_large", "protocol_mismatch", "adapter_mismatch",
    "game_mismatch", "duplicate_message", "sequence_error", "stale_identity", "snapshot_failed", "internal_error"]

def BridgePayload.parse (pydantic : Pydantic) (type : MessageType) (v : JsonValue) : Option BridgePayload :=
  match type with
  | .clientHello => do
    let o ← fieldsOf ["authentication_token", "client_instance_id", "expected_adapter_version", "expected_game_id",
      "expected_game_version"] ["requested_protocol_version"] v
    let authenticationToken ← strField 32 512 o "authentication_token"
    let clientInstanceId ← strField 1 128 o "client_instance_id"
    literalField (isInteger 3) o "requested_protocol_version"
    let expectedAdapterVersion ← strField 1 128 o "expected_adapter_version"
    let expectedGameId ← strField 1 128 o "expected_game_id"
    let expectedGameVersion ← strField 1 128 o "expected_game_version"
    return .clientHello authenticationToken clientInstanceId expectedAdapterVersion expectedGameId expectedGameVersion
  | .bridgeHello => do
    let o ← fieldsOf ["maximum_message_bytes", "heartbeat_interval_seconds"]
      ["authenticated", "negotiated_protocol_version"] v
    literalField (isBoolean true) o "authenticated"
    literalField (isInteger 3) o "negotiated_protocol_version"
    let maximumMessageBytes ← intField 1024 o "maximum_message_bytes"
    guard (maximumMessageBytes ≤ 16777216)
    let heartbeatIntervalSeconds ← (← o.get "heartbeat_interval_seconds").number?
    guard (0 < heartbeatIntervalSeconds ∧ heartbeatIntervalSeconds ≤ 300)
    return .bridgeHello maximumMessageBytes heartbeatIntervalSeconds
  | .authenticationFailure => do
    let o ← fieldsOf [] ["reason"] v
    literalField (fun v => v.string? == some "authentication_failed") o "reason"
    return .authenticationFailure
  | .heartbeat => do
    let o ← fieldsOf ["healthy"] ["detail"] v
    let healthy ← (← o.get "healthy").boolean?
    let detail ← optionalField 1 512 o "detail"
    return .heartbeat healthy detail
  | .capabilityManifest => do
    let o ← fieldsOf ["observation_surfaces"]
      ["schema_version", "gameplay_actions", "full_snapshots", "delta_snapshots", "resynchronization"] v
    literalField (isInteger 1) o "schema_version"
    let observationSurfaces ← strTuple (← o.get "observation_surfaces")
    literalField (fun v => v.array?.any (·.isEmpty)) o "gameplay_actions"
    literalField (isBoolean true) o "full_snapshots"
    literalField (isBoolean false) o "delta_snapshots"
    literalField (isBoolean true) o "resynchronization"
    guard (sortedSet observationSurfaces = observationSurfaces)
    return .capabilityManifest observationSurfaces
  | .fullSnapshotRequest => do
    let o ← fieldsOf ["expected_bridge_instance_id", "expected_game_session_id"] [] v
    let expectedBridgeInstanceId ← strField 1 128 o "expected_bridge_instance_id"
    let expectedGameSessionId ← strField 1 128 o "expected_game_session_id"
    return .fullSnapshotRequest expectedBridgeInstanceId expectedGameSessionId
  | .fullSnapshotResponse => do
    let o ← fieldsOf ["snapshot"] [] v
    return .fullSnapshotResponse (← GameSnapshot.parse pydantic (← o.get "snapshot"))
  | .resynchronizationRequest => do
    let o ← fieldsOf ["reason"] ["last_bridge_instance_id", "last_game_session_id", "last_bridge_sequence"] v
    let lastBridgeInstanceId ← optionalField 1 128 o "last_bridge_instance_id"
    let lastGameSessionId ← optionalField 1 128 o "last_game_session_id"
    let lastBridgeSequence ← match o.get "last_bridge_sequence" with
      | none | some .null => some none
      | some _ => (intField 1 o "last_bridge_sequence").map some
    let reason ← strField 1 128 o "reason"
    return .resynchronizationRequest lastBridgeInstanceId lastGameSessionId lastBridgeSequence reason
  | .protocolError => do
    let o ← fieldsOf ["code", "message"] ["retryable"] v
    let code ← (← o.get "code").string?
    guard (code ∈ protocolErrorCodes)
    let message ← strField 1 1024 o "message"
    let retryable ← ((o.get "retryable").getD (.boolean false)).boolean?
    return .protocolError code message retryable

/-- The types `validate_payload_and_correlation` wants a correlation for (models.py:271). -/
def MessageType.correlated (type : MessageType) : Bool :=
  type ∈ [bridgeHello, authenticationFailure, fullSnapshotResponse]

def BridgeEnvelope.parse (pydantic : Pydantic) (v : JsonValue) : Option BridgeEnvelope := do
  let o ← fieldsOf
    ["adapter_version", "game_id", "game_version", "platform", "architecture", "bridge_instance_id",
      "game_session_id", "map_identity", "save_identity", "message_id", "bridge_sequence", "message_type",
      "timestamp", "payload"]
    ["protocol_version", "correlation_id"] v
  literalField (isInteger 3) o "protocol_version"
  let adapterVersion ← strField 1 128 o "adapter_version"
  let gameId ← strField 1 128 o "game_id"
  let gameVersion ← strField 1 128 o "game_version"
  let platform ← enumField Platform.parse o "platform"
  let architecture ← enumField Architecture.parse o "architecture"
  let bridgeInstanceId ← strField 1 128 o "bridge_instance_id"
  let gameSessionId ← strField 1 128 o "game_session_id"
  let mapIdentity ← Identity.parse (← o.get "map_identity")
  let saveIdentity ← Identity.parse (← o.get "save_identity")
  let messageId ← strField 1 128 o "message_id"
  let correlationId ← optionalField 1 128 o "correlation_id"
  let bridgeSequence ← intField 1 o "bridge_sequence"
  let messageType ← enumField MessageType.parse o "message_type"
  let timestamp ← (← o.get "timestamp").string?
  guard (pydantic.awareDatetime timestamp)
  let payload ← BridgePayload.parse pydantic messageType (← o.get "payload")
  guard (¬ (messageType.correlated ∧ correlationId = none))
  return {
    adapterVersion, gameId, gameVersion, platform, architecture, bridgeInstanceId, gameSessionId, mapIdentity
    saveIdentity, messageId, correlationId, bridgeSequence, messageType, timestamp, payload }

/-- `parse_envelope` -/
def parseEnvelope (pydantic : Pydantic) (v : JsonValue) : Option BridgeEnvelope := do
  guard (pydantic.reads v)
  BridgeEnvelope.parse pydantic v

end SimPilot.GameBridge
