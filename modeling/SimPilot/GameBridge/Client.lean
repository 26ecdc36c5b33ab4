import SimPilot.GameBridge.Models
import SimPilot.Effect.Run
/-!
# The client of the game bridge (game_bridge/client.py)

One authenticated connection and the timeline of the messages accepted on it. A method raises
with the attributes it has set so far, as in Python: `GameBridgeClient` is the locals of `Py`.
The link is asked through `BridgeCall`, whose replies are anything. The text of a frame is the
JSON value it spells, the size of an encoded envelope is a parameter, and the texts of the
library behind an invalid envelope are left out. The loop that waits for a snapshot is given a
number of turns, behind which it is still waiting.

| here | there |
|---|---|
| `connect`, `requestFullSnapshot`, `resynchronize`, `close` | client.py:106, 166, 193, 221 |
| `send`, `receive`, `readFrame` | client.py:231, 268, 311 |
| `compatibilityFault`, `snapshotMatches` | `_validate_compatibility`, `_validate_snapshot` (client.py:333, 347) |
-/

namespace SimPilot.GameBridge

open Effect

inductive ClientState where
  | disconnected | connecting | authenticating | synchronized | resynchronizing | failed
  deriving DecidableEq, Repr

/-- `GameBridgeConfiguration`, without the address and the timeouts of the socket. -/
structure GameBridgeConfiguration where
  authenticationToken : String
  expectedAdapterVersion : String
  expectedGameId : String
  expectedGameVersion : String
  platform : Platform
  architecture : Architecture
  maximumMessageBytes : Nat

/-- The errors of game_bridge/errors.py, and what the methods let through: a bare
`TimeoutError` and `OSError`, and a payload the models refuse. -/
inductive GameBridgeError where
  | connection (text : String)
  | timeout (text : String)
  | authentication (text : String)
  | protocol (text : String)
  | incompatible (text : String)
  | sequence (text : String)
  | messageSize (text : String)
  | snapshot (text : String)
  | timedOut
  | os
  | validation
  /-- The turns of `awaitSnapshot` are used up. -/
  | waiting
  deriving DecidableEq, Repr

inductive LinkFault where
  | timedOut | incomplete | os
  deriving DecidableEq, Repr

inductive BridgeCall where
  | openConnection
  | closeConnection
  | uuid4
  | now
  | write (envelope : BridgeEnvelope)
  | readHeader
  | readBody (size : Nat)

@[reducible] def BridgeReply : BridgeCall → Type
  | .openConnection => Except LinkFault Unit
  | .write _ => Except LinkFault Unit
  | .closeConnection => Unit
  | .uuid4 => String
  | .now => String
  | .readHeader => Except LinkFault Nat
  | .readBody _ => Except LinkFault JsonValue

structure GameBridgeClient where
  state : ClientState
  /-- The observation surfaces of the capability manifest. -/
  capabilities : Option (List String)
  bridgeInstanceId : Option String
  gameSessionId : Option String
  mapIdentity : Option Identity
  saveIdentity : Option Identity
  lastBridgeSequence : Option Int
  lastHeartbeatAt : Option String
  /-- `_reader` and `_writer` are set. -/
  connected : Bool
  outgoingSequence : Nat
  seenMessageIds : List String
  clientInstanceId : String

/-- What the methods take from outside the client. -/
structure Surroundings where
  configuration : GameBridgeConfiguration
  pydantic : Pydantic
  /-- `len(envelope.to_json())` -/
  encodedSize : BridgeEnvelope → Nat
  turns : Nat

namespace GameBridgeClient

/-- `GameBridgeClient.__init__` -/
def new (clientInstanceId : String) : GameBridgeClient where
  state := .disconnected
  capabilities := none
  bridgeInstanceId := none
  gameSessionId := none
  mapIdentity := none
  saveIdentity := none
  lastBridgeSequence := none
  lastHeartbeatAt := none
  connected := false
  outgoingSequence := 0
  seenMessageIds := []
  clientInstanceId

abbrev Method (α : Type) : Type := Py BridgeCall BridgeReply GameBridgeError GameBridgeClient α

variable {α : Type}

def raise (e : GameBridgeError) : Method α := Py.raise e

def setState (state : ClientState) : Method Unit := Py.update fun self => { self with state }

def close : Method Unit := do
  let self ← Py.locals
  Py.update fun self => { self with connected := false }
  if self.connected then
    Py.perform BridgeCall.closeConnection
  setState .disconnected

/-! ## Sending -/

def notNegotiated : Identity where
  status := .unavailable
  value := none
  label := none
  detail := some "not negotiated"

/-- The envelope `_send` builds. -/
def envelope (env : Surroundings) (self : GameBridgeClient) (uuid timestamp : String) (messageType : MessageType)
    (payload : BridgePayload) : BridgeEnvelope where
  adapterVersion := env.configuration.expectedAdapterVersion
  gameId := env.configuration.expectedGameId
  gameVersion := env.configuration.expectedGameVersion
  platform := env.configuration.platform
  architecture := env.configuration.architecture
  bridgeInstanceId := self.bridgeInstanceId.getD "client-unnegotiated"
  gameSessionId := self.gameSessionId.getD "client-unnegotiated"
  mapIdentity := self.mapIdentity.getD notNegotiated
  saveIdentity := self.saveIdentity.getD notNegotiated
  messageId := "client:" ++ uuid
  correlationId := none
  bridgeSequence := self.outgoingSequence
  messageType
  timestamp
  payload

def written : Except LinkFault Unit → Method Unit
  | .ok () => return ()
  | .error .timedOut => raise (.timeout "timed out writing to the game bridge")
  | .error _ => raise .os

def send (env : Surroundings) (messageType : MessageType) (payload : BridgePayload) : Method BridgeEnvelope := do
  let self ← Py.locals
  if ¬ self.connected then
    raise (.connection "game bridge is disconnected")
  else
    Py.update fun self => { self with outgoingSequence := self.outgoingSequence + 1 }
    let uuid ← Py.perform BridgeCall.uuid4
    let timestamp ← Py.perform BridgeCall.now
    let self ← Py.locals
    let message := envelope env self uuid timestamp messageType payload
    if env.configuration.maximumMessageBytes < env.encodedSize message then
      raise (.messageSize s!"bridge message exceeds {env.configuration.maximumMessageBytes} bytes")
    else
      written (← Py.perform (BridgeCall.write message))
      return message

/-! ## Receiving -/

def readFault : LinkFault → GameBridgeError
  | .timedOut => .timeout "timed out reading from the game bridge"
  | .incomplete => .connection "game bridge disconnected mid-frame"
  | .os => .os

def readFrame (env : Surroundings) : Method JsonValue := do
  let self ← Py.locals
  if ¬ self.connected then
    raise (.connection "game bridge is disconnected")
  else
    let header : Except LinkFault Nat ← Py.perform BridgeCall.readHeader
    let size ← Py.lift (header.mapError readFault)
    if size = 0 ∨ env.configuration.maximumMessageBytes < size then
      raise (.messageSize s!"bridge frame length {size} is outside the supported range")
    else
      let body : Except LinkFault JsonValue ← Py.perform (BridgeCall.readBody size)
      Py.lift (body.mapError readFault)

/-- `_validate_compatibility` -/
def compatibilityFault (expected : GameBridgeConfiguration) (message : BridgeEnvelope) : Option GameBridgeError :=
  if message.adapterVersion ≠ expected.expectedAdapterVersion then
    some (.incompatible "bridge adapter version is incompatible")
  else if message.gameId ≠ expected.expectedGameId then
    some (.incompatible "bridge game identity is incompatible")
  else if message.gameVersion ≠ expected.expectedGameVersion then
    some (.incompatible "bridge game version is incompatible")
  else if message.platform ≠ expected.platform ∨ message.architecture ≠ expected.architecture then
    some (.incompatible "bridge platform or architecture is incompatible")
  else none

/-- What `_receive` checks outside a baseline (client.py:280-300). -/
def continuityFault (self : GameBridgeClient) (message : BridgeEnvelope) : Option GameBridgeError :=
  if self.bridgeInstanceId.any (· ≠ message.bridgeInstanceId) then
    some (.sequence "bridge instance changed outside resynchronization")
  else if self.gameSessionId.any (· ≠ message.gameSessionId) then
    some (.sequence "game session changed outside resynchronization")
  else if self.mapIdentity.any (message.mapIdentity ≠ ·) then
    some (.sequence "map identity changed outside resynchronization")
  else if self.saveIdentity.any (message.saveIdentity ≠ ·) then
    some (.sequence "save identity changed outside resynchronization")
  else
    match self.lastBridgeSequence with
    | some last =>
      if message.bridgeSequence ≠ last + 1 then
        some (.sequence s!"bridge sequence gap: expected {last + 1}, received {message.bridgeSequence}")
      else none
    | none => none

/-- The attributes `_receive` sets for a message it takes. -/
def accept (self : GameBridgeClient) (message : BridgeEnvelope) : GameBridgeClient :=
  { self with
    seenMessageIds := message.messageId :: self.seenMessageIds
    bridgeInstanceId := some message.bridgeInstanceId
    gameSessionId := some message.gameSessionId
    mapIdentity := some message.mapIdentity
    saveIdentity := some message.saveIdentity
    lastBridgeSequence := some message.bridgeSequence }

def raiseIf : Option GameBridgeError → Method Unit
  | some e => raise e
  | none => return ()

def noteHeartbeat (message : BridgeEnvelope) : Method Unit :=
  if message.messageType = .heartbeat then
    match message.payload with
    | .heartbeat _ _ => do
      let now ← Py.perform BridgeCall.now
      Py.update fun self => { self with lastHeartbeatAt := some now }
    | _ => raise (.protocol "heartbeat payload has the wrong schema")
  else return ()

def receive (env : Surroundings) (allowIdentityBaseline : Bool) : Method BridgeEnvelope := do
  let body ← readFrame env
  match parseEnvelope env.pydantic body with
  | none => raise (.protocol "invalid bridge envelope")
  | some message =>
    raiseIf (compatibilityFault env.configuration message)
    let self ← Py.locals
    if message.messageId ∈ self.seenMessageIds then
      raise (.sequence s!"duplicate bridge message {message.messageId}")
    else
      if allowIdentityBaseline then
        Py.update fun self => { self with seenMessageIds := [] }
      else
        raiseIf (continuityFault self message)
      Py.update fun self => self.accept message
      noteHeartbeat message
      return message

/-! ## The calls -/

/-- The manifest behind a hello. -/
def receiveManifest (env : Surroundings) (other wrongSchema : String) : Method (List String) := do
  let manifest ← receive env false
  if manifest.messageType ≠ .capabilityManifest then
    raise (.protocol other)
  else
    match manifest.payload with
    | .capabilityManifest surfaces => do
      Py.update fun self => { self with capabilities := some surfaces, state := .synchronized }
      return surfaces
    | _ => raise (.protocol wrongSchema)

/-- The `try` of `connect`. -/
def negotiate (env : Surroundings) : Method (List String) := do
  let opened : Except LinkFault Unit ← Py.perform BridgeCall.openConnection
  match opened with
  | .error .timedOut => raise .timedOut
  | .error _ => raise .os
  | .ok () =>
    Py.update fun self => { self with connected := true, state := .authenticating }
    let self ← Py.locals
    let token := env.configuration.authenticationToken
    if ¬ sized 32 512 token then
      raise .validation
    else
      let request ← send env .clientHello (.clientHello token self.clientInstanceId
        env.configuration.expectedAdapterVersion env.configuration.expectedGameId env.configuration.expectedGameVersion)
      let hello ← receive env true
      if hello.messageType = .authenticationFailure then
        raise (.authentication "game bridge authentication failed")
      else if hello.messageType ≠ .bridgeHello then
        raise (.protocol "bridge hello must be the first authenticated response")
      else if hello.correlationId ≠ some request.messageId then
        raise (.protocol "bridge hello correlation does not match client hello")
      else
        match hello.payload with
        | .bridgeHello _ _ =>
          receiveManifest env "capability manifest must follow bridge hello"
            "capability manifest payload has the wrong schema"
        | _ => raise (.protocol "bridge hello payload has the wrong schema")

/-- What the handlers of `connect` raise for an error of its body. -/
def connecting : GameBridgeError → GameBridgeError
  | .timedOut => .timeout "timed out connecting to the game bridge"
  | .os => .connection "could not connect to the loopback game bridge"
  | e => e

def connect (env : Surroundings) : Method (List String) := do
  let self ← Py.locals
  match self.state, self.capabilities with
  | .synchronized, some capabilities => return capabilities
  | _, _ =>
    setState .connecting
    Py.tryCatch (negotiate env) fun e => do
      setState .failed
      close
      raise (connecting e)

/-- `_validate_snapshot` -/
def snapshotMatches (message : BridgeEnvelope) (snapshot : GameSnapshot) : Bool :=
  snapshot.bridgeSequence = message.bridgeSequence && snapshot.bridgeInstanceId = message.bridgeInstanceId &&
    snapshot.gameSessionId = message.gameSessionId && snapshot.gameId = message.gameId &&
    snapshot.gameVersion = message.gameVersion && snapshot.adapterVersion = message.adapterVersion &&
    snapshot.platform = message.platform && snapshot.architecture = message.architecture &&
    snapshot.mapIdentity = message.mapIdentity && snapshot.saveIdentity = message.saveIdentity

/-- `_raise_protocol_error` -/
def protocolErrorOf (message : BridgeEnvelope) : GameBridgeError :=
  match message.payload with
  | .protocolError code text _ => .protocol s!"{code}: {text}"
  | _ => .protocol "protocol error payload has the wrong schema"

/-- What the loop does with a message that is no heartbeat. -/
def takeSnapshot (request response : BridgeEnvelope) : Except GameBridgeError GameSnapshot :=
  if response.messageType = .protocolError then
    .error (protocolErrorOf response)
  else if response.messageType ≠ .fullSnapshotResponse then
    .error (.protocol "unexpected message while awaiting full snapshot")
  else if response.correlationId ≠ some request.messageId then
    .error (.protocol "snapshot correlation does not match request")
  else
    match response.payload with
    | .fullSnapshotResponse snapshot =>
      if snapshotMatches response snapshot then .ok snapshot
      else .error (.snapshot "snapshot metadata does not match its bridge envelope")
    | _ => .error (.protocol "snapshot response payload has the wrong schema")

/-- The `while True` of `request_full_snapshot`. -/
def awaitSnapshot (env : Surroundings) (request : BridgeEnvelope) : Nat → Method GameSnapshot
  | 0 => raise .waiting
  | turns + 1 => do
    let response ← receive env false
    if response.messageType = .heartbeat then
      awaitSnapshot env request turns
    else
      Py.lift (takeSnapshot request response)

def requestFullSnapshot (env : Surroundings) : Method GameSnapshot := do
  let self ← Py.locals
  if self.state ≠ .synchronized then
    raise (.protocol "bridge must be synchronized before snapshot request")
  else
    match self.bridgeInstanceId, self.gameSessionId with
    | some bridgeInstanceId, some gameSessionId => do
      let request ← send env .fullSnapshotRequest (.fullSnapshotRequest bridgeInstanceId gameSessionId)
      awaitSnapshot env request env.turns
    | _, _ => raise (.protocol "bridge identity is unavailable")

def resynchronize (env : Surroundings) (reason : String) : Method (List String) := do
  let self ← Py.locals
  if ¬ self.connected then
    connect env
  else
    setState .resynchronizing
    if ¬ sized 1 128 reason then
      raise .validation
    else
      let request ← send env .resynchronizationRequest (.resynchronizationRequest self.bridgeInstanceId
        self.gameSessionId self.lastBridgeSequence reason)
      Py.update fun self => { self with seenMessageIds := [] }
      let hello ← receive env true
      if hello.messageType ≠ .bridgeHello then
        raise (.protocol "resynchronization requires a fresh bridge hello")
      else if hello.correlationId ≠ some request.messageId then
        raise (.protocol "resynchronization hello correlation mismatch")
      else
        receiveManifest env "resynchronization requires a capability manifest"
          "resynchronization requires a capability manifest"

end GameBridgeClient

end SimPilot.GameBridge
