import SimPilot.GameScript.Messages
/-!
# The client of the bridge (openttd/gamescript/client.py)

What one call of the client does with each message it reads. A message comes with its place
among all that the script has sent, and what the client keeps of messages carries their
places; nothing in the client looks at them.

| here | there |
|---|---|
| `BridgeHealth`, `BridgeWorldSnapshot` | models.py, without the clock's readings |
| `Client` | the attributes of `GameScriptBridgeClient` (client.py:69-92) |
| `ClientConfig.parses` | whether `parse_bridge_message` takes the message (messages.py:369) |
| `Outcome` | a step of the client: an exception keeps what was changed before it |
-/

namespace SimPilot.GameScript

/-- A value made of messages, with the places of these. -/
structure Sourced (α : Type) where
  value : α
  places : List Nat
  deriving DecidableEq

/-- Made of the message with this place and later ones. -/
def Sourced.Since {α : Type} (place : Nat) (s : Sourced α) : Prop := s.places ≠ [] ∧ ∀ p ∈ s.places, place ≤ p

inductive SynchronizationState where
  | disconnected | connecting | awaitingHello | awaitingCapabilities | awaitingSnapshot | synchronized
  | resynchronizing | identityVerified | incompatible | failed
  deriving DecidableEq, Repr

/-- The entities of the collections, in the order of the enumeration. -/
structure BridgeWorldSnapshot where
  snapshotId : String
  captureStartedGameDate : Nat
  captureCompletedGameDate : Nat
  entities : List (WorldCollection × List Entity)
  deriving DecidableEq

structure BridgeHealth where
  connected : Bool := false
  authenticated : Bool := false
  openttdVersion : Option String := none
  bridgeDetected : Bool := false
  bridgeProtocolVersion : Option Nat := none
  scriptVersion : Option Nat := none
  scriptInstanceId : Option String := none
  lastSequence : Option Nat := none
  synchronizationState : SynchronizationState := .disconnected
  activeCompanyContext : Option Int := none
  capabilities : Option BridgeCapabilities := none
  snapshot : Option (Sourced BridgeSnapshot) := none
  worldSnapshot : Option (Sourced BridgeWorldSnapshot) := none
  deriving DecidableEq

/-- What does not change in the life of a client. -/
structure ClientConfig where
  companyId : Int
  allowWrites : Bool
  rejectInstanceChange : Bool
  /-- `transport.metadata.openttd_version` -/
  openttdVersion : String
  parses : BridgeMessage → Bool

structure Client where
  health : BridgeHealth := {}
  outgoingSequence : Nat := 0
  seenMessageIds : List String := []
  worldManifest : Option (Sourced WorldManifestPayload) := none
  worldPages : Assoc WorldCollection (Assoc Nat (Sourced WorldCollectionPagePayload)) := []

inductive BridgeError where
  | incompatible | sequence | command | unavailable
  deriving DecidableEq, Repr

abbrev Outcome (α : Type) := Except (BridgeError × Client) α

namespace Client
variable (config : ClientConfig)

/-- `_set_state` (client.py:538). -/
def setState (state : SynchronizationState) (connected : Option Bool) (c : Client) : Client :=
  { c with health :=
    { c.health with
      synchronizationState := state, connected := connected.getD c.health.connected
      authenticated := connected.getD c.health.authenticated } }

/-- The script is another one than the client last heard of. -/
def instanceChanged (m : BridgeMessage) (c : Client) : Bool :=
  match c.health.scriptInstanceId with
  | none => false
  | some prior => decide (m.scriptInstanceId ≠ prior)

/-- `_receive` (client.py:345) after the transport. -/
def receive (allowResyncBaseline : Bool) (m : BridgeMessage) (c : Client) : Outcome Client :=
  let changed := c.instanceChanged m
  if ¬ config.parses m then .error (.incompatible, c)
  else if m.protocolVersion ≠ 1 ∧ m.protocolVersion ≠ 2 then .error (.incompatible, c)
  else if m.messageId ∈ c.seenMessageIds then .error (.sequence, c)
  else if changed ∧ (config.rejectInstanceChange ∨ ¬ allowResyncBaseline) then .error (.sequence, c)
  else if ¬ changed ∧ c.health.lastSequence.any (fun last => decide (m.sequence ≠ last + 1)) ∧
      c.health.scriptInstanceId = some m.scriptInstanceId ∧ ¬ allowResyncBaseline then .error (.sequence, c)
  else
    .ok { c with
      seenMessageIds := (if changed then [] else c.seenMessageIds) ++ [m.messageId]
      health :=
        { c.health with
          connected := true, authenticated := true, bridgeDetected := true
          bridgeProtocolVersion := some m.protocolVersion, scriptInstanceId := some m.scriptInstanceId
          lastSequence := some m.sequence, activeCompanyContext := m.companyId } }

/-- `_accept_hello` (client.py:393). -/
def acceptHello (m : BridgeMessage) (c : Client) : Outcome Client :=
  match m.payload with
  | .hello hello =>
    if hello.openttdVersion ≠ config.openttdVersion then .error (.incompatible, c)
    else .ok { c with
      health := { c.health with openttdVersion := some hello.openttdVersion, scriptVersion := some hello.scriptVersion } }
  | _ => .error (.incompatible, c)

/-- `_accept_capabilities` (client.py:410). -/
def acceptCapabilities (m : BridgeMessage) (c : Client) : Outcome Client :=
  match m.payload with
  | .capabilities capabilities => .ok { c with health := { c.health with capabilities := some capabilities } }
  | _ => .error (.incompatible, c)

/-- `_accept_snapshot` (client.py:420). -/
def acceptSnapshot (place : Nat) (m : BridgeMessage) (c : Client) : Outcome Client :=
  match m.payload with
  | .snapshot snapshot => .ok { c with
      health := { c.health with
        snapshot := some ⟨snapshot, [place]⟩, activeCompanyContext := snapshot.company.map (·.companyId) } }
  | _ => .error (.incompatible, c)

/-- `_accept_world_manifest` (client.py:433). -/
def acceptWorldManifest (place : Nat) (m : BridgeMessage) (c : Client) : Outcome Client :=
  match m.payload with
  | .worldManifest manifest => .ok { c with worldManifest := some ⟨manifest, [place]⟩, worldPages := [] }
  | _ => .error (.incompatible, c)

/-- `_accept_world_page` (client.py:439). -/
def acceptWorldPage (place : Nat) (m : BridgeMessage) (c : Client) : Outcome Client :=
  match m.payload with
  | .worldPage page =>
    match c.worldManifest with
    | none => .error (.sequence, c)
    | some manifest =>
      if page.snapshotId ≠ manifest.value.snapshotId then .error (.sequence, c)
      else
        let pages := (c.worldPages.get page.collection).getD []
        -- `setdefault` has put the collection in when the next two raise
        let c := { c with worldPages := c.worldPages.set page.collection pages }
        if pages.contains page.pageIndex then .error (.sequence, c)
        else if page.pageCount ≤ page.pageIndex then .error (.sequence, c)
        else .ok { c with
          worldPages := c.worldPages.set page.collection (pages.set page.pageIndex ⟨page, [place]⟩) }
  | _ => .error (.incompatible, c)

/-- The items of one collection (client.py:466-476), when its pages are complete. -/
def collectPages (expected : Nat) (pages : Assoc Nat (Sourced WorldCollectionPagePayload)) : Option (List Entity) :=
  let expectedPages :=
    if expected = 0 then 0
    else match pages with
      | [] => 0
      | (_, page) :: _ => page.value.pageCount
  if expectedPages ≠ pages.length ∨ ¬ (pages.keys.all (· < expectedPages) ∧
      (List.range expectedPages).all fun index => pages.contains index) then none
  else
    let items := (List.range expectedPages).flatMap fun index =>
      ((pages.get index).map (·.value.items)).getD []
    if items.length ≠ expected then none else some items

/-- The places of the pages the client has. -/
def pagePlaces (pages : Assoc WorldCollection (Assoc Nat (Sourced WorldCollectionPagePayload))) : List Nat :=
  pages.values.flatMap fun pages => pages.values.flatMap (·.places)

/-- `_accept_world_complete` (client.py:456). -/
def acceptWorldComplete (place : Nat) (m : BridgeMessage) (c : Client) : Outcome Client :=
  match m.payload with
  | .worldComplete completed =>
    match c.worldManifest with
    | none => .error (.sequence, c)
    | some manifest =>
      if completed.snapshotId ≠ manifest.value.snapshotId then .error (.sequence, c)
      else
        let entities := WorldCollection.all.mapM fun collection => do
          let items ← collectPages ((manifest.value.collectionCounts.get collection).getD 0)
            ((c.worldPages.get collection).getD [])
          return (collection, items)
        match entities with
        | none => .error (.sequence, c)
        | some entities =>
          if (entities.map (·.2.length)).sum ≠ completed.totalItems then .error (.sequence, c)
          else .ok { c with
            health := { c.health with
              worldSnapshot := some
                { value :=
                    { snapshotId := completed.snapshotId
                      captureStartedGameDate := manifest.value.captureStartedGameDate
                      captureCompletedGameDate := completed.captureCompletedGameDate, entities }
                  places := manifest.places ++ pagePlaces c.worldPages ++ [place] } } }
  | _ => .error (.incompatible, c)

/-- `_consume_unsolicited` (client.py:526). -/
def consumeUnsolicited (place : Nat) (m : BridgeMessage) (c : Client) : Outcome Client :=
  match m.messageType with
  | .stateSnapshot => c.acceptSnapshot place m
  | .worldManifest => c.acceptWorldManifest place m
  | .worldCollectionPage => c.acceptWorldPage place m
  | .worldSnapshotComplete => c.acceptWorldComplete place m
  | _ => .ok c

end Client

/-! ## The loops of `synchronize` and `verify_identity` -/

/-- The flags of the loops (client.py:117-121). -/
structure Handshake where
  hello : Bool := false
  capabilities : Bool := false
  response : Bool := false
  snapshot : Bool := false
  world : Bool := false
  deriving DecidableEq, Repr

/-- `got_hello and got_capabilities and got_response and got_snapshot`. -/
def Handshake.met (f : Handshake) : Bool := f.hello && f.capabilities && f.response && f.snapshot

inductive CallKind where
  | synchronize (reason : String)
  | verifyIdentity
  deriving DecidableEq, Repr

namespace CallKind
variable (config : ClientConfig)

def reason : CallKind → String
  | synchronize reason => reason
  | verifyIdentity => "identity_probe"

/-- One message in the loop of `synchronize` (client.py:123-159). -/
def synchronizeMessage (requestId : String) (place : Nat) (m : BridgeMessage) (c : Client) (f : Handshake) :
    Outcome (Client × Handshake) :=
  match m.messageType with
  | .hello => do
    let c ← c.acceptHello config m
    return (c.setState .awaitingCapabilities none, { f with hello := true })
  | .capabilities => do
    let c ← c.acceptCapabilities m
    return (c.setState .awaitingSnapshot none, { f with capabilities := true })
  | .resyncResponse => return (c, if m.correlationId = some requestId then { f with response := true } else f)
  | .stateSnapshot => do
    let c ← c.acceptSnapshot place m
    return (c, { f with snapshot := true })
  | .worldManifest => do
    if ¬ f.met then return (c, f)
    let c ← c.acceptWorldManifest place m
    return (c, f)
  | .worldCollectionPage => do
    if ¬ (f.met ∧ c.worldManifest.isSome) then return (c, f)
    let c ← c.acceptWorldPage place m
    return (c, f)
  | .worldSnapshotComplete => do
    if ¬ (f.met ∧ c.worldManifest.isSome) then return (c, f)
    let c ← c.acceptWorldComplete place m
    return (c, { f with world := true })
  | _ => return (c, f)

/-- One message in the loop of `verify_identity` (client.py:208-222). -/
def verifyMessage (requestId : String) (place : Nat) (m : BridgeMessage) (c : Client) (f : Handshake) :
    Outcome (Client × Handshake) :=
  match m.messageType with
  | .hello => do
    let c ← c.acceptHello config m
    return (c, { f with hello := true })
  | .capabilities => do
    let c ← c.acceptCapabilities m
    return (c, { f with capabilities := true })
  | .resyncResponse => return (c, if m.correlationId = some requestId then { f with response := true } else f)
  | .stateSnapshot => do
    let c ← c.acceptSnapshot place m
    return (c, { f with snapshot := true })
  | _ => return (c, f)

def message : CallKind → String → Nat → BridgeMessage → Client → Handshake → Outcome (Client × Handshake)
  | synchronize _ => synchronizeMessage config
  | verifyIdentity => verifyMessage config

/-- `capabilities.world_snapshots` of the capabilities the client has. -/
def needsWorld (c : Client) : Bool := c.health.capabilities.any (·.worldSnapshots)

/-- The loop ends after a message (client.py:160-171, 206). -/
def finished (kind : CallKind) (c : Client) (f : Handshake) : Bool :=
  match kind with
  | synchronize _ => f.met && (f.world || !needsWorld c)
  | verifyIdentity => f.met

/-- The state in which the call returns. -/
def returned (kind : CallKind) (c : Client) : Client :=
  match kind with
  | synchronize _ => c.setState .synchronized none
  | verifyIdentity => c.setState .identityVerified none

/-- The state in which the call raises (client.py:172-177). -/
def raised (error : BridgeError) (c : Client) : Client :=
  c.setState (if error = .incompatible then .incompatible else .failed) none

/-- What a call does before it waits (client.py:95-116), but for its request. -/
def begin (c : Client) : Client :=
  let c := c.setState .connecting none
  let c := { c with seenMessageIds := [] }.setState .awaitingHello (some true)
  c.setState .resynchronizing none

end CallKind

end SimPilot.GameScript
