import SimPilot.GameScript.Client
import SimPilot.GameScript.Script
/-!
# One client and the script, over a link that keeps the order

The script's messages reach the client in the order of `script.sent`, of which the client
has read the first `read`. The client's requests wait in `toScript`. `takenUp` and `settled`
record what no component knows: where in `sent` the script took up a request, and whether
an earlier request was still being answered when a call began.

| here | there |
|---|---|
| `Call.handshake` | a call of `synchronize` or `verify_identity` in its loop (client.py:122, 206) |
| `Call.command` | `execute_set_company_name` in its loop (client.py:276); `refresh_snapshot` is a call of its own |
| `Action.fail` | a timeout, a cancellation or an error of the transport |
-/

namespace SimPilot.GameScript

inductive ClientPayload where
  | resyncRequest (p : ResyncRequestPayload)
  | commandRequest (p : CommandRequestPayload)

/-- A message of `_send` (client.py:320). -/
structure ClientMessage where
  sequence : Nat
  messageId : String
  scriptInstanceId : Option String
  companyId : Option Int
  payload : ClientPayload
  sequence_pos : 1 ≤ sequence
  messageId_ne : messageId ≠ ""

namespace ClientMessage

def squirrel (m : ClientMessage) : Squirrel :=
  match m.payload with
  | .resyncRequest p => envelope m.sequence m.messageId m.scriptInstanceId "resync_request" m.companyId p.slots
  | .commandRequest p => envelope m.sequence m.messageId m.scriptInstanceId "command_request" m.companyId p.slots

def isResync (m : ClientMessage) : Bool :=
  match m.payload with
  | .resyncRequest _ => true
  | .commandRequest _ => false

end ClientMessage

/-- `message_id` of `_send`. -/
def messageIdOf (uuid : String) : String := "sim-pilot:" ++ uuid

theorem messageIdOf_ne (uuid : String) : messageIdOf uuid ≠ "" := by
  intro h
  have hlength := congrArg String.length h
  simp [messageIdOf] at hlength

inductive Call where
  | handshake (kind : CallKind) (requestId : String) (flags : Handshake) (settled : Bool)
  | command (requestId : String) (accepted : Bool)

/-- A call of `synchronize` or `verify_identity` that returned. -/
structure Return where
  kind : CallKind
  /-- Where the script took up the request of the call. -/
  takenUp : Option Nat
  settled : Bool
  health : BridgeHealth

structure Link (γ : Type) where
  script : Running γ
  toScript : List ClientMessage := []
  read : Nat := 0
  client : Client
  call : Option Call := none
  takenUp : Assoc String Nat := []
  usedIds : List String := []
  returns : List Return := []

inductive Action (γ : Type) where
  | begin (kind : CallKind) (uuid : String)
  | command (uuid : String) (payload : CommandRequestPayload)
  /-- The call reads its next message. -/
  | receive
  | fail (error : BridgeError)
  /-- A new link: what was on its way to the client is lost. -/
  | reconnect
  /-- The script takes up its next request. -/
  | handle
  | heartbeat
  | elapse (game : γ)
  /-- Another game is loaded: the script starts with its data, the waiting requests are lost. -/
  | restart (saved : Option SavedData) (game : γ) (rand : Nat × Nat)

namespace Link
variable {γ : Type} (config : ClientConfig) (build : Build) (api : GameApi γ)

/-- Nothing of an earlier request is under way: no snapshot to the client, no request to the script. -/
def settled (l : Link γ) : Bool :=
  (l.script.sent.drop l.read).all (fun m => decide (m.messageType ≠ .stateSnapshot)) &&
    l.toScript.all fun m => !m.isResync

/-- `_send`. -/
def send (uuid : String) (companyId : Option Int) (payload : ClientPayload) (l : Link γ) : Link γ :=
  let message : ClientMessage :=
    { sequence := l.client.outgoingSequence + 1, messageId := messageIdOf uuid
      scriptInstanceId := l.client.health.scriptInstanceId, companyId, payload
      sequence_pos := Nat.le_add_left 1 _, messageId_ne := messageIdOf_ne uuid }
  { l with
    client := { l.client with outgoingSequence := l.client.outgoingSequence + 1 }
    toScript := l.toScript ++ [message], usedIds := l.usedIds ++ [messageIdOf uuid] }

/-- `synchronize` or `verify_identity` up to its loop. -/
def beginCall (kind : CallKind) (uuid : String) (l : Link γ) : Link γ :=
  let client := CallKind.begin l.client
  let payload : ResyncRequestPayload :=
    { lastScriptInstanceId := client.health.scriptInstanceId, lastSequence := client.health.lastSequence
      reason := kind.reason }
  { l with client, call := some (.handshake kind (messageIdOf uuid) {} l.settled) }.send uuid
    (some config.companyId) (.resyncRequest payload)

/-- `execute_set_company_name` up to its loop (client.py:241-272). -/
def beginCommand (uuid : String) (payload : CommandRequestPayload) (l : Link γ) : Link γ :=
  if config.allowWrites ∧ l.client.health.capabilities.any (fun c => "set_company_name" ∈ c.supportedActions) ∧
      l.client.health.synchronizationState = .synchronized then
    { l with call := some (.command (messageIdOf uuid) false) }.send uuid (some config.companyId)
      (.commandRequest payload)
  else l

/-- A message in the loop of `synchronize` or `verify_identity`. -/
def handshakeMessage (kind : CallKind) (requestId : String) (flags : Handshake) (settled : Bool) (m : BridgeMessage)
    (l : Link γ) : Link γ :=
  match l.client.receive config true m >>= fun c => kind.message config requestId l.read m c flags with
  | .error (error, client) => { l with read := l.read + 1, client := CallKind.raised error client, call := none }
  | .ok (client, flags) =>
    if kind.finished client flags then
      let client := kind.returned client
      { l with
        read := l.read + 1, client, call := none
        returns := l.returns ++ [{ kind, takenUp := l.takenUp.get requestId, settled, health := client.health }] }
    else { l with read := l.read + 1, client, call := some (.handshake kind requestId flags settled) }

/-- A message in the loop of `execute_set_company_name` (client.py:276-306). -/
def commandMessage (requestId : String) (m : BridgeMessage) (l : Link γ) : Link γ :=
  let going := { l with read := l.read + 1 }
  match l.client.receive config false m with
  | .error (_, client) => { going with client, call := none }
  | .ok client =>
    if m.correlationId ≠ some requestId then
      match client.consumeUnsolicited l.read m with
      | .error (_, client) => { going with client, call := none }
      | .ok client => { going with client }
    else match m.messageType with
      | .commandAccepted => { going with client, call := some (.command requestId true) }
      | .commandRejected | .commandFailed | .error | .commandCompleted => { going with client, call := none }
      | _ => { going with client }

/-- The call reads its next message, when there is one. -/
def receive (l : Link γ) : Link γ :=
  match l.call, l.script.sent[l.read]? with
  | some (.handshake kind requestId flags settled), some m =>
    l.handshakeMessage config kind requestId flags settled m
  | some (.command requestId _), some m => l.commandMessage config requestId m
  | _, _ => l

/-- The call raises while it waits. -/
def fail (error : BridgeError) (l : Link γ) : Link γ :=
  match l.call with
  | some (.handshake ..) => { l with client := CallKind.raised error l.client, call := none }
  | some (.command ..) => { l with call := none }
  | none => l

/-- The script handles its next request. -/
def handle (l : Link γ) : Link γ :=
  match l.toScript with
  | [] => l
  | m :: rest =>
    { l with
      toScript := rest, script := l.script.handleMessage build api m.squirrel
      takenUp := if m.isResync then l.takenUp.set m.messageId l.script.sent.length else l.takenUp }

def restart (saved : Option SavedData) (game : γ) (rand : Nat × Nat) (l : Link γ) : Link γ :=
  { l with
    script := { l.script with bridge := SimPilotBridge.load saved, game }.start build api rand
    toScript := [] }

def step (l : Link γ) : Action γ → Link γ
  | .begin kind uuid => if l.call.isSome ∨ messageIdOf uuid ∈ l.usedIds then l else l.beginCall config kind uuid
  | .command uuid payload =>
    if l.call.isSome ∨ messageIdOf uuid ∈ l.usedIds then l else l.beginCommand config uuid payload
  | .receive => l.receive config
  | .fail error => l.fail error
  | .reconnect => if l.call.isSome then l else { l with read := l.script.sent.length }
  | .handle => l.handle build api
  | .heartbeat => { l with script := l.script.sendHeartbeat build api }
  | .elapse game => { l with script := { l.script with game } }
  | .restart saved game rand => l.restart build api saved game rand

def run (l : Link γ) (actions : List (Action γ)) : Link γ := actions.foldl (step config build api) l

end Link

/-! ## What the script sends -/

/-- A message that is no part of the answer to a resynchronization, but perhaps its greeting. -/
structure BridgeMessage.Quiet (build : Build) (m : BridgeMessage) : Prop where
  quiet : m.messageType ≠ .resyncResponse ∧ m.messageType ≠ .stateSnapshot ∧ m.messageType ≠ .worldManifest ∧
    m.messageType ≠ .worldCollectionPage ∧ m.messageType ≠ .worldSnapshotComplete
  capabilities : m.messageType = .capabilities → m.payload = .capabilities (Running.capabilities build)

/-- The pages of a world with their manifest and their completion. -/
def WorldPages (world : List BridgeMessage) : Prop :=
  ∃ manifest pages complete, world = manifest :: (pages ++ [complete]) ∧ manifest.messageType = .worldManifest ∧
    (∀ page ∈ pages, page.messageType = .worldCollectionPage) ∧ complete.messageType = .worldSnapshotComplete

/-- The messages that answer a resynchronization request. -/
structure Answer (build : Build) (requestId : String) (hello capabilities response snapshot : BridgeMessage)
    (world : List BridgeMessage) : Prop where
  hello : hello.messageType = .hello
  capabilities : capabilities.messageType = .capabilities ∧
    capabilities.payload = .capabilities (Running.capabilities build)
  response : response.messageType = .resyncResponse ∧ response.correlationId = some requestId
  snapshot : snapshot.messageType = .stateSnapshot
  world : if build.worldSnapshots then WorldPages world else world = []

namespace Running
variable {γ : Type} (build : Build) (api : GameApi γ)

/-- The script has sent messages of this kind. -/
def Sends (P : BridgeMessage → Prop) (r r' : Running γ) : Prop := ∃ out, r'.sent = r.sent ++ out ∧ ∀ m ∈ out, P m

variable {P : BridgeMessage → Prop} {r r' r'' : Running γ}

theorem Sends.refl (r : Running γ) : Sends P r r := ⟨[], by simp, by simp⟩

theorem Sends.of_sent_eq (h : r'.sent = r.sent) : Sends P r r' := ⟨[], by simp [h], by simp⟩

theorem Sends.trans (h : Sends P r r') (h' : Sends P r' r'') : Sends P r r'' := by
  obtain ⟨out, he, hp⟩ := h
  obtain ⟨out', he', hp'⟩ := h'
  refine ⟨out ++ out', by rw [he', he, List.append_assoc], fun m hm => ?_⟩
  rcases List.mem_append.1 hm with hm | hm
  · exact hp m hm
  · exact hp' m hm

theorem sent_send (r : Running γ) (kind : MessageType) (correlation : Option String) (company : Option Int)
    (payload : Payload) : ∃ m, (r.send build api kind correlation company payload).sent = r.sent ++ [m] ∧
      m.messageType = kind := ⟨_, rfl, rfl⟩

theorem Sends.send {kind : MessageType} {correlation : Option String} {company : Option Int} {payload : Payload}
    (h : P (r.message build api kind correlation company payload)) :
    Sends P r (r.send build api kind correlation company payload) :=
  ⟨_, rfl, by simpa using h⟩

theorem quiet_send {kind : MessageType} {correlation : Option String} {company : Option Int} {payload : Payload}
    (hk : kind = .hello ∨ kind = .heartbeat ∨ kind = .commandAccepted ∨ kind = .commandRejected ∨
      kind = .commandCompleted ∨ kind = .commandFailed ∨ kind = .error) :
    Sends (BridgeMessage.Quiet build) r (r.send build api kind correlation company payload) := by
  refine Sends.send build api ⟨?_, ?_⟩
  · rcases hk with rfl | rfl | rfl | rfl | rfl | rfl | rfl <;> simp [message]
  · rcases hk with rfl | rfl | rfl | rfl | rfl | rfl | rfl <;> simp [message]

theorem quiet_sendError (correlation : Option String) (code : ErrorCode) (text : String)
    (commandId fingerprint : Option String) :
    Sends (BridgeMessage.Quiet build) r (r.sendError build api correlation code text commandId fingerprint) := by
  cases correlation with
  | none => exact quiet_send build api (by simp)
  | some id => exact quiet_send build api (by simp)

theorem quiet_sendHeartbeat : Sends (BridgeMessage.Quiet build) r (r.sendHeartbeat build api) :=
  quiet_send build api (by simp)

theorem quiet_start (rand : Nat × Nat) : Sends (BridgeMessage.Quiet build) r (r.start build api rand) := by
  have hcapabilities : ∀ r : Running γ, Sends (BridgeMessage.Quiet build) r (r.sendCapabilities build api none) :=
    fun r => Sends.send build api ⟨by simp [message], fun _ => rfl⟩
  have hhello : ∀ r : Running γ, Sends (BridgeMessage.Quiet build) r (r.sendHello build api none) :=
    fun r => quiet_send build api (by simp)
  unfold start
  refine Sends.trans ?_ (hcapabilities _)
  refine Sends.trans ?_ (hhello _)
  exact Sends.of_sent_eq rfl

theorem quiet_apply (messageId : String) (request : CommandRequest) (company : Int) (name before : String)
    (cost : Int) :
    Sends (BridgeMessage.Quiet build) r (r.applySetName build api messageId request company name before cost) := by
  unfold applySetName
  dsimp only
  refine Sends.trans (Sends.of_sent_eq rfl) ?_
  split
  · exact quiet_send build api (by simp)
  · exact Sends.trans (Sends.of_sent_eq rfl) (quiet_send build api (by simp))

theorem quiet_execute (messageId : String) (request : CommandRequest) (company : Int) (name : String) :
    Sends (BridgeMessage.Quiet build) r (r.executeSetCompanyName build api messageId request company name) := by
  unfold executeSetCompanyName
  dsimp only
  split
  · exact quiet_sendError build api ..
  split
  · exact Sends.trans (Sends.of_sent_eq rfl) (quiet_sendError build api ..)
  refine Sends.trans (Sends.of_sent_eq rfl) (Sends.trans ?_ (quiet_apply build api ..))
  exact quiet_send build api (by simp)

theorem quiet_handleCommand (message : Request) :
    Sends (BridgeMessage.Quiet build) r (r.handleCommand build api message) := by
  unfold handleCommand
  split
  · exact quiet_sendError build api ..
  dsimp only
  split
  · split
    · exact quiet_sendError build api ..
    · exact (quiet_send build api (by simp)).trans (quiet_send build api (by simp))
  split
  · exact quiet_sendError build api ..
  split
  · exact quiet_sendError build api ..
  split
  · exact quiet_sendError build api ..
  split
  · exact quiet_sendError build api ..
  split
  · exact quiet_sendError build api ..
  split
  · split
    · exact quiet_sendError build api ..
    · exact quiet_execute build api ..
  · exact quiet_sendError build api ..

/-! ### Pages -/

theorem sends_sendPages (worldId : String) (name : WorldCollection) (items : List Entity) :
    Sends (fun m => m.messageType = .worldCollectionPage) r (r.sendPages build api worldId name items) := by
  unfold sendPages
  refine List.foldlRecOn _ _ (Sends.refl r) fun r' h item _ => ?_
  exact h.trans (Sends.send build api rfl)

/-- Pages between a manifest and a completion. -/
theorem sent_between {r pages : Running γ} (company : Option Int) {manifest complete : Payload}
    {company' : Option Int} (h : Sends (fun m => m.messageType = .worldCollectionPage)
      (r.send build api .worldManifest none company manifest) pages) :
    ∃ world, WorldPages world ∧
      (pages.send build api .worldSnapshotComplete none company' complete).sent = r.sent ++ world := by
  obtain ⟨first, hfirst, hmanifest⟩ := sent_send build api r .worldManifest none company manifest
  obtain ⟨out, hout, htypes⟩ := h
  obtain ⟨last, hlast, hcomplete⟩ := sent_send build api pages .worldSnapshotComplete none company' complete
  refine ⟨_, ⟨first, out, last, rfl, hmanifest, htypes, hcomplete⟩, ?_⟩
  have hmid : pages.sent = r.sent ++ [first] ++ out := hout.trans (congrArg (· ++ out) hfirst)
  rw [hlast, hmid]
  simp

/-- The manifest, the pages and the completion. -/
theorem sent_sendWorldSnapshot (r : Running γ) : ∃ world, WorldPages world ∧
    (r.sendWorldSnapshot build api).sent = r.sent ++ world := by
  apply sent_between build api r.bridge.activeCompany
  refine List.foldlRecOn _ _ (Sends.refl _) fun r' h item _ => ?_
  exact h.trans (sends_sendPages build api ..)

/-- A request of the client as `HandleMessage` takes it. -/
theorem check_squirrel (m : ClientMessage) : ∃ slots messageType, Request.check m.squirrel =
      some ⟨2, m.messageId, messageType, m.companyId, .table slots⟩ ∧
    ((m.isResync = true ∧ messageType = "resync_request" ∧ ∃ p : ResyncRequestPayload, slots = p.slots) ∨
      (m.isResync = false ∧ messageType = "command_request")) := by
  unfold ClientMessage.squirrel ClientMessage.isResync
  cases m.payload with
  | resyncRequest p =>
    exact ⟨p.slots, _, check_envelope _ _ _ _ _ _ m.sequence_pos m.messageId_ne, .inl ⟨rfl, rfl, p, rfl⟩⟩
  | commandRequest p =>
    exact ⟨p.slots, _, check_envelope _ _ _ _ _ _ m.sequence_pos m.messageId_ne, .inr ⟨rfl, rfl⟩⟩

theorem check_resync (p : ResyncRequestPayload) :
    (Squirrel.table p.slots).hasExactKeys ["last_script_instance_id", "last_sequence", "reason"] = true ∧
      ((Squirrel.table p.slots).field "reason").string? = some p.reason := by
  constructor
  · rw [ResyncRequestPayload.slots, hasExactKeys_table]
    simp only [Assoc.keys, List.map_cons, List.map_nil]
    decide +kernel
  · simp [ResyncRequestPayload.slots, Squirrel.field, Squirrel.string?]

/-- `HandleResync` of a request the client sent. -/
theorem sent_handleResync (messageId messageType : String) (companyId : Option Int) (p : ResyncRequestPayload) :
    ∃ hello capabilities response snapshot world,
      Answer build messageId hello capabilities response snapshot world ∧
        (r.handleResync build api ⟨2, messageId, messageType, companyId, .table p.slots⟩).sent =
          r.sent ++ hello :: capabilities :: response :: snapshot :: world := by
  let greeted := (r.sendHello build api (some messageId)).sendCapabilities build api (some messageId)
  let answered := greeted.send build api .resyncResponse (some messageId) greeted.bridge.activeCompany
    (.resyncResponse { reason := p.reason })
  let observed := answered.sendSnapshot build api
  have heq : r.handleResync build api ⟨2, messageId, messageType, companyId, .table p.slots⟩ =
      if build.worldSnapshots then observed.sendWorldSnapshot build api else observed := by
    unfold handleResync
    simp only [(check_resync p).1, (check_resync p).2]
    rfl
  obtain ⟨hello, capabilities, response, snapshot, hobserved, htypes⟩ : ∃ hello capabilities response snapshot,
      observed.sent = r.sent ++ [hello] ++ [capabilities] ++ [response] ++ [snapshot] ∧
        hello.messageType = .hello ∧ (capabilities.messageType = .capabilities ∧
          capabilities.payload = .capabilities (Running.capabilities build)) ∧
        (response.messageType = .resyncResponse ∧ response.correlationId = some messageId) ∧
        snapshot.messageType = .stateSnapshot :=
    ⟨_, _, _, _, rfl, rfl, ⟨rfl, rfl⟩, ⟨rfl, rfl⟩, rfl⟩
  obtain ⟨hhello, hcapabilities, hresponse, hsnapshot⟩ := htypes
  rw [heq]
  cases hworld : build.worldSnapshots with
  | false =>
    refine ⟨hello, capabilities, response, snapshot, [], ⟨hhello, hcapabilities, hresponse, hsnapshot, ?_⟩, ?_⟩
    · simp [hworld]
    · rw [if_neg (by simp), hobserved]
      simp
  | true =>
    obtain ⟨world, hpages, hsent⟩ := sent_sendWorldSnapshot build api observed
    refine ⟨hello, capabilities, response, snapshot, world,
      ⟨hhello, hcapabilities, hresponse, hsnapshot, ?_⟩, ?_⟩
    · simpa [hworld] using hpages
    · rw [if_pos rfl, hsent, hobserved]
      simp

/-- A resynchronization request is answered in full, or refused by a script of another protocol. -/
theorem sent_handle_resync (m : ClientMessage) (hm : m.isResync = true) :
    (build.protocolVersion = 2 ∧ ∃ hello capabilities response snapshot world,
      Answer build m.messageId hello capabilities response snapshot world ∧
        (r.handleMessage build api m.squirrel).sent =
          r.sent ++ hello :: capabilities :: response :: snapshot :: world) ∨
    (build.protocolVersion ≠ 2 ∧ Sends (BridgeMessage.Quiet build) r (r.handleMessage build api m.squirrel)) := by
  obtain ⟨slots, messageType, hcheck, ⟨-, rfl, p, rfl⟩ | ⟨h, -⟩⟩ := check_squirrel m
  · unfold handleMessage
    simp only [hcheck]
    by_cases hversion : build.protocolVersion = 2
    · refine .inl ⟨hversion, ?_⟩
      rw [if_neg (by simp [hversion]), if_pos trivial]
      have hanswer := sent_handleResync build api (r := r.selectCompany m.companyId) m.messageId "resync_request"
        m.companyId p
      rwa [sent_selectCompany] at hanswer
    · refine .inr ⟨hversion, ?_⟩
      rw [if_pos ⟨fun h => hversion (by exact_mod_cast h.symm), by decide⟩]
      exact quiet_sendError build api ..
  · rw [hm] at h
    cases h

/-- A command request is answered quietly. -/
theorem quiet_handle_command (m : ClientMessage) (hm : m.isResync = false) :
    Sends (BridgeMessage.Quiet build) r (r.handleMessage build api m.squirrel) := by
  obtain ⟨slots, messageType, hcheck, ⟨h, -⟩ | ⟨-, rfl⟩⟩ := check_squirrel m
  · rw [hm] at h
    cases h
  unfold handleMessage
  simp only [hcheck]
  split
  · exact quiet_sendError build api ..
  · exact Sends.trans (Sends.of_sent_eq (sent_selectCompany ..)) (quiet_handleCommand build api _)

end Running

end SimPilot.GameScript
