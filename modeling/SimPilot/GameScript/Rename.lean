import SimPilot.GameScript.Idempotence
import SimPilot.GameScript.Link
/-!
# Renaming the company (adapters/openttd/adapter.py:390)

One call of `execute` on top of the link: the command, then the refresh that verifies it.

| here | there |
|---|---|
| `RenameResult` | `ExecutionResult` without its message |
| `RenameRequest` | the name, the identifiers `uuid4` gives, and the texts of the payload (client.py:246-273) |
| `commandAnswer` | what the loop makes of a message (client.py:275-303) |
| `RenamePhase.verified` | the check of the fresh snapshot (client.py:297-303, adapter.py:419-428) |
| `RenameEvent` | a step of the client, of the script or of the game |

`Running.Commanded` is all that the script can do with a command.
-/

namespace SimPilot.GameScript

structure RenameResult where
  success : Bool
  stateChanged : Bool
  cost : ℚ
  deriving DecidableEq, Repr

/-- What the adapter says when the command was not sent, or when it was and failed. -/
def RenameResult.nothing : RenameResult := ⟨false, false, 0⟩

structure RenameRequest where
  name : String
  commandId : String
  requestUuid : String
  refreshUuid : String
  actionFingerprint : String
  expectedCapabilityFingerprint : String
  requestTimestamp : String

structure OpenTTDAdapter where
  /-- `allow_gamescript_writes`, with a bridge -/
  allowGamescriptWrites : Bool
  pendingBridgeHealth : Option BridgeHealth

inductive RenamePhase where
  /-- `execute_set_company_name` is in its loop. -/
  | commanding
  /-- It waits for `refresh_snapshot`. -/
  | refreshing (completed : CommandCompletedPayload)
  | returned (result : RenameResult)
  | raised
  deriving DecidableEq, Repr

/-- The fresh snapshot decides. -/
def RenamePhase.verified (name : String) (completed : CommandCompletedPayload) (health : BridgeHealth) : RenamePhase :=
  match health.snapshot with
  | none => .raised
  | some snapshot =>
    if ¬ snapshot.value.company.any (·.name = name) then .returned .nothing
    -- `ExecutionResult` takes no negative cost
    else if 0 ≤ completed.cost then .returned ⟨true, completed.stateChanged, completed.cost⟩
    else .raised

inductive CommandAnswer where
  | goesOn
  /-- A `BridgeCommandError`. -/
  | commandError
  | completed (payload : CommandCompletedPayload)

def commandAnswer (requestId : String) (accepted : Bool) (m : BridgeMessage) : CommandAnswer :=
  if m.correlationId ≠ some requestId then .goesOn
  else match m.messageType, m.payload with
    | .commandAccepted, .commandAccepted _ => .goesOn
    | .commandAccepted, _ => .commandError
    | .commandRejected, _ | .commandFailed, _ | .error, _ => .commandError
    | .commandCompleted, .commandCompleted payload => if accepted then .completed payload else .commandError
    | .commandCompleted, _ => .commandError
    | _, _ => .goesOn

structure Renaming (γ : Type) where
  link : Link γ
  request : RenameRequest
  phase : RenamePhase

inductive RenameEvent (γ : Type) where
  | receive
  /-- A timeout, a cancellation or an error of the transport. -/
  | fail (error : BridgeError)
  | handle
  | heartbeat
  /-- The game goes on; another player may rename the company. -/
  | elapse (game : γ)

namespace RenameRequest

def requestId (q : RenameRequest) : String := messageIdOf q.requestUuid

def payload (companyId : Int) (priorSnapshotId : String) (q : RenameRequest) : CommandRequestPayload where
  commandId := q.commandId
  name := q.name
  actionFingerprint := q.actionFingerprint
  expectedCapabilityFingerprint := q.expectedCapabilityFingerprint
  expectedCompanyId := companyId
  priorSnapshotId := priorSnapshotId
  requestTimestamp := q.requestTimestamp

end RenameRequest

namespace Renaming
variable {γ : Type} (config : ClientConfig) (build : Build) (api : GameApi γ)

/-- `_execute_company_name` up to the loop of the command. -/
def begin (adapter : OpenTTDAdapter) (request : RenameRequest) (l : Link γ) : Renaming γ :=
  if ¬ adapter.allowGamescriptWrites then { link := l, request, phase := .returned .nothing }
  else match (adapter.pendingBridgeHealth.getD l.client.health).snapshot with
    | none => { link := l, request, phase := .returned .nothing }
    | some snapshot =>
      let link := l.beginCommand config request.requestUuid
        (request.payload config.companyId snapshot.value.snapshotId)
      { link, request, phase := if link.call.isSome then .commanding else .returned .nothing }

/-- A message in the loop of the command. -/
def commandStep (requestId : String) (accepted : Bool) (m : BridgeMessage) (e : Renaming γ) : Renaming γ :=
  let link := e.link.receive config
  match e.link.client.receive config false m, commandAnswer requestId accepted m with
  | .error _, _ => { e with link, phase := .raised }
  | .ok _, .commandError => { e with link := { link with call := none }, phase := .returned .nothing }
  | .ok _, .completed payload =>
    { e with
      link := link.beginCall config (.synchronize "snapshot_refresh") e.request.refreshUuid
      phase := .refreshing payload }
  -- a message of nobody's call may not be acceptable
  | .ok _, .goesOn => if link.call.isSome then { e with link } else { e with link, phase := .raised }

/-- A message in the loop of the refresh; a refresh that raises is not synchronized. -/
def refreshStep (completed : CommandCompletedPayload) (e : Renaming γ) : Renaming γ :=
  let link := e.link.receive config
  if link.call.isSome then { e with link }
  else if link.client.health.synchronizationState = .synchronized then
    { e with link, phase := .verified e.request.name completed link.client.health }
  else { e with link, phase := .raised }

def receive (e : Renaming γ) : Renaming γ :=
  match e.phase, e.link.call, e.link.script.sent[e.link.read]? with
  | .commanding, some (.command requestId accepted), some m => e.commandStep config requestId accepted m
  | .refreshing completed, some _, some _ => e.refreshStep config completed
  | _, _, _ => e

def fail (error : BridgeError) (e : Renaming γ) : Renaming γ :=
  if e.link.call.isSome then { e with link := e.link.fail error, phase := .raised } else e

def step (e : Renaming γ) : RenameEvent γ → Renaming γ
  | .receive => e.receive config
  | .fail error => e.fail error
  | .handle => { e with link := e.link.handle build api }
  | .heartbeat => { e with link := { e.link with script := e.link.script.sendHeartbeat build api } }
  | .elapse game => { e with link := { e.link with script := { e.link.script with game } } }

def run (e : Renaming γ) (events : List (RenameEvent γ)) : Renaming γ := events.foldl (step config build api) e

/-- The successful calls of `GSCompany.SetName` for the command. -/
def renamed (e : Renaming γ) : List Rename :=
  e.link.script.renames.filter (·.record.commandId = e.request.commandId)

/-- A result says what became of the command. -/
structure Truthful (e : Renaming γ) : Prop where
  nothing : ∀ result, e.phase = .returned result → result.success = false → result.stateChanged = false →
    e.renamed = []
  done : ∀ result, e.phase = .returned result → result.success = true →
    ∃ rename, e.renamed = [rename] ∧ result.stateChanged = rename.record.stateChanged ∧
      result.cost = rename.record.cost

end Renaming

/-! ## What the script does with a command -/

namespace Running
variable {γ : Type} (build : Build) (api : GameApi γ)

/-- `GSCompany.SetName` succeeds and yet the company has another name after it. -/
def Overtaken (game : γ) (company : Int) (name : String) : Prop :=
  let tested := (api.testSetName game company name).2.2
  (api.setName tested company name).1 = true ∧ api.companyName (api.setName tested company name).2 company ≠ name

/-- What a command does: it is refused, its record is sent again, the game refuses the name,
or the company is renamed. -/
inductive Commanded (messageId : String) (request : CommandRequest) (r r' : Running γ) : Prop
  | refused (m : BridgeMessage) (sent : r'.sent = r.sent ++ [m]) (correlation : m.correlationId = some messageId)
      (type : m.messageType = .commandRejected) (renames : r'.renames = r.renames)
      (ledger : r'.bridge.commandLedger = r.bridge.commandLedger)
  | replayed (accepted done : BridgeMessage) (sent : r'.sent = r.sent ++ [accepted, done])
      (correlations : accepted.correlationId = some messageId ∧ done.correlationId = some messageId)
      (types : accepted.messageType = .commandAccepted ∧ done.messageType = .commandCompleted)
      (known : findLedger request.commandId r.bridge.commandLedger ≠ none) (renames : r'.renames = r.renames)
      (ledger : r'.bridge.commandLedger = r.bridge.commandLedger)
  | failed (accepted done : BridgeMessage) (renames : List Rename) (sent : r'.sent = r.sent ++ [accepted, done])
      (correlations : accepted.correlationId = some messageId ∧ done.correlationId = some messageId)
      (types : accepted.messageType = .commandAccepted ∧ done.messageType = .commandFailed)
      (greeting : ∃ q, accepted.payload = .commandAccepted q)
      (renamed : r'.renames = r.renames ++ renames) (ids : ∀ x ∈ renames, x.record.commandId = request.commandId)
      (overtaken : renames = [] ∨ ∃ company name, r.bridge.activeCompany = some company ∧
        request.name = .string name ∧ Overtaken api r.game company name)
      (ledger : r'.bridge.commandLedger = r.bridge.commandLedger)
  | completed (accepted done : BridgeMessage) (x : Rename) (payload : CommandCompletedPayload)
      (sent : r'.sent = r.sent ++ [accepted, done])
      (correlations : accepted.correlationId = some messageId ∧ done.correlationId = some messageId)
      (types : accepted.messageType = .commandAccepted ∧ done.messageType = .commandCompleted)
      (greeting : ∃ q, accepted.payload = .commandAccepted q) (done : done.payload = .commandCompleted payload)
      (truth : payload.stateChanged = x.record.stateChanged ∧ payload.cost = x.record.cost)
      (renamed : r'.renames = r.renames ++ [x]) (id : x.record.commandId = request.commandId)
      (ledger : r'.bridge.commandLedger = remember x.record r.bridge.commandLedger)

variable {r : Running γ} {messageId : String} {request : CommandRequest}

theorem commanded_sendError (code : ErrorCode) (text : String) (commandId fingerprint : Option String) :
    Commanded api messageId request r (r.sendError build api (some messageId) code text commandId fingerprint) :=
  .refused _ (sent_sendError build api ..) rfl rfl rfl rfl

/-- The call outside test mode: it failed or was overtaken, or the rename is recorded. -/
theorem apply_cases (r : Running γ) (messageId : String) (request : CommandRequest) (company : Int)
    (name before : String) (cost : Int) :
    ∃ r', r.applySetName build api messageId request company name before cost = r' ∧
      ((∃ m renames, r'.sent = r.sent ++ [m] ∧ m.correlationId = some messageId ∧ m.messageType = .commandFailed ∧
        r'.renames = r.renames ++ renames ∧ (∀ x ∈ renames, x.record.commandId = request.commandId) ∧
        (renames = [] ∨ (api.setName r.game company name).1 = true ∧
          api.companyName (api.setName r.game company name).2 company ≠ name) ∧
        r'.bridge.commandLedger = r.bridge.commandLedger) ∨
      (∃ m x payload, r'.sent = r.sent ++ [m] ∧ m.correlationId = some messageId ∧
        m.messageType = .commandCompleted ∧ m.payload = .commandCompleted payload ∧
        (payload.stateChanged = x.record.stateChanged ∧ payload.cost = x.record.cost) ∧
        r'.renames = r.renames ++ [x] ∧ x.record.commandId = request.commandId ∧
        r'.bridge.commandLedger = remember x.record r.bridge.commandLedger)) := by
  obtain ⟨x, hx⟩ : ∃ x, renameOf api request company name before cost (api.setName r.game company name).2 = x :=
    ⟨_, rfl⟩
  have hid : x.record.commandId = request.commandId := by rw [← hx]; rfl
  have hconfirmed : x.confirmed = decide (api.companyName (api.setName r.game company name).2 company = name) := by
    rw [← hx]
    rfl
  refine ⟨_, rfl, ?_⟩
  unfold applySetName
  dsimp only
  rw [hx]
  cases hset : (api.setName r.game company name).1 with
  | false =>
    rw [if_pos (.inl rfl)]
    exact .inl ⟨_, [], rfl, rfl, rfl, by simp [send], by simp, .inl rfl, rfl⟩
  | true =>
    cases hstood : x.confirmed with
    | false =>
      have hother := of_decide_eq_false (hconfirmed.symm.trans hstood)
      rw [if_pos (.inr rfl)]
      exact .inl ⟨_, [x], rfl, rfl, rfl, by simp [send], by simpa using hid, .inr ⟨rfl, hother⟩, rfl⟩
    | true =>
      rw [if_neg (by simp)]
      exact .inr ⟨_, x, _, rfl, rfl, rfl, rfl, ⟨rfl, rfl⟩, by simp [send, sendCompleted], hid, rfl⟩

theorem commanded_execute {company : Int} {name : String} (hactive : r.bridge.activeCompany = some company)
    (hname : request.name = .string name) :
    Commanded api messageId request r (r.executeSetCompanyName build api messageId request company name) := by
  unfold executeSetCompanyName
  dsimp only
  split
  · exact commanded_sendError build api ..
  split
  · exact .refused _ (sent_sendError build api ..) rfl rfl rfl rfl
  obtain ⟨r', hr', ⟨m, renames, hsent, hcorrelation, htype, hrenames, hids, hovertaken, hledger⟩ |
      ⟨m, x, payload, hsent, hcorrelation, htype, hpayload, htruth, hrenames, hid, hledger⟩⟩ :=
    apply_cases build api (Running.sendAccepted build api messageId request.commandId request.actionFingerprint
      { r with game := (api.testSetName r.game company name).2.2 })
      messageId request company name (api.companyName r.game company) (api.testSetName r.game company name).2.1
  · rw [sent_sendAccepted, List.append_assoc] at hsent
    rw [hr']
    refine .failed _ m renames hsent ⟨rfl, hcorrelation⟩ ⟨rfl, htype⟩ ⟨_, rfl⟩ hrenames hids ?_ hledger
    exact hovertaken.imp_right fun h => ⟨company, name, hactive, hname, h⟩
  · rw [sent_sendAccepted, List.append_assoc] at hsent
    rw [hr']
    exact .completed _ m x payload hsent ⟨rfl, hcorrelation⟩ ⟨rfl, htype⟩ ⟨_, rfl⟩ hpayload htruth hrenames hid hledger

theorem commanded_handleCommand (message : Request) (hcheck : CommandRequest.check message.payload = some request) :
    Commanded api message.messageId request r (r.handleCommand build api message) := by
  unfold handleCommand
  rw [hcheck]
  dsimp only
  split
  · rename_i prior hprior
    split
    · exact commanded_sendError build api ..
    · exact .replayed _ _ (by simp [send, sendAccepted, sendCompleted]; exact ⟨rfl, rfl⟩) ⟨rfl, rfl⟩ ⟨rfl, rfl⟩
        (by simp [hprior]) rfl rfl
  split
  · exact commanded_sendError build api ..
  split
  · exact commanded_sendError build api ..
  split
  · exact commanded_sendError build api ..
  rename_i company hactive
  split
  · exact commanded_sendError build api ..
  split
  · exact commanded_sendError build api ..
  split
  · rename_i name hname
    split
    · exact commanded_sendError build api ..
    · refine commanded_execute build api hactive ?_
      revert hname
      cases request.name <;> simp [Squirrel.string?]
  · exact commanded_sendError build api ..

theorem check_command_empty (p : CommandRequestPayload) (hid : p.commandId = "") :
    CommandRequest.check (.table p.slots) = none := by
  have hcommand : (Squirrel.table p.slots).field "command_id" = .string "" := by
    simp [CommandRequestPayload.slots, Squirrel.field, hid]
  unfold CommandRequest.check
  rw [hcommand]
  simp [Squirrel.string?, guard]

/-- A command request of the client under the company it names. -/
theorem commanded_handle (r : Running γ) (m : ClientMessage) {p : CommandRequestPayload}
    (hp : m.payload = .commandRequest p) :
    Commanded api m.messageId (.ofPayload p) (r.selectCompany m.companyId) (r.handleMessage build api m.squirrel) := by
  have hsquirrel : m.squirrel = envelope m.sequence m.messageId m.scriptInstanceId "command_request" m.companyId
      p.slots := by
    rw [ClientMessage.squirrel, hp]
  have hcheck := check_envelope m.sequence m.messageId m.scriptInstanceId "command_request" m.companyId p.slots
    m.sequence_pos m.messageId_ne
  rw [hsquirrel]
  unfold handleMessage
  rw [hcheck]
  dsimp only
  split
  · have hsent := sent_sendError build api (some m.messageId) .protocolMismatch "unsupported protocol" none none
      (r := r)
    have hselect := untouched_selectCompany (r := r) m.companyId
    rw [← sent_selectCompany m.companyId r] at hsent
    exact .refused _ hsent rfl rfl hselect.renames.symm hselect.ledger.symm
  rw [if_neg (by decide), if_pos rfl]
  by_cases hid : p.commandId = ""
  · unfold handleCommand
    rw [check_command_empty p hid]
    exact commanded_sendError build api ..
  · exact commanded_handleCommand build api ⟨2, m.messageId, "command_request", m.companyId, .table p.slots⟩
      (check_command p hid)

/-! ## What the script does with a resynchronization -/

/-- A message that answers this request or none; a snapshot shows this company. -/
structure Reply (messageId : String) (company : Option BridgeCompanySnapshot) (m : BridgeMessage) : Prop where
  correlation : m.correlationId = none ∨ m.correlationId = some messageId
  snapshot : m.messageType = .stateSnapshot → ∃ s, m.payload = .snapshot s ∧ s.company = company

variable {company : Option BridgeCompanySnapshot}

theorem reply_send {kind : MessageType} {correlation : Option String} {active : Option Int} {payload : Payload}
    (hc : correlation = none ∨ correlation = some messageId) (hk : kind ≠ .stateSnapshot) :
    Sends (Reply messageId company) r (r.send build api kind correlation active payload) :=
  Sends.send build api ⟨hc, fun h => (hk h).elim⟩

theorem reply_sendError (code : ErrorCode) (text : String) (commandId fingerprint : Option String) :
    Sends (Reply messageId company) r
      (r.sendError build api (some messageId) code text commandId fingerprint) :=
  reply_send build api (.inr rfl) (by rw [if_neg (by simp)]; decide)

theorem reply_sendWorldSnapshot (r : Running γ) :
    Sends (Reply messageId company) r (r.sendWorldSnapshot build api) := by
  have hpage : ∀ (worldId : String) (name : WorldCollection) (items : List Entity) (r : Running γ),
      Sends (Reply messageId company) r (r.sendPages build api worldId name items) := by
    intro worldId name items r
    unfold sendPages
    refine List.foldlRecOn _ _ (Sends.refl r) fun r' h item _ => ?_
    exact h.trans (reply_send build api (.inl rfl) (by decide))
  unfold sendWorldSnapshot
  refine Sends.trans ?_ (reply_send build api (.inl rfl) (by decide))
  refine List.foldlRecOn _ _ (reply_send build api (.inl rfl) (by decide)) fun r' h item _ => ?_
  exact h.trans (hpage _ _ _ r')

theorem reply_handleResync (request : Request) :
    Sends (Reply request.messageId (companySnapshot api r.bridge.activeCompany r.game)) r
      (r.handleResync build api request) := by
  unfold handleResync
  split
  · dsimp only
    have hresponse : ∀ reason, Sends (Reply request.messageId (companySnapshot api r.bridge.activeCompany r.game)) r
        (((r.sendHello build api (some request.messageId)).sendCapabilities build api (some request.messageId)).send
          build api .resyncResponse (some request.messageId) r.bridge.activeCompany (.resyncResponse { reason })) := by
      intro reason
      have hhello : Sends (Reply request.messageId (companySnapshot api r.bridge.activeCompany r.game)) r
          (r.sendHello build api (some request.messageId)) := reply_send build api (.inr rfl) (by decide)
      exact (hhello.trans (reply_send build api (.inr rfl) (by decide))).trans
        (reply_send build api (.inr rfl) (by decide))
    have hsnapshot : ∀ r' : Running γ, r'.bridge.activeCompany = r.bridge.activeCompany → r'.game = r.game →
        Sends (Reply request.messageId (companySnapshot api r.bridge.activeCompany r.game)) r'
          (r'.sendSnapshot build api) := by
      intro r' hactive hgame
      rw [← hactive, ← hgame]
      exact Sends.trans (Sends.of_sent_eq rfl) (Sends.send build api ⟨.inl rfl, fun _ => ⟨_, rfl, rfl⟩⟩)
    split
    · exact ((hresponse _).trans (hsnapshot _ rfl rfl)).trans (reply_sendWorldSnapshot build api _)
    · exact (hresponse _).trans (hsnapshot _ rfl rfl)
  · exact reply_sendError build api ..

/-- A resynchronization request of the client: renames and ledger stay. -/
theorem resynced_handle (r : Running γ) (m : ClientMessage) {p : ResyncRequestPayload}
    (hp : m.payload = .resyncRequest p) :
    Sends (Reply m.messageId
        (companySnapshot api (r.selectCompany m.companyId).bridge.activeCompany r.game)) r
      (r.handleMessage build api m.squirrel) ∧
    Untouched r (r.handleMessage build api m.squirrel) := by
  have hsquirrel : m.squirrel = envelope m.sequence m.messageId m.scriptInstanceId "resync_request" m.companyId
      p.slots := by
    rw [ClientMessage.squirrel, hp]
  have hcheck := check_envelope m.sequence m.messageId m.scriptInstanceId "resync_request" m.companyId p.slots
    m.sequence_pos m.messageId_ne
  rw [hsquirrel]
  unfold handleMessage
  rw [hcheck]
  dsimp only
  split
  · exact ⟨reply_sendError build api .., untouched_sendError build api ..⟩
  rw [if_pos rfl]
  have hselect := untouched_selectCompany (r := r) m.companyId
  have hsends := reply_handleResync build api (r := r.selectCompany m.companyId)
    ⟨2, m.messageId, "resync_request", m.companyId, .table p.slots⟩
  rw [hselect.game] at hsends
  refine ⟨Sends.trans (Sends.of_sent_eq (sent_selectCompany ..)) hsends, ?_⟩
  exact hselect.trans (untouched_handleResync build api _)

end Running

end SimPilot.GameScript
