import SimPilot.GameScript.Messages
/-!
# The script SimPilotBridge (openttd_gamescript/sim_pilot_bridge/main.nut)

| here | there |
|---|---|
| `GameApi` | the GameScript API of OpenTTD: `GSCompany`, `GSGame`, `GSMap`, `GSDate`, … |
| `Build` | the constants of a script version; `Build.v2` is main.nut |
| `SimPilotBridge` | the slots of the class (main.nut:2-12) |
| `Running` | the script with its game; `sent` is what went out through `GSAdmin.Send` |
| `renames` | the calls of `GSCompany.SetName` outside test mode that returned true, with what became of them |

A handler runs from one event of the main loop (main.nut:25-40) to the next.
-/

namespace SimPilot.GameScript

/-- The game as the script reads and changes it. -/
structure GameApi (γ : Type) where
  /-- `GSDate.GetCurrentDate()` -/
  currentDate : γ → Nat
  /-- `GSController.GetTick()` -/
  tick : γ → Nat
  isPaused : γ → Bool
  mapSizeX : γ → Nat
  mapSizeY : γ → Nat
  townCount : γ → Nat
  industryCount : γ → Nat
  /-- `GSCompany.ResolveCompanyID(id) != GSCompany.COMPANY_INVALID` -/
  resolves : γ → Int → Bool
  /-- `GSCompanyMode.IsValid()` under `GSCompanyMode(id)` -/
  modeIsValid : γ → Int → Bool
  companyName : γ → Int → String
  bankBalance : γ → Int → Int
  loanAmount : γ → Int → Int
  vehicleCount : γ → Int → Nat
  stationCount : γ → Int → Nat
  /-- `BuildWorldCollections()`, which reads the game only -/
  worldCollections : γ → Option Int → Assoc WorldCollection (List Entity)
  /-- `GSCompany.SetName` under `GSTestMode`, the costs `GSAccounting` saw, and the game after -/
  testSetName : γ → Int → String → Bool × Int × γ
  /-- `GSCompany.SetName` -/
  setName : γ → Int → String → Bool × γ

/-- What differs from one version of the script to the next. -/
structure Build where
  protocolVersion : Nat
  scriptVersion : Nat
  adapterVersion : String
  capabilityVersion : Nat
  capabilityFingerprint : String
  worldSnapshots : Bool

/-- main.nut. -/
def Build.v2 : Build where
  protocolVersion := 2
  scriptVersion := 2
  adapterVersion := "openttd-gamescript-v2"
  capabilityVersion := 2
  capabilityFingerprint := "c7e830e62f9898d01704396f91785c9e4a6e9abf87cc08799f8f49a4d4103ec6"
  worldSnapshots := true

/-- A record of the command ledger (main.nut:536). -/
structure Record where
  commandId : String
  actionFingerprint : String
  beforeName : String
  afterName : String
  stateChanged : Bool
  cost : Int
  deriving DecidableEq, Repr

structure SimPilotBridge where
  sequence : Nat := 0
  instanceId : Option String := none
  loaded : Bool := false
  saveGeneration : Nat := 0
  startGeneration : Nat := 0
  activeCompany : Option Int := none
  lastSnapshotId : Option String := none
  commandLedger : List Record := []
  deriving DecidableEq, Repr

def ledgerLimit : Nat := 64

/-- `FindLedger` (main.nut:579). -/
def findLedger (commandId : String) (ledger : List Record) : Option Record :=
  ledger.find? (·.commandId = commandId)

/-- `Remember` (main.nut:586). -/
def remember (record : Record) (ledger : List Record) : List Record :=
  let ledger := ledger ++ [record]
  if ledgerLimit < ledger.length then ledger.tail else ledger

/-- A call of `GSCompany.SetName` that returned true: the record of it, and whether the
company then had the name that was asked for. -/
structure Rename where
  record : Record
  confirmed : Bool
  deriving DecidableEq, Repr

structure Running (γ : Type) where
  bridge : SimPilotBridge
  game : γ
  sent : List BridgeMessage := []
  renames : List Rename := []

namespace Running
variable {γ : Type} (build : Build) (api : GameApi γ)

/-- The table `Send` builds. -/
def message (kind : MessageType) (correlation : Option String) (company : Option Int) (payload : Payload)
    (r : Running γ) : BridgeMessage :=
  let sequence := r.bridge.sequence + 1
  let instanceId := r.bridge.instanceId.getD "null"
  { protocolVersion := build.protocolVersion, sequence, messageId := s!"{instanceId}:{sequence}"
    correlationId := correlation, scriptInstanceId := instanceId, messageType := kind
    gameDate := api.currentDate r.game, companyId := company, payload }

/-- `Send` (main.nut:43). -/
def send (kind : MessageType) (correlation : Option String) (company : Option Int) (payload : Payload)
    (r : Running γ) : Running γ :=
  { r with
    bridge := { r.bridge with sequence := r.bridge.sequence + 1 }
    sent := r.sent ++ [r.message build api kind correlation company payload] }

def sendHello (correlation : Option String) (r : Running γ) : Running γ :=
  r.send build api .hello correlation r.bridge.activeCompany <| .hello
    { scriptVersion := build.scriptVersion, adapterVersion := build.adapterVersion, loaded := r.bridge.loaded
      saveGeneration := r.bridge.saveGeneration, startGeneration := r.bridge.startGeneration }

/-- The table of `SendCapabilities` (main.nut:72-98). -/
def capabilities : BridgeCapabilities where
  capabilityVersion := build.capabilityVersion
  readableResources :=
    ["paused", "map_width", "map_height", "town_count", "industry_count", "company_name", "company_cash",
      "company_loan", "vehicle_count", "station_count"]
  readableEntities := ["company", "town", "industry", "station", "vehicle", "order", "cargo"]
  supportedActions := ["set_company_name"]
  companyContexts := ["existing_company"]
  costEstimation := true
  independentVerification := true
  reconciliation := true
  saveLoad := true
  fullSnapshots := true
  worldSnapshots := build.worldSnapshots
  worldCollections :=
    if build.worldSnapshots then
      ["companies", "towns", "industries", "stations", "vehicles", "orders", "cargos"] else []

def sendCapabilities (correlation : Option String) (r : Running γ) : Running γ :=
  r.send build api .capabilities correlation r.bridge.activeCompany (.capabilities (capabilities build))

/-- `SendError` (main.nut:568). -/
def sendError (correlation : Option String) (code : ErrorCode) (message : String)
    (commandId fingerprint : Option String) (r : Running γ) : Running γ :=
  r.send build api (if correlation = none then .error else .commandRejected) correlation r.bridge.activeCompany <|
    .error { code, message, commandId, actionFingerprint := fingerprint }

def sendAccepted (correlation commandId fingerprint : String) (r : Running γ) : Running γ :=
  r.send build api .commandAccepted (some correlation) r.bridge.activeCompany <|
    .commandAccepted { commandId, actionFingerprint := fingerprint }

def sendCompleted (correlation : String) (record : Record) (duplicate : Bool) (r : Running γ) : Running γ :=
  r.send build api .commandCompleted (some correlation) r.bridge.activeCompany <| .commandCompleted
    { commandId := record.commandId, actionFingerprint := record.actionFingerprint
      beforeName := record.beforeName, afterName := record.afterName, stateChanged := record.stateChanged
      cost := record.cost, duplicate }

/-- A heartbeat of the main loop (main.nut:32). -/
def sendHeartbeat (r : Running γ) : Running γ :=
  r.send build api .heartbeat none r.bridge.activeCompany <|
    .heartbeat { tick := api.tick r.game, snapshotId := r.bridge.lastSnapshotId }

/-! ## Resynchronization (main.nut:139-209) -/

/-- `BuildCompanySnapshot` (main.nut:377). -/
def companySnapshot (company : Option Int) (game : γ) : Option BridgeCompanySnapshot :=
  match company with
  | none => none
  | some id =>
    if ¬ api.resolves game id then none
    else if ¬ api.modeIsValid game id then none
    else some
      { companyId := id, name := api.companyName game id, cash := api.bankBalance game id
        loan := api.loanAmount game id, vehicleCount := api.vehicleCount game id
        stationCount := api.stationCount game id }

def sendSnapshot (r : Running γ) : Running γ :=
  let company := companySnapshot api r.bridge.activeCompany r.game
  let instanceId := r.bridge.instanceId.getD "null"
  let nextSequence := r.bridge.sequence + 1
  let snapshotId := s!"{instanceId}:snapshot:{nextSequence}"
  { r with bridge := { r.bridge with lastSnapshotId := some snapshotId } }.send build api
    .stateSnapshot none r.bridge.activeCompany <| .snapshot
      { snapshotId, paused := api.isPaused r.game, mapWidth := api.mapSizeX r.game, mapHeight := api.mapSizeY r.game
        townCount := api.townCount r.game, industryCount := api.industryCount r.game, company
        saveGeneration := r.bridge.saveGeneration }

/-- The pages of one collection, an item each. -/
def sendPages (worldId : String) (name : WorldCollection) (items : List Entity) (r : Running γ) : Running γ :=
  items.zipIdx.foldl (fun r item =>
    r.send build api .worldCollectionPage none r.bridge.activeCompany <| .worldPage
      { snapshotId := worldId, collection := name, pageIndex := item.2, pageCount := items.length
        items := [item.1] }) r

/-- `SendWorldSnapshot` (main.nut:174); the game stands still while it sleeps between pages. -/
def sendWorldSnapshot (r : Running γ) : Running γ :=
  let instanceId := r.bridge.instanceId.getD "null"
  let nextSequence := r.bridge.sequence + 1
  let worldId := s!"{instanceId}:world:{nextSequence}"
  let collections := api.worldCollections r.game r.bridge.activeCompany
  let manifest := r.send build api .worldManifest none r.bridge.activeCompany <| .worldManifest
    { snapshotId := worldId, captureStartedGameDate := api.currentDate r.game
      collectionCounts := collections.map fun (name, items) => (name, items.length) }
  let pages := collections.foldl (fun r (name, items) => r.sendPages build api worldId name items) manifest
  pages.send build api .worldSnapshotComplete none pages.bridge.activeCompany <| .worldComplete
    { snapshotId := worldId, captureCompletedGameDate := api.currentDate pages.game
      totalItems := (collections.map fun (_, items) => items.length).sum }

/-! ## Requests -/

/-- `v == null`, or what `f` reads of it. -/
def nullOr {α : Type} (f : Squirrel → Option α) : Squirrel → Option (Option α)
  | .null => some none
  | v => (f v).map some

/-- An envelope that passed the checks of `HandleMessage`. -/
structure Request where
  protocolVersion : Int
  messageId : String
  messageType : String
  companyId : Option Int
  payload : Squirrel

/-- The checks of `HandleMessage` (main.nut:102-116). -/
def Request.check (message : Squirrel) : Option Request := do
  guard (message.hasExactKeys
    ["protocol_version", "sequence", "message_id", "correlation_id", "script_instance_id", "message_type",
      "game_date", "company_id", "payload"])
  let protocolVersion ← (message.field "protocol_version").integer?
  let sequence ← (message.field "sequence").integer?
  guard (1 ≤ sequence)
  let messageId ← (message.field "message_id").string?
  guard (messageId ≠ "")
  let _ ← (message.field "script_instance_id").string?
  let messageType ← (message.field "message_type").string?
  let gameDate ← (message.field "game_date").integer?
  guard (0 ≤ gameDate)
  let _ ← (message.field "payload").table?
  let _ ← nullOr Squirrel.string? (message.field "correlation_id")
  let companyId ← nullOr Squirrel.integer? (message.field "company_id")
  return { protocolVersion, messageId, messageType, companyId, payload := message.field "payload" }

/-- `HandleResync` (main.nut:139). -/
def handleResync (request : Request) (r : Running γ) : Running γ :=
  match request.payload.hasExactKeys ["last_script_instance_id", "last_sequence", "reason"],
      (request.payload.field "reason").string? with
  | true, some reason =>
    let r := (r.sendHello build api (some request.messageId)).sendCapabilities build api (some request.messageId)
    let r := r.send build api .resyncResponse (some request.messageId) r.bridge.activeCompany <|
      .resyncResponse { reason }
    let r := r.sendSnapshot build api
    if build.worldSnapshots then r.sendWorldSnapshot build api else r
  | _, _ => r.sendError build api (some request.messageId) .invalidParameters "invalid resync payload" none none

/-- A command payload that passed the checks of `HandleCommand`. -/
structure CommandRequest where
  commandId : String
  action : String
  name : Squirrel
  actionFingerprint : String
  expectedCapabilityFingerprint : String
  expectedCompanyId : Int
  priorSnapshotId : String

/-- The first checks of `HandleCommand` (main.nut:399-410). -/
def CommandRequest.check (payload : Squirrel) : Option CommandRequest := do
  guard (payload.hasExactKeys
    ["command_id", "action", "parameters", "action_fingerprint", "expected_capability_fingerprint",
      "expected_company_id", "prior_snapshot_id", "request_timestamp"])
  let commandId ← (payload.field "command_id").string?
  guard (commandId ≠ "")
  let action ← (payload.field "action").string?
  let _ ← (payload.field "parameters").table?
  let actionFingerprint ← (payload.field "action_fingerprint").string?
  let expectedCapabilityFingerprint ← (payload.field "expected_capability_fingerprint").string?
  let expectedCompanyId ← (payload.field "expected_company_id").integer?
  let priorSnapshotId ← (payload.field "prior_snapshot_id").string?
  let _ ← (payload.field "request_timestamp").string?
  guard ((payload.field "parameters").hasExactKeys ["name"])
  return {
    commandId, action, name := (payload.field "parameters").field "name", actionFingerprint
    expectedCapabilityFingerprint, expectedCompanyId, priorSnapshotId }

/-- The record of a rename (main.nut:536) and whether `after_name` is the name asked for;
`game` is the game after the call. -/
def renameOf (request : CommandRequest) (company : Int) (name beforeName : String) (cost : Int) (game : γ) : Rename :=
  let afterName := api.companyName game company
  { record :=
      { commandId := request.commandId, actionFingerprint := request.actionFingerprint, beforeName, afterName
        stateChanged := decide (beforeName ≠ afterName), cost }
    confirmed := decide (afterName = name) }

/-- The call outside test mode and what follows it (main.nut:521-545). -/
def applySetName (messageId : String) (request : CommandRequest) (company : Int) (name beforeName : String)
    (cost : Int) (r : Running γ) : Running γ :=
  let result := api.setName r.game company name
  let rename := renameOf api request company name beforeName cost result.2
  let r := { r with game := result.2, renames := r.renames ++ if result.1 then [rename] else [] }
  if result.1 = false ∨ rename.confirmed = false then
    r.send build api .commandFailed (some messageId) r.bridge.activeCompany <| .error
      { code := .gameRuleRejection, message := "OpenTTD rejected the company name"
        commandId := some request.commandId, actionFingerprint := some request.actionFingerprint }
  else
    { r with bridge := { r.bridge with commandLedger := remember rename.record r.bridge.commandLedger } }.sendCompleted
      build api messageId rename.record false

/-- `ExecuteSetCompanyName` (main.nut:487) for the active company. -/
def executeSetCompanyName (messageId : String) (request : CommandRequest) (company : Int) (name : String)
    (r : Running γ) : Running γ :=
  let reject := fun (code : ErrorCode) (message : String) (r : Running γ) =>
    r.sendError build api (some messageId) code message (some request.commandId) (some request.actionFingerprint)
  if ¬ api.modeIsValid r.game company then reject .contextUnavailable "company context is invalid" r
  else
    let beforeName := api.companyName r.game company
    let test := api.testSetName r.game company name
    let tested := { r with game := test.2.2 }
    if ¬ test.1 ∨ api.companyName tested.game company ≠ beforeName then
      reject .gameRuleRejection "test mode rejected or changed state" tested
    else
      (tested.sendAccepted build api messageId request.commandId request.actionFingerprint).applySetName build api
        messageId request company name beforeName test.2.1

/-- `HandleCommand` (main.nut:397). -/
def handleCommand (message : Request) (r : Running γ) : Running γ :=
  match CommandRequest.check message.payload with
  | none => r.sendError build api (some message.messageId) .invalidParameters "missing command field" none none
  | some request =>
    let reject := fun (code : ErrorCode) (text : String) =>
      r.sendError build api (some message.messageId) code text (some request.commandId) (some request.actionFingerprint)
    match findLedger request.commandId r.bridge.commandLedger with
    | some prior =>
      if prior.actionFingerprint ≠ request.actionFingerprint then
        reject .duplicateConflict "command ID has a different fingerprint"
      else
        (r.sendAccepted build api message.messageId prior.commandId prior.actionFingerprint).sendCompleted build api
          message.messageId prior true
    | none =>
      if request.action ≠ "set_company_name" then reject .unsupportedCommand "action is not supported"
      else if request.expectedCapabilityFingerprint ≠ build.capabilityFingerprint then
        reject .staleRequest "capability fingerprint changed"
      else match r.bridge.activeCompany with
        | none => reject .invalidCompany "selected company is unavailable"
        | some company =>
          if request.expectedCompanyId ≠ company ∨ ¬ api.resolves r.game company then
            reject .invalidCompany "selected company is unavailable"
          else if some request.priorSnapshotId ≠ r.bridge.lastSnapshotId then
            reject .staleRequest "snapshot identity changed"
          else match request.name.string? with
            | some name =>
              if name.utf8ByteSize = 0 ∨ 128 < name.utf8ByteSize then
                reject .invalidParameters "name must be a non-empty string no longer than 128 bytes"
              else r.executeSetCompanyName build api message.messageId request company name
            | none => reject .invalidParameters "name must be a non-empty string no longer than 128 bytes"

/-- The company a message names becomes the active one (main.nut:121-123). -/
def selectCompany (companyId : Option Int) (r : Running γ) : Running γ :=
  match companyId with
  | some company => { r with bridge := { r.bridge with activeCompany := some company } }
  | none => r

@[simp]
theorem sent_selectCompany (companyId : Option Int) (r : Running γ) : (r.selectCompany companyId).sent = r.sent := by
  cases companyId <;> rfl

/-- `HandleMessage` (main.nut:101). -/
def handleMessage (message : Squirrel) (r : Running γ) : Running γ :=
  match Request.check message with
  | none => r.sendError build api none .protocolMismatch "invalid bridge envelope" none none
  | some request =>
    if request.protocolVersion ≠ build.protocolVersion ∧ request.protocolVersion ≠ 1 then
      r.sendError build api (some request.messageId) .protocolMismatch "unsupported protocol" none none
    else
      let r := r.selectCompany request.companyId
      if request.messageType = "resync_request" then r.handleResync build api request
      else if request.messageType = "command_request" then r.handleCommand build api request
      else r.sendError build api (some request.messageId) .unsupportedCommand "unsupported message type" none none

/-! ## Start, Save and Load -/

/-- `Start` up to its main loop (main.nut:18-23); `rand` are the two random numbers. -/
def start (rand : Nat × Nat) (r : Running γ) : Running γ :=
  let instanceId := r.bridge.instanceId.getD s!"spb-{rand.1}-{rand.2}"
  let bridge :=
    { r.bridge with instanceId := some instanceId, startGeneration := r.bridge.startGeneration + 1 }
  ({ r with bridge }.sendHello build api none).sendCapabilities build api none

end Running

/-- The table `Save` returns (main.nut:599). -/
structure SavedData where
  protocolVersion : Nat
  sequence : Nat
  instanceId : Option String
  saveGeneration : Nat
  startGeneration : Nat
  activeCompany : Option Int
  lastSnapshotId : Option String
  commandLedger : List Record
  deriving DecidableEq, Repr

namespace SimPilotBridge

/-- `Save` counts the save before it returns the table. -/
def save (build : Build) (b : SimPilotBridge) : SavedData × SimPilotBridge :=
  let b := { b with saveGeneration := b.saveGeneration + 1 }
  ({ protocolVersion := build.protocolVersion, sequence := b.sequence, instanceId := b.instanceId
     saveGeneration := b.saveGeneration, startGeneration := b.startGeneration, activeCompany := b.activeCompany
     lastSnapshotId := b.lastSnapshotId, commandLedger := b.commandLedger }, b)

/-- `Load` of a fresh script (main.nut:613). -/
def load (data : Option SavedData) : SimPilotBridge :=
  match data with
  | none => { loaded := true }
  | some data =>
    if data.protocolVersion ≠ 1 ∧ data.protocolVersion ≠ 2 then { loaded := true }
    else
      { sequence := data.sequence, instanceId := data.instanceId, loaded := true
        saveGeneration := data.saveGeneration, startGeneration := data.startGeneration
        activeCompany := data.activeCompany, lastSnapshotId := data.lastSnapshotId
        commandLedger := data.commandLedger.drop (data.commandLedger.length - ledgerLimit) }

end SimPilotBridge

/-! ## What the client sends passes the checks -/

theorem contains_iff {slots : List (String × Squirrel)} {key : String} :
    Assoc.contains slots key = true ↔ key ∈ Assoc.keys slots := by
  induction slots with
  | nil => simp [Assoc.contains, Assoc.keys]
  | cons slot rest ih =>
    obtain ⟨key', v⟩ := slot
    by_cases h : key' = key
    · simp [Assoc.contains, Assoc.keys, h]
    · simp only [Assoc.contains, Assoc.get_cons, if_neg h, Assoc.keys, List.map_cons, List.mem_cons] at ih ⊢
      rw [ih, or_iff_right (Ne.symm h)]

/-- Only the keys of a table count. -/
theorem hasExactKeys_table {slots : List (String × Squirrel)} {keys : List String} :
    (Squirrel.table slots).hasExactKeys keys = true ↔
      (Assoc.keys slots).length = keys.length ∧ ∀ key ∈ keys, key ∈ Assoc.keys slots := by
  simp [Squirrel.hasExactKeys, contains_iff, Assoc.keys]

section Envelope
variable (sequence : Nat) (messageId : String) (instanceId : Option String) (messageType : String)
  (company : Option Int) (slots : List (String × Squirrel))

theorem envelope_keys : (envelope sequence messageId instanceId messageType company slots).hasExactKeys
    ["protocol_version", "sequence", "message_id", "correlation_id", "script_instance_id", "message_type",
      "game_date", "company_id", "payload"] = true := by
  rw [envelope, hasExactKeys_table]
  simp only [Assoc.keys, List.map_cons, List.map_nil]
  decide +kernel

/-- An envelope of the client is taken with everything in it. -/
theorem check_envelope (hsequence : 1 ≤ sequence) (hid : messageId ≠ "") :
    Running.Request.check (envelope sequence messageId instanceId messageType company slots) =
      some { protocolVersion := 2, messageId, messageType, companyId := company, payload := .table slots } := by
  have hkeys := envelope_keys sequence messageId instanceId messageType company slots
  generalize hm : envelope sequence messageId instanceId messageType company slots = message at hkeys
  have hversion : message.field "protocol_version" = .integer 2 := by simp [← hm, envelope, Squirrel.field]
  have hseq : message.field "sequence" = .integer sequence := by simp [← hm, envelope, Squirrel.field]
  have hmid : message.field "message_id" = .string messageId := by simp [← hm, envelope, Squirrel.field]
  have hcorrelation : message.field "correlation_id" = .null := by simp [← hm, envelope, Squirrel.field]
  have hinstance : message.field "script_instance_id" = .string (instanceId.getD "unknown") := by
    simp [← hm, envelope, Squirrel.field]
  have htype : message.field "message_type" = .string messageType := by simp [← hm, envelope, Squirrel.field]
  have hdate : message.field "game_date" = .integer 0 := by simp [← hm, envelope, Squirrel.field]
  have hcompany : Running.nullOr Squirrel.integer? (message.field "company_id") = some company := by
    have hf : message.field "company_id" = (company.map Squirrel.integer).getD .null := by
      simp [← hm, envelope, Squirrel.field]
    rw [hf]
    cases company <;> rfl
  have hpayload : message.field "payload" = .table slots := by simp [← hm, envelope, Squirrel.field]
  unfold Running.Request.check
  rw [hkeys, hversion, hseq, hmid, hcorrelation, hinstance, htype, hdate, hcompany, hpayload]
  have hpos : (1 : Int) ≤ sequence := by omega
  simp [Squirrel.integer?, Squirrel.string?, Squirrel.table?, Running.nullOr, guard, hpos, hid]

end Envelope

/-- A command of the client as the script reads it. -/
def Running.CommandRequest.ofPayload (p : CommandRequestPayload) : Running.CommandRequest where
  commandId := p.commandId
  action := p.action
  name := .string p.name
  actionFingerprint := p.actionFingerprint
  expectedCapabilityFingerprint := p.expectedCapabilityFingerprint
  expectedCompanyId := p.expectedCompanyId
  priorSnapshotId := p.priorSnapshotId

theorem check_command (p : CommandRequestPayload) (hid : p.commandId ≠ "") :
    Running.CommandRequest.check (.table p.slots) = some (.ofPayload p) := by
  have hkeys : (Squirrel.table p.slots).hasExactKeys
      ["command_id", "action", "parameters", "action_fingerprint", "expected_capability_fingerprint",
        "expected_company_id", "prior_snapshot_id", "request_timestamp"] = true := by
    rw [CommandRequestPayload.slots, hasExactKeys_table]
    simp only [Assoc.keys, List.map_cons, List.map_nil]
    decide +kernel
  generalize hm : Squirrel.table p.slots = message at hkeys
  have hcid : message.field "command_id" = .string p.commandId := by
    simp [← hm, CommandRequestPayload.slots, Squirrel.field]
  have haction : message.field "action" = .string p.action := by
    simp [← hm, CommandRequestPayload.slots, Squirrel.field]
  have hparameters : message.field "parameters" = .table [("name", .string p.name)] := by
    simp [← hm, CommandRequestPayload.slots, Squirrel.field]
  have hfingerprint : message.field "action_fingerprint" = .string p.actionFingerprint := by
    simp [← hm, CommandRequestPayload.slots, Squirrel.field]
  have hcapability : message.field "expected_capability_fingerprint" =
      .string p.expectedCapabilityFingerprint := by
    simp [← hm, CommandRequestPayload.slots, Squirrel.field]
  have hcompany : message.field "expected_company_id" = .integer p.expectedCompanyId := by
    simp [← hm, CommandRequestPayload.slots, Squirrel.field]
  have hprior : message.field "prior_snapshot_id" = .string p.priorSnapshotId := by
    simp [← hm, CommandRequestPayload.slots, Squirrel.field]
  have htime : message.field "request_timestamp" = .string p.requestTimestamp := by
    simp [← hm, CommandRequestPayload.slots, Squirrel.field]
  unfold Running.CommandRequest.check
  rw [hkeys, hcid, haction, hparameters, hfingerprint, hcapability, hcompany, hprior, htime]
  have hname : (Squirrel.table [("name", .string p.name)]).hasExactKeys ["name"] = true := by
    rw [hasExactKeys_table]
    simp [Assoc.keys]
  simp [Squirrel.integer?, Squirrel.string?, Squirrel.table?, guard, hid, hname, Squirrel.field,
    Running.CommandRequest.ofPayload]

end SimPilot.GameScript
