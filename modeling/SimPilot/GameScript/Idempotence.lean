import SimPilot.GameScript.Script
import SimPilot.Data.Window
/-!
# Commands by their identifier

A run of the script is a list of events: messages delivered, the game going on, the game
saved with the script's data and loaded again. Loading puts back the game, the script and
the renames that had happened when it was saved: what `renames` holds is the history that
survives.

The ledger is the window of the last 64 confirmed renames (`Kept.ledger`). Within the
window a command runs once and is answered with its record; behind it the script cannot
tell an old identifier from a new one.
-/

namespace SimPilot.GameScript

variable {γ : Type} (build : Build) (api : GameApi γ)

/-- A saved game. -/
structure SavedGame (γ : Type) where
  data : SavedData
  game : γ
  renames : List Rename

structure World (γ : Type) where
  running : Running γ
  saves : List (SavedGame γ) := []

inductive Event (γ : Type) where
  | deliver (message : Squirrel)
  /-- The game goes on between two events of the script. -/
  | elapse (game : γ)
  | save
  /-- The saved game with this number is loaded; the numbers are what `GSBase.Rand()` gives `Start`. -/
  | load (index : Nat) (rand : Nat × Nat)

/-- A new game with the script started in it. -/
def World.new (game : γ) (rand : Nat × Nat) : World γ where
  running := Running.start build api rand { bridge := {}, game : Running γ }

def World.step (w : World γ) : Event γ → World γ
  | .deliver message => { w with running := w.running.handleMessage build api message }
  | .elapse game => { w with running := { w.running with game } }
  | .save =>
    let (data, bridge) := w.running.bridge.save build
    { running := { w.running with bridge }
      saves := w.saves ++ [{ data, game := w.running.game, renames := w.running.renames }] }
  | .load index rand =>
    match w.saves[index]? with
    | none => w
    | some saved =>
      let loaded : Running γ :=
        { bridge := SimPilotBridge.load (some saved.data), game := saved.game, renames := saved.renames
          sent := w.running.sent }
      { w with running := loaded.start build api rand }

def World.run (w : World γ) (events : List (Event γ)) : World γ := events.foldl (World.step build api) w

/-- The renames that stood: the company had the name that was asked for. -/
def completed (renames : List Rename) : List Record := (renames.filter (·.confirmed)).map (·.record)

/-- `GSCompany.SetName` names the company as it was asked to, when it returns true. -/
def Documented : Prop :=
  ∀ game company name, (api.setName game company name).1 = true →
    api.companyName (api.setName game company name).2 company = name

/-! ## What sending leaves alone -/

namespace Running

/-- Everything a command can change is as before. -/
structure Untouched (r r' : Running γ) : Prop where
  game : r'.game = r.game
  renames : r'.renames = r.renames
  ledger : r'.bridge.commandLedger = r.bridge.commandLedger

theorem Untouched.refl (r : Running γ) : Untouched r r := ⟨rfl, rfl, rfl⟩

theorem Untouched.trans {r r' r'' : Running γ} (h : Untouched r r') (h' : Untouched r' r'') : Untouched r r'' :=
  ⟨h'.game.trans h.game, h'.renames.trans h.renames, h'.ledger.trans h.ledger⟩

variable {r : Running γ}

theorem untouched_send (kind : MessageType) (correlation : Option String) (company : Option Int)
    (payload : Payload) : Untouched r (r.send build api kind correlation company payload) := ⟨rfl, rfl, rfl⟩

theorem untouched_sendError (correlation : Option String) (code : ErrorCode) (message : String)
    (commandId fingerprint : Option String) :
    Untouched r (r.sendError build api correlation code message commandId fingerprint) := ⟨rfl, rfl, rfl⟩

theorem untouched_sendPages (worldId : String) (name : WorldCollection) (items : List Entity) :
    Untouched r (r.sendPages build api worldId name items) := by
  unfold sendPages
  refine List.foldlRecOn (motive := Untouched r) _ _ (.refl r) fun r' h item _ => ?_
  exact h.trans (untouched_send build api ..)

theorem untouched_sendWorldSnapshot (r : Running γ) : Untouched r (r.sendWorldSnapshot build api) := by
  unfold sendWorldSnapshot
  refine Untouched.trans ?_ (untouched_send build api ..)
  refine List.foldlRecOn (motive := Untouched r) _ _ (untouched_send build api ..) fun r' h item _ => ?_
  exact h.trans (untouched_sendPages build api ..)

theorem untouched_handleResync (request : Request) : Untouched r (r.handleResync build api request) := by
  unfold handleResync
  split
  · dsimp only
    split
    · refine Untouched.trans ?_ (untouched_sendWorldSnapshot build api _)
      exact ⟨rfl, rfl, rfl⟩
    · exact ⟨rfl, rfl, rfl⟩
  · exact untouched_sendError build api ..

theorem untouched_selectCompany (companyId : Option Int) : Untouched r (r.selectCompany companyId) := by
  cases companyId with
  | none => exact .refl r
  | some company => exact ⟨rfl, rfl, rfl⟩

/-! ## What a delivery does -/

/-- A message leaves renames and ledger as they are, or it is a command under an identifier
the ledger does not have and the company was renamed. -/
def Delivered (r r' : Running γ) : Prop :=
  (r'.renames = r.renames ∧ r'.bridge.commandLedger = r.bridge.commandLedger) ∨
  ∃ x : Rename, findLedger x.record.commandId r.bridge.commandLedger = none ∧ r'.renames = r.renames ++ [x] ∧
    (Documented api → x.confirmed = true) ∧ r'.bridge.commandLedger =
      if x.confirmed then remember x.record r.bridge.commandLedger else r.bridge.commandLedger

variable {api} in
theorem Untouched.delivered {r r' : Running γ} (h : Untouched r r') : Delivered api r r' := .inl ⟨h.renames, h.ledger⟩

variable {api} in
theorem Delivered.after {r r₁ r' : Running γ} (h : Untouched r r₁) (h' : Delivered api r₁ r') : Delivered api r r' := by
  unfold Delivered at h' ⊢
  rwa [h.renames, h.ledger] at h'

theorem delivered_apply {messageId : String} {request : CommandRequest} {company : Int} {name before : String}
    {cost : Int} (hnew : findLedger request.commandId r.bridge.commandLedger = none) :
    Delivered api r (r.applySetName build api messageId request company name before cost) := by
  unfold applySetName
  cases hsuccess : (api.setName r.game company name).1 with
  | false => exact .inl ⟨by simp [send, hsuccess], by simp [send, hsuccess]⟩
  | true =>
    have hdocumented : Documented api →
        (renameOf api request company name before cost (api.setName r.game company name).2).confirmed = true := by
      intro h
      exact decide_eq_true (h r.game company name hsuccess)
    refine .inr ⟨renameOf api request company name before cost (api.setName r.game company name).2, hnew, ?_⟩
    cases hc : (renameOf api request company name before cost (api.setName r.game company name).2).confirmed <;>
      simp_all [send, sendCompleted]

theorem delivered_execute {messageId : String} {request : CommandRequest} {company : Int} {name : String}
    (hnew : findLedger request.commandId r.bridge.commandLedger = none) :
    Delivered api r (r.executeSetCompanyName build api messageId request company name) := by
  simp only [executeSetCompanyName]
  split
  · exact .inl ⟨rfl, rfl⟩
  split
  · exact .inl ⟨rfl, rfl⟩
  exact delivered_apply build api hnew

theorem delivered_handleCommand (message : Request) : Delivered api r (r.handleCommand build api message) := by
  unfold handleCommand
  split
  · exact .inl ⟨rfl, rfl⟩
  rename_i request _
  dsimp only
  split
  · split
    · exact .inl ⟨rfl, rfl⟩
    · exact .inl ⟨rfl, rfl⟩
  rename_i hnew
  split
  · exact .inl ⟨rfl, rfl⟩
  split
  · exact .inl ⟨rfl, rfl⟩
  split
  · exact .inl ⟨rfl, rfl⟩
  split
  · exact .inl ⟨rfl, rfl⟩
  split
  · exact .inl ⟨rfl, rfl⟩
  split
  · split
    · exact .inl ⟨rfl, rfl⟩
    · exact delivered_execute build api hnew
  · exact .inl ⟨rfl, rfl⟩

theorem delivered_handleMessage (message : Squirrel) : Delivered api r (r.handleMessage build api message) := by
  unfold handleMessage
  split
  · exact .inl ⟨rfl, rfl⟩
  rename_i request _
  split
  · exact .inl ⟨rfl, rfl⟩
  · refine Delivered.after (untouched_selectCompany request.companyId) ?_
    dsimp only
    split
    · exact (untouched_handleResync build api request).delivered
    split
    · exact delivered_handleCommand build api request
    · exact (untouched_sendError build api ..).delivered

end Running

/-! ## The ledger is a window of the history -/

/-- What holds of a ledger and the renames of the history it belongs to. -/
structure Kept (ledger : List Record) (renames : List Rename) : Prop where
  ledger : ledger = Window.last ledgerLimit (completed renames)
  spaced : Window.Spaced ledgerLimit Record.commandId (completed renames)
  /-- No rename was made for an identifier of the window before it. -/
  fresh : ∀ before x after, renames = before ++ x :: after →
    x.record.commandId ∉ (Window.last ledgerLimit (completed before)).map (·.commandId)
  confirmed : Documented api → ∀ x ∈ renames, x.confirmed = true

theorem findLedger_none {commandId : String} {ledger : List Record} :
    findLedger commandId ledger = none ↔ commandId ∉ ledger.map (·.commandId) := by
  simp only [findLedger, List.find?_eq_none, List.mem_map, not_exists, not_and, decide_eq_true_eq]

/-- Where identifiers are distinct, a record is found under its own. -/
theorem findLedger_of_mem {record : Record} :
    ∀ {ledger : List Record}, (ledger.map (·.commandId)).Nodup → record ∈ ledger →
      findLedger record.commandId ledger = some record
  | head :: ledger, hn, hm => by
    simp only [List.map_cons, List.nodup_cons] at hn
    rcases List.mem_cons.1 hm with rfl | hm
    · simp [findLedger]
    · have hne : head.commandId ≠ record.commandId := by
        intro heq
        exact hn.1 (heq ▸ List.mem_map_of_mem hm)
      have ih := findLedger_of_mem hn.2 hm
      simp only [findLedger] at ih ⊢
      rw [List.find?_cons, ih]
      simp [hne]

namespace Kept
variable {api} {ledger : List Record} {renames : List Rename}

theorem nil : Kept api [] [] where
  ledger := (Window.last_nil _).symm
  spaced := .nil
  fresh := by intro before x after h; simp at h
  confirmed := by intro _ x hx; simp at hx

/-- The ledger never outgrows its limit. -/
theorem length_le (h : Kept api ledger renames) : ledger.length ≤ ledgerLimit := by
  rw [h.ledger, Window.length_last]
  omega

theorem find (h : Kept api ledger renames) {record : Record} (hm : record ∈ Window.last ledgerLimit (completed renames)) :
    findLedger record.commandId ledger = some record := by
  rw [h.ledger]
  exact findLedger_of_mem (h.spaced.nodup_last (by decide)) hm

theorem concat (h : Kept api ledger renames) {x : Rename} (hnew : findLedger x.record.commandId ledger = none)
    (hdocumented : Documented api → x.confirmed = true) :
    Kept api (if x.confirmed then remember x.record ledger else ledger) (renames ++ [x]) := by
  rw [findLedger_none, h.ledger] at hnew
  have hfresh : ∀ before y after, renames ++ [x] = before ++ y :: after →
      y.record.commandId ∉ (Window.last ledgerLimit (completed before)).map (·.commandId) := by
    intro before y after hl
    rcases List.eq_nil_or_concat after with rfl | ⟨init, z, rfl⟩
    · obtain ⟨rfl, hx⟩ := List.append_inj' hl rfl
      obtain rfl := (List.cons.inj hx).1
      exact hnew
    · rw [List.concat_eq_append, ← List.cons_append, ← List.append_assoc] at hl
      obtain ⟨hl, -⟩ := List.append_inj' hl rfl
      exact h.fresh before y init hl
  have hconfirmed : Documented api → ∀ y ∈ renames ++ [x], y.confirmed = true := by
    intro hd y hy
    rcases List.mem_append.1 hy with hy | hy
    · exact h.confirmed hd y hy
    · obtain rfl := List.mem_singleton.1 hy
      exact hdocumented hd
  cases hc : x.confirmed with
  | false =>
    have hsame : completed (renames ++ [x]) = completed renames := by simp [completed, hc]
    exact ⟨by rw [hsame]; exact h.ledger, by rw [hsame]; exact h.spaced, hfresh, hconfirmed⟩
  | true =>
    have hmore : completed (renames ++ [x]) = completed renames ++ [x.record] := by simp [completed, hc]
    refine ⟨?_, by rw [hmore]; exact h.spaced.concat hnew, hfresh, hconfirmed⟩
    rw [hmore, ← Window.last_concat (by decide), if_pos rfl, remember, h.ledger]

theorem delivered (h : Kept api ledger renames) {r r' : Running γ} (hl : r.bridge.commandLedger = ledger)
    (hr : r.renames = renames) (hd : Running.Delivered api r r') : Kept api r'.bridge.commandLedger r'.renames := by
  subst hl hr
  rcases hd with ⟨hr, hl⟩ | ⟨x, hnew, hr, hdocumented, hl⟩
  · rw [hr, hl]
    exact h
  · rw [hr, hl]
    exact h.concat hnew hdocumented

/-- Two renames for one identifier, the first of them confirmed, have 64 confirmed ones
between them. -/
theorem apart (h : Kept api ledger renames) {before between after : List Rename} {x y : Rename}
    (hl : renames = before ++ x :: (between ++ y :: after)) (hid : x.record.commandId = y.record.commandId)
    (hc : x.confirmed = true) : ledgerLimit ≤ (completed between).length := by
  by_contra hlt
  refine h.fresh (before ++ x :: between) y after (by simp [hl]) ?_
  have hx : completed (before ++ x :: between) = completed before ++ x.record :: completed between := by
    simp [completed, hc]
  rw [hx, ← hid]
  exact List.mem_map_of_mem (Window.mem_last (Nat.lt_of_not_le hlt))

end Kept

/-! ## Runs -/

/-- The current history and every saved one are kept. -/
structure World.Kept (w : World γ) : Prop where
  running : GameScript.Kept api w.running.bridge.commandLedger w.running.renames
  saves : ∀ saved ∈ w.saves, GameScript.Kept api saved.data.commandLedger saved.renames ∧
    saved.data.protocolVersion = build.protocolVersion

namespace World
variable {build api} {w : World γ}

theorem Kept.step (hversion : build.protocolVersion = 1 ∨ build.protocolVersion = 2) (h : Kept build api w)
    (e : Event γ) : Kept build api (w.step build api e) := by
  cases e with
  | deliver message =>
    exact ⟨h.running.delivered rfl rfl (Running.delivered_handleMessage build api message), h.saves⟩
  | elapse game => exact ⟨h.running, h.saves⟩
  | save =>
    refine ⟨h.running, fun saved hs => ?_⟩
    rcases List.mem_append.1 hs with hs | hs
    · exact h.saves saved hs
    · obtain rfl := List.mem_singleton.1 hs
      exact ⟨h.running, rfl⟩
  | load index rand =>
    simp only [World.step]
    split
    · exact h
    · rename_i saved hsaved
      obtain ⟨hkept, hv⟩ := h.saves saved (List.mem_of_getElem? hsaved)
      refine ⟨?_, h.saves⟩
      have hload : (SimPilotBridge.load (some saved.data)).commandLedger = saved.data.commandLedger := by
        have hle := hkept.length_le
        have hz : saved.data.commandLedger.length - ledgerLimit = 0 := by omega
        rw [SimPilotBridge.load, hv, if_neg (by omega), hz, List.drop_zero]
      exact hload ▸ hkept

theorem Kept.run (hversion : build.protocolVersion = 1 ∨ build.protocolVersion = 2) (h : Kept build api w)
    (events : List (Event γ)) : Kept build api (w.run build api events) := by
  induction events generalizing w with
  | nil => exact h
  | cons e events ih => exact ih (h.step hversion e)

theorem Kept.new (game : γ) (rand : Nat × Nat) : Kept build api (World.new build api game rand) :=
  ⟨.nil, by simp [World.new]⟩

end World

/-! ## Answers -/

namespace Running

/-- The command request a message carries, with the message's identifier. -/
def commandOf (message : Squirrel) : Option (String × CommandRequest) := do
  let request ← Request.check message
  guard (request.protocolVersion = build.protocolVersion ∨ request.protocolVersion = 1)
  guard (request.messageType = "command_request")
  let command ← CommandRequest.check request.payload
  return (request.messageId, command)

/-- What a message says and what it answers. -/
def content (m : BridgeMessage) : MessageType × Option String × Payload :=
  (m.messageType, m.correlationId, m.payload)

/-- The recorded result was sent again and nothing was touched. -/
structure Replayed (messageId : String) (record : Record) (r r' : Running γ) : Prop where
  untouched : Untouched r r'
  answers : ∃ answers, r'.sent = r.sent ++ answers ∧ answers.map content =
    [(.commandAccepted, some messageId, .commandAccepted
        { commandId := record.commandId, actionFingerprint := record.actionFingerprint }),
      (.commandCompleted, some messageId, .commandCompleted
        { commandId := record.commandId, actionFingerprint := record.actionFingerprint
          beforeName := record.beforeName, afterName := record.afterName, stateChanged := record.stateChanged
          cost := record.cost, duplicate := true })]

/-- The command was rejected and nothing was touched. -/
structure Refused (messageId : String) (command : CommandRequest) (r r' : Running γ) : Prop where
  untouched : Untouched r r'
  answers : ∃ answers, r'.sent = r.sent ++ answers ∧ answers.map content =
    [(.commandRejected, some messageId, .error
        { code := .duplicateConflict, message := "command ID has a different fingerprint"
          commandId := some command.commandId, actionFingerprint := some command.actionFingerprint })]

theorem commandOf_eq_some {message : Squirrel} {messageId : String} {command : CommandRequest}
    (h : commandOf build message = some (messageId, command)) :
    ∃ request, Request.check message = some request ∧
      (request.protocolVersion = build.protocolVersion ∨ request.protocolVersion = 1) ∧
      request.messageType = "command_request" ∧ request.messageId = messageId ∧
      CommandRequest.check request.payload = some command := by
  simp only [commandOf, Option.bind_eq_bind, Option.bind_eq_some_iff, Option.guard_eq_some'] at h
  obtain ⟨request, hr, ⟨-, hp, -, ht, c, hc, he⟩⟩ := h
  simp only [Option.pure_def, Option.some.injEq, Prod.mk.injEq] at he
  obtain ⟨rfl, rfl⟩ := he
  exact ⟨request, hr, hp, ht, rfl, hc⟩

variable {r : Running γ}

/-- A command goes to `HandleCommand` under the company it names. -/
theorem handleMessage_command {message : Squirrel} {messageId : String} {command : CommandRequest}
    (h : commandOf build message = some (messageId, command)) :
    ∃ request, request.messageId = messageId ∧ CommandRequest.check request.payload = some command ∧
      r.handleMessage build api message = (r.selectCompany request.companyId).handleCommand build api request := by
  obtain ⟨request, hr, hp, ht, hid, hc⟩ := commandOf_eq_some build h
  refine ⟨request, hid, hc, ?_⟩
  have hversion : ¬ (request.protocolVersion ≠ build.protocolVersion ∧ request.protocolVersion ≠ 1) := by
    rintro ⟨h₁, h₂⟩
    exact hp.elim h₁ h₂
  have hresync : request.messageType ≠ "resync_request" := by rw [ht]; decide
  simp only [handleMessage, hr]
  rw [if_neg hversion, if_neg hresync, if_pos ht]

theorem sent_sendAccepted (correlation commandId fingerprint : String) :
    (r.sendAccepted build api correlation commandId fingerprint).sent = r.sent ++
      [r.message build api .commandAccepted (some correlation) r.bridge.activeCompany
        (.commandAccepted { commandId, actionFingerprint := fingerprint })] := rfl

theorem sent_sendCompleted (correlation : String) (record : Record) (duplicate : Bool) :
    (r.sendCompleted build api correlation record duplicate).sent = r.sent ++
      [r.message build api .commandCompleted (some correlation) r.bridge.activeCompany (.commandCompleted
        { commandId := record.commandId, actionFingerprint := record.actionFingerprint
          beforeName := record.beforeName, afterName := record.afterName, stateChanged := record.stateChanged
          cost := record.cost, duplicate })] := rfl

theorem sent_sendError (correlation : Option String) (code : ErrorCode) (text : String)
    (commandId fingerprint : Option String) :
    (r.sendError build api correlation code text commandId fingerprint).sent = r.sent ++
      [r.message build api (if correlation = none then .error else .commandRejected) correlation
        r.bridge.activeCompany (.error { code, message := text, commandId, actionFingerprint := fingerprint })] := rfl

/-- A command whose identifier the ledger has: the same fingerprint replays the record,
another one is refused. -/
theorem handleMessage_known {message : Squirrel} {messageId : String} {command : CommandRequest} {record : Record}
    (h : commandOf build message = some (messageId, command))
    (hfind : findLedger command.commandId r.bridge.commandLedger = some record) :
    (record.actionFingerprint = command.actionFingerprint →
      Replayed messageId record r (r.handleMessage build api message)) ∧
    (record.actionFingerprint ≠ command.actionFingerprint →
      Refused messageId command r (r.handleMessage build api message)) := by
  obtain ⟨request, rfl, hc, heq⟩ := handleMessage_command build api h
  have hselect := untouched_selectCompany (r := r) request.companyId
  have hsent := sent_selectCompany request.companyId r
  rw [heq]
  simp only [handleCommand, hc, hselect.ledger, hfind]
  constructor
  · intro hsame
    rw [if_neg (not_not.2 hsame)]
    have hanswers := sent_sendCompleted build api request.messageId record true
      (r := (r.selectCompany request.companyId).sendAccepted build api request.messageId record.commandId
        record.actionFingerprint)
    rw [sent_sendAccepted, hsent, List.append_assoc] at hanswers
    exact ⟨hselect.trans ⟨rfl, rfl, rfl⟩, _, hanswers, rfl⟩
  · intro hother
    rw [if_pos hother]
    have hanswer := sent_sendError build api (some request.messageId) .duplicateConflict
      "command ID has a different fingerprint" (some command.commandId) (some command.actionFingerprint)
      (r := r.selectCompany request.companyId)
    rw [hsent] at hanswer
    exact ⟨hselect.trans ⟨rfl, rfl, rfl⟩, _, hanswer, rfl⟩

/-- A command that passes every check is executed. -/
theorem handleCommand_executes {message : Request} {command : CommandRequest} {company : Int} {name : String}
    (hcheck : CommandRequest.check message.payload = some command)
    (hnew : findLedger command.commandId r.bridge.commandLedger = none)
    (haction : command.action = "set_company_name")
    (hcapability : command.expectedCapabilityFingerprint = build.capabilityFingerprint)
    (hactive : r.bridge.activeCompany = some company) (hcompany : command.expectedCompanyId = company)
    (hresolves : api.resolves r.game company = true)
    (hprior : some command.priorSnapshotId = r.bridge.lastSnapshotId) (hname : command.name = .string name)
    (hsize : ¬ (name.utf8ByteSize = 0 ∨ 128 < name.utf8ByteSize)) :
    r.handleCommand build api message = r.executeSetCompanyName build api message.messageId command company name := by
  have hselected : ¬ (command.expectedCompanyId ≠ company ∨ ¬ api.resolves r.game company = true) := by
    simp [hcompany, hresolves]
  have hstring : command.name.string? = some name := by rw [hname]; rfl
  simp only [handleCommand, hcheck, hnew]
  rw [if_neg (not_not.2 haction), if_neg (not_not.2 hcapability)]
  simp only [hactive]
  rw [if_neg hselected, if_neg (not_not.2 hprior), hstring]
  exact if_neg hsize

/-- A command the game goes along with renames the company and is remembered. -/
theorem execute_renames {messageId : String} {request : CommandRequest} {company : Int} {name : String}
    (hmode : api.modeIsValid r.game company = true) (htest : (api.testSetName r.game company name).1 = true)
    (hgame : (api.testSetName r.game company name).2.2 = r.game) (hset : (api.setName r.game company name).1 = true)
    (hname : api.companyName (api.setName r.game company name).2 company = name) :
    ∃ x : Rename, x.record.commandId = request.commandId ∧ x.confirmed = true ∧
      ∃ r', r.executeSetCompanyName build api messageId request company name = r' ∧
        r'.renames = r.renames ++ [x] ∧ r'.game = (api.setName r.game company name).2 ∧
        r'.bridge.commandLedger = remember x.record r.bridge.commandLedger ∧
        r'.bridge.lastSnapshotId = r.bridge.lastSnapshotId := by
  refine ⟨renameOf api request company name (api.companyName r.game company)
    (api.testSetName r.game company name).2.1 (api.setName r.game company name).2, rfl, ?_, _, rfl, ?_⟩
  · simp [renameOf, hname]
  · simp [executeSetCompanyName, applySetName, sendAccepted, sendCompleted, send, renameOf, hmode, htest, hgame,
      hset, hname]

end Running

/-- Every command completes at most once in any 65 consecutive completions; while its record
is one of the last 64, a delivery under its identifier is answered from the record or
refused. -/
structure Idempotent (r : Running γ) : Prop where
  once : ∀ before x between y after, r.renames = before ++ x :: (between ++ y :: after) →
    x.record.commandId = y.record.commandId → x.confirmed = true ∨ Documented api →
      64 ≤ (completed between).length
  answered : ∀ record ∈ Window.last 64 (completed r.renames), ∀ message messageId command,
    Running.commandOf build message = some (messageId, command) → command.commandId = record.commandId →
    (record.actionFingerprint = command.actionFingerprint →
      Running.Replayed messageId record r (r.handleMessage build api message)) ∧
    (record.actionFingerprint ≠ command.actionFingerprint →
      Running.Refused messageId command r (r.handleMessage build api message))

/-- In every history that a run of the script leaves, commands are idempotent as far as the
ledger reaches. -/
theorem commands_idempotent (api : GameApi γ) (game : γ) (rand : Nat × Nat) (events : List (Event γ)) :
    Idempotent .v2 api ((World.new .v2 api game rand).run .v2 api events).running := by
  have hversion : Build.v2.protocolVersion = 1 ∨ Build.v2.protocolVersion = 2 := .inr rfl
  have hnew : World.Kept .v2 api (World.new .v2 api game rand) := .new game rand
  have hkept := (hnew.run hversion events).running
  constructor
  · intro before x between y after hl hid hc
    have hx : x ∈ ((World.new .v2 api game rand).run .v2 api events).running.renames := by simp [hl]
    exact hkept.apart hl hid (hc.elim id fun hd => hkept.confirmed hd x hx)
  intro record hm message messageId command hcommand hid
  refine Running.handleMessage_known .v2 api hcommand ?_
  rw [hid]
  exact hkept.find hm

/-! ## Behind the window -/

/-- A game with one company, which takes every name it does not have yet. -/
def namingGame : GameApi String where
  currentDate _ := 0
  tick _ := 0
  isPaused _ := false
  mapSizeX _ := 256
  mapSizeY _ := 256
  townCount _ := 0
  industryCount _ := 0
  resolves _ _ := true
  modeIsValid _ _ := true
  companyName current _ := current
  bankBalance _ _ := 0
  loanAmount _ _ := 0
  vehicleCount _ _ := 0
  stationCount _ _ := 0
  worldCollections _ _ := []
  testSetName current _ name := (decide (name ≠ current), 0, current)
  setName current _ name := if name = current then (false, current) else (true, name)

/-- A request to name the company after the command's own identifier. -/
def nameParameters (commandId : String) : CommandRequestPayload where
  commandId := commandId
  name := commandId
  actionFingerprint := commandId
  expectedCapabilityFingerprint := Build.v2.capabilityFingerprint
  expectedCompanyId := 0
  priorSnapshotId := "spb-1-2:snapshot:6"
  requestTimestamp := "2024-01-01T00:00:00+00:00"

def nameCommand (commandId : String) : Squirrel :=
  envelope 2 commandId (some "spb-1-2") "command_request" (some 0) (nameParameters commandId).slots

/-- The company has the name `current`; the identifiers of the ledger and of the renames
are these. -/
structure Named (r : Running String) (current : String) (ledger renames : List String) : Prop where
  game : r.game = current
  snapshot : r.bridge.lastSnapshotId = some "spb-1-2:snapshot:6"
  ledger : r.bridge.commandLedger.map (·.commandId) = ledger
  renames : r.renames.map (·.record.commandId) = renames

/-- The identifiers of the ledger after one more command. -/
def rememberId (id : String) (ledger : List String) : List String :=
  if ledgerLimit < (ledger ++ [id]).length then (ledger ++ [id]).tail else ledger ++ [id]

theorem map_remember (record : Record) (ledger : List Record) :
    (remember record ledger).map (·.commandId) = rememberId record.commandId (ledger.map (·.commandId)) := by
  unfold remember rememberId
  simp only [List.length_append, List.length_map, List.length_singleton]
  split
  · simp
  · simp

namespace Named
variable {r : Running String} {current id : String} {ledger renames : List String}

/-- A command for a new name under an identifier the ledger does not have renames the company. -/
theorem deliver (h : Named r current ledger renames) (hid : id ≠ current) (hnew : id ∉ ledger)
    (hsize : ¬ (id.utf8ByteSize = 0 ∨ 128 < id.utf8ByteSize)) :
    Named (r.handleMessage .v2 namingGame (nameCommand id)) id (rememberId id ledger) (renames ++ [id]) := by
  have hne : id ≠ "" := by
    rintro rfl
    exact hsize (.inl rfl)
  have hnone : findLedger id r.bridge.commandLedger = none := by
    rw [findLedger_none, h.ledger]
    exact hnew
  have hcheck := check_envelope 2 id (some "spb-1-2") "command_request" (some 0) (nameParameters id).slots
    (by decide) hne
  have hmessage : r.handleMessage .v2 namingGame (nameCommand id) =
      (r.selectCompany (some 0)).executeSetCompanyName .v2 namingGame id (.ofPayload (nameParameters id)) 0 id := by
    rw [nameCommand, Running.handleMessage, hcheck]
    exact Running.handleCommand_executes .v2 namingGame (check_command (nameParameters id) hne) hnone rfl rfl rfl
      rfl rfl h.snapshot.symm rfl hsize
  have hcurrent : id ≠ r.game := by rw [h.game]; exact hid
  have hset : namingGame.setName r.game 0 id = (true, id) := if_neg hcurrent
  obtain ⟨x, hx, hconfirmed, r', hr', hrenames, hgame, hledger, hsnapshot⟩ :=
    @Running.execute_renames _ .v2 namingGame (r.selectCompany (some 0)) id (.ofPayload (nameParameters id)) 0 id rfl
      (decide_eq_true hcurrent) rfl (congrArg Prod.fst hset) (congrArg Prod.snd hset)
  rw [hmessage, hr']
  refine ⟨?_, ?_, ?_, ?_⟩
  · rw [hgame]; exact congrArg Prod.snd hset
  · rw [hsnapshot]; exact h.snapshot
  · rw [hledger, map_remember, hx]
    exact congrArg (rememberId id) h.ledger
  · rw [hrenames, List.map_append, List.map_singleton, hx]
    exact congrArg (· ++ [id]) h.renames

/-- A list of commands that rename the company one after the other. -/
def renamesAll (current : String) (ledger : List String) : List String → Bool
  | [] => true
  | id :: ids => decide (id ≠ current) && decide (id ∉ ledger) &&
      decide (¬ (id.utf8ByteSize = 0 ∨ 128 < id.utf8ByteSize)) && renamesAll id (rememberId id ledger) ids

theorem run : ∀ {ids : List String} {w : World String} {current : String} {ledger renames : List String},
    Named w.running current ledger renames → renamesAll current ledger ids = true →
      ∃ current' ledger', Named ((w.run .v2 namingGame (ids.map fun id => .deliver (nameCommand id))).running)
        current' ledger' (renames ++ ids)
  | [], w, current, ledger, renames, h, _ => ⟨current, ledger, by simpa [World.run] using h⟩
  | id :: ids, w, current, ledger, renames, h, hr => by
    simp only [renamesAll, Bool.and_eq_true, decide_eq_true_eq] at hr
    obtain ⟨⟨⟨hid, hnew⟩, hsize⟩, hrest⟩ := hr
    obtain ⟨current', ledger', h'⟩ := run (w := w.step .v2 namingGame (.deliver (nameCommand id)))
      (h.deliver hid hnew hsize) hrest
    refine ⟨current', ledger', ?_⟩
    simpa [World.run] using h'

end Named

/-- A resynchronization, and commands until the ledger has dropped the first of them. -/
def connect : Event String :=
  .deliver (envelope 1 "sim-pilot:1" none "resync_request" (some 0) (ResyncRequestPayload.slots ⟨none, none, "connect"⟩))

def commandIds : List String := (List.range 65).map (fun n => s!"c{n}") ++ ["c0"]

/-- A command identifier the ledger has dropped renames the company a second time. -/
theorem evicted_command_runs_again :
    ¬ ∀ (game : String) (rand : Nat × Nat) (events : List (Event String)) (commandId : String),
      ((((World.new .v2 namingGame game rand).run .v2 namingGame events).running.renames).filter
        (·.record.commandId = commandId)).length ≤ 1 := by
  intro h
  have hstart : Named ((World.new .v2 namingGame "" (1, 2)).step .v2 namingGame connect).running "" [] [] :=
    ⟨by decide +kernel, by decide +kernel, by decide +kernel, by decide +kernel⟩
  have hall : Named.renamesAll "" [] commandIds = true := by decide +kernel
  obtain ⟨current, ledger, hnamed⟩ := hstart.run hall
  have hcount : ∀ r : Running String, Named r current ledger ([] ++ commandIds) →
      (r.renames.filter (·.record.commandId = "c0")).length = 2 := by
    intro r hr
    have hids : (r.renames.filter (·.record.commandId = "c0")).length =
        ((r.renames.map (·.record.commandId)).filter (· = "c0")).length := by
      rw [List.filter_map, List.length_map]
      rfl
    rw [hids, hr.renames]
    decide +kernel
  have hone := h "" (1, 2) (connect :: commandIds.map fun id => .deliver (nameCommand id)) "c0"
  have htwo := hcount _ hnamed
  rw [World.run, List.foldl_cons, ← World.run] at hone
  omega

end SimPilot.GameScript
