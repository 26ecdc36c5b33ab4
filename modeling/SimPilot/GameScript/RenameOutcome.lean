import SimPilot.GameScript.Rename
import SimPilot.GameScript.Freshness
/-!
# What a rename reports

The command's answer is the only message that names its request, and the snapshot of the
refresh is the only one sent after it: `Commanding` and `Refreshing` say so for every step
of the two loops. A report is true unless another player's rename comes between the
script's call and its own check, or between the script's call and the refresh
(`Renaming.Undisturbed`).
-/

namespace SimPilot.GameScript

variable {γ : Type} {config : ClientConfig} {build : Build} {api : GameApi γ}

/-- The identifiers are new to the link: no call is under way, nothing waits under them,
nothing was answered or recorded under them. -/
structure Link.Unused (l : Link γ) (requestId commandId : String) : Prop where
  idle : l.call = none
  read : l.read ≤ l.script.sent.length
  waiting : ∀ m ∈ l.toScript, m.messageId ≠ requestId ∧ ∀ p, m.payload = .commandRequest p → p.commandId ≠ commandId
  sent : ∀ m ∈ l.script.sent, m.correlationId ≠ some requestId
  renames : ∀ x ∈ l.script.renames, x.record.commandId ≠ commandId
  ledger : findLedger commandId l.script.bridge.commandLedger = none

namespace Renaming

/-- When the script takes up the command, a name it sets is the name the company has then;
when it takes up the refresh, the company is there and has the name. -/
def Undisturbed (config : ClientConfig) (api : GameApi γ) (e : Renaming γ) (event : RenameEvent γ) : Prop :=
  match event, e.link.toScript with
  | .handle, m :: _ =>
    match m.payload, e.phase with
    | .commandRequest p, _ => p.commandId = e.request.commandId →
      ¬ Running.Overtaken api e.link.script.game config.companyId e.request.name
    | .resyncRequest _, .refreshing _ =>
      (Running.companySnapshot api (some config.companyId) e.link.script.game).any (·.name = e.request.name)
    | _, _ => True
  | _, _ => True

instance (game : γ) (company : Int) (name : String) : Decidable (Running.Overtaken api game company name) :=
  inferInstanceAs (Decidable (_ ∧ _))

instance (e : Renaming γ) (event : RenameEvent γ) : Decidable (e.Undisturbed config api event) := by
  unfold Undisturbed
  split
  · split <;> infer_instance
  · infer_instance

/-- Every step of the run is undisturbed. -/
def UndisturbedRun (config : ClientConfig) (build : Build) (api : GameApi γ) (e : Renaming γ) :
    List (RenameEvent γ) → Prop
  | [] => True
  | event :: events => e.Undisturbed config api event ∧ UndisturbedRun config build api (e.step config build api event) events

instance (events : List (RenameEvent γ)) (e : Renaming γ) : Decidable (e.UndisturbedRun config build api events) :=
  match events with
  | [] => inferInstanceAs (Decidable True)
  | event :: events =>
    have : Decidable ((e.step config build api event).UndisturbedRun config build api events) :=
      instDecidableUndisturbedRun events _
    inferInstanceAs (Decidable (_ ∧ _))

end Renaming

/-! ## The unread messages -/

/-- The part of the answer that is still to be read, by whether the acceptance was read, and
the renames it stands for. -/
inductive Told (requestId : String) : Bool → List BridgeMessage → List Rename → Prop
  | refused (m : BridgeMessage) (correlation : m.correlationId = some requestId)
      (type : m.messageType = .commandRejected) : Told requestId false [m] []
  | accepted (m : BridgeMessage) (answer : List BridgeMessage) (renamed : List Rename)
      (correlation : m.correlationId = some requestId) (type : m.messageType = .commandAccepted)
      (payload : ∃ q, m.payload = .commandAccepted q) (rest : Told requestId true answer renamed) : Told requestId false (m :: answer) renamed
  | failed (m : BridgeMessage) (correlation : m.correlationId = some requestId)
      (type : m.messageType = .commandFailed) : Told requestId true [m] []
  | completed (m : BridgeMessage) (x : Rename) (payload : CommandCompletedPayload)
      (correlation : m.correlationId = some requestId) (type : m.messageType = .commandCompleted)
      (done : m.payload = .commandCompleted payload)
      (truth : payload.stateChanged = x.record.stateChanged ∧ payload.cost = x.record.cost) :
      Told requestId true [m] [x]

/-- The company of a snapshot has the name. -/
def BridgeMessage.Shows (name : String) (m : BridgeMessage) : Prop :=
  m.messageType = .stateSnapshot → ∃ s, m.payload = .snapshot s ∧ s.company.any (·.name = name)

namespace Renaming

/-- Where the command and its answer are while the call is in its loop. -/
inductive Commanding (config : ClientConfig) (e : Renaming γ) : Prop
  | waiting (before : List ClientMessage) (request : ClientMessage) (p : CommandRequestPayload)
      (call : e.link.call = some (.command e.request.requestId false))
      (queue : e.link.toScript = before ++ [request]) (id : request.messageId = e.request.requestId)
      (company : request.companyId = some config.companyId) (payload : request.payload = .commandRequest p)
      (command : p.commandId = e.request.commandId ∧ p.name = e.request.name)
      (others : ∀ m ∈ before, m.messageId ≠ e.request.requestId ∧
        ∀ p, m.payload = .commandRequest p → p.commandId ≠ e.request.commandId)
      (unanswered : ∀ m ∈ e.link.script.sent.drop e.link.read, m.correlationId ≠ some e.request.requestId)
      (renamed : e.renamed = [])
      (ledger : findLedger e.request.commandId e.link.script.bridge.commandLedger = none)
  | answered (accepted : Bool) (ahead answer after : List BridgeMessage)
      (call : e.link.call = some (.command e.request.requestId accepted)) (queue : e.link.toScript = [])
      (unread : e.link.script.sent.drop e.link.read = ahead ++ answer ++ after)
      (others : ∀ m ∈ ahead, m.correlationId ≠ some e.request.requestId)
      (quiet : ∀ m ∈ after, m.messageType ≠ .stateSnapshot)
      (told : Told e.request.requestId accepted answer e.renamed)

/-- Where the refresh is, and what the client has of it. -/
structure Refreshing (config : ClientConfig) (completed : CommandCompletedPayload) (e : Renaming γ) : Prop where
  call : ∃ requestId flags settled, e.link.call = some (.handshake (.synchronize "snapshot_refresh") requestId flags
    settled) ∧ (flags.snapshot = true → e.link.client.health.snapshot.any
      fun s => s.value.company.any (·.name = e.request.name))
  queue : ∀ m ∈ e.link.toScript, ∃ p, m.payload = .resyncRequest p ∧ m.companyId = some config.companyId
  unread : ∀ m ∈ e.link.script.sent.drop e.link.read, m.Shows e.request.name
  renamed : ∃ x, e.renamed = [x] ∧ completed.stateChanged = x.record.stateChanged ∧ completed.cost = x.record.cost

/-- What holds of the call in each of its phases. -/
def PhaseSound (config : ClientConfig) (e : Renaming γ) : Prop :=
  match e.phase with
  | .commanding => e.Commanding config
  | .refreshing completed => e.Refreshing config completed
  | .returned _ => e.Truthful ∧
    ∀ m ∈ e.link.toScript, ∀ p, m.payload = .commandRequest p → p.commandId ≠ e.request.commandId
  | .raised => True

structure Sound (config : ClientConfig) (e : Renaming γ) : Prop where
  read : e.link.read ≤ e.link.script.sent.length
  phase : e.PhaseSound config

end Renaming

/-! ## Steps of the script -/

section Told
variable {requestId commandId : String} {r r' : Running γ} {request : Running.CommandRequest}

/-- The answer to a command under a new identifier, where the rename was not overtaken. -/
theorem Running.Commanded.told (h : Running.Commanded api requestId request r r')
    (hnew : findLedger request.commandId r.bridge.commandLedger = none)
    (hkept : ∀ company name, r.bridge.activeCompany = some company → request.name = .string name →
      ¬ Running.Overtaken api r.game company name) :
    ∃ answer renamed, r'.sent = r.sent ++ answer ∧ r'.renames = r.renames ++ renamed ∧
      (∀ x ∈ renamed, x.record.commandId = request.commandId) ∧ Told requestId false answer renamed := by
  cases h with
  | refused m hsent hcorrelation htype hrenames _ =>
    exact ⟨[m], [], hsent, by rw [hrenames, List.append_nil], by simp, .refused m hcorrelation htype⟩
  | replayed _ _ _ _ _ hknown _ _ => exact (hknown hnew).elim
  | failed accepted done renames hsent hcorrelations htypes hpayload hrenamed hids hovertaken _ =>
    have hnone : renames = [] := by
      rcases hovertaken with h | ⟨company, name, hactive, hname, h⟩
      · exact h
      · exact (hkept company name hactive hname h).elim
    subst hnone
    exact ⟨_, [], hsent, hrenamed, by simp, .accepted accepted _ _ hcorrelations.1 htypes.1 hpayload
      (.failed done hcorrelations.2 htypes.2)⟩
  | completed accepted done x payload hsent hcorrelations htypes hpayload hdone htruth hrenamed hid _ =>
    exact ⟨_, [x], hsent, hrenamed, by simpa using hid, .accepted accepted _ _ hcorrelations.1 htypes.1 hpayload
      (.completed done x payload hcorrelations.2 htypes.2 hdone htruth)⟩

/-- A command answers its own request only. -/
theorem Running.Commanded.uncorrelated {messageId : String} (h : Running.Commanded api messageId request r r')
    (hid : messageId ≠ requestId) : Running.Sends (fun m => m.correlationId ≠ some requestId) r r' := by
  have hsends : ∀ out, r'.sent = r.sent ++ out → (∀ m ∈ out, m.correlationId = some messageId) →
      Running.Sends (fun m => m.correlationId ≠ some requestId) r r' := by
    intro out hout hc
    refine ⟨out, hout, fun m hm heq => hid ?_⟩
    exact Option.some.inj ((hc m hm).symm.trans heq)
  cases h with
  | refused m hsent hcorrelation _ _ _ => exact hsends _ hsent (by simpa using hcorrelation)
  | replayed accepted done hsent hcorrelations _ _ _ _ => exact hsends _ hsent (by simpa using hcorrelations)
  | failed accepted done renames hsent hcorrelations _ _ _ _ _ _ =>
    exact hsends _ hsent (by simpa using hcorrelations)
  | completed accepted done x payload hsent hcorrelations _ _ _ _ _ _ _ =>
    exact hsends _ hsent (by simpa using hcorrelations)

theorem mem_remember {record x : Record} {ledger : List Record} (h : x ∈ remember record ledger) :
    x ∈ ledger ∨ x = record := by
  have hmem : x ∈ ledger ++ [record] := by
    unfold remember at h
    dsimp only at h
    split at h
    · exact List.mem_of_mem_tail h
    · exact h
  rcases List.mem_append.1 hmem with h | h
  · exact .inl h
  · exact .inr (List.mem_singleton.1 h)

/-- A command renames and records under its own identifier only. -/
theorem Running.Commanded.kept {messageId : String} (h : Running.Commanded api messageId request r r')
    (hcommand : request.commandId ≠ commandId) :
    r'.renames.filter (·.record.commandId = commandId) = r.renames.filter (·.record.commandId = commandId) ∧
      (findLedger commandId r.bridge.commandLedger = none → findLedger commandId r'.bridge.commandLedger = none) := by
  have hother : ∀ renames : List Rename, (∀ x ∈ renames, x.record.commandId = request.commandId) →
      (r.renames ++ renames).filter (·.record.commandId = commandId) =
        r.renames.filter (·.record.commandId = commandId) := by
    intro renames hids
    have hnone : renames.filter (·.record.commandId = commandId) = [] := by
      rw [List.filter_eq_nil_iff]
      intro x hx
      simp [hids x hx, hcommand]
    rw [List.filter_append, hnone, List.append_nil]
  cases h with
  | refused m _ _ _ hrenames hledger => exact ⟨by rw [hrenames], by rw [hledger]; exact id⟩
  | replayed _ _ _ _ _ _ hrenames hledger => exact ⟨by rw [hrenames], by rw [hledger]; exact id⟩
  | failed _ _ renames _ _ _ _ hrenamed hids _ hledger =>
    exact ⟨by rw [hrenamed, hother renames hids], by rw [hledger]; exact id⟩
  | completed _ _ x _ _ _ _ _ _ _ hrenamed hx hledger =>
    refine ⟨by rw [hrenamed, hother [x] (by simpa using hx)], fun hnew => ?_⟩
    rw [findLedger_none] at hnew ⊢
    rw [hledger]
    intro hmem
    obtain ⟨record, hrecord, hid⟩ := List.mem_map.1 hmem
    rcases mem_remember hrecord with hrecord | rfl
    · exact hnew (hid ▸ List.mem_map_of_mem hrecord)
    · exact hcommand (hx.symm.trans hid)

end Told

section Handle
variable {requestId commandId : String} (build : Build) (api : GameApi γ) (r : Running γ) (m : ClientMessage)

/-- A request under another identifier sends nothing that names this one. -/
theorem uncorrelated_handle (hid : m.messageId ≠ requestId) :
    Running.Sends (fun m => m.correlationId ≠ some requestId) r (r.handleMessage build api m.squirrel) := by
  cases hp : m.payload with
  | resyncRequest p =>
    obtain ⟨out, hout, hreplies⟩ := (Running.resynced_handle build api r m hp).1
    refine ⟨out, hout, fun answer ha heq => ?_⟩
    rcases (hreplies answer ha).correlation with h | h
    · rw [heq] at h
      cases h
    · exact hid (Option.some.inj (h.symm.trans heq))
  | commandRequest p =>
    exact Running.Sends.trans (Running.Sends.of_sent_eq (Running.sent_selectCompany ..))
      ((Running.commanded_handle build api r m hp).uncorrelated hid)

/-- A request that is no command under this identifier leaves its renames and its record. -/
theorem kept_handle (hcommand : ∀ p, m.payload = .commandRequest p → p.commandId ≠ commandId) :
    (r.handleMessage build api m.squirrel).renames.filter (·.record.commandId = commandId) =
        r.renames.filter (·.record.commandId = commandId) ∧
      (findLedger commandId r.bridge.commandLedger = none →
        findLedger commandId (r.handleMessage build api m.squirrel).bridge.commandLedger = none) := by
  cases hp : m.payload with
  | resyncRequest p =>
    have huntouched := (Running.resynced_handle build api r m hp).2
    exact ⟨by rw [huntouched.renames], by rw [huntouched.ledger]; exact id⟩
  | commandRequest p =>
    have hselect := Running.untouched_selectCompany (r := r) m.companyId
    have hkept := (Running.commanded_handle build api r m hp).kept (hcommand p hp)
    rwa [hselect.renames, hselect.ledger] at hkept

theorem sent_handle : ∃ out, (r.handleMessage build api m.squirrel).sent = r.sent ++ out := by
  have hselect := Running.sent_selectCompany m.companyId r
  cases hp : m.payload with
  | resyncRequest p =>
    obtain ⟨out, hout, -⟩ := (Running.resynced_handle build api r m hp).1
    exact ⟨out, hout⟩
  | commandRequest p =>
    rw [← hselect]
    cases Running.commanded_handle build api r m hp with
    | refused m hsent _ _ _ _ => exact ⟨_, hsent⟩
    | replayed accepted done hsent _ _ _ _ _ => exact ⟨_, hsent⟩
    | failed accepted done renames hsent _ _ _ _ _ _ _ => exact ⟨_, hsent⟩
    | completed accepted done x payload hsent _ _ _ _ _ _ _ _ => exact ⟨_, hsent⟩

end Handle

namespace Renaming
variable {e : Renaming γ}

theorem drop_sent (h : e.link.read ≤ e.link.script.sent.length) {sent out : List BridgeMessage}
    (hsent : sent = e.link.script.sent ++ out) : sent.drop e.link.read = e.link.script.sent.drop e.link.read ++ out := by
  rw [hsent, List.drop_append_of_le_length h]

/-- A result stays true while its renames stay. -/
theorem Truthful.of_renamed (h : e.Truthful) {e' : Renaming γ} (hphase : e'.phase = e.phase)
    (hrenamed : e'.renamed = e.renamed) : e'.Truthful := by
  constructor
  · rw [hphase, hrenamed]
    exact h.nothing
  · rw [hphase, hrenamed]
    exact h.done

/-- The script sends something that is neither an answer to the command nor a snapshot. -/
theorem Sound.grow (h : e.Sound config) {script : Running γ}
    (hs : Running.Sends (fun m => m.correlationId ≠ some e.request.requestId ∧ m.messageType ≠ .stateSnapshot)
      e.link.script script)
    (hrenames : script.renames = e.link.script.renames)
    (hledger : script.bridge.commandLedger = e.link.script.bridge.commandLedger) :
    Sound config { e with link := { e.link with script } } := by
  obtain ⟨out, hout, hquiet⟩ := hs
  obtain ⟨hread, hphase⟩ := h
  have hdrop := drop_sent hread hout
  have hrenamed : renamed { e with link := { e.link with script } } = e.renamed := by
    unfold renamed
    rw [hrenames]
  obtain ⟨link, request, phase⟩ := e
  refine ⟨?_, ?_⟩
  · have hread : link.read ≤ link.script.sent.length := hread
    simp only [hout, List.length_append]
    omega
  cases phase with
  | raised => trivial
  | returned result => exact ⟨hphase.1.of_renamed rfl hrenamed, hphase.2⟩
  | refreshing completed =>
    have hphase : Refreshing config completed _ := hphase
    obtain ⟨x, hx, htruth⟩ := hphase.renamed
    refine ⟨hphase.call, hphase.queue, ?_, x, hrenamed.trans hx, htruth⟩
    rw [hdrop]
    intro m hm
    rcases List.mem_append.1 hm with hm | hm
    · exact hphase.unread m hm
    · exact fun ht => ((hquiet m hm).2 ht).elim
  | commanding =>
    have hphase : Commanding config _ := hphase
    cases hphase with
    | waiting before request' p call queue id company payload command others unanswered renamed ledger =>
      refine .waiting before request' p call queue id company payload command others ?_ (hrenamed.trans renamed) ?_
      · rw [hdrop]
        intro m hm
        rcases List.mem_append.1 hm with hm | hm
        · exact unanswered m hm
        · exact (hquiet m hm).1
      · rw [hledger]
        exact ledger
    | answered accepted ahead answer after call queue unread others quiet told =>
      refine .answered accepted ahead answer (after ++ out) call queue ?_ others ?_ (hrenamed ▸ told)
      · rw [hdrop, unread, List.append_assoc]
      · intro m hm
        rcases List.mem_append.1 hm with hm | hm
        · exact quiet m hm
        · exact (hquiet m hm).2

/-- The script takes up the command itself. -/
theorem Commanding.taken {request : ClientMessage} {p : CommandRequestPayload} (hread : e.link.read ≤ e.link.script.sent.length)
    (hcall : e.link.call = some (.command e.request.requestId false)) (hid : request.messageId = e.request.requestId)
    (hcompany : request.companyId = some config.companyId) (hpayload : request.payload = .commandRequest p)
    (hcommand : p.commandId = e.request.commandId ∧ p.name = e.request.name)
    (hunanswered : ∀ m ∈ e.link.script.sent.drop e.link.read, m.correlationId ≠ some e.request.requestId)
    (hrenamed : e.renamed = []) (hledger : findLedger e.request.commandId e.link.script.bridge.commandLedger = none)
    (hkept : ¬ Running.Overtaken api e.link.script.game config.companyId e.request.name) (takenUp : Assoc String Nat) :
    Commanding config
      { e with
        link := { e.link with
          toScript := [], script := e.link.script.handleMessage build api request.squirrel, takenUp } } := by
  have hselect := Running.untouched_selectCompany (r := e.link.script) request.companyId
  have hcommanded := Running.commanded_handle build api e.link.script request hpayload
  rw [hid] at hcommanded
  obtain ⟨answer, renamed, hsent, hrenames, hids, htold⟩ := hcommanded.told
    (by
      have hledger' := hledger
      rw [← hcommand.1] at hledger'
      rw [hselect.ledger]
      exact hledger')
    (by
      intro company name hactive hname
      rw [hcompany] at hactive
      have hactive : some config.companyId = some company := hactive
      cases hactive
      cases hname
      rw [hselect.game, hcommand.2]
      exact hkept)
  rw [Running.sent_selectCompany] at hsent
  have hdrop := drop_sent hread hsent
  refine .answered false (e.link.script.sent.drop e.link.read) answer [] hcall rfl ?_ hunanswered (by simp) ?_
  · rw [List.append_nil]
    exact hdrop
  · have hall : renamed.filter (·.record.commandId = e.request.commandId) = renamed := by
      rw [List.filter_eq_self]
      intro x hx
      have hx' : x.record.commandId = p.commandId := hids x hx
      simp [hx', hcommand.1]
    have hnow : Renaming.renamed
        { e with
          link := { e.link with
            toScript := [], script := e.link.script.handleMessage build api request.squirrel, takenUp } } = renamed := by
      unfold Renaming.renamed at hrenamed ⊢
      rw [hrenames, hselect.renames, List.filter_append, hrenamed, hall, List.nil_append]
    rw [hnow]
    exact htold

theorem Commanding.handle (h : e.Commanding config) (hread : e.link.read ≤ e.link.script.sent.length)
    {m : ClientMessage} {rest : List ClientMessage} (hqueue : e.link.toScript = m :: rest)
    (hkept : ∀ p, m.payload = .commandRequest p → p.commandId = e.request.commandId →
      ¬ Running.Overtaken api e.link.script.game config.companyId e.request.name) (takenUp : Assoc String Nat) :
    Commanding config
      { e with
        link := { e.link with
          toScript := rest, script := e.link.script.handleMessage build api m.squirrel, takenUp } } := by
  cases h with
  | answered _ _ _ _ _ queue =>
    rw [queue] at hqueue
    cases hqueue
  | waiting before request p call queue id company payload command others unanswered renamed ledger =>
    rw [queue] at hqueue
    cases before with
    | nil =>
      cases hqueue
      exact .taken hread call id company payload command unanswered renamed ledger (hkept p payload command.1) takenUp
    | cons first before =>
      obtain ⟨rfl, rfl⟩ := List.cons.inj hqueue
      obtain ⟨hid, hcommand⟩ := others first (List.mem_cons_self ..)
      obtain ⟨out, hout, huncorrelated⟩ := uncorrelated_handle build api e.link.script first hid
      obtain ⟨hrenamed, hledger⟩ := kept_handle build api e.link.script first hcommand
      refine .waiting before request p call rfl id company payload command
        (fun m hm => others m (List.mem_cons_of_mem _ hm)) ?_ (hrenamed.trans renamed) (hledger ledger)
      have hdrop := drop_sent hread hout
      simp only [hdrop]
      intro m hm
      rcases List.mem_append.1 hm with hm | hm
      · exact unanswered m hm
      · exact huncorrelated m hm

/-- The script takes up the refresh. -/
theorem Refreshing.handle {completed : CommandCompletedPayload} (h : e.Refreshing config completed)
    (hread : e.link.read ≤ e.link.script.sent.length) {m : ClientMessage} {rest : List ClientMessage}
    (hqueue : e.link.toScript = m :: rest)
    (hshown : (Running.companySnapshot api (some config.companyId) e.link.script.game).any (·.name = e.request.name))
    (takenUp : Assoc String Nat) :
    Refreshing config completed
      { e with
        link := { e.link with
          toScript := rest, script := e.link.script.handleMessage build api m.squirrel, takenUp } } := by
  obtain ⟨p, hpayload, hcompany⟩ := h.queue m (by rw [hqueue]; exact List.mem_cons_self ..)
  obtain ⟨⟨out, hout, hreplies⟩, huntouched⟩ := Running.resynced_handle build api e.link.script m hpayload
  obtain ⟨x, hx, htruth⟩ := h.renamed
  refine ⟨h.call, fun m' hm' => h.queue m' (by rw [hqueue]; exact List.mem_cons_of_mem _ hm'), ?_, x, ?_, htruth⟩
  · have hdrop := drop_sent hread hout
    simp only [hdrop]
    intro answer ha
    rcases List.mem_append.1 ha with ha | ha
    · exact h.unread answer ha
    · intro ht
      obtain ⟨s, hs, hcompany'⟩ := (hreplies answer ha).snapshot ht
      rw [hcompany] at hcompany'
      refine ⟨s, hs, ?_⟩
      rw [hcompany']
      exact hshown
  · unfold Renaming.renamed at hx ⊢
    rw [huntouched.renames]
    exact hx

theorem Sound.handle (h : e.Sound config) (hu : e.Undisturbed config api .handle) :
    (e.step config build api .handle).Sound config := by
  obtain ⟨link, request, phase⟩ := e
  obtain ⟨hread, hphase⟩ := h
  have hread : link.read ≤ link.script.sent.length := hread
  have hstep : step config build api ⟨link, request, phase⟩ .handle = ⟨link.handle build api, request, phase⟩ := rfl
  rw [hstep]
  cases hqueue : link.toScript with
  | nil =>
    have hsame : link.handle build api = link := by rw [Link.handle, hqueue]
    rw [hsame]
    exact ⟨hread, hphase⟩
  | cons m rest =>
    have hmem : m ∈ link.toScript := by rw [hqueue]; exact List.mem_cons_self ..
    rw [Link.handle_cons hqueue]
    simp only [Undisturbed, hqueue] at hu
    obtain ⟨out, hout⟩ := sent_handle build api link.script m
    refine ⟨?_, ?_⟩
    · simp only [hout, List.length_append]
      omega
    cases phase with
    | raised => trivial
    | returned result =>
      obtain ⟨htruthful, hothers⟩ := hphase
      have hkept := (kept_handle build api link.script m (hothers m hmem)).1
      refine ⟨htruthful.of_renamed rfl hkept, fun m' hm' => hothers m' ?_⟩
      have hm' : m' ∈ rest := hm'
      show m' ∈ link.toScript
      rw [hqueue]
      exact List.mem_cons_of_mem _ hm'
    | refreshing completed =>
      have hphase : Refreshing config completed ⟨link, request, _⟩ := hphase
      obtain ⟨p, hpayload, -⟩ := hphase.queue m hmem
      simp only [hpayload] at hu
      exact hphase.handle hread hqueue hu _
    | commanding =>
      have hphase : Commanding config ⟨link, request, _⟩ := hphase
      refine hphase.handle hread hqueue (fun p hpayload hcommand => ?_) _
      simp only [hpayload] at hu
      exact hu hcommand

end Renaming

/-! ## Steps of the client -/

/-- The snapshot of a message is the client's after it. -/
theorem observed_message {reason requestId : String} {place : Nat} {m : BridgeMessage} {c c' : Client} {f f' : Handshake}
    (h : (c.receive config true m >>= fun c => (CallKind.synchronize reason).message config requestId place m c f) =
      .ok (c', f')) (ht : m.messageType = .stateSnapshot) :
    ∃ v, m.payload = .snapshot v ∧ c'.health.snapshot = some ⟨v, [place]⟩ := by
  obtain ⟨c₁, -, h⟩ := Except.bind_eq_ok.mp h
  simp only [CallKind.message, CallKind.synchronizeMessage, ht] at h
  obtain ⟨c₂, haccept, h⟩ := Except.bind_eq_ok.mp h
  cases h
  unfold Client.acceptSnapshot at haccept
  split at haccept
  · rename_i v hv
    cases haccept
    exact ⟨v, hv, rfl⟩
  · cases haccept

namespace Link
variable {l : Link γ} {requestId : String} {m : BridgeMessage}

/-- What a message read leaves of the link. -/
structure Reads (l l' : Link γ) : Prop where
  script : l'.script = l.script
  toScript : l'.toScript = l.toScript
  read : l'.read = l.read + 1

theorem reads_commandMessage : Reads l (l.commandMessage config requestId m) := by
  unfold commandMessage
  dsimp only
  split
  · exact ⟨rfl, rfl, rfl⟩
  split
  · split
    · exact ⟨rfl, rfl, rfl⟩
    · exact ⟨rfl, rfl, rfl⟩
  · split <;> exact ⟨rfl, rfl, rfl⟩

/-- A message of somebody else ends the call or leaves it where it is. -/
theorem call_other (hother : m.correlationId ≠ some requestId)
    (hgoes : (l.commandMessage config requestId m).call.isSome = true) :
    (l.commandMessage config requestId m).call = l.call := by
  unfold commandMessage at hgoes ⊢
  dsimp only at hgoes ⊢
  split at hgoes
  · cases hgoes
  rw [if_pos hother] at hgoes ⊢
  split at hgoes
  · cases hgoes
  · rfl

theorem call_accepted (hcorrelation : m.correlationId = some requestId) (htype : m.messageType = .commandAccepted)
    (hgoes : (l.commandMessage config requestId m).call.isSome = true) :
    (l.commandMessage config requestId m).call = some (.command requestId true) := by
  unfold commandMessage at hgoes ⊢
  dsimp only at hgoes ⊢
  split at hgoes
  · cases hgoes
  rw [if_neg (not_not.2 hcorrelation), htype] at hgoes ⊢

end Link

namespace Renaming
variable {e : Renaming γ} {requestId : String} {accepted : Bool} {m : BridgeMessage}

/-- A message after which the loop goes on or raises. -/
theorem Sound.goesOn (hread : e.link.read + 1 ≤ e.link.script.sent.length) (hphase : e.phase = .commanding)
    (hreads : Link.Reads e.link (e.link.receive config)) (hanswer : commandAnswer requestId accepted m = .goesOn)
    (hnext : (e.link.receive config).call.isSome = true →
      Commanding config { e with link := e.link.receive config }) :
    Sound config (e.commandStep config requestId accepted m) := by
  have hlength : (e.link.receive config).read ≤ (e.link.receive config).script.sent.length := by
    rw [hreads.read, hreads.script]
    exact hread
  unfold commandStep
  rw [hanswer]
  cases e.link.client.receive config false m with
  | error error => exact ⟨hlength, trivial⟩
  | ok client =>
    dsimp only
    split
    · rename_i hgoes
      refine ⟨hlength, ?_⟩
      have hcommanding := hnext hgoes
      unfold PhaseSound
      rw [hphase] at hcommanding ⊢
      exact hcommanding
    · exact ⟨hlength, trivial⟩

/-- A message after which the call raises the error the adapter turns into its result. -/
theorem Sound.commandError (hread : e.link.read + 1 ≤ e.link.script.sent.length)
    (hreads : Link.Reads e.link (e.link.receive config)) (hanswer : commandAnswer requestId accepted m = .commandError)
    (hqueue : e.link.toScript = []) (hrenamed : e.renamed = []) :
    Sound config (e.commandStep config requestId accepted m) := by
  have hlength : (e.link.receive config).read ≤ (e.link.receive config).script.sent.length := by
    rw [hreads.read, hreads.script]
    exact hread
  unfold commandStep
  rw [hanswer]
  cases e.link.client.receive config false m with
  | error error => exact ⟨hlength, trivial⟩
  | ok client =>
    refine ⟨hlength, ⟨fun _ _ _ _ => ?_, fun result hresult hsuccess => ?_⟩, ?_⟩
    · unfold renamed at hrenamed ⊢
      show (e.link.receive config).script.renames.filter _ = []
      rw [hreads.script]
      exact hrenamed
    · cases hresult
      cases hsuccess
    · intro m hm
      have hm : m ∈ (e.link.receive config).toScript := hm
      rw [hreads.toScript, hqueue] at hm
      cases hm

/-- The completion begins the refresh. -/
theorem Sound.completed {x : Rename} {payload : CommandCompletedPayload}
    (hread : e.link.read + 1 ≤ e.link.script.sent.length)
    (hreads : Link.Reads e.link (e.link.receive config))
    (hanswer : commandAnswer requestId accepted m = .completed payload) (hqueue : e.link.toScript = [])
    (hquiet : ∀ m ∈ e.link.script.sent.drop (e.link.read + 1), m.messageType ≠ .stateSnapshot)
    (hrenamed : e.renamed = [x])
    (htruth : payload.stateChanged = x.record.stateChanged ∧ payload.cost = x.record.cost) :
    Sound config (e.commandStep config requestId accepted m) := by
  have hlength : (e.link.receive config).read ≤ (e.link.receive config).script.sent.length := by
    rw [hreads.read, hreads.script]
    exact hread
  unfold commandStep
  rw [hanswer]
  cases e.link.client.receive config false m with
  | error error => exact ⟨hlength, trivial⟩
  | ok client =>
    refine ⟨hlength, ⟨⟨_, _, _, rfl, by simp⟩, ?_, ?_, x, ?_, htruth⟩⟩
    · intro m hm
      have hm : m ∈ (e.link.receive config).toScript ++ _ := hm
      rw [hreads.toScript, hqueue, List.nil_append, List.mem_singleton] at hm
      rw [hm]
      exact ⟨_, rfl, rfl⟩
    · intro m hm
      have hm : m ∈ (e.link.receive config).script.sent.drop (e.link.receive config).read := hm
      rw [hreads.script, hreads.read] at hm
      exact fun ht => (hquiet m hm ht).elim
    · show (e.link.receive config).script.renames.filter _ = [x]
      rw [hreads.script]
      exact hrenamed

theorem Commanding.receive (h : e.Commanding config) (hphase : e.phase = .commanding)
    (hcall : e.link.call = some (.command requestId accepted)) (hm : e.link.script.sent[e.link.read]? = some m) :
    Sound config (e.commandStep config requestId accepted m) := by
  have hread : e.link.read + 1 ≤ e.link.script.sent.length := (List.getElem?_eq_some_iff.1 hm).1
  have hreceive : e.link.receive config = e.link.commandMessage config requestId m := by
    unfold Link.receive
    rw [hcall, hm]
  have hreads : Link.Reads e.link (e.link.receive config) := hreceive ▸ Link.reads_commandMessage
  have hdrop : e.link.script.sent.drop e.link.read = m :: e.link.script.sent.drop (e.link.read + 1) := by
    obtain ⟨hlt, hget⟩ := List.getElem?_eq_some_iff.1 hm
    rw [← hget]
    exact List.drop_eq_getElem_cons hlt
  have hunread : (e.link.receive config).script.sent.drop (e.link.receive config).read =
      e.link.script.sent.drop (e.link.read + 1) := by
    rw [hreads.script, hreads.read]
  have hrenamed : renamed { e with link := e.link.receive config } = e.renamed := by
    unfold renamed
    rw [hreads.script]
  -- a message of somebody else leaves the call where it is
  have hother : m.correlationId ≠ some requestId → commandAnswer requestId accepted m = .goesOn ∧
      ((e.link.receive config).call.isSome = true →
        (e.link.receive config).call = some (.command requestId accepted)) := by
    intro hne
    refine ⟨if_pos hne, fun hgoes => ?_⟩
    rw [hreceive] at hgoes ⊢
    exact (Link.call_other hne hgoes).trans hcall
  cases h with
  | waiting before request p call queue id company payload command others unanswered renamed ledger =>
    obtain ⟨rfl, rfl⟩ : e.request.requestId = requestId ∧ false = accepted := by
      rw [hcall] at call
      cases call
      exact ⟨rfl, rfl⟩
    obtain ⟨hanswer, hnext⟩ := hother (unanswered m (by rw [hdrop]; exact List.mem_cons_self ..))
    refine .goesOn hread hphase hreads hanswer fun hgoes => ?_
    refine .waiting before request p (hnext hgoes) (hreads.toScript.trans queue) id company payload command others ?_
      (hrenamed.trans renamed) (by rw [hreads.script]; exact ledger)
    rw [hunread]
    exact fun m' hm' => unanswered m' (by rw [hdrop]; exact List.mem_cons_of_mem _ hm')
  | answered accepted' ahead answer after call queue unread others quiet told =>
    obtain ⟨rfl, rfl⟩ : e.request.requestId = requestId ∧ accepted' = accepted := by
      rw [hcall] at call
      cases call
      exact ⟨rfl, rfl⟩
    rw [hdrop] at unread
    cases ahead with
    | cons first ahead =>
      obtain ⟨rfl, hrest⟩ := List.cons.inj unread
      obtain ⟨hanswer, hnext⟩ := hother (others m (List.mem_cons_self ..))
      refine .goesOn hread hphase hreads hanswer fun hgoes => ?_
      exact .answered accepted' ahead answer after (hnext hgoes) (hreads.toScript.trans queue)
        (hunread.trans hrest) (fun m' hm' => others m' (List.mem_cons_of_mem _ hm')) quiet (hrenamed ▸ told)
    | nil =>
      generalize hr : e.renamed = renames at told
      cases told with
      | refused first hcorrelation htype =>
        obtain ⟨rfl, hrest⟩ := List.cons.inj unread
        refine .commandError hread hreads ?_ queue hr
        unfold commandAnswer
        rw [if_neg (not_not.2 hcorrelation), htype]
      | accepted first answer _ hcorrelation htype hpayload hrest' =>
        obtain ⟨rfl, hrest⟩ := List.cons.inj unread
        obtain ⟨q, hq⟩ := hpayload
        refine .goesOn hread hphase hreads ?_ fun hgoes => ?_
        · unfold commandAnswer
          rw [if_neg (not_not.2 hcorrelation), htype, hq]
        · rw [hreceive] at hgoes
          have hnext := Link.call_accepted hcorrelation htype hgoes
          rw [← hreceive] at hnext
          exact .answered true [] answer after hnext (hreads.toScript.trans queue) (hunread.trans hrest)
            (by simp) quiet (by rw [hrenamed, hr]; exact hrest')
      | failed first hcorrelation htype =>
        obtain ⟨rfl, hrest⟩ := List.cons.inj unread
        refine .commandError hread hreads ?_ queue hr
        unfold commandAnswer
        rw [if_neg (not_not.2 hcorrelation), htype]
      | completed first x payload hcorrelation htype hdone htruth =>
        obtain ⟨rfl, hrest⟩ := List.cons.inj unread
        refine .completed hread hreads ?_ queue ?_ hr htruth
        · unfold commandAnswer
          rw [if_neg (not_not.2 hcorrelation), htype, hdone]
          rfl
        · rw [hrest]
          exact quiet

/-- A verified refresh returns what the script recorded. -/
theorem Sound.verified {completed : CommandCompletedPayload} {x : Rename} {health : BridgeHealth}
    (hlength : e.link.read ≤ e.link.script.sent.length) (hqueue : ∀ m ∈ e.link.toScript, ∀ p,
      m.payload ≠ .commandRequest p)
    (hphase : e.phase = .verified e.request.name completed health) (hrenamed : e.renamed = [x])
    (htruth : completed.stateChanged = x.record.stateChanged ∧ completed.cost = x.record.cost)
    (hshown : health.snapshot.any fun s => s.value.company.any (·.name = e.request.name)) : Sound config e := by
  refine ⟨hlength, ?_⟩
  cases hs : health.snapshot with
  | none =>
    rw [hs] at hshown
    cases hshown
  | some s =>
    rw [hs, Option.any_some] at hshown
    unfold PhaseSound
    unfold RenamePhase.verified at hphase
    simp only [hs] at hphase
    rw [if_neg (not_not.2 hshown)] at hphase
    split at hphase
    · rw [hphase]
      refine ⟨⟨fun result hresult hsuccess => ?_, fun result hresult _ => ?_⟩, fun m hm p hp => (hqueue m hm p hp).elim⟩
      · cases hphase.symm.trans hresult
        cases hsuccess
      · cases hphase.symm.trans hresult
        exact ⟨x, hrenamed, htruth.1, by rw [htruth.2]⟩
    · rw [hphase]
      trivial

theorem Refreshing.receive {completed : CommandCompletedPayload} (h : e.Refreshing config completed)
    (hphase : e.phase = .refreshing completed) (hm : e.link.script.sent[e.link.read]? = some m) :
    Sound config (e.refreshStep config completed) := by
  have hread : e.link.read + 1 ≤ e.link.script.sent.length := (List.getElem?_eq_some_iff.1 hm).1
  have hdrop : e.link.script.sent.drop e.link.read = m :: e.link.script.sent.drop (e.link.read + 1) := by
    obtain ⟨hlt, hget⟩ := List.getElem?_eq_some_iff.1 hm
    rw [← hget]
    exact List.drop_eq_getElem_cons hlt
  obtain ⟨requestId, flags, settled, hcall, hsnapshot⟩ := h.call
  obtain ⟨x, hx, htruth⟩ := h.renamed
  have hshows := h.unread m (by rw [hdrop]; exact List.mem_cons_self ..)
  have hreceive : e.link.receive config =
      e.link.handshakeMessage config (.synchronize "snapshot_refresh") requestId flags settled m := by
    unfold Link.receive
    rw [hcall, hm]
  unfold refreshStep
  rw [hreceive]
  unfold Link.handshakeMessage
  cases hstep : e.link.client.receive config true m >>= fun c =>
      (CallKind.synchronize "snapshot_refresh").message config requestId e.link.read m c flags with
  | error failure =>
    obtain ⟨error, client⟩ := failure
    dsimp only
    rw [if_neg (by simp), if_neg]
    · exact ⟨hread, trivial⟩
    · unfold CallKind.raised Client.setState
      dsimp only
      split <;> simp
  | ok next =>
    obtain ⟨client, flags'⟩ := next
    obtain ⟨c₁, hkept, htook, -, -⟩ := CallKind.took_message hstep
    -- the snapshot the client has is the one of the refresh
    have hnext : flags'.snapshot = true → client.health.snapshot.any
        fun s => s.value.company.any (·.name = e.request.name) := by
      intro hflag
      by_cases ht : m.messageType = .stateSnapshot
      · obtain ⟨v, hv, hobserved⟩ := observed_message hstep ht
        obtain ⟨s, hs, hnamed⟩ := hshows ht
        rw [hv] at hs
        cases hs
        rw [hobserved]
        exact hnamed
      · rw [htook.snapshot, decide_eq_false ht, Bool.or_false] at hflag
        rw [htook.unobserved ht, hkept.snapshot]
        exact hsnapshot hflag
    dsimp only
    split
    · rename_i hfinished
      have hflag : flags'.snapshot = true := by
        simp only [CallKind.finished, Handshake.met, Bool.and_eq_true] at hfinished
        exact hfinished.1.2
      rw [if_neg (by simp), if_pos (by rfl)]
      refine .verified hread (fun m' hm' p hp => ?_) rfl hx htruth (hnext hflag)
      obtain ⟨q, hq, -⟩ := h.queue m' hm'
      rw [hp] at hq
      cases hq
    · rw [if_pos (by rfl)]
      refine ⟨hread, ?_⟩
      unfold PhaseSound
      simp only [hphase]
      refine ⟨⟨requestId, flags', settled, rfl, hnext⟩, h.queue, fun m' hm' => h.unread m' ?_, x, hx, htruth⟩
      rw [hdrop]
      exact List.mem_cons_of_mem _ hm'

theorem Sound.receive (h : e.Sound config) : (e.step config build api .receive).Sound config := by
  have hstep : e.step config build api .receive = e.receive config := rfl
  rw [hstep]
  have hphase := h.phase
  unfold Renaming.receive
  split
  · rename_i requestId accepted m hcommanding hcall hm
    unfold PhaseSound at hphase
    rw [hcommanding] at hphase
    exact Commanding.receive hphase hcommanding hcall hm
  · rename_i completed call m hrefreshing hcall hm
    unfold PhaseSound at hphase
    rw [hrefreshing] at hphase
    exact Refreshing.receive hphase hrefreshing hm
  · exact h

theorem Sound.fail (h : e.Sound config) (error : BridgeError) :
    (e.step config build api (.fail error)).Sound config := by
  have hstep : e.step config build api (.fail error) = e.fail error := rfl
  rw [hstep]
  unfold Renaming.fail
  split
  · refine ⟨?_, trivial⟩
    show (e.link.fail error).read ≤ (e.link.fail error).script.sent.length
    unfold Link.fail
    split <;> exact h.read
  · exact h

theorem Sound.step (h : e.Sound config) {event : RenameEvent γ} (hu : e.Undisturbed config api event) :
    (e.step config build api event).Sound config := by
  cases event with
  | receive => exact h.receive
  | fail error => exact h.fail error
  | handle => exact h.handle hu
  | heartbeat =>
    refine h.grow (Running.Sends.send build api ⟨?_, ?_⟩) rfl rfl
    · exact Option.some_ne_none _ ∘ Eq.symm
    · simp [Running.message]
  | elapse game => exact h.grow (Running.Sends.of_sent_eq rfl) rfl rfl

theorem Sound.run {events : List (RenameEvent γ)} (h : e.Sound config)
    (hu : e.UndisturbedRun config build api events) : (e.run config build api events).Sound config := by
  induction events generalizing e with
  | nil => exact h
  | cons event events ih => exact ih (h.step hu.1) hu.2

/-- Nothing was sent. -/
theorem Sound.unsent {l : Link γ} {request : RenameRequest} (h : l.Unused request.requestId request.commandId) :
    Sound config { link := l, request, phase := .returned .nothing } := by
  have hrenamed : renamed { link := l, request, phase := .returned .nothing } = [] := by
    unfold renamed
    rw [List.filter_eq_nil_iff]
    intro x hx
    simpa using h.renames x hx
  refine ⟨h.read, ⟨fun _ _ _ _ => hrenamed, fun result hresult hsuccess => ?_⟩, fun m hm => (h.waiting m hm).2⟩
  cases hresult
  cases hsuccess

theorem Sound.begin {l : Link γ} {adapter : OpenTTDAdapter} {request : RenameRequest}
    (h : l.Unused request.requestId request.commandId) : (begin config adapter request l).Sound config := by
  unfold Renaming.begin
  split
  · exact .unsent h
  split
  · exact .unsent h
  rename_i snapshot _
  dsimp only
  unfold Link.beginCommand
  split
  · rw [if_pos (by rfl)]
    refine ⟨h.read, ?_⟩
    refine Commanding.waiting l.toScript _ _ rfl rfl rfl rfl rfl ⟨rfl, rfl⟩ h.waiting ?_ ?_ h.ledger
    · exact fun m hm => h.sent m (List.mem_of_mem_drop hm)
    · unfold renamed
      rw [List.filter_eq_nil_iff]
      intro x hx
      simpa using h.renames x hx
  · rw [if_neg (by simp [h.idle])]
    exact .unsent h

end Renaming

/-- **A reported rename is the true one in every run where no other player comes between the
script's call, its check and the refresh.** -/
theorem rename_report_true (config : ClientConfig) (build : Build) (api : GameApi γ) (adapter : OpenTTDAdapter)
    (request : RenameRequest) (l : Link γ) (hunused : l.Unused request.requestId request.commandId)
    (events : List (RenameEvent γ))
    (hundisturbed : (Renaming.begin config adapter request l).UndisturbedRun config build api events) :
    ((Renaming.begin config adapter request l).run config build api events).Truthful := by
  have hbegin : (Renaming.begin config adapter request l).Sound config := .begin hunused
  have hsound := hbegin.run hundisturbed
  have hphase := hsound.phase
  generalize (Renaming.begin config adapter request l).run config build api events = e at hphase
  constructor
  · intro result hresult
    unfold Renaming.PhaseSound at hphase
    rw [hresult] at hphase
    exact hphase.1.nothing result hresult
  · intro result hresult
    unfold Renaming.PhaseSound at hphase
    rw [hresult] at hphase
    exact hphase.1.done result hresult

/-! ## A rename that another player undoes -/

def renamingConfig : ClientConfig := { probingConfig with allowWrites := true }

def renamingAdapter : OpenTTDAdapter := ⟨true, none⟩

def synchronized : Link String :=
  (Link.connect (Running.start .v2 namingGame (1, 2) { bridge := {}, game := "Transport" }) {}).run renamingConfig .v2
    namingGame ([.begin (.synchronize "connect") "1", .handle] ++ List.replicate 6 .receive)

def newName : RenameRequest where
  name := "Northern"
  commandId := "c1"
  requestUuid := "2"
  refreshUuid := "3"
  actionFingerprint := "f1"
  expectedCapabilityFingerprint := Build.v2.capabilityFingerprint
  requestTimestamp := "2024-01-01T00:00:00+00:00"

/-- The command and its answer, then the refresh in this game. -/
def renameUnder (game : String) : List (RenameEvent String) :=
  [.handle, .receive, .receive, .elapse game, .handle] ++ List.replicate 6 .receive

theorem synchronized_unused : synchronized.Unused newName.requestId newName.commandId := by
  have hsent : synchronized.script.sent.all (fun m => decide (m.correlationId ≠ some newName.requestId)) = true := by
    decide +kernel
  have hempty : synchronized.toScript.isEmpty = true := by decide +kernel
  have hrenames : synchronized.script.renames = [] := by decide +kernel
  refine ⟨?_, by decide +kernel, ?_, ?_, ?_, by decide +kernel⟩
  · have hnone : synchronized.call.isNone = true := by decide +kernel
    simpa using hnone
  · rw [List.isEmpty_iff.1 hempty]
    simp
  · intro m hm
    exact of_decide_eq_true (List.all_eq_true.1 hsent m hm)
  · rw [hrenames]
    simp

theorem rename_report_true_northern :
    ((Renaming.begin renamingConfig renamingAdapter newName synchronized).run renamingConfig .v2 namingGame
      (renameUnder "Northern")).Truthful :=
  rename_report_true renamingConfig .v2 namingGame renamingAdapter newName synchronized synchronized_unused
    (renameUnder "Northern") (by decide +kernel)

/-- Another player renames the company before the refresh: the script's rename is reported
as if nothing had happened. -/
theorem rename_reported_as_nothing :
    ¬ ∀ (l : Link String) (events : List (RenameEvent String)), l.Unused newName.requestId newName.commandId →
      ((Renaming.begin renamingConfig renamingAdapter newName l).run renamingConfig .v2 namingGame events).Truthful := by
  intro h
  have hphase : ((Renaming.begin renamingConfig renamingAdapter newName synchronized).run renamingConfig .v2 namingGame
      (renameUnder "Rival")).phase = .returned .nothing := by
    decide +kernel
  have hrenamed : ((Renaming.begin renamingConfig renamingAdapter newName synchronized).run renamingConfig .v2 namingGame
      (renameUnder "Rival")).renamed.length = 1 := by
    decide +kernel
  have hnone := (h synchronized (renameUnder "Rival") synchronized_unused).nothing _ hphase rfl rfl
  rw [hnone] at hrenamed
  cases hrenamed

end SimPilot.GameScript
