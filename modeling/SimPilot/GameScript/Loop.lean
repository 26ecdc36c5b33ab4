import SimPilot.GameScript.Link
import SimPilot.Data.Window
import SimPilot.Data.Except
/-!
# The loops of a call and the answer they wait for

A call is answered with hello, capabilities, `resync_response`, `state_snapshot` and, from a
script with world snapshots, the pages of the world. Only the response is correlated with the
request; the loops take the other messages of an earlier answer too. With `ahead` the
messages a call reads before its own answer, the four flags are first met

* at its own response when `ahead` has a snapshot: the client keeps that older one;
* at its own snapshot when `ahead` has none (`Heard.first_met`).
-/

namespace SimPilot.GameScript

/-! ## One message in a loop -/

namespace Client
variable {config : ClientConfig} {place : Nat} {m : BridgeMessage} {c c' : Client}

/-- What a client keeps of snapshots and capabilities is as before. -/
structure Kept (c c' : Client) : Prop where
  capabilities : c'.health.capabilities = c.health.capabilities
  snapshot : c'.health.snapshot = c.health.snapshot
  worldSnapshot : c'.health.worldSnapshot = c.health.worldSnapshot
  worldManifest : c'.worldManifest = c.worldManifest
  worldPages : c'.worldPages = c.worldPages

theorem kept_receive {allow : Bool} (h : c.receive config allow m = .ok c') : Kept c c' := by
  simp only [receive] at h
  split at h
  · cases h
  split at h
  · cases h
  split at h
  · cases h
  split at h
  · cases h
  split at h
  · cases h
  cases h
  exact ⟨rfl, rfl, rfl, rfl, rfl⟩

theorem kept_acceptHello (h : c.acceptHello config m = .ok c') : Kept c c' := by
  unfold acceptHello at h
  split at h
  · split at h
    · cases h
    · cases h
      exact ⟨rfl, rfl, rfl, rfl, rfl⟩
  · cases h

theorem acceptCapabilities_ok (h : c.acceptCapabilities m = .ok c') : ∃ p, m.payload = .capabilities p ∧
    c' = { c with health := { c.health with capabilities := some p } } := by
  unfold acceptCapabilities at h
  split at h
  · cases h
    exact ⟨_, ‹_›, rfl⟩
  · cases h

theorem acceptSnapshot_ok (h : c.acceptSnapshot place m = .ok c') : ∃ v company,
    c' = { c with health := { c.health with snapshot := some ⟨v, [place]⟩, activeCompanyContext := company } } := by
  unfold acceptSnapshot at h
  split at h
  · cases h
    exact ⟨_, _, rfl⟩
  · cases h

theorem acceptWorldManifest_ok (h : c.acceptWorldManifest place m = .ok c') : ∃ v,
    c' = { c with worldManifest := some ⟨v, [place]⟩, worldPages := [] } := by
  unfold acceptWorldManifest at h
  split at h
  · cases h
    exact ⟨_, rfl⟩
  · cases h

theorem mem_pagePlaces {pages : Assoc WorldCollection (Assoc Nat (Sourced WorldCollectionPagePayload))} {p : Nat} :
    p ∈ pagePlaces pages ↔ ∃ page ∈ Assoc.values pages, ∃ s ∈ Assoc.values page, p ∈ s.places := by
  simp [pagePlaces]

/-- Pages under a collection come from the pages that were there, or are the ones set. -/
theorem pagePlaces_set {pages : Assoc WorldCollection (Assoc Nat (Sourced WorldCollectionPagePayload))}
    {collection : WorldCollection} {page : Assoc Nat (Sourced WorldCollectionPagePayload)} {p : Nat}
    (h : p ∈ pagePlaces (pages.set collection page)) : p ∈ pagePlaces pages ∨ ∃ s ∈ page.values, p ∈ s.places := by
  obtain ⟨page', hpage, s, hs, hp⟩ := mem_pagePlaces.1 h
  rcases Assoc.mem_values_set hpage with rfl | hpage
  · exact .inr ⟨s, hs, hp⟩
  · exact .inl (mem_pagePlaces.2 ⟨page', hpage, s, hs, hp⟩)

theorem acceptWorldPage_ok (h : c.acceptWorldPage place m = .ok c') :
    c'.health = c.health ∧ c'.worldManifest = c.worldManifest ∧
      ∀ p ∈ pagePlaces c'.worldPages, p ∈ pagePlaces c.worldPages ∨ p = place := by
  unfold acceptWorldPage at h
  split at h
  · rename_i page _
    split at h
    · cases h
    split at h
    · cases h
    dsimp only at h
    split at h
    · cases h
    split at h
    · cases h
    cases h
    refine ⟨rfl, rfl, fun p hp => ?_⟩
    have hold : ∀ s ∈ Assoc.values ((c.worldPages.get page.collection).getD []), p ∈ s.places →
        p ∈ pagePlaces c.worldPages := by
      intro s hs hp
      cases hget : c.worldPages.get page.collection with
      | none => simp [hget, Assoc.values] at hs
      | some pages =>
        rw [hget] at hs
        exact mem_pagePlaces.2 ⟨pages, Assoc.mem_values_of_get hget, s, hs, hp⟩
    rcases pagePlaces_set hp with hp | ⟨s, hs, hp⟩
    · rcases pagePlaces_set hp with hp | ⟨s, hs, hp⟩
      · exact .inl hp
      · exact .inl (hold s hs hp)
    · rcases Assoc.mem_values_set hs with rfl | hs
      · exact .inr (List.mem_singleton.1 hp)
      · exact .inl (hold s hs hp)
  · cases h

theorem acceptWorldComplete_ok (h : c.acceptWorldComplete place m = .ok c') :
    ∃ manifest v, c.worldManifest = some manifest ∧ c' = { c with health := { c.health with
      worldSnapshot := some ⟨v, manifest.places ++ pagePlaces c.worldPages ++ [place]⟩ } } := by
  unfold acceptWorldComplete at h
  split at h
  · split at h
    · cases h
    rename_i manifest hmanifest
    split at h
    · cases h
    dsimp only at h
    split at h
    · cases h
    split at h
    · cases h
    cases h
    exact ⟨manifest, _, hmanifest, rfl⟩
  · cases h

end Client

/-- What a message of a loop does to the flags, the snapshot and the capabilities. -/
structure Took (requestId : String) (place : Nat) (m : BridgeMessage) (c c' : Client) (f f' : Handshake) : Prop where
  hello : f'.hello = (f.hello || decide (m.messageType = .hello))
  capabilities : f'.capabilities = (f.capabilities || decide (m.messageType = .capabilities))
  response : f'.response =
    (f.response || decide (m.messageType = .resyncResponse ∧ m.correlationId = some requestId))
  snapshot : f'.snapshot = (f.snapshot || decide (m.messageType = .stateSnapshot))
  observed : m.messageType = .stateSnapshot → ∃ v, c'.health.snapshot = some ⟨v, [place]⟩
  unobserved : m.messageType ≠ .stateSnapshot → c'.health.snapshot = c.health.snapshot
  capable : m.messageType = .capabilities → ∃ p, m.payload = .capabilities p ∧ c'.health.capabilities = some p
  uncapable : m.messageType ≠ .capabilities → c'.health.capabilities = c.health.capabilities

/-- What a message does to the world in the loop of `synchronize`. -/
structure TookWorld (place : Nat) (m : BridgeMessage) (c c' : Client) (f f' : Handshake) : Prop where
  manifest : m.messageType = .worldManifest → f.met = true →
    ∃ v, c'.worldManifest = some ⟨v, [place]⟩ ∧ c'.worldPages = []
  pages : m.messageType ≠ .worldManifest → c'.worldManifest = c.worldManifest ∧
    ∀ p ∈ Client.pagePlaces c'.worldPages, p ∈ Client.pagePlaces c.worldPages ∨ p = place
  world : f'.world = true → f.world = true ∨ (m.messageType = .worldSnapshotComplete ∧ f.met = true ∧
    ∃ manifest v, c.worldManifest = some manifest ∧
      c'.health.worldSnapshot = some ⟨v, manifest.places ++ Client.pagePlaces c.worldPages ++ [place]⟩)

namespace CallKind
variable {config : ClientConfig} {requestId : String} {place : Nat} {m : BridgeMessage} {c c' : Client}
  {f f' : Handshake}

theorem took_synchronize (h : synchronizeMessage config requestId place m c f = .ok (c', f')) :
    Took requestId place m c c' f f' ∧ TookWorld place m c c' f f' := by
  unfold synchronizeMessage at h
  cases ht : m.messageType <;> simp only [ht] at h
  case hello =>
    obtain ⟨c₁, hc₁, h⟩ := Except.bind_eq_ok.mp h
    cases h
    have hk := Client.kept_acceptHello hc₁
    constructor <;> constructor <;>
      simp_all [Client.setState, hk.snapshot, hk.capabilities, hk.worldManifest, hk.worldPages]
  case capabilities =>
    obtain ⟨c₁, hc₁, h⟩ := Except.bind_eq_ok.mp h
    cases h
    obtain ⟨p, hp, rfl⟩ := Client.acceptCapabilities_ok hc₁
    constructor <;> constructor <;> simp_all [Client.setState]
  case resyncResponse =>
    cases h
    by_cases hid : m.correlationId = some requestId
    · constructor <;> constructor <;> simp_all
    · constructor <;> constructor <;> simp_all
  case stateSnapshot =>
    obtain ⟨c₁, hc₁, h⟩ := Except.bind_eq_ok.mp h
    cases h
    obtain ⟨v, company, rfl⟩ := Client.acceptSnapshot_ok hc₁
    constructor <;> constructor <;> simp_all
  case worldManifest =>
    split at h
    · cases h
      constructor <;> constructor <;> simp_all
    · obtain ⟨c₁, hc₁, h⟩ := Except.bind_eq_ok.mp h
      cases h
      obtain ⟨v, rfl⟩ := Client.acceptWorldManifest_ok hc₁
      constructor <;> constructor <;> simp_all
  case worldCollectionPage =>
    split at h
    · cases h
      constructor <;> constructor <;> simp_all
    · obtain ⟨c₁, hc₁, h⟩ := Except.bind_eq_ok.mp h
      cases h
      obtain ⟨hhealth, hmanifest, hpages⟩ := Client.acceptWorldPage_ok hc₁
      constructor <;> constructor <;> simp_all
  case worldSnapshotComplete =>
    split at h
    · cases h
      constructor <;> constructor <;> simp_all
    · obtain ⟨c₁, hc₁, h⟩ := Except.bind_eq_ok.mp h
      cases h
      obtain ⟨manifest, v, hmanifest, rfl⟩ := Client.acceptWorldComplete_ok hc₁
      constructor <;> constructor <;> simp_all
  all_goals
    cases h
    constructor <;> constructor <;> simp [ht]
    try tauto

theorem took_verify (h : verifyMessage config requestId place m c f = .ok (c', f')) :
    Took requestId place m c c' f f' ∧ f'.world = f.world := by
  unfold verifyMessage at h
  cases ht : m.messageType <;> simp only [ht] at h
  case hello =>
    obtain ⟨c₁, hc₁, h⟩ := Except.bind_eq_ok.mp h
    cases h
    have hk := Client.kept_acceptHello hc₁
    refine ⟨?_, rfl⟩
    constructor <;> simp_all [hk.snapshot, hk.capabilities]
  case capabilities =>
    obtain ⟨c₁, hc₁, h⟩ := Except.bind_eq_ok.mp h
    cases h
    obtain ⟨p, hp, rfl⟩ := Client.acceptCapabilities_ok hc₁
    refine ⟨?_, rfl⟩
    constructor <;> simp_all
  case resyncResponse =>
    cases h
    by_cases hid : m.correlationId = some requestId
    · refine ⟨?_, by simp [hid]⟩
      constructor <;> simp_all
    · refine ⟨?_, by simp [hid]⟩
      constructor <;> simp_all
  case stateSnapshot =>
    obtain ⟨c₁, hc₁, h⟩ := Except.bind_eq_ok.mp h
    cases h
    obtain ⟨v, company, rfl⟩ := Client.acceptSnapshot_ok hc₁
    refine ⟨?_, rfl⟩
    constructor <;> simp_all
  all_goals
    cases h
    refine ⟨?_, rfl⟩
    constructor <;> simp [ht]

/-- A message of either loop; the world is only touched by that of `synchronize`. -/
theorem took_message {kind : CallKind}
    (h : (c.receive config true m >>= fun c => kind.message config requestId place m c f) = .ok (c', f')) :
    ∃ c₁, Client.Kept c c₁ ∧ Took requestId place m c₁ c' f f' ∧
      (kind = .verifyIdentity → f'.world = f.world) ∧ (kind ≠ .verifyIdentity → TookWorld place m c₁ c' f f') := by
  obtain ⟨c₁, hreceive, h⟩ := Except.bind_eq_ok.mp h
  refine ⟨c₁, Client.kept_receive hreceive, ?_⟩
  cases kind with
  | synchronize reason =>
    obtain ⟨htook, hworld⟩ := took_synchronize h
    exact ⟨htook, by simp, fun _ => hworld⟩
  | verifyIdentity =>
    obtain ⟨htook, hworld⟩ := took_verify h
    exact ⟨htook, fun _ => hworld, by simp⟩

end CallKind

/-! ## What a call has heard -/

/-- What the messages a call has read so far did to the flags and to what the client keeps. The call
read the script's messages from number `start` on. -/
structure Heard (build : Build) (requestId : String) (start : Nat) (heard : List BridgeMessage) (c : Client)
    (f : Handshake) : Prop where
  hello : f.hello = true ↔ ∃ m ∈ heard, m.messageType = .hello
  capabilities : f.capabilities = true ↔ ∃ m ∈ heard, m.messageType = .capabilities
  response : f.response = true ↔ ∃ m ∈ heard, m.messageType = .resyncResponse ∧ m.correlationId = some requestId
  snapshot : f.snapshot = true ↔ ∃ m ∈ heard, m.messageType = .stateSnapshot
  /-- The client has the newest snapshot. -/
  newest : ∀ older m newer, heard = older ++ m :: newer → m.messageType = .stateSnapshot →
    (∀ m ∈ newer, m.messageType ≠ .stateSnapshot) → ∃ v, c.health.snapshot = some ⟨v, [start + older.length]⟩
  capable : f.capabilities = true → c.health.capabilities = some (Running.capabilities build)

namespace Heard
variable {build : Build} {requestId : String} {start : Nat} {heard : List BridgeMessage} {m : BridgeMessage}
  {c c' : Client} {f f' : Handshake}

theorem nil (c : Client) : Heard build requestId start [] c {} := by
  constructor <;> simp

theorem of_kept (h : Heard build requestId start heard c f) (hk : Client.Kept c c') :
    Heard build requestId start heard c' f where
  hello := h.hello
  capabilities := h.capabilities
  response := h.response
  snapshot := h.snapshot
  newest := by
    rw [hk.snapshot]
    exact h.newest
  capable := by
    rw [hk.capabilities]
    exact h.capable

theorem concat (h : Heard build requestId start heard c f) {place : Nat} (hplace : place = start + heard.length)
    (hm : m.messageType = .capabilities → m.payload = .capabilities (Running.capabilities build))
    (ht : Took requestId place m c c' f f') : Heard build requestId start (heard ++ [m]) c' f' where
  hello := by
    rw [ht.hello, Bool.or_eq_true, h.hello, decide_eq_true_eq]
    simp [or_and_right, exists_or]
  capabilities := by
    rw [ht.capabilities, Bool.or_eq_true, h.capabilities, decide_eq_true_eq]
    simp [or_and_right, exists_or]
  response := by
    rw [ht.response, Bool.or_eq_true, h.response, decide_eq_true_eq]
    simp [or_and_right, exists_or]
  snapshot := by
    rw [ht.snapshot, Bool.or_eq_true, h.snapshot, decide_eq_true_eq]
    simp [or_and_right, exists_or]
  newest := by
    intro older m' newer hl hm' hnewer
    rcases List.eq_nil_or_concat newer with rfl | ⟨init, last, rfl⟩
    · obtain ⟨rfl, hlast⟩ := List.append_inj' hl rfl
      obtain rfl := (List.cons.inj hlast).1
      rw [← hplace]
      exact ht.observed hm'
    · rw [List.concat_eq_append, ← List.cons_append, ← List.append_assoc] at hl
      obtain ⟨rfl, hlast⟩ := List.append_inj' hl rfl
      obtain rfl := (List.cons.inj hlast).1
      rw [ht.unobserved (hnewer m (by simp))]
      exact h.newest older m' init rfl hm' fun m hm => hnewer m (by simp [hm])
  capable := by
    intro hc
    by_cases hcapabilities : m.messageType = .capabilities
    · obtain ⟨p, hp, hkept⟩ := ht.capable hcapabilities
      rw [hm hcapabilities] at hp
      rw [hkept, Payload.capabilities.inj hp]
    · rw [ht.uncapable hcapabilities]
      rw [ht.capabilities, Bool.or_eq_true, decide_eq_true_eq, or_iff_left hcapabilities] at hc
      exact h.capable hc

end Heard

/-! ## The answer of a call -/

/-- No response to this request is among the messages. -/
def Unanswered (requestId : String) (ms : List BridgeMessage) : Prop :=
  ∀ m ∈ ms, m.messageType = .resyncResponse → m.correlationId ≠ some requestId

theorem Unanswered.append {requestId : String} {ms out : List BridgeMessage} (h : Unanswered requestId ms)
    (ho : Unanswered requestId out) : Unanswered requestId (ms ++ out) := by
  intro m hm
  rcases List.mem_append.1 hm with hm | hm
  · exact h m hm
  · exact ho m hm

theorem Unanswered.of_quiet {build : Build} {requestId : String} {out : List BridgeMessage} (h : ∀ m ∈ out, m.Quiet build) :
    Unanswered requestId out :=
  fun m hm ht => ((h m hm).quiet.1 ht).elim

/-- The world the client is collecting is made of messages from this place on. -/
def WorldSince (place : Nat) (c : Client) : Prop :=
  ∃ manifest, c.worldManifest = some manifest ∧ manifest.Since place ∧ ∀ p ∈ Client.pagePlaces c.worldPages, place ≤ p

section Phase
variable {γ : Type} (build : Build) (kind : CallKind) (requestId : String) (start : Nat) (settled : Bool)

/-- Where the request of a call is. -/
inductive Phase (l : Link γ) : Prop
  | waiting (before : List ClientMessage) (request : ClientMessage) (queue : l.toScript = before ++ [request])
      (id : request.messageId = requestId) (resync : request.isResync = true)
      (others : ∀ m ∈ before, m.messageId ≠ requestId) (unanswered : Unanswered requestId (l.script.sent.drop start))
      (settled : build.protocolVersion = 2 → (settled = true ↔
        (∀ m ∈ l.script.sent.drop start, m.messageType ≠ .stateSnapshot) ∧ ∀ m ∈ before, m.isResync = false))
  | answered (ahead : List BridgeMessage) (hello capabilities response snapshot : BridgeMessage)
      (world after : List BridgeMessage)
      (sent : l.script.sent.drop start = ahead ++ hello :: capabilities :: response :: snapshot :: (world ++ after))
      (answer : Answer build requestId hello capabilities response snapshot world)
      (quiet : ∀ m ∈ after, m.Quiet build) (queue : l.toScript = [])
      (taken : l.takenUp.get requestId = some (start + ahead.length)) (unanswered : Unanswered requestId ahead)
      (settled : settled = true ↔ ∀ m ∈ ahead, m.messageType ≠ .stateSnapshot)
      (collecting : kind ≠ .verifyIdentity → build.worldSnapshots = true → start + ahead.length + 4 < l.read →
        WorldSince (start + ahead.length) l.client)
  | lost (queue : l.toScript = []) (unanswered : Unanswered requestId (l.script.sent.drop start))

end Phase

/-- What the client hears from the script: capabilities of this build, answers to requests it made. -/
structure Fits (build : Build) (usedIds : List String) (m : BridgeMessage) : Prop where
  capabilities : m.messageType = .capabilities → m.payload = .capabilities (Running.capabilities build)
  response : m.messageType = .resyncResponse → ∃ id ∈ usedIds, m.correlationId = some id

theorem BridgeMessage.Quiet.fits {build : Build} {m : BridgeMessage} (h : m.Quiet build) (usedIds : List String) :
    Fits build usedIds m :=
  ⟨h.capabilities, fun ht => (h.quiet.1 ht).elim⟩

section Answer
variable {build : Build} {requestId : String} {hello capabilities response snapshot : BridgeMessage}
  {world : List BridgeMessage}

theorem Answer.world_type (h : Answer build requestId hello capabilities response snapshot world) {m : BridgeMessage}
    (hm : m ∈ world) : m.messageType = .worldManifest ∨ m.messageType = .worldCollectionPage ∨
      m.messageType = .worldSnapshotComplete := by
  have hw := h.world
  split at hw
  · obtain ⟨manifest, pages, complete, rfl, hmanifest, hpages, hcomplete⟩ := hw
    simp only [List.mem_cons, List.mem_append, List.not_mem_nil, or_false] at hm
    rcases hm with rfl | hm | rfl
    · exact .inl hmanifest
    · exact .inr (.inl (hpages m hm))
    · exact .inr (.inr hcomplete)
  · subst hw
    cases hm

theorem Answer.fits (h : Answer build requestId hello capabilities response snapshot world) {usedIds : List String}
    (hid : requestId ∈ usedIds) :
    ∀ m ∈ hello :: capabilities :: response :: snapshot :: world, Fits build usedIds m := by
  intro m hm
  simp only [List.mem_cons] at hm
  rcases hm with rfl | rfl | rfl | rfl | hm
  · exact ⟨by simp [h.hello], by simp [h.hello]⟩
  · exact ⟨fun _ => h.capabilities.2, by simp [h.capabilities.1]⟩
  · exact ⟨by simp [h.response.1], fun _ => ⟨requestId, hid, h.response.2⟩⟩
  · exact ⟨by simp [h.snapshot], by simp [h.snapshot]⟩
  · rcases h.world_type hm with ht | ht | ht <;> exact ⟨by simp [ht], by simp [ht]⟩

/-- An answer answers its own request only. -/
theorem Answer.unanswered (h : Answer build requestId hello capabilities response snapshot world) {other : String}
    (hne : requestId ≠ other) : Unanswered other (hello :: capabilities :: response :: snapshot :: world) := by
  intro m hm ht
  simp only [List.mem_cons] at hm
  rcases hm with rfl | rfl | rfl | rfl | hm
  · simp [h.hello] at ht
  · simp [h.capabilities.1] at ht
  · rw [h.response.2]
    simpa using hne
  · simp [h.snapshot] at ht
  · rcases h.world_type hm with ht' | ht' | ht' <;> simp [ht'] at ht

end Answer

/-! ## Where a loop ends -/

section Ends
variable {build : Build} {requestId : String} {start : Nat} {heard ahead rest : List BridgeMessage}
  {hello capabilities response snapshot m : BridgeMessage} {world : List BridgeMessage} {c c' : Client}
  {f f' : Handshake}

theorem Heard.met (h : Heard build requestId start heard c f) : f.met = true ↔
    (∃ m ∈ heard, m.messageType = .hello) ∧ (∃ m ∈ heard, m.messageType = .capabilities) ∧
    (∃ m ∈ heard, m.messageType = .resyncResponse ∧ m.correlationId = some requestId) ∧
    ∃ m ∈ heard, m.messageType = .stateSnapshot := by
  simp only [Handshake.met, Bool.and_eq_true, h.hello, h.capabilities, h.response, h.snapshot, and_assoc]

theorem Heard.met_concat (h : Heard build requestId start heard c f) (hf : f.met = true)
    (h' : Heard build requestId start (heard ++ [m]) c' f') : f'.met = true := by
  rw [h.met] at hf
  rw [h'.met]
  obtain ⟨⟨hello, h₁, t₁⟩, ⟨capabilities, h₂, t₂⟩, ⟨response, h₃, t₃⟩, ⟨snapshot, h₄, t₄⟩⟩ := hf
  exact ⟨⟨hello, by simp [h₁], t₁⟩, ⟨capabilities, by simp [h₂], t₂⟩, ⟨response, by simp [h₃], t₃⟩,
    ⟨snapshot, by simp [h₄], t₄⟩⟩

/-- A call that has its response has read everything up to it. -/
theorem Heard.up_to_response (h : Heard build requestId start heard c f) (hr : f.response = true)
    (ha : Answer build requestId hello capabilities response snapshot world) (hu : Unanswered requestId ahead)
    (hp : heard <+: ahead ++ hello :: capabilities :: response :: rest) :
    ∃ more, heard = ahead ++ hello :: capabilities :: response :: more ∧ more <+: rest := by
  obtain ⟨m, hm, ht, hid⟩ := h.response.1 hr
  have hnot : m ∉ ahead ++ [hello, capabilities] := by
    intro hm
    simp only [List.mem_append, List.mem_cons, List.not_mem_nil, or_false] at hm
    rcases hm with hm | rfl | rfl
    · exact hu m hm ht hid
    · simp [ha.hello] at ht
    · simp [ha.capabilities.1] at ht
  have hsplit : ahead ++ hello :: capabilities :: response :: rest =
      (ahead ++ [hello, capabilities]) ++ response :: rest := by simp
  rw [hsplit] at hp
  rcases List.prefix_or_prefix_of_prefix hp (List.prefix_append _ _) with hle | ⟨more, rfl⟩
  · exact (hnot (hle.subset hm)).elim
  · rw [List.prefix_append_right_inj, List.prefix_cons_iff] at hp
    rcases hp with rfl | ⟨more, rfl, hmore⟩
    · rw [List.append_nil] at hm
      exact (hnot hm).elim
    · exact ⟨more, by simp, hmore⟩

/-- The four flags are first met at the call's own response, when a snapshot came before, or at
its own snapshot, when none did. -/
theorem Heard.first_met (h : Heard build requestId start heard c f) (hf : f.met = false)
    (h' : Heard build requestId start (heard ++ [m]) c' f') (hf' : f'.met = true)
    (ha : Answer build requestId hello capabilities response snapshot world) (hu : Unanswered requestId ahead)
    (hp : heard ++ [m] <+: ahead ++ hello :: capabilities :: response :: snapshot :: rest) :
    (heard ++ [m] = ahead ++ [hello, capabilities, response] ∧ ∃ m ∈ ahead, m.messageType = .stateSnapshot) ∨
    (heard ++ [m] = ahead ++ [hello, capabilities, response, snapshot] ∧
      ∀ m ∈ ahead, m.messageType ≠ .stateSnapshot) := by
  obtain ⟨-, -, hr, hs⟩ := h'.met.1 hf'
  obtain ⟨more, heq, hmore⟩ := h'.up_to_response (h'.response.2 hr) ha hu hp
  rw [List.prefix_cons_iff] at hmore
  rcases hmore with rfl | ⟨more, rfl, -⟩
  · refine .inl ⟨heq, ?_⟩
    obtain ⟨m', hm', ht⟩ := hs
    rw [heq] at hm'
    simp only [List.mem_append, List.mem_cons, List.not_mem_nil, or_false] at hm'
    rcases hm' with hm' | rfl | rfl | rfl
    · exact ⟨m', hm', ht⟩
    · simp [ha.hello] at ht
    · simp [ha.capabilities.1] at ht
    · simp [ha.response.1] at ht
  · rcases List.eq_nil_or_concat more with rfl | ⟨init, last, rfl⟩
    · refine .inr ⟨heq, fun m' hm' ht => ?_⟩
      have hheard : heard = ahead ++ [hello, capabilities, response] := by
        have := congrArg List.dropLast heq
        simpa [List.dropLast_append_of_ne_nil] using this
      have hmet : f.met = true := by
        rw [h.met, hheard]
        exact ⟨⟨hello, by simp, ha.hello⟩, ⟨capabilities, by simp, ha.capabilities.1⟩,
          ⟨response, by simp, ha.response⟩, ⟨m', by simp [hm'], ht⟩⟩
      rw [hf] at hmet
      cases hmet
    · have hheard : heard = ahead ++ hello :: capabilities :: response :: snapshot :: init := by
        have := congrArg List.dropLast heq
        simpa [List.dropLast_append_of_ne_nil, List.dropLast_cons_of_ne_nil] using this
      have hmet : f.met = true := by
        rw [h.met, hheard]
        exact ⟨⟨hello, by simp, ha.hello⟩, ⟨capabilities, by simp, ha.capabilities.1⟩,
          ⟨response, by simp, ha.response⟩, ⟨snapshot, by simp, ha.snapshot⟩⟩
      rw [hf] at hmet
      cases hmet

/-- Behind its own snapshot a call has a snapshot of its own answer or a newer one. -/
theorem Heard.snapshot_since (h : Heard build requestId start heard c f)
    (ha : Answer build requestId hello capabilities response snapshot world) {more : List BridgeMessage}
    (heq : heard = ahead ++ hello :: capabilities :: response :: snapshot :: more) :
    ∃ s, c.health.snapshot = some s ∧ s.Since (start + ahead.length) := by
  obtain ⟨older, m, newer, hl, hm, hnewer⟩ :=
    Window.exists_last (P := fun m => m.messageType = .stateSnapshot) ⟨snapshot, List.mem_cons_self .., ha.snapshot⟩
      (l := snapshot :: more)
  obtain ⟨v, hv⟩ := h.newest (ahead ++ hello :: capabilities :: response :: older) m newer
    (by rw [heq, hl]; simp) hm hnewer
  refine ⟨_, hv, by simp, fun p hp => ?_⟩
  rw [List.mem_singleton] at hp
  simp only [List.length_append, List.length_cons] at hp
  omega

/-- At its own response a call has the snapshot of an earlier answer. -/
theorem Heard.snapshot_before (h : Heard build requestId start heard c f)
    (ha : Answer build requestId hello capabilities response snapshot world)
    (heq : heard = ahead ++ [hello, capabilities, response]) (hs : ∃ m ∈ ahead, m.messageType = .stateSnapshot) :
    ∃ s, c.health.snapshot = some s ∧ ¬ s.Since (start + ahead.length) := by
  obtain ⟨older, m, newer, rfl, hm, hnewer⟩ := Window.exists_last hs
  have hlast : ∀ m ∈ newer ++ [hello, capabilities, response], m.messageType ≠ .stateSnapshot := by
    intro m hm
    simp only [List.mem_append, List.mem_cons, List.not_mem_nil, or_false] at hm
    rcases hm with hm | rfl | rfl | rfl
    · exact hnewer m hm
    · simp [ha.hello]
    · simp [ha.capabilities.1]
    · simp [ha.response.1]
  obtain ⟨v, hv⟩ := h.newest older m (newer ++ [hello, capabilities, response]) (by rw [heq]; simp) hm hlast
  refine ⟨_, hv, fun hsince => ?_⟩
  have hle := hsince.2 _ (List.mem_singleton_self _)
  simp only [List.length_append, List.length_cons] at hle
  omega

end Ends

end SimPilot.GameScript
