import SimPilot.GameScript.Loop
import SimPilot.GameScript.Idempotence
/-!
# Freshness of a synchronization

`InCall` is what holds of a call in its loop after every step of the client and of the script,
`Sound` what holds of the link. From them every return of a run is judged: the world a call
waited for is its own, and so is the snapshot then; otherwise the snapshot is the call's own
exactly when nothing of an earlier request was under way at its begin.
-/

namespace SimPilot.GameScript

/-! ## Steps of the script -/

namespace Link
variable {γ : Type} {config : ClientConfig} {build : Build} {api : GameApi γ}

/-- A call in its loop. -/
structure InCall (build : Build) (l : Link γ) (kind : CallKind) (requestId : String) (flags : Handshake)
    (settled : Bool) (start : Nat) (heard : List BridgeMessage) : Prop where
  start_le : start ≤ l.script.sent.length
  prefix_sent : heard <+: l.script.sent.drop start
  read : l.read = start + heard.length
  heard : Heard build requestId start heard l.client flags
  phase : Phase build kind requestId start settled l
  unfinished : kind.finished l.client flags = false
  world : flags.world = false

variable {l : Link γ} {kind : CallKind} {requestId : String} {flags : Handshake} {settled : Bool} {start : Nat}
  {heard : List BridgeMessage}

theorem handle_cons {m : ClientMessage} {rest : List ClientMessage} (hqueue : l.toScript = m :: rest) :
    l.handle build api =
      { l with
        toScript := rest, script := l.script.handleMessage build api m.squirrel
        takenUp := if m.isResync then l.takenUp.set m.messageId l.script.sent.length else l.takenUp } := by
  rw [handle, hqueue]

theorem drop_sent (h : start ≤ l.script.sent.length) {sent out : List BridgeMessage}
    (hsent : sent = l.script.sent ++ out) : sent.drop start = l.script.sent.drop start ++ out := by
  rw [hsent, List.drop_append_of_le_length h]

/-- A call keeps what it has when the script goes on. -/
theorem InCall.grow (h : InCall build l kind requestId flags settled start heard) {l' : Link γ}
    {out : List BridgeMessage} (hsent : l'.script.sent = l.script.sent ++ out) (hread : l'.read = l.read)
    (hclient : l'.client = l.client) (hphase : Phase build kind requestId start settled l') :
    InCall build l' kind requestId flags settled start heard where
  start_le := by
    rw [hsent, List.length_append]
    exact Nat.le_add_right_of_le h.start_le
  prefix_sent := by
    rw [drop_sent h.start_le hsent]
    exact h.prefix_sent.trans (List.prefix_append _ _)
  read := by rw [hread, h.read]
  heard := by rw [hclient]; exact h.heard
  phase := hphase
  unfinished := by rw [hclient]; exact h.unfinished
  world := h.world

/-- Quiet messages change nothing for a call. -/
theorem InCall.quiet (h : InCall build l kind requestId flags settled start heard) {script : Running γ}
    (hs : Running.Sends (BridgeMessage.Quiet build) l.script script) :
    InCall build { l with script } kind requestId flags settled start heard := by
  obtain ⟨out, hout, hquiet⟩ := hs
  refine h.grow hout rfl rfl ?_
  have hdrop := drop_sent h.start_le hout
  cases h.phase with
  | waiting before request queue id resync others unanswered hsettled =>
    refine .waiting before request queue id resync others (hdrop ▸ unanswered.append (.of_quiet hquiet)) fun hv => ?_
    rw [hsettled hv, hdrop]
    refine and_congr_left fun _ => ⟨fun hall m hm => ?_, fun hall m hm => hall m (List.mem_append_left _ hm)⟩
    rcases List.mem_append.1 hm with hm | hm
    · exact hall m hm
    · exact (hquiet m hm).quiet.2.1
  | answered ahead hello capabilities response snapshot world after sent answer quiet queue taken unanswered
      hsettled collecting =>
    refine .answered ahead hello capabilities response snapshot world (after ++ out) ?_ answer ?_ queue taken
      unanswered hsettled collecting
    · rw [hdrop, sent]
      simp
    · intro m hm
      rcases List.mem_append.1 hm with hm | hm
      · exact quiet m hm
      · exact hquiet m hm
  | lost queue unanswered => exact .lost queue (hdrop ▸ unanswered.append (.of_quiet hquiet))

/-- When the script starts anew the requests that wait are lost. -/
theorem InCall.emptied (h : InCall build l kind requestId flags settled start heard) :
    InCall build { l with toScript := [] } kind requestId flags settled start heard := by
  refine h.grow (List.append_nil _).symm rfl rfl ?_
  cases h.phase with
  | waiting _ _ _ _ _ _ unanswered _ => exact .lost rfl unanswered
  | answered ahead hello capabilities response snapshot world after sent answer quiet _ taken unanswered hsettled
      collecting =>
    exact .answered ahead hello capabilities response snapshot world after sent answer quiet rfl taken unanswered
      hsettled collecting
  | lost _ unanswered => exact .lost rfl unanswered

/-- A request that is handled while the call's own one waits behind it. -/
theorem InCall.ahead (h : InCall build l kind requestId flags settled start heard) {m request : ClientMessage}
    {before : List ClientMessage} (hqueue : l.toScript = m :: (before ++ [request]))
    (hid : request.messageId = requestId) (hresync : request.isResync = true)
    (hothers : ∀ m ∈ before, m.messageId ≠ requestId) (hm : m.messageId ≠ requestId)
    (hu : Unanswered requestId (l.script.sent.drop start))
    (hsettled : build.protocolVersion = 2 → (settled = true ↔
      (∀ m ∈ l.script.sent.drop start, m.messageType ≠ .stateSnapshot) ∧ ∀ m' ∈ m :: before, m'.isResync = false)) :
    InCall build (l.handle build api) kind requestId flags settled start heard := by
  rw [handle_cons hqueue]
  -- a quiet answer leaves the two conditions of `settled` as they were
  have hquiet : (build.protocolVersion = 2 → m.isResync = false) →
      Running.Sends (BridgeMessage.Quiet build) l.script (l.script.handleMessage build api m.squirrel) →
      Phase build kind requestId start settled
        { l with
          toScript := before ++ [request], script := l.script.handleMessage build api m.squirrel
          takenUp := if m.isResync then l.takenUp.set m.messageId l.script.sent.length else l.takenUp } := by
    rintro hcommand ⟨out, hout, hquiet⟩
    have hdrop := drop_sent h.start_le hout
    refine .waiting before request rfl hid hresync hothers (hdrop ▸ hu.append (.of_quiet hquiet)) fun hv => ?_
    rw [hsettled hv, hdrop, List.forall_mem_cons, List.forall_mem_append, and_iff_right (hcommand hv)]
    refine and_congr_left fun _ => ?_
    rw [and_iff_left]
    exact fun m hm => (hquiet m hm).quiet.2.1
  by_cases hkind : m.isResync = true
  swap
  · have hkind : m.isResync = false := by simpa using hkind
    have hsends := Running.quiet_handle_command (r := l.script) build api m hkind
    obtain ⟨out, hout, -⟩ := id hsends
    exact h.grow hout rfl rfl (hquiet (fun _ => hkind) hsends)
  · rcases Running.sent_handle_resync (r := l.script) build api m hkind with
      ⟨hv, hello, capabilities, response, snapshot, world, ha, hout⟩ | ⟨hv, hsends⟩
    · have hdrop := drop_sent h.start_le hout
      refine h.grow hout rfl rfl ?_
      refine .waiting before request rfl hid hresync hothers (hdrop ▸ hu.append (ha.unanswered hm)) fun _ => ?_
      have hnot : ¬ settled = true := by
        rw [hsettled hv]
        intro hboth
        have := hboth.2 m (List.mem_cons_self ..)
        rw [hkind] at this
        cases this
      refine iff_of_false hnot fun hboth => ?_
      exact hboth.1 snapshot (by rw [hdrop]; simp) ha.snapshot
    · obtain ⟨out, hout, -⟩ := id hsends
      exact h.grow hout rfl rfl (hquiet (fun hv' => (hv hv').elim) hsends)

/-- The call's own request is taken up. -/
theorem InCall.own (h : InCall build l kind requestId flags settled start heard) {request : ClientMessage}
    (hqueue : l.toScript = [request]) (hid : request.messageId = requestId) (hresync : request.isResync = true)
    (hu : Unanswered requestId (l.script.sent.drop start))
    (hsettled : build.protocolVersion = 2 →
      (settled = true ↔ ∀ m ∈ l.script.sent.drop start, m.messageType ≠ .stateSnapshot)) :
    InCall build (l.handle build api) kind requestId flags settled start heard := by
  rw [handle_cons hqueue]
  rcases Running.sent_handle_resync (r := l.script) build api request hresync with
    ⟨hv, hello, capabilities, response, snapshot, world, ha, hout⟩ | ⟨hv, out, hout, hquiet⟩
  · refine h.grow hout rfl rfl ?_
    have hlength : start + (l.script.sent.drop start).length = l.script.sent.length := by
      rw [List.length_drop]
      have := h.start_le
      omega
    have hread : l.read ≤ l.script.sent.length := by
      rw [h.read, ← hlength]
      exact Nat.add_le_add_left h.prefix_sent.length_le _
    refine .answered (l.script.sent.drop start) hello capabilities response snapshot world [] ?_ (hid ▸ ha) (by simp)
      rfl ?_ hu (hsettled hv) fun _ _ hlt => ?_
    · rw [drop_sent h.start_le hout, List.append_nil]
    · simp only [hresync, if_true, hid, hlength, Assoc.get_set_self]
    · rw [hlength] at hlt
      have hlt : l.script.sent.length + 4 < l.read := hlt
      omega
  · refine h.grow hout rfl rfl ?_
    exact .lost rfl (drop_sent h.start_le hout ▸ hu.append (.of_quiet hquiet))

theorem InCall.handle (h : InCall build l kind requestId flags settled start heard) :
    InCall build (l.handle build api) kind requestId flags settled start heard := by
  cases h.phase with
  | waiting before request queue id resync others unanswered hsettled =>
    cases before with
    | nil => exact h.own queue id resync unanswered fun hv => by simpa using hsettled hv
    | cons m before =>
      exact h.ahead queue id resync (fun m hm => others m (List.mem_cons_of_mem _ hm)) (others m (List.mem_cons_self ..))
        unanswered hsettled
  | answered _ _ _ _ _ _ _ _ _ _ queue _ _ _ _ =>
    rw [Link.handle, queue]
    exact h
  | lost queue _ =>
    rw [Link.handle, queue]
    exact h

/-! ## Steps of the client -/

end Link

/-- A value the client returned with was sent after its request was taken up. -/
def Return.Fresh (ret : Return) {α : Type} (s : Option (Sourced α)) : Prop :=
  ∃ place v, ret.takenUp = some place ∧ s = some v ∧ v.Since place

/-- `capabilities.world_snapshots` of the health a call returned. -/
def BridgeHealth.worldSnapshots (health : BridgeHealth) : Bool := health.capabilities.any (·.worldSnapshots)

/-- The world is always fresh; the snapshot is when the call found the link settled or waited for
the world. -/
structure Return.Correct (ret : Return) : Prop where
  snapshot : ret.Fresh ret.health.snapshot ↔
    ret.settled = true ∨ (ret.kind ≠ .verifyIdentity ∧ ret.health.worldSnapshots = true)
  world : ret.kind ≠ .verifyIdentity → ret.health.worldSnapshots = true → ret.Fresh ret.health.worldSnapshot

namespace Link
variable {γ : Type} {config : ClientConfig} {build : Build} {api : GameApi γ}
variable {l : Link γ} {kind : CallKind} {requestId : String} {flags flags' : Handshake} {settled : Bool}
  {start : Nat} {heard : List BridgeMessage} {m : BridgeMessage} {c' : Client}

/-- The next message of the script is the next one a call hears. -/
theorem InCall.prefix_next (h : InCall build l kind requestId flags settled start heard)
    (hm : l.script.sent[l.read]? = some m) : heard ++ [m] <+: l.script.sent.drop start := by
  obtain ⟨rest, hrest⟩ := h.prefix_sent
  have hnext : (l.script.sent.drop start)[heard.length]? = some m := by
    rw [List.getElem?_drop, ← h.read, hm]
  rw [← hrest, List.getElem?_append_right (Nat.le_refl _), Nat.sub_self] at hnext
  cases rest with
  | nil => simp at hnext
  | cons m' rest =>
    simp only [List.getElem?_cons_zero, Option.some.injEq] at hnext
    exact ⟨rest, by rw [← hrest, hnext]; simp⟩

/-- Where the loop waits for no world it ends as soon as the four flags are met. -/
theorem InCall.not_met (h : InCall build l kind requestId flags settled start heard)
    (hno : kind = .verifyIdentity ∨ build.worldSnapshots = false) : flags.met = false := by
  have hu := h.unfinished
  cases kind with
  | verifyIdentity => exact hu
  | synchronize reason =>
    have hw : build.worldSnapshots = false := by simpa using hno
    by_contra hmet
    have hmet : flags.met = true := by simpa using hmet
    have hcapable := h.heard.capable (h.heard.capabilities.2 (h.heard.met.1 hmet).2.1)
    simp [CallKind.finished, hmet, CallKind.needsWorld, hcapable, Running.capabilities, hw] at hu

/-- A call that has met its flags has been answered. -/
theorem InCall.answered (h : InCall build l kind requestId flags settled start heard)
    (hm : l.script.sent[l.read]? = some m) {c : Client} {f : Handshake}
    (hnext : Heard build requestId start (heard ++ [m]) c f) (hmet : f.met = true) :
    ∃ ahead hello capabilities response snapshot world after,
      l.script.sent.drop start = ahead ++ hello :: capabilities :: response :: snapshot :: (world ++ after) ∧
      Answer build requestId hello capabilities response snapshot world ∧
      l.takenUp.get requestId = some (start + ahead.length) ∧ Unanswered requestId ahead ∧
      (settled = true ↔ ∀ m ∈ ahead, m.messageType ≠ .stateSnapshot) ∧
      (kind ≠ .verifyIdentity → build.worldSnapshots = true → start + ahead.length + 4 < l.read →
        WorldSince (start + ahead.length) l.client) := by
  obtain ⟨-, -, ⟨response, hresponse, ht, hid⟩, -⟩ := hnext.met.1 hmet
  have hmem := (h.prefix_next hm).subset hresponse
  cases h.phase with
  | waiting _ _ _ _ _ _ unanswered _ => exact (unanswered response hmem ht hid).elim
  | answered ahead hello capabilities response snapshot world after sent answer _ _ taken unanswered hsettled
      collecting =>
    exact ⟨ahead, hello, capabilities, response, snapshot, world, after, sent, answer, taken, unanswered, hsettled,
      collecting⟩
  | lost _ unanswered => exact (unanswered response hmem ht hid).elim

section Next
variable (h : InCall build l kind requestId flags settled start heard) (hm : l.script.sent[l.read]? = some m)
  (hfits : m.messageType = .capabilities → m.payload = .capabilities (Running.capabilities build))
  (hstep : (l.client.receive config true m >>= fun c => kind.message config requestId l.read m c flags) =
    .ok (c', flags'))
include h hfits hstep

theorem InCall.heard_next : Heard build requestId start (heard ++ [m]) c' flags' := by
  obtain ⟨c₁, hkept, htook, -, -⟩ := CallKind.took_message hstep
  exact (h.heard.of_kept hkept).concat h.read hfits htook

include hm

/-- What the client returned with when it waited for no world. -/
theorem InCall.correct_short (hno : kind = .verifyIdentity ∨ build.worldSnapshots = false) (hmet : flags'.met = true) :
    Return.Correct
      { kind, takenUp := l.takenUp.get requestId, settled, health := (kind.returned c').health } := by
  have hnext := h.heard_next hfits hstep
  obtain ⟨ahead, hello, capabilities, response, snapshot, world, after, hsent, ha, htaken, hu, hsettled, -⟩ :=
    h.answered hm hnext hmet
  have hsentbefore := h.prefix_next hm
  rw [hsent] at hsentbefore
  have hworld : (kind.returned c').health.worldSnapshots = build.worldSnapshots := by
    have hcapable := hnext.capable (hnext.capabilities.2 (hnext.met.1 hmet).2.1)
    cases kind <;>
      simp [CallKind.returned, Client.setState, BridgeHealth.worldSnapshots, hcapable, Running.capabilities]
  have hsnapshot : (kind.returned c').health.snapshot = c'.health.snapshot := by cases kind <;> rfl
  have hnot : ¬ (kind ≠ .verifyIdentity ∧ (kind.returned c').health.worldSnapshots = true) := by
    rintro ⟨hk, hw⟩
    rw [hworld] at hw
    rcases hno with hno | hno
    · exact hk hno
    · rw [hno] at hw
      cases hw
  refine ⟨?_, fun hk hw => (hnot ⟨hk, hw⟩).elim⟩
  rw [or_iff_left hnot]
  simp only [Return.Fresh, hsnapshot, htaken, hsettled]
  rcases h.heard.first_met (h.not_met hno) hnext hmet ha hu hsentbefore with ⟨heq, hs⟩ | ⟨heq, hnone⟩
  · obtain ⟨s, hkept, hold⟩ := hnext.snapshot_before ha heq hs
    obtain ⟨m', hm', ht⟩ := hs
    refine iff_of_false ?_ fun hnone => hnone m' hm' ht
    rintro ⟨place, v, hplace, hv, hsince⟩
    rw [hkept] at hv
    cases hplace
    cases hv
    exact hold hsince
  · obtain ⟨s, hkept, hsince⟩ := hnext.snapshot_since ha heq
    exact iff_of_true ⟨_, s, rfl, hkept, hsince⟩ hnone

/-- What the client returned with when it waited for the world. -/
theorem InCall.correct_world (hkind : kind ≠ .verifyIdentity) (hbuild : build.worldSnapshots = true)
    (hworld : flags'.world = true) :
    Return.Correct
      { kind, takenUp := l.takenUp.get requestId, settled, health := (kind.returned c').health } := by
  have hnext := h.heard_next hfits hstep
  obtain ⟨c₁, hkept, -, -, htook⟩ := CallKind.took_message hstep
  rcases (htook hkind).world hworld with hold | ⟨ht, hmet, manifest, v, hmanifest, hsnapshot⟩
  · rw [h.world] at hold
    cases hold
  have hmet' := h.heard.met_concat hmet hnext
  obtain ⟨ahead, hello, capabilities, response, snapshot, world, after, hsent, ha, htaken, hu, -, hcollecting⟩ :=
    h.answered hm hnext hmet'
  have hsentbefore := h.prefix_next hm
  rw [hsent] at hsentbefore
  obtain ⟨more, heq, -⟩ := h.heard.up_to_response (h.heard.response.2 (h.heard.met.1 hmet).2.2.1) ha hu
    ((List.prefix_append _ _).trans hsentbefore)
  -- a completion is neither the call's own snapshot nor its manifest, so it comes behind both
  obtain ⟨newer, hmore, hlt⟩ : ∃ newer, more = snapshot :: newer ∧ 0 < newer.length := by
    rw [heq, List.append_assoc, List.prefix_append_right_inj] at hsentbefore
    simp only [List.cons_append, List.cons_prefix_cons, true_and] at hsentbefore
    cases more with
    | nil =>
      simp only [List.nil_append, List.cons_prefix_cons] at hsentbefore
      rw [hsentbefore.1, ha.snapshot] at ht
      cases ht
    | cons first newer =>
      simp only [List.cons_append, List.cons_prefix_cons] at hsentbefore
      obtain ⟨rfl, hsentbefore⟩ := hsentbefore
      refine ⟨newer, rfl, List.length_pos_iff.2 ?_⟩
      rintro rfl
      have hpages := ha.world
      rw [if_pos hbuild] at hpages
      obtain ⟨first, pages, complete, rfl, hfirst, -, -⟩ := hpages
      simp only [List.nil_append, List.cons_append, List.cons_prefix_cons] at hsentbefore
      rw [hsentbefore.1, hfirst] at ht
      cases ht
  have hread : start + ahead.length + 4 < l.read := by
    rw [h.read, heq, hmore]
    simp only [List.length_append, List.length_cons]
    omega
  obtain ⟨manifest', hmanifest', hsince, hpages⟩ := hcollecting hkind hbuild hread
  rw [hkept.worldManifest, hmanifest', Option.some.injEq] at hmanifest
  subst hmanifest
  rw [hkept.worldPages] at hsnapshot
  have hhealth : (kind.returned c').health.worldSnapshots = true := by
    have hcapable := hnext.capable (hnext.capabilities.2 (hnext.met.1 hmet').2.1)
    cases kind <;>
      simp [CallKind.returned, Client.setState, BridgeHealth.worldSnapshots, hcapable, Running.capabilities, hbuild]
  constructor
  · refine iff_of_true ?_ (.inr ⟨hkind, hhealth⟩)
    have hafter : heard ++ [m] = ahead ++ hello :: capabilities :: response :: snapshot :: (newer ++ [m]) := by
      rw [heq, hmore]
      simp
    obtain ⟨s, hs, hfresh⟩ := hnext.snapshot_since ha hafter
    refine ⟨_, s, htaken, ?_, hfresh⟩
    cases kind <;> exact hs
  · intro _ _
    refine ⟨_, ⟨v, manifest'.places ++ Client.pagePlaces l.client.worldPages ++ [l.read]⟩, htaken, ?_, ?_⟩
    · cases kind <;> exact hsnapshot
    · refine ⟨by simp, fun p hp => ?_⟩
      simp only [List.mem_append, List.mem_singleton] at hp
      rcases hp with (hp | hp) | rfl
      · exact hsince.2 p hp
      · exact hpages p hp
      · omega

omit hfits in
/-- Behind its own snapshot a call collects its own world. -/
theorem InCall.collecting_next {ahead world after : List BridgeMessage}
    {hello capabilities response snapshot : BridgeMessage}
    (hsent : l.script.sent.drop start = ahead ++ hello :: capabilities :: response :: snapshot :: (world ++ after))
    (ha : Answer build requestId hello capabilities response snapshot world) (hkind : kind ≠ .verifyIdentity)
    (hbuild : build.worldSnapshots = true)
    (hcollecting : start + ahead.length + 4 < l.read → WorldSince (start + ahead.length) l.client)
    (hread : start + ahead.length + 4 < l.read + 1) : WorldSince (start + ahead.length) c' := by
  obtain ⟨c₁, hkept, -, -, htook⟩ := CallKind.took_message hstep
  have hsentbefore := h.prefix_next hm
  rw [hsent] at hsentbefore
  -- the four flags are met, so a manifest is taken
  have hown : ahead ++ [hello, capabilities, response, snapshot] <+: heard := by
    refine List.prefix_of_prefix_length_le ⟨world ++ after, by simp⟩ ((List.prefix_append _ _).trans hsentbefore) ?_
    rw [h.read] at hread
    simp only [List.length_append, List.length_cons, List.length_nil]
    omega
  have hmet : flags.met = true := by
    rw [h.heard.met]
    exact ⟨⟨hello, hown.subset (by simp), ha.hello⟩, ⟨capabilities, hown.subset (by simp), ha.capabilities.1⟩,
      ⟨response, hown.subset (by simp), ha.response⟩, ⟨snapshot, hown.subset (by simp), ha.snapshot⟩⟩
  by_cases ht : m.messageType = .worldManifest
  · obtain ⟨v, hmanifest, hpages⟩ := (htook hkind).manifest ht hmet
    refine ⟨_, hmanifest, ⟨by simp, fun p hp => ?_⟩, fun p hp => ?_⟩
    · rw [List.mem_singleton] at hp
      omega
    · rw [hpages] at hp
      simp [Client.pagePlaces, Assoc.values] at hp
  · have hlt : start + ahead.length + 4 < l.read := by
      by_contra hge
      -- the message behind the snapshot is the manifest
      obtain ⟨more, rfl⟩ := hown
      have hnil : more = [] := by
        have hlength := h.read
        simp only [List.length_append, List.length_cons, List.length_nil] at hlength
        exact List.length_eq_zero_iff.1 (by omega)
      have hpages := ha.world
      rw [if_pos hbuild] at hpages
      obtain ⟨first, pages, complete, rfl, hfirst, -, -⟩ := hpages
      rw [hnil, List.append_nil, List.append_assoc, List.prefix_append_right_inj] at hsentbefore
      simp only [List.cons_append, List.nil_append, List.cons_prefix_cons, true_and] at hsentbefore
      exact ht (hsentbefore.1 ▸ hfirst)
    obtain ⟨manifest, hmanifest, hsince, hold⟩ := hcollecting hlt
    obtain ⟨hsame, hpages⟩ := (htook hkind).pages ht
    refine ⟨manifest, by rw [hsame, hkept.worldManifest, hmanifest], hsince, fun p hp => ?_⟩
    rcases hpages p hp with hp | rfl
    · rw [hkept.worldPages] at hp
      exact hold p hp
    · omega

/-- What a call returned with. -/
theorem InCall.correct (hfinished : kind.finished c' flags' = true) :
    Return.Correct
      { kind, takenUp := l.takenUp.get requestId, settled, health := (kind.returned c').health } := by
  have hnext := h.heard_next hfits hstep
  by_cases hno : kind = .verifyIdentity ∨ build.worldSnapshots = false
  · refine h.correct_short hm hfits hstep hno ?_
    cases kind with
    | verifyIdentity => exact hfinished
    | synchronize reason =>
      rw [CallKind.finished, Bool.and_eq_true] at hfinished
      exact hfinished.1
  · obtain ⟨hkind, hbuild⟩ := not_or.1 hno
    have hbuild : build.worldSnapshots = true := by simpa using hbuild
    refine h.correct_world hm hfits hstep hkind hbuild ?_
    cases kind with
    | verifyIdentity => exact (hkind rfl).elim
    | synchronize reason =>
      rw [CallKind.finished, Bool.and_eq_true] at hfinished
      have hcapable := hnext.capable (hnext.capabilities.2 (hnext.met.1 hfinished.1).2.1)
      simpa [CallKind.needsWorld, hcapable, Running.capabilities, hbuild] using hfinished.2

/-- A call that has not ended goes on. -/
theorem InCall.next (hunfinished : kind.finished c' flags' = false) :
    InCall build { l with read := l.read + 1, client := c', call := some (.handshake kind requestId flags' settled) }
      kind requestId flags' settled start (heard ++ [m]) := by
  have hnext := h.heard_next hfits hstep
  refine ⟨h.start_le, h.prefix_next hm, ?_, hnext, ?_, hunfinished, ?_⟩
  · simp only [h.read, List.length_append, List.length_singleton]
    omega
  · cases h.phase with
    | waiting before request queue id resync others unanswered hsettled =>
      exact .waiting before request queue id resync others unanswered hsettled
    | answered ahead hello capabilities response snapshot world after sent answer quiet queue taken unanswered
        hsettled collecting =>
      refine .answered ahead hello capabilities response snapshot world after sent answer quiet queue taken
        unanswered hsettled fun hkind hbuild hread => ?_
      exact h.collecting_next hm hstep sent answer hkind hbuild (collecting hkind hbuild) hread
    | lost queue unanswered => exact .lost queue unanswered
  · obtain ⟨c₁, -, -, hverify, htook⟩ := CallKind.took_message hstep
    by_contra hworld
    have hworld : flags'.world = true := by simpa using hworld
    by_cases hkind : kind = .verifyIdentity
    · rw [hverify hkind, h.world] at hworld
      cases hworld
    · rcases (htook hkind).world hworld with hold | ⟨-, hmet, -⟩
      · rw [h.world] at hold
        cases hold
      · have hmet' := h.heard.met_concat hmet hnext
        cases kind with
        | verifyIdentity => exact hkind rfl
        | synchronize reason => simp [CallKind.finished, hmet', hworld] at hunfinished

end Next

/-! ## Runs -/

/-- What holds between two steps. -/
structure Sound (build : Build) (l : Link γ) : Prop where
  read : l.read ≤ l.script.sent.length
  fits : ∀ m ∈ l.script.sent, Fits build l.usedIds m
  waiting : ∀ m ∈ l.toScript, m.messageId ∈ l.usedIds
  call : ∀ kind requestId flags settled, l.call = some (.handshake kind requestId flags settled) →
    ∃ start heard, InCall build l kind requestId flags settled start heard
  returns : ∀ ret ∈ l.returns, ret.Correct

/-- A link without a call in its loop, with the rest as before. -/
theorem Sound.idle (h : Sound build l) {l' : Link γ} (hscript : l'.script = l.script) (hqueue : l'.toScript = l.toScript)
    (hids : l'.usedIds = l.usedIds) (hreturns : l'.returns = l.returns) (hread : l'.read ≤ l.script.sent.length)
    (hcall : ∀ kind requestId flags settled, l'.call ≠ some (.handshake kind requestId flags settled)) :
    Sound build l' where
  read := by rw [hscript]; exact hread
  fits := by rw [hscript, hids]; exact h.fits
  waiting := by rw [hqueue, hids]; exact h.waiting
  call := fun kind requestId flags settled hc => (hcall kind requestId flags settled hc).elim
  returns := by rw [hreturns]; exact h.returns

/-- The script goes on quietly. -/
theorem Sound.quiet (h : Sound build l) {script : Running γ}
    (hs : Running.Sends (BridgeMessage.Quiet build) l.script script) : Sound build { l with script } := by
  obtain ⟨out, hout, hquiet⟩ := id hs
  refine ⟨?_, fun m hm => ?_, h.waiting, fun kind requestId flags settled hcall => ?_, h.returns⟩
  · rw [hout, List.length_append]
    exact Nat.le_add_right_of_le h.read
  · rw [hout] at hm
    rcases List.mem_append.1 hm with hm | hm
    · exact h.fits m hm
    · exact (hquiet m hm).fits _
  · obtain ⟨start, heard, hin⟩ := h.call kind requestId flags settled hcall
    exact ⟨start, heard, hin.quiet hs⟩

theorem Sound.emptied (h : Sound build l) : Sound build { l with toScript := [] } := by
  refine ⟨h.read, h.fits, by simp, fun kind requestId flags settled hcall => ?_, h.returns⟩
  obtain ⟨start, heard, hin⟩ := h.call kind requestId flags settled hcall
  exact ⟨start, heard, hin.emptied⟩

theorem Sound.handle (h : Sound build l) : Sound build (l.handle build api) := by
  cases hqueue : l.toScript with
  | nil =>
    rw [Link.handle, hqueue]
    exact h
  | cons m rest =>
    have hgrow : ∃ out, (l.script.handleMessage build api m.squirrel).sent = l.script.sent ++ out ∧
        ∀ m ∈ out, Fits build l.usedIds m := by
      have hid := h.waiting m (by simp [hqueue])
      have hquiet : Running.Sends (BridgeMessage.Quiet build) l.script (l.script.handleMessage build api m.squirrel) →
          ∃ out, (l.script.handleMessage build api m.squirrel).sent = l.script.sent ++ out ∧
            ∀ m ∈ out, Fits build l.usedIds m := by
        rintro ⟨out, hout, hquiet⟩
        exact ⟨out, hout, fun m hm => (hquiet m hm).fits _⟩
      by_cases hkind : m.isResync = true
      · rcases Running.sent_handle_resync (r := l.script) build api m hkind with
          ⟨-, hello, capabilities, response, snapshot, world, ha, hout⟩ | ⟨-, hs⟩
        · exact ⟨_, hout, ha.fits hid⟩
        · exact hquiet hs
      · exact hquiet (Running.quiet_handle_command build api m (by simpa using hkind))
    obtain ⟨out, hout, hfits⟩ := hgrow
    refine ⟨?_, ?_, ?_, fun kind requestId flags settled hcall => ?_, ?_⟩
    · rw [handle_cons hqueue]
      simp only [hout, List.length_append]
      exact Nat.le_add_right_of_le h.read
    · rw [handle_cons hqueue]
      simp only [hout, List.mem_append]
      rintro m (hm | hm)
      · exact h.fits m hm
      · exact hfits m hm
    · rw [handle_cons hqueue]
      exact fun m hm => h.waiting m (by simp [hqueue, hm])
    · rw [handle_cons hqueue] at hcall
      obtain ⟨start, heard, hin⟩ := h.call kind requestId flags settled hcall
      exact ⟨start, heard, hin.handle⟩
    · rw [handle_cons hqueue]
      exact h.returns

/-- A request under a new identifier is sent. -/
theorem Sound.send (h : Sound build l) {client : Client} {call : Option Call} {uuid : String}
    {companyId : Option Int} {payload : ClientPayload}
    (hcall : ∀ kind requestId flags settled, call = some (.handshake kind requestId flags settled) →
      ∃ start heard, InCall build ({ l with client, call }.send uuid companyId payload) kind requestId flags settled
        start heard) :
    Sound build ({ l with client, call }.send uuid companyId payload) := by
  refine ⟨h.read, fun m hm => ?_, fun m hm => ?_, hcall, h.returns⟩
  · obtain ⟨hcapabilities, hresponse⟩ := h.fits m hm
    refine ⟨hcapabilities, fun ht => ?_⟩
    obtain ⟨id, hid, hcorrelation⟩ := hresponse ht
    exact ⟨id, List.mem_append_left _ hid, hcorrelation⟩
  · rcases List.mem_append.1 hm with hm | hm
    · exact List.mem_append_left _ (h.waiting m hm)
    · rw [List.mem_singleton] at hm
      exact List.mem_append_right _ (by simp [hm])

/-- A call begins: its request is the last that waits. -/
theorem Sound.beginCall (h : Sound build l) {uuid : String} (hnew : messageIdOf uuid ∉ l.usedIds) :
    Sound build (l.beginCall config kind uuid) := by
  have hin : InCall build (l.beginCall config kind uuid) kind (messageIdOf uuid) {} l.settled l.read [] := by
    refine ⟨h.read, List.nil_prefix, rfl, .nil _, ?_, ?_, rfl⟩
    · refine .waiting l.toScript _ rfl rfl rfl (fun m hm heq => ?_) (fun m hm ht heq => ?_) fun _ => ?_
      · exact hnew (heq ▸ h.waiting m hm)
      · obtain ⟨id, hid, hcorrelation⟩ := (h.fits m (List.mem_of_mem_drop hm)).response ht
        rw [hcorrelation, Option.some.injEq] at heq
        exact hnew (heq ▸ hid)
      · simp [Link.settled, Link.beginCall, Link.send]
    · cases kind <;> rfl
  refine h.send fun kind' requestId' flags' settled' hcall => ?_
  cases hcall
  exact ⟨l.read, [], hin⟩

theorem Sound.beginCommand (h : Sound build l) (uuid : String) (payload : CommandRequestPayload) :
    Sound build (l.beginCommand config uuid payload) := by
  unfold Link.beginCommand
  split
  · exact h.send (by simp)
  · exact h

theorem Sound.handshakeMessage (h : Sound build l) (hcall : l.call = some (.handshake kind requestId flags settled))
    (hm : l.script.sent[l.read]? = some m) :
    Sound build (l.handshakeMessage config kind requestId flags settled m) := by
  obtain ⟨start, heard, hin⟩ := h.call kind requestId flags settled hcall
  have hfits := (h.fits m (List.mem_of_getElem? hm)).capabilities
  have hread : l.read + 1 ≤ l.script.sent.length := (List.getElem?_eq_some_iff.1 hm).1
  unfold Link.handshakeMessage
  cases hstep : l.client.receive config true m >>= fun c => kind.message config requestId l.read m c flags with
  | error e => exact h.idle rfl rfl rfl rfl hread (by simp)
  | ok next =>
    obtain ⟨c', flags'⟩ := next
    dsimp only
    split
    · rename_i hfinished
      refine ⟨hread, h.fits, h.waiting, by simp, fun ret hret => ?_⟩
      rcases List.mem_append.1 hret with hret | hret
      · exact h.returns ret hret
      · obtain rfl := List.mem_singleton.1 hret
        exact hin.correct hm hfits hstep hfinished
    · rename_i hfinished
      refine ⟨hread, h.fits, h.waiting, fun kind' requestId' f settled' hcall' => ?_, h.returns⟩
      cases hcall'
      exact ⟨start, _, hin.next hm hfits hstep (by simpa using hfinished)⟩

theorem Sound.commandMessage (h : Sound build l) {accepted : Bool} (hcall : l.call = some (.command requestId accepted))
    (hm : l.script.sent[l.read]? = some m) : Sound build (l.commandMessage config requestId m) := by
  have hread : l.read + 1 ≤ l.script.sent.length := (List.getElem?_eq_some_iff.1 hm).1
  unfold Link.commandMessage
  dsimp only
  split
  · exact h.idle rfl rfl rfl rfl hread (by simp)
  split
  · split
    · exact h.idle rfl rfl rfl rfl hread (by simp)
    · exact h.idle rfl rfl rfl rfl hread (by simp [hcall])
  · split
    · exact h.idle rfl rfl rfl rfl hread (by simp)
    · exact h.idle rfl rfl rfl rfl hread (by simp)
    · exact h.idle rfl rfl rfl rfl hread (by simp)
    · exact h.idle rfl rfl rfl rfl hread (by simp)
    · exact h.idle rfl rfl rfl rfl hread (by simp)
    · exact h.idle rfl rfl rfl rfl hread (by simp [hcall])

theorem Sound.receive (h : Sound build l) : Sound build (l.receive config) := by
  unfold Link.receive
  split
  · exact h.handshakeMessage ‹_› ‹_›
  · exact h.commandMessage ‹_› ‹_›
  · exact h

theorem Sound.fail (h : Sound build l) (error : BridgeError) : Sound build (l.fail error) := by
  unfold Link.fail
  split
  · exact h.idle rfl rfl rfl rfl h.read (by simp)
  · exact h.idle rfl rfl rfl rfl h.read (by simp)
  · exact h

theorem Sound.step (h : Sound build l) (action : Action γ) : Sound build (l.step config build api action) := by
  cases action with
  | begin kind uuid =>
    simp only [Link.step]
    split
    · exact h
    · rename_i hnew
      exact h.beginCall fun hmem => hnew (.inr hmem)
  | command uuid payload =>
    simp only [Link.step]
    split
    · exact h
    · exact h.beginCommand uuid payload
  | receive => exact h.receive
  | fail error => exact h.fail error
  | reconnect =>
    simp only [Link.step]
    split
    · exact h
    · rename_i hcall
      refine h.idle rfl rfl rfl rfl (Nat.le_refl _) fun kind requestId flags settled hc => hcall ?_
      have hc : l.call = some (.handshake kind requestId flags settled) := hc
      rw [hc]
      rfl
  | handle => exact h.handle
  | heartbeat => exact h.quiet (Running.quiet_sendHeartbeat build api)
  | elapse game => exact h.quiet (Running.Sends.of_sent_eq rfl)
  | restart saved game rand =>
    refine Sound.emptied (h.quiet ?_)
    exact Running.Sends.trans (Running.Sends.of_sent_eq rfl) (Running.quiet_start build api rand)

theorem Sound.run (h : Sound build l) (actions : List (Action γ)) : Sound build (l.run config build api actions) := by
  induction actions generalizing l with
  | nil => exact h
  | cons action actions ih => exact ih (h.step action)

/-- A client with a link to a script: nothing has gone over it. -/
def connect (script : Running γ) (client : Client) : Link γ where
  script := { script with sent := [] }
  client

theorem Sound.connect (script : Running γ) (client : Client) : Sound build (connect script client) := by
  constructor <;> simp [Link.connect]

end Link

/-- **Every return of a run is fresh, but for the snapshot of a call that waited for no world
and found an earlier answer under way.** -/
theorem synchronization_fresh {γ : Type} (config : ClientConfig) (build : Build) (api : GameApi γ)
    (script : Running γ) (client : Client) (actions : List (Action γ)) :
    ∀ ret ∈ ((Link.connect script client).run config build api actions).returns,
      (ret.Fresh ret.health.snapshot ↔
        ret.settled = true ∨ (ret.kind ≠ .verifyIdentity ∧ ret.health.worldSnapshots = true)) ∧
      (ret.kind ≠ .verifyIdentity → ret.health.worldSnapshots = true → ret.Fresh ret.health.worldSnapshot) := by
  intro ret hret
  have hcorrect := ((Link.Sound.connect script client).run actions).returns ret hret
  exact ⟨hcorrect.snapshot, hcorrect.world⟩

/-! ## A probe after an abandoned one -/

def probingConfig : ClientConfig where
  companyId := 0
  allowWrites := false
  rejectInstanceChange := false
  openttdVersion := "15.3"
  parses := BridgeMessage.fieldsOk

/-- The script answers an abandoned probe and the next one, whose loop ends in its own response. -/
def probes : List (Action String) :=
  [.begin .verifyIdentity "1", .fail .unavailable, .begin .verifyIdentity "2", .handle, .handle] ++
    List.replicate 9 .receive

def probed : Link String :=
  (Link.connect ((Running.start .v2 namingGame (1, 2) { bridge := {}, game := "Transport" })) {}).run probingConfig .v2
    namingGame probes

theorem probed_returns : probed.returns.map (fun ret => (ret.takenUp, ret.health.snapshot.map (·.places))) =
    [(some 6, some [3])] := by
  decide +kernel

theorem synchronization_fresh_probed : ∃ ret ∈ probed.returns, (ret.Fresh ret.health.snapshot ↔
    ret.settled = true ∨ (ret.kind ≠ .verifyIdentity ∧ ret.health.worldSnapshots = true)) := by
  obtain ⟨ret, hret, -⟩ := List.map_eq_singleton_iff.1 probed_returns
  have hmem : ret ∈ probed.returns := by simp [hret]
  exact ⟨ret, hmem, (synchronization_fresh _ _ _ _ _ _ ret hmem).1⟩

/-- The second probe returns the snapshot of the first one's answer. -/
theorem probe_returns_stale :
    ¬ ∀ ret ∈ probed.returns, ret.Fresh ret.health.snapshot := by
  intro h
  obtain ⟨ret, hret, hplaces⟩ := List.map_eq_singleton_iff.1 probed_returns
  obtain ⟨place, s, hplace, hs, hsince⟩ := h ret (by simp [hret])
  rw [hplace, hs] at hplaces
  simp only [Option.map_some, Prod.mk.injEq, Option.some.injEq] at hplaces
  obtain ⟨rfl, hthree⟩ := hplaces
  have hle := hsince.2 3 (by simp [hthree])
  omega

end SimPilot.GameScript
