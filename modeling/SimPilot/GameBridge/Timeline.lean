import SimPilot.GameBridge.Client
import SimPilot.GameBridge.Acceptance
import Mathlib.Data.List.Chain
/-!
# The timeline of a client

Whatever a bridge, or something in its place, puts on the link, the messages a client takes
between a hello it asked for and a snapshot it returns form one timeline: of one bridge
instance, session, map and save, with sequence numbers that leave nothing out. A method that
raises may leave the connection open and the client synchronized; what it has taken until then
still ends the timeline, and the next call goes on from there.
-/

namespace SimPilot.GameBridge

open Effect GameBridgeClient

/-- What went over the link: the messages written and the frames read, the last one last. -/
structure Wire where
  sent : List BridgeEnvelope
  delivered : List JsonValue

/-- The link replies anything. -/
def link : Semantics BridgeCall BridgeReply Wire
  | .write message, w, _, w' => w' = { w with sent := w.sent ++ [message] }
  | .readBody _, w, reply, w' => w' = match reply with
    | .ok body => { w with delivered := w.delivered ++ [body] }
    | .error _ => w
  | _, w, _, w' => w' = w

/-! ## Timelines -/

/-- `_validate_compatibility` has nothing against the message. -/
structure Compatible (expected : GameBridgeConfiguration) (m : BridgeEnvelope) : Prop where
  adapterVersion : m.adapterVersion = expected.expectedAdapterVersion
  gameId : m.gameId = expected.expectedGameId
  gameVersion : m.gameVersion = expected.expectedGameVersion
  platform : m.platform = expected.platform
  architecture : m.architecture = expected.architecture

theorem compatible_of_fault {expected : GameBridgeConfiguration} {m : BridgeEnvelope}
    (h : compatibilityFault expected m = none) : Compatible expected m := by
  unfold compatibilityFault at h
  split at h
  · cases h
  next hadapter =>
    split at h
    · cases h
    next hgame =>
      split at h
      · cases h
      next hversion =>
        split at h
        · cases h
        next hplatform =>
          rw [not_or, not_not, not_not] at hplatform
          exact ⟨not_not.1 hadapter, not_not.1 hgame, not_not.1 hversion, hplatform.1, hplatform.2⟩

/-- `b` comes right behind `a`. -/
structure Succeeds (a b : BridgeEnvelope) : Prop where
  bridgeSequence : b.bridgeSequence = a.bridgeSequence + 1
  bridgeInstanceId : b.bridgeInstanceId = a.bridgeInstanceId
  gameSessionId : b.gameSessionId = a.gameSessionId
  mapIdentity : b.mapIdentity = a.mapIdentity
  saveIdentity : b.saveIdentity = a.saveIdentity

structure Timeline (env : Surroundings) (delivered : List JsonValue) (messages : List BridgeEnvelope) : Prop where
  /-- In the order of the frames; between them may be frames the client refused. -/
  received : messages.Sublist (delivered.filterMap (parseEnvelope env.pydantic))
  compatible : ∀ m ∈ messages, Compatible env.configuration m
  successive : messages.IsChain Succeeds
  distinct : (messages.map (·.messageId)).Nodup

section Timelines
variable {env : Surroundings} {delivered : List JsonValue} {messages : List BridgeEnvelope} {m last : BridgeEnvelope}
  {body : JsonValue}

theorem Timeline.more (h : Timeline env delivered messages) : Timeline env (delivered ++ [body]) messages where
  received := by
    rw [List.filterMap_append]
    exact h.received.trans (List.sublist_append_left _ _)
  compatible := h.compatible
  successive := h.successive
  distinct := h.distinct

theorem Timeline.one (hbody : parseEnvelope env.pydantic body = some m) (hm : Compatible env.configuration m) :
    Timeline env (delivered ++ [body]) [m] where
  received := by
    rw [List.filterMap_append]
    simp only [List.filterMap_cons, hbody, List.filterMap_nil]
    exact List.sublist_append_right _ _
  compatible := by
    intro x hx
    rw [List.mem_singleton.1 hx]
    exact hm
  successive := List.isChain_singleton m
  distinct := List.nodup_singleton _

/-- A message behind the last one. -/
theorem Timeline.snoc (h : Timeline env delivered messages) (hlast : messages.getLast? = some last)
    (hbody : parseEnvelope env.pydantic body = some m) (hm : Compatible env.configuration m)
    (hnew : m.messageId ∉ messages.map (·.messageId)) (hnext : Succeeds last m) :
    Timeline env (delivered ++ [body]) (messages ++ [m]) where
  received := by
    rw [List.filterMap_append]
    simp only [List.filterMap_cons, hbody, List.filterMap_nil]
    exact h.received.append (List.Sublist.refl _)
  compatible := by
    intro x hx
    rcases List.mem_append.1 hx with hx | hx
    · exact h.compatible x hx
    · rw [List.mem_singleton.1 hx]
      exact hm
  successive := by
    refine h.successive.append (List.isChain_singleton m) ?_
    intro x hx y hy
    rw [hlast, Option.mem_some_iff] at hx
    rw [List.head?_cons, Option.mem_some_iff] at hy
    rw [← hx, ← hy]
    exact hnext
  distinct := by
    rw [List.map_append, List.nodup_append]
    refine ⟨h.distinct, List.nodup_singleton _, ?_⟩
    intro a ha b hb hab
    rw [List.map_singleton, List.mem_singleton] at hb
    exact hnew (by rw [← hb, ← hab]; exact ha)

/-- The last message of a chain, from its first. -/
theorem last_of_chain {rest : List BridgeEnvelope} : ∀ {first last : BridgeEnvelope},
    (first :: rest).IsChain Succeeds → (first :: rest).getLast? = some last →
      last.bridgeSequence = first.bridgeSequence + rest.length ∧ last.bridgeInstanceId = first.bridgeInstanceId ∧
        last.gameSessionId = first.gameSessionId ∧ last.mapIdentity = first.mapIdentity ∧
        last.saveIdentity = first.saveIdentity := by
  induction rest with
  | nil =>
    intro first last _ hlast
    rw [List.getLast?_singleton, Option.some.injEq] at hlast
    subst hlast
    simp
  | cons next rest ih =>
    intro first last hchain hlast
    rw [List.isChain_cons_cons] at hchain
    rw [List.getLast?_cons_cons] at hlast
    obtain ⟨hnext, hchain⟩ := hchain
    obtain ⟨hsequence, hbridge, hsession, hmap, hsave⟩ := ih hchain hlast
    refine ⟨?_, hbridge.trans hnext.bridgeInstanceId, hsession.trans hnext.gameSessionId,
      hmap.trans hnext.mapIdentity, hsave.trans hnext.saveIdentity⟩
    rw [hsequence, hnext.bridgeSequence, List.length_cons]
    omega

end Timelines

/-! ## A client on a timeline -/

/-- What `_receive` compares the next message with. -/
def GameBridgeClient.tracked (client : GameBridgeClient) :
    Option String × Option String × Option Identity × Option Identity × Option Int × List String :=
  (client.bridgeInstanceId, client.gameSessionId, client.mapIdentity, client.saveIdentity, client.lastBridgeSequence,
    client.seenMessageIds)

/-- The client has taken `messages` since its baseline. -/
structure Following (env : Surroundings) (client : GameBridgeClient) (wire : Wire) (messages : List BridgeEnvelope)
    (last : BridgeEnvelope) : Prop where
  timeline : Timeline env wire.delivered messages
  getLast : messages.getLast? = some last
  tracked : client.tracked = (some last.bridgeInstanceId, some last.gameSessionId, some last.mapIdentity,
    some last.saveIdentity, some last.bridgeSequence, (messages.map (·.messageId)).reverse)

/-- The attributes of the calls, which receiving leaves alone. -/
structure Steady (client client' : GameBridgeClient) : Prop where
  state : client'.state = client.state
  capabilities : client'.capabilities = client.capabilities

/-- One frame was read, and it was `m`. -/
def Took (env : Surroundings) (wire wire' : Wire) (m : BridgeEnvelope) : Prop :=
  ∃ body, parseEnvelope env.pydantic body = some m ∧
    wire' = { wire with delivered := wire.delivered ++ [body] }

section Receiving
variable {env : Surroundings} {client : GameBridgeClient} {wire : Wire} {messages : List BridgeEnvelope}
  {last m : BridgeEnvelope} {body : JsonValue}

theorem Following.more (h : Following env client wire messages last) :
    Following env client { wire with delivered := wire.delivered ++ [body] } messages last :=
  ⟨h.timeline.more, h.getLast, h.tracked⟩

/-- Only the attributes compared and the frames matter. -/
theorem Following.congr {client' : GameBridgeClient} {wire' : Wire} (h : Following env client wire messages last)
    (hclient : client'.tracked = client.tracked) (hwire : wire'.delivered = wire.delivered) :
    Following env client' wire' messages last :=
  ⟨by rw [hwire]; exact h.timeline, h.getLast, hclient.trans h.tracked⟩

theorem Following.succeeds (h : Following env client wire messages last) (hm : continuityFault client m = none) :
    Succeeds last m := by
  have ht := h.tracked
  simp only [GameBridgeClient.tracked, Prod.mk.injEq] at ht
  obtain ⟨hbridge, hsession, hmap, hsave, hsequence, -⟩ := ht
  simp only [continuityFault, hbridge, hsession, hmap, hsave, hsequence, Option.any_some, decide_eq_true_eq] at hm
  split at hm
  · cases hm
  next hb =>
    split at hm
    · cases hm
    next hs =>
      split at hm
      · cases hm
      next hmp =>
        split at hm
        · cases hm
        next hsv =>
          split at hm
          · cases hm
          next hsq =>
            exact ⟨not_not.1 hsq, (not_not.1 hb).symm, (not_not.1 hs).symm, not_not.1 hmp, not_not.1 hsv⟩

/-- The client goes on with `m`. -/
theorem Following.accept (h : Following env client wire messages last)
    (hbody : parseEnvelope env.pydantic body = some m) (hm : Compatible env.configuration m)
    (hnew : m.messageId ∉ client.seenMessageIds) (hnext : continuityFault client m = none) :
    Following env (client.accept m) { wire with delivered := wire.delivered ++ [body] } (messages ++ [m]) m := by
  have ht := h.tracked
  simp only [GameBridgeClient.tracked, Prod.mk.injEq] at ht
  have hseen : client.seenMessageIds = (messages.map (·.messageId)).reverse := ht.2.2.2.2.2
  refine ⟨h.timeline.snoc h.getLast hbody hm ?_ (h.succeeds hnext), List.getLast?_concat, ?_⟩
  · rw [hseen, List.mem_reverse] at hnew
    exact hnew
  · simp only [GameBridgeClient.tracked, GameBridgeClient.accept, hseen, List.map_append, List.map_cons, List.map_nil,
      List.reverse_append, List.reverse_cons, List.reverse_nil, List.nil_append, List.cons_append]

theorem following_baseline (client : GameBridgeClient) (wire : Wire) (hbody : parseEnvelope env.pydantic body = some m)
    (hm : Compatible env.configuration m) :
    Following env (({ client with seenMessageIds := [] } : GameBridgeClient).accept m)
      { wire with delivered := wire.delivered ++ [body] } [m] m :=
  ⟨.one hbody hm, rfl, rfl⟩

theorem readFrame_ends (env : Surroundings) (client : GameBridgeClient) (wire : Wire) :
    Py.Ends link (readFrame env) client wire
      (fun body client' wire' => client' = client ∧ wire' = { wire with delivered := wire.delivered ++ [body] })
      (fun _ client' wire' => client' = client ∧ wire' = wire) := by
  unfold readFrame
  refine .bind (.locals ?_)
  refine .ite (fun _ => .raise ⟨rfl, rfl⟩) fun _ => ?_
  refine .bind (.perform fun header wire₁ hheader => ?_)
  obtain rfl : wire₁ = wire := hheader
  refine .bind (.lift (fun size _ => ?_) fun _ _ => ⟨rfl, rfl⟩)
  refine .ite (fun _ => .raise ⟨rfl, rfl⟩) fun _ => ?_
  refine .bind (.perform fun reply wire₂ hreply => ?_)
  cases reply with
  | error fault =>
    refine .lift (fun _ h => ?_) fun _ _ => ⟨rfl, hreply⟩
    cases h
  | ok body =>
    refine .lift (fun _ h => ?_) fun _ h => ?_
    · cases h
      exact ⟨rfl, hreply⟩
    · cases h

theorem raiseIf_ends {fault : Option GameBridgeError} {ok : Unit → GameBridgeClient → Wire → Prop}
    {er : GameBridgeError → GameBridgeClient → Wire → Prop} (ho : fault = none → ok () client wire)
    (he : ∀ e, er e client wire) : Py.Ends link (raiseIf fault) client wire ok er := by
  cases fault with
  | none => exact .pure (ho rfl)
  | some e => exact .raise (he e)

theorem noteHeartbeat_ends (m : BridgeEnvelope) (client : GameBridgeClient) (wire : Wire) :
    Py.Ends link (noteHeartbeat m) client wire
      (fun _ client' wire' => (∃ now, client' = { client with lastHeartbeatAt := now }) ∧ wire' = wire)
      (fun _ client' wire' => client' = client ∧ wire' = wire) := by
  unfold noteHeartbeat
  refine .ite (fun _ => ?_) fun _ => .pure ⟨⟨client.lastHeartbeatAt, rfl⟩, rfl⟩
  split
  · refine .bind (.perform fun now wire₁ hnow => ?_)
    obtain rfl : wire₁ = wire := hnow
    exact .update ⟨⟨some now, rfl⟩, rfl⟩
  · exact .raise ⟨rfl, rfl⟩

/-- A message outside a baseline goes on with the timeline; a refusal leaves it as it is, or
with the message taken. -/
theorem receive_ends (h : Following env client wire messages last) :
    Py.Ends link (receive env false) client wire
      (fun m client' wire' => Following env client' wire' (messages ++ [m]) m ∧ Took env wire wire' m ∧
        Steady client client')
      (fun _ client' wire' => (∃ more last', Following env client' wire' (messages ++ more) last') ∧
        wire'.sent = wire.sent ∧ Steady client client') := by
  unfold receive
  refine .seq (readFrame_ends env client wire) ?_ ?_
  · rintro body client _ ⟨rfl, rfl⟩
    have hrefused : ∃ more last', Following env client { wire with delivered := wire.delivered ++ [body] }
        (messages ++ more) last' := ⟨[], last, by rw [List.append_nil]; exact h.more⟩
    cases hbody : parseEnvelope env.pydantic body with
    | none => exact .raise ⟨hrefused, rfl, rfl, rfl⟩
    | some m =>
      refine .bind (raiseIf_ends (fun hcompatible => ?_) fun _ => ⟨hrefused, rfl, rfl, rfl⟩)
      refine .bind (.locals ?_)
      refine .ite (fun _ => .raise ⟨hrefused, rfl, rfl, rfl⟩) fun hnew => ?_
      refine .bind (raiseIf_ends (fun hnext => ?_) fun _ => ⟨hrefused, rfl, rfl, rfl⟩)
      refine .bind (.update ?_)
      have htaken := h.accept hbody (compatible_of_fault hcompatible) hnew hnext
      refine .seq (noteHeartbeat_ends m _ _) ?_ ?_
      · rintro _ _ _ ⟨⟨now, rfl⟩, rfl⟩
        exact .pure ⟨htaken.congr rfl rfl, ⟨body, hbody, rfl⟩, rfl, rfl⟩
      · rintro _ _ _ ⟨rfl, rfl⟩
        exact ⟨⟨[m], m, htaken⟩, rfl, rfl, rfl⟩
  · rintro _ _ _ ⟨rfl, rfl⟩
    exact ⟨⟨[], last, by rw [List.append_nil]; exact h⟩, rfl, rfl, rfl⟩

/-- A baseline begins a timeline, wherever the client was. -/
theorem receive_baseline_ends (env : Surroundings) (client : GameBridgeClient) (wire : Wire) :
    Py.Ends link (receive env true) client wire
      (fun m client' wire' => Following env client' wire' [m] m ∧ Took env wire wire' m ∧ Steady client client')
      (fun _ client' _ => client'.state = client.state) := by
  unfold receive
  refine .seq (readFrame_ends env client wire) ?_ ?_
  · rintro body client _ ⟨rfl, rfl⟩
    cases hbody : parseEnvelope env.pydantic body with
    | none => exact .raise rfl
    | some m =>
      refine .bind (raiseIf_ends (fun hcompatible => ?_) fun _ => rfl)
      refine .bind (.locals ?_)
      refine .ite (fun _ => .raise rfl) fun _ => ?_
      refine .bind (.update ?_)
      refine .bind (.update ?_)
      have htaken := following_baseline client wire hbody (compatible_of_fault hcompatible)
      refine .seq (noteHeartbeat_ends m _ _) ?_ ?_
      · rintro _ _ _ ⟨⟨now, rfl⟩, rfl⟩
        exact .pure ⟨htaken.congr rfl rfl, ⟨body, hbody, rfl⟩, rfl, rfl⟩
      · rintro _ _ _ ⟨rfl, rfl⟩
        exact rfl
  · rintro _ _ _ ⟨rfl, rfl⟩
    exact rfl

end Receiving

/-! ## A synchronized client -/

/-- The timeline of a synchronized client begins with the hello it asked for and the manifest
it holds. -/
structure Negotiated (env : Surroundings) (client : GameBridgeClient) (wire : Wire) (hello manifest : BridgeEnvelope)
    (later : List BridgeEnvelope) (last : BridgeEnvelope) : Prop where
  following : Following env client wire (hello :: manifest :: later) last
  greeting : hello.messageType = .bridgeHello
  answered : ∃ request ∈ wire.sent, hello.correlationId = some request.messageId
  held : ∃ surfaces, manifest.payload = .capabilityManifest surfaces ∧ client.capabilities = some surfaces

/-- What every call keeps. -/
def InStep (env : Surroundings) (client : GameBridgeClient) (wire : Wire) : Prop :=
  client.state = .synchronized → ∃ hello manifest later last, Negotiated env client wire hello manifest later last

section Calls
variable {env : Surroundings} {client client' : GameBridgeClient} {wire wire' : Wire}
  {hello manifest last last' : BridgeEnvelope} {later more : List BridgeEnvelope}

theorem Negotiated.extend (h : Negotiated env client wire hello manifest later last)
    (hfollowing : Following env client' wire' (hello :: manifest :: (later ++ more)) last')
    (hsent : wire.sent ⊆ wire'.sent) (hcapabilities : client'.capabilities = client.capabilities) :
    Negotiated env client' wire' hello manifest (later ++ more) last' := by
  obtain ⟨request, hrequest, hanswered⟩ := h.answered
  obtain ⟨surfaces, hmanifest, hheld⟩ := h.held
  exact ⟨hfollowing, h.greeting, ⟨request, hsent hrequest, hanswered⟩, surfaces, hmanifest, hcapabilities.trans hheld⟩

theorem InStep.of_state (h : client.state ≠ .synchronized) : InStep env client wire := fun hs => absurd hs h

/-- Writing leaves the timeline as it is. -/
theorem send_ends (env : Surroundings) (client : GameBridgeClient) (wire : Wire) (type : MessageType)
    (payload : BridgePayload) : Py.Ends link (send env type payload) client wire
      (fun message client' wire' => (∃ n, client' = { client with outgoingSequence := n }) ∧
        wire' = { wire with sent := wire.sent ++ [message] } ∧ message.payload = payload)
      (fun _ client' wire' => (∃ n, client' = { client with outgoingSequence := n }) ∧
        wire'.delivered = wire.delivered ∧ wire.sent ⊆ wire'.sent) := by
  have hkept : ∃ n, client = { client with outgoingSequence := n } := ⟨client.outgoingSequence, rfl⟩
  unfold send
  refine .bind (.locals ?_)
  refine .ite (fun _ => .raise ⟨hkept, rfl, List.Subset.refl _⟩) fun _ => ?_
  refine .bind (.update ?_)
  refine .bind (.perform fun uuid wire₁ huuid => ?_)
  obtain rfl : wire₁ = wire := huuid
  refine .bind (.perform fun timestamp wire₂ hnow => ?_)
  obtain rfl : wire₂ = wire₁ := hnow
  refine .bind (.locals ?_)
  refine .ite (fun _ => .raise ⟨⟨_, rfl⟩, rfl, List.Subset.refl _⟩) fun _ => ?_
  refine .bind (.perform fun reply wire₃ hwrite => ?_)
  have hsent : wire₂.sent ⊆ wire₃.sent := by
    rw [hwrite]
    exact List.subset_append_left _ _
  have hdelivered : wire₃.delivered = wire₂.delivered := by rw [hwrite]
  cases reply with
  | ok u => exact .bind (.pure (.pure ⟨⟨_, rfl⟩, hwrite, rfl⟩))
  | error fault =>
    cases fault with
    | timedOut => exact .bind (.raise ⟨⟨_, rfl⟩, hdelivered, hsent⟩)
    | incomplete => exact .bind (.raise ⟨⟨_, rfl⟩, hdelivered, hsent⟩)
    | os => exact .bind (.raise ⟨⟨_, rfl⟩, hdelivered, hsent⟩)

theorem close_ends (client : GameBridgeClient) (wire : Wire) : Py.Ends link close client wire
    (fun _ client' _ => client'.state = .disconnected) (fun _ _ _ => False) := by
  unfold close
  refine .bind (.locals ?_)
  refine .bind (.update ?_)
  split
  · refine .bind (.perform fun _ wire₁ _ => ?_)
    exact .update rfl
  · exact .bind (.pure (.update rfl))

/-- The manifest behind the hello makes the client a synchronized one. -/
theorem receiveManifest_ends {request : BridgeEnvelope} (other wrongSchema : String)
    (h : Following env client wire [hello] hello) (hhello : hello.messageType = .bridgeHello)
    (hrequest : request ∈ wire.sent) (hanswered : hello.correlationId = some request.messageId)
    (hstate : client.state ≠ .synchronized) : Py.Ends link (receiveManifest env other wrongSchema) client wire
      (fun _ client' wire' => InStep env client' wire') (fun _ client' wire' => InStep env client' wire') := by
  unfold receiveManifest
  refine .seq (receive_ends h) ?_ ?_
  · rintro manifest client₁ wire₁ ⟨hfollowing, htook, hsteady⟩
    have hunsynchronized : client₁.state ≠ .synchronized := by
      rw [hsteady.state]
      exact hstate
    refine .ite (fun _ => .raise (InStep.of_state hunsynchronized)) fun _ => ?_
    split
    next surfaces hpayload =>
      refine .bind (.update (.pure fun _ => ⟨hello, manifest, [], manifest, ?_⟩))
      obtain ⟨body, -, rfl⟩ := htook
      exact ⟨hfollowing.congr rfl rfl, hhello, ⟨request, hrequest, hanswered⟩, surfaces, hpayload, rfl⟩
    next => exact .raise (InStep.of_state hunsynchronized)
  · rintro _ client₁ wire₁ ⟨-, -, hsteady⟩
    refine InStep.of_state ?_
    rw [hsteady.state]
    exact hstate

theorem negotiate_ends (client : GameBridgeClient) (wire : Wire) : Py.Ends link (negotiate env) client wire
    (fun _ client' wire' => InStep env client' wire') (fun _ _ _ => True) := by
  unfold negotiate
  refine .bind (.perform fun reply wire₁ _ => ?_)
  cases reply with
  | error fault => cases fault <;> exact .raise trivial
  | ok u =>
    refine .bind (.update ?_)
    refine .bind (.locals ?_)
    refine .ite (fun _ => .raise trivial) fun _ => ?_
    refine .seq (send_ends env _ _ _ _) ?_ fun _ _ _ _ => trivial
    rintro request client₂ wire₂ ⟨⟨n, rfl⟩, rfl, -⟩
    refine .seq (receive_baseline_ends env _ _) ?_ fun _ _ _ _ => trivial
    rintro hello client₃ wire₃ ⟨hfollowing, ⟨body, -, rfl⟩, hsteady⟩
    refine .ite (fun _ => .raise trivial) fun _ => ?_
    refine .ite (fun _ => .raise trivial) fun hhello => ?_
    refine .ite (fun _ => .raise trivial) fun hanswered => ?_
    split
    · refine (receiveManifest_ends _ _ hfollowing (not_not.1 hhello)
        (List.mem_append_right _ (List.mem_singleton_self request)) (not_not.1 hanswered) ?_).mono
        (fun _ _ _ hin => hin) fun _ _ _ _ => trivial
      rw [hsteady.state]
      exact fun h => by cases h
    · exact .raise trivial

theorem connect_ends (h : InStep env client wire) : Py.Ends link (connect env) client wire
    (fun _ client' wire' => InStep env client' wire') (fun _ client' wire' => InStep env client' wire') := by
  unfold connect
  refine .bind (.locals ?_)
  split
  · exact .pure h
  · refine .bind (.update ?_)
    refine .tryCatch ((negotiate_ends _ _).mono (fun _ _ _ hin => hin) fun e client₁ wire₁ _ => ?_)
    refine .bind (.update ?_)
    refine .seq (close_ends _ _) ?_ fun _ _ _ hfalse => hfalse.elim
    intro _ client₂ wire₂ hclosed
    refine .raise (InStep.of_state ?_)
    rw [hclosed]
    exact fun h => by cases h

theorem resynchronize_ends (reason : String) (h : InStep env client wire) :
    Py.Ends link (resynchronize env reason) client wire (fun _ client' wire' => InStep env client' wire')
      (fun _ client' wire' => InStep env client' wire') := by
  have hresynchronizing : ClientState.resynchronizing ≠ .synchronized := fun h => by cases h
  unfold resynchronize
  refine .bind (.locals ?_)
  refine .ite (fun _ => connect_ends h) fun _ => ?_
  refine .bind (.update ?_)
  refine .ite (fun _ => .raise (InStep.of_state hresynchronizing)) fun _ => ?_
  refine .seq (send_ends env _ _ _ _) ?_ ?_
  · rintro request client₁ wire₁ ⟨⟨n, rfl⟩, rfl, -⟩
    refine .bind (.update ?_)
    refine .seq (receive_baseline_ends env _ _) ?_ ?_
    · rintro hello client₂ wire₂ ⟨hfollowing, ⟨body, -, rfl⟩, hsteady⟩
      have hstate : client₂.state ≠ .synchronized := by
        rw [hsteady.state]
        exact hresynchronizing
      refine .ite (fun _ => .raise (InStep.of_state hstate)) fun hhello => ?_
      refine .ite (fun _ => .raise (InStep.of_state hstate)) fun hanswered => ?_
      exact receiveManifest_ends _ _ hfollowing (not_not.1 hhello)
        (List.mem_append_right _ (List.mem_singleton_self request)) (not_not.1 hanswered) hstate
    · intro _ client₂ wire₂ hstate
      refine InStep.of_state ?_
      rw [hstate]
      exact hresynchronizing
  · rintro _ client₁ wire₁ ⟨⟨n, rfl⟩, -, -⟩
    exact InStep.of_state hresynchronizing

/-- The frames of a successful wait are heartbeats and the response, all of them taken. -/
theorem awaitSnapshot_ends (request : BridgeEnvelope) (turns : Nat) : ∀ {client : GameBridgeClient} {wire : Wire}
    {messages : List BridgeEnvelope} {last : BridgeEnvelope}, Following env client wire messages last →
    Py.Ends link (awaitSnapshot env request turns) client wire
      (fun snapshot client' wire' => ∃ heartbeats response bodies, (∀ m ∈ heartbeats, m.messageType = .heartbeat) ∧
        takeSnapshot request response = .ok snapshot ∧
        bodies.map (parseEnvelope env.pydantic) = (heartbeats ++ [response]).map some ∧
        wire' = { wire with delivered := wire.delivered ++ bodies } ∧ Steady client client' ∧
        Following env client' wire' (messages ++ (heartbeats ++ [response])) response)
      (fun _ client' wire' => (∃ more last', Following env client' wire' (messages ++ more) last') ∧
        wire'.sent = wire.sent ∧ Steady client client') := by
  induction turns with
  | zero =>
    intro client wire messages last h
    exact .raise ⟨⟨[], last, by rw [List.append_nil]; exact h⟩, rfl, rfl, rfl⟩
  | succ turns ih =>
    intro client wire messages last h
    rw [awaitSnapshot]
    refine .seq (receive_ends h) ?_ fun _ _ _ he => he
    rintro response client₁ wire₁ ⟨hfollowing, ⟨body, hbody, rfl⟩, hsteady⟩
    refine .ite (fun hheartbeat => ?_) fun _ => .lift (fun snapshot htake => ?_) fun _ _ => ?_
    · refine (ih hfollowing).mono ?_ ?_
      · rintro snapshot client₂ wire₂ ⟨heartbeats, last₂, bodies, hheartbeats, htake, hbodies, rfl, hsteady₂, hf⟩
        refine ⟨response :: heartbeats, last₂, body :: bodies, ?_, htake, ?_, ?_, ?_, ?_⟩
        · intro m hm
          rcases List.mem_cons.1 hm with rfl | hm
          · exact hheartbeat
          · exact hheartbeats m hm
        · rw [List.map_cons, hbody, hbodies, List.cons_append, List.map_cons]
        · simp only [List.append_assoc, List.cons_append, List.nil_append]
        · exact ⟨hsteady₂.state.trans hsteady.state, hsteady₂.capabilities.trans hsteady.capabilities⟩
        · simp only [List.append_assoc, List.cons_append, List.nil_append] at hf ⊢
          exact hf
      · rintro _ client₂ wire₂ ⟨⟨more, last₂, hf⟩, hsent, hsteady₂⟩
        rw [List.append_assoc] at hf
        exact ⟨⟨[response] ++ more, last₂, hf⟩, hsent, hsteady₂.state.trans hsteady.state,
          hsteady₂.capabilities.trans hsteady.capabilities⟩
    · refine ⟨[], response, [body], ?_, htake, ?_, rfl, hsteady, hfollowing⟩
      · intro m hm
        cases hm
      · rw [List.map_singleton, hbody, List.nil_append, List.map_singleton]
    · exact ⟨⟨[response], response, hfollowing⟩, rfl, hsteady⟩

/-- What `request_full_snapshot` keeps, and what its snapshot is. -/
theorem requestFullSnapshot_ends (h : InStep env client wire) : Py.Ends link (requestFullSnapshot env) client wire
    (fun snapshot client' wire' => InStep env client' wire' ∧
      ∃ hello manifest earlier last request heartbeats response bodies,
        Negotiated env client wire hello manifest earlier last ∧
        request.payload = .fullSnapshotRequest last.bridgeInstanceId last.gameSessionId ∧
        (∀ m ∈ heartbeats, m.messageType = .heartbeat) ∧ takeSnapshot request response = .ok snapshot ∧
        bodies.map (parseEnvelope env.pydantic) = (heartbeats ++ [response]).map some ∧
        wire' = { sent := wire.sent ++ [request], delivered := wire.delivered ++ bodies } ∧
        Negotiated env client' wire' hello manifest (earlier ++ (heartbeats ++ [response])) response)
    (fun _ client' wire' => InStep env client' wire') := by
  unfold requestFullSnapshot
  refine .bind (.locals ?_)
  refine .ite (fun _ => .raise h) fun hstate => ?_
  obtain ⟨hello, manifest, earlier, last, hnegotiated⟩ := h (not_not.1 hstate)
  have htracked := hnegotiated.following.tracked
  simp only [GameBridgeClient.tracked, Prod.mk.injEq] at htracked
  rw [htracked.1, htracked.2.1]
  refine .seq (send_ends env _ _ _ _) ?_ ?_
  · rintro request _ _ ⟨⟨n, rfl⟩, rfl, hrequest⟩
    have hsent : wire.sent ⊆ wire.sent ++ [request] := List.subset_append_left _ _
    have hwritten : Following env ({ client with outgoingSequence := n } : GameBridgeClient)
        { wire with sent := wire.sent ++ [request] } (hello :: manifest :: earlier) last :=
      hnegotiated.following.congr rfl rfl
    refine (awaitSnapshot_ends request env.turns hwritten).mono ?_ ?_
    · rintro snapshot client₂ wire₂ ⟨heartbeats, response, bodies, hheartbeats, htake, hbodies, rfl, hsteady, hf⟩
      have hthen := hnegotiated.extend hf hsent hsteady.capabilities
      exact ⟨fun _ => ⟨hello, manifest, _, response, hthen⟩, hello, manifest, earlier, last, request, heartbeats,
        response, bodies, hnegotiated, hrequest, hheartbeats, htake, hbodies, rfl, hthen⟩
    · rintro _ client₂ wire₂ ⟨⟨more, last₂, hf⟩, hwire, hsteady⟩
      have hsub : wire.sent ⊆ wire₂.sent := by
        rw [hwire]
        exact hsent
      exact fun _ => ⟨hello, manifest, _, last₂, hnegotiated.extend hf hsub hsteady.capabilities⟩
  · rintro _ _ wire₂ ⟨⟨n, rfl⟩, hdelivered, hsub⟩
    refine fun _ => ⟨hello, manifest, earlier, last, ?_⟩
    have hf : Following env ({ client with outgoingSequence := n } : GameBridgeClient) wire₂
        (hello :: manifest :: (earlier ++ [])) last := by
      rw [List.append_nil]
      exact hnegotiated.following.congr rfl hdelivered
    have hthen := hnegotiated.extend hf hsub rfl
    rw [List.append_nil] at hthen
    exact hthen

end Calls

/-! ## Sessions -/

/-- The clients and links a process may have, behind any calls, with whatever came of them. -/
inductive Reached (env : Surroundings) : GameBridgeClient → Wire → Prop where
  | new (clientInstanceId : String) : Reached env (.new clientInstanceId) ⟨[], []⟩
  | connect {client client' : GameBridgeClient} {wire wire' : Wire} {answer : Except GameBridgeError (List String)}
      (h : Reached env client wire) (hr : (connect env client).Run link wire (answer, client') wire') :
      Reached env client' wire'
  | requestFullSnapshot {client client' : GameBridgeClient} {wire wire' : Wire}
      {answer : Except GameBridgeError GameSnapshot} (h : Reached env client wire)
      (hr : (requestFullSnapshot env client).Run link wire (answer, client') wire') : Reached env client' wire'
  | resynchronize {client client' : GameBridgeClient} {wire wire' : Wire} {reason : String}
      {answer : Except GameBridgeError (List String)} (h : Reached env client wire)
      (hr : (resynchronize env reason client).Run link wire (answer, client') wire') : Reached env client' wire'
  | close {client client' : GameBridgeClient} {wire wire' : Wire} {answer : Except GameBridgeError Unit}
      (h : Reached env client wire) (hr : (close client).Run link wire (answer, client') wire') :
      Reached env client' wire'

/-- A client in step stays so, whether the call returns or raises. -/
theorem InStep.of_ends {env : Surroundings} {α : Type} {m : Method α} {client client' : GameBridgeClient}
    {wire wire' : Wire} {answer : Except GameBridgeError α} (h : Py.Ends link m client wire
      (fun _ client' wire' => InStep env client' wire') (fun _ client' wire' => InStep env client' wire'))
    (hr : (m client).Run link wire (answer, client') wire') : InStep env client' wire' := by
  cases answer with
  | ok a => exact h.returns hr
  | error e => exact h.raises hr

theorem Reached.inStep {env : Surroundings} {client : GameBridgeClient} {wire : Wire} (h : Reached env client wire) :
    InStep env client wire := by
  induction h with
  | new => exact InStep.of_state fun h => by cases h
  | connect _ hr ih => exact InStep.of_ends (connect_ends ih) hr
  | requestFullSnapshot _ hr ih =>
    exact InStep.of_ends ((requestFullSnapshot_ends ih).mono (fun _ _ _ h => h.1) fun _ _ _ h => h) hr
  | resynchronize _ hr ih => exact InStep.of_ends (resynchronize_ends _ ih) hr
  | close _ hr _ =>
    refine InStep.of_ends ((close_ends _ _).mono (fun _ _ _ hclosed => ?_) fun _ _ _ h => h.elim) hr
    refine InStep.of_state ?_
    rw [hclosed]
    exact fun h => by cases h

/-- A snapshot that was answered on one timeline. -/
structure TimelineSnapshot (env : Surroundings) (client' : GameBridgeClient) (wire wire' : Wire)
    (snapshot : GameSnapshot) (hello manifest : BridgeEnvelope) (earlier heartbeats : List BridgeEnvelope)
    (request response : BridgeEnvelope) : Prop where
  timeline : Timeline env wire'.delivered (hello :: manifest :: (earlier ++ (heartbeats ++ [response])))
  greeting : hello.messageType = .bridgeHello
  /-- The hello was asked for. -/
  answered : ∃ first ∈ wire.sent, hello.correlationId = some first.messageId
  held : ∃ surfaces, manifest.payload = .capabilityManifest surfaces ∧ client'.capabilities = some surfaces
  /-- The call wrote its request alone, for the bridge and the session of the hello. -/
  asked : wire'.sent = wire.sent ++ [request]
  expected : request.payload = .fullSnapshotRequest hello.bridgeInstanceId hello.gameSessionId
  /-- The call read heartbeats and the response, and nothing was refused in between. -/
  read : ∃ bodies, wire'.delivered = wire.delivered ++ bodies ∧
    bodies.map (parseEnvelope env.pydantic) = (heartbeats ++ [response]).map some
  beats : ∀ m ∈ heartbeats, m.messageType = .heartbeat
  correlated : response.correlationId = some request.messageId
  carried : response.payload = .fullSnapshotResponse snapshot
  bridgeSequence : snapshot.bridgeSequence = hello.bridgeSequence + earlier.length + heartbeats.length + 2
  bridgeInstanceId : snapshot.bridgeInstanceId = hello.bridgeInstanceId
  gameSessionId : snapshot.gameSessionId = hello.gameSessionId
  mapIdentity : snapshot.mapIdentity = hello.mapIdentity
  saveIdentity : snapshot.saveIdentity = hello.saveIdentity
  gameId : snapshot.gameId = env.configuration.expectedGameId
  gameVersion : snapshot.gameVersion = env.configuration.expectedGameVersion
  adapterVersion : snapshot.adapterVersion = env.configuration.expectedAdapterVersion
  platform : snapshot.platform = env.configuration.platform
  architecture : snapshot.architecture = env.configuration.architecture

/-- What the checks of `takeSnapshot` leave. -/
theorem takeSnapshot_ok {request response : BridgeEnvelope} {snapshot : GameSnapshot}
    (h : takeSnapshot request response = .ok snapshot) : response.correlationId = some request.messageId ∧
      response.payload = .fullSnapshotResponse snapshot ∧ snapshotMatches response snapshot = true := by
  unfold takeSnapshot at h
  split at h
  · cases h
  · split at h
    · cases h
    · split at h
      · cases h
      next hcorrelated =>
        split at h
        next answer hpayload =>
          split at h
          next hmatches =>
            obtain rfl : answer = snapshot := Except.ok.inj h
            exact ⟨not_not.1 hcorrelated, hpayload, hmatches⟩
          next => cases h
        next => cases h

/-- **A snapshot belongs to the timeline of its connection**: behind any calls of a client on a
link that delivers anything, a snapshot that is returned was asked for by this call, came in
answer to it, and ends an unbroken timeline of messages that begins with a hello the client
asked for and the manifest it holds. -/
theorem snapshot_of_the_timeline {env : Surroundings} {client client' : GameBridgeClient} {wire wire' : Wire}
    {snapshot : GameSnapshot} (h : Reached env client wire)
    (hr : (requestFullSnapshot env client).Run link wire (.ok snapshot, client') wire') :
    ∃ hello manifest earlier heartbeats request response,
      TimelineSnapshot env client' wire wire' snapshot hello manifest earlier heartbeats request response := by
  obtain ⟨-, hello, manifest, earlier, last, request, heartbeats, response, bodies, hbefore, hrequest, hheartbeats,
    htake, hbodies, rfl, hthen⟩ := (requestFullSnapshot_ends h.inStep).returns hr
  obtain ⟨hcorrelated, hcarried, hmatches⟩ := takeSnapshot_ok htake
  simp only [snapshotMatches, Bool.and_eq_true, decide_eq_true_eq] at hmatches
  obtain ⟨⟨⟨⟨⟨⟨⟨⟨⟨hsequence, hbridge⟩, hsession⟩, hgame⟩, hversion⟩, hadapter⟩, hplatform⟩, harchitecture⟩, hmap⟩,
    hsave⟩ := hmatches
  have hfirst := last_of_chain hbefore.following.timeline.successive hbefore.following.getLast
  have hlast := last_of_chain hthen.following.timeline.successive hthen.following.getLast
  have hcompatible : Compatible env.configuration response :=
    hthen.following.timeline.compatible response (List.mem_of_getLast? hthen.following.getLast)
  refine ⟨hello, manifest, earlier, heartbeats, request, response, ?_⟩
  exact {
    timeline := hthen.following.timeline
    greeting := hthen.greeting
    answered := hbefore.answered
    held := hthen.held
    asked := rfl
    expected := by rw [hrequest, hfirst.2.1, hfirst.2.2.1]
    read := ⟨bodies, rfl, hbodies⟩
    beats := hheartbeats
    correlated := hcorrelated
    carried := hcarried
    bridgeSequence := by
      rw [hsequence, hlast.1]
      simp only [List.length_cons, List.length_append, List.length_nil]
      omega
    bridgeInstanceId := hbridge.trans hlast.2.1
    gameSessionId := hsession.trans hlast.2.2.1
    mapIdentity := hmap.trans hlast.2.2.2.1
    saveIdentity := hsave.trans hlast.2.2.2.2
    gameId := hgame.trans hcompatible.gameId
    gameVersion := hversion.trans hcompatible.gameVersion
    adapterVersion := hadapter.trans hcompatible.adapterVersion
    platform := hplatform.trans hcompatible.platform
    architecture := harchitecture.trans hcompatible.architecture }

/-! A visit to the rail network: the bridge greets the client, tells what it observes and answers
its request. -/

namespace Visit

def surroundings : Surroundings where
  configuration := {
    authenticationToken := "0123456789abcdef0123456789abcdef"
    expectedAdapterVersion := Core.railRoute.adapterVersion
    expectedGameId := Core.railRoute.gameId
    expectedGameVersion := Core.railRoute.supportedGameVersion
    platform := .macos
    architecture := .x86_64
    maximumMessageBytes := 1048576 }
  pydantic := lenient
  encodedSize _ := 1024
  turns := 4

/-- The frame of a message of the bridge. -/
def frame (sequence : Int) (type : Core.MessageType) (correlationId : Option String) (payload : JsonValue) :
    Option JsonValue :=
  Core.serializeEnvelope Core.railRoute (Core.envelopeOf Core.railRoute (named "network") "bridge"
    ("bridge:" ++ toString sequence) sequence type correlationId noon payload)

def frames : Option (List JsonValue) := do
  let hello ← frame 1 .bridgeHello (some "client:1") (Core.bridgeHelloPayload Core.railRoute)
  let manifest ← frame 2 .capabilityManifest none (Core.capabilityPayload Core.railRoute)
  let heartbeat ← frame 3 .heartbeat none Core.heartbeatPayload
  let answer ← Core.snapshotResponsePayload Core.railRoute (named "network") "bridge" 4 noon
  let response ← frame 4 .fullSnapshotResponse (some "client:2") answer
  return [hello, manifest, heartbeat, response]

/-- A link that has the frames to give, one after the other. -/
def giving (frames : List JsonValue) : (o : BridgeCall) → Wire → Option (BridgeReply o × Wire)
  | .openConnection, w => some (.ok (), w)
  | .closeConnection, w => some ((), w)
  | .uuid4, w => some (toString (w.sent.length + 1), w)
  | .now, w => some ("2026-01-01T12:00:00Z", w)
  | .write message, w => some (.ok (), { w with sent := w.sent ++ [message] })
  | .readHeader, w => some (.ok 1024, w)
  | .readBody _, w =>
    match frames[w.delivered.length]? with
    | some body => some (.ok body, { w with delivered := w.delivered ++ [body] })
    | none => some (.error .timedOut, w)

theorem giving_sound {frames : List JsonValue} (o : BridgeCall) (w : Wire) (r : BridgeReply o) (w' : Wire)
    (h : giving frames o w = some (r, w')) : link o w r w' := by
  cases o with
  | readBody size =>
    simp only [giving] at h
    split at h
    · cases h
      rfl
    · cases h
      rfl
  | write message =>
    cases h
    rfl
  | _ =>
    cases h
    rfl

def connected : Option ((Except GameBridgeError (List String) × GameBridgeClient) × Wire) :=
  (connect surroundings (.new "visitor")).play (giving (frames.getD [])) ⟨[], []⟩

def asked (p : (Except GameBridgeError (List String) × GameBridgeClient) × Wire) :
    Option ((Except GameBridgeError GameSnapshot × GameBridgeClient) × Wire) :=
  (requestFullSnapshot surroundings p.1.2).play (giving (frames.getD [])) p.2

theorem snapshot_answered : connected.any (fun p => (asked p).any fun q => q.1.1.isOk) = true := by decide +kernel

end Visit

theorem snapshot_of_the_timeline_visit : ∃ client client' wire wire' snapshot,
    Reached Visit.surroundings client wire ∧
      (requestFullSnapshot Visit.surroundings client).Run link wire (.ok snapshot, client') wire' ∧
      ∃ hello manifest earlier heartbeats request response, TimelineSnapshot Visit.surroundings client' wire wire'
        snapshot hello manifest earlier heartbeats request response := by
  obtain ⟨⟨⟨_, client⟩, wire⟩, hconnected, hany⟩ := (Option.any_eq_true _ _).1 Visit.snapshot_answered
  obtain ⟨⟨⟨answer, client'⟩, wire'⟩, hasked, hok⟩ := (Option.any_eq_true _ _).1 hany
  have hreached : Reached Visit.surroundings client wire :=
    .connect (.new "visitor") (Prog.run_of_play Visit.giving_sound hconnected)
  cases answer with
  | error e => cases hok
  | ok snapshot =>
    have hr := Prog.run_of_play Visit.giving_sound hasked
    exact ⟨client, client', wire, wire', snapshot, hreached, hr, snapshot_of_the_timeline hreached hr⟩

end SimPilot.GameBridge
