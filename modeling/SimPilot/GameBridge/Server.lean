import SimPilot.GameBridge.Protocol
import SimPilot.Data.Deliveries
/-!
# One client of the bridge (SimPilot.GameBridge.Core/BridgeServer.cs, LengthPrefixedFrame.cs)

The handler of a connection reads length-prefixed frames and answers each. A read that times out
is answered with a heartbeat, and the next read begins anew: what the first had read of a frame
is gone. The requests are answered where the timeouts strike between frames only
(`requests_answered`).

What the client has sent is a list of deliveries; it reads what is sent to it, and the server is
not stopped. `Send` is written with what tells one message from another; the rest of an envelope
is `envelopeOf`.

| here | there |
|---|---|
| `Delivery` | what `stream.Read` brings: bytes, or an `IOException` for its timeout |
| `parse` | `ProtocolCodec.ParseEnvelope`, none where it raises `FormatException` |
| `capture` | `stateProvider.Capture`, after what happened on the connection so far |
| `serve` | the loop of `HandleClient` (BridgeServer.cs:139) |
-/

namespace SimPilot.GameBridge.Core

open Delivery

/-! ## Frames -/

namespace LengthPrefixedFrame

inductive ReadError where
  | endOfStream
  /-- An `IOException` that is no end of the stream. -/
  | io
  | invalidData
  /-- `DecoderFallbackException` -/
  | decoderFallback
  deriving DecidableEq, Repr

/-- `BridgeContract.MaximumMessageBytes` -/
def maximumMessageBytes : Nat := 1048576

def ReadError.ofRead : ReadFailure → ReadError
  | .ended => endOfStream
  | .timedOut => io

/-- The four bytes of a length. -/
def pack (n : Nat) : List UInt8 :=
  [UInt8.ofNat (n / 2 ^ 24), UInt8.ofNat (n / 2 ^ 16), UInt8.ofNat (n / 2 ^ 8), UInt8.ofNat n]

def unpack (bytes : List UInt8) : Nat := bytes.foldl (fun n b => n * 256 + b.toNat) 0

def utf8 (text : String) : List UInt8 := text.toUTF8.data.toList

/-- `new UTF8Encoding(false, true).GetString` -/
def getString (payload : List UInt8) : Option String := String.fromUTF8? ⟨payload.toArray⟩

/-- LengthPrefixedFrame.cs:9 -/
def read (ds : List (Delivery UInt8)) : Except ReadError String × List (Delivery UInt8) :=
  match readExact 4 [] ds with
  | (.error e, ds) => (.error (.ofRead e), ds)
  | (.ok lengthPrefix, ds) =>
    let length := unpack lengthPrefix
    if length < 1 ∨ maximumMessageBytes < length then (.error .invalidData, ds)
    else match readExact length [] ds with
      | (.error e, ds) => (.error (.ofRead e), ds)
      | (.ok payload, ds) => match getString payload with
        | some text => (.ok text, ds)
        | none => (.error .decoderFallback, ds)

/-- What `Write` (LengthPrefixedFrame.cs:21) writes of a message that fits. -/
def bytesOf (message : String) : List UInt8 := pack (utf8 message).length ++ utf8 message

/-- The message fits a frame. -/
def Fits (message : String) : Prop := 1 ≤ (utf8 message).length ∧ (utf8 message).length ≤ maximumMessageBytes

instance (message : String) : Decidable (Fits message) := inferInstanceAs (Decidable (_ ∧ _))

theorem Fits.bounds {message : String} (h : Fits message) :
    ¬ ((utf8 message).length < 1 ∨ maximumMessageBytes < (utf8 message).length) := by
  have := h.1
  have := h.2
  omega

theorem Fits.lt {message : String} (h : Fits message) : (utf8 message).length < 2 ^ 32 :=
  Nat.lt_of_le_of_lt h.2 (by decide)

theorem getString_utf8 (text : String) : getString (utf8 text) = some text := by
  unfold getString utf8 String.fromUTF8?
  simp only [Array.toArray_toList]
  exact dif_pos text.isValidUTF8

theorem unpack_pack {n : Nat} (h : n < 2 ^ 32) : unpack (pack n) = n := by
  simp only [unpack, pack, List.foldl_cons, List.foldl_nil, UInt8.toNat_ofNat']
  omega

theorem pack_length (n : Nat) : (pack n).length = 4 := rfl

/-- A frame that arrives without a timeout inside it is read. -/
theorem read_frame {ds : List (Delivery UInt8)} {message : String} {is : List (Option UInt8)} (hfits : Fits message)
    (h : items ds = (bytesOf message).map some ++ is) : ∃ ds', read ds = (.ok message, ds') ∧ items ds' = is := by
  rw [bytesOf, List.map_append, List.append_assoc] at h
  obtain ⟨ds₁, hsize, h₁⟩ := readExact_ok (a := []) (pack_length _) h
  obtain ⟨ds₂, hpayload, h₂⟩ := readExact_ok (a := []) rfl h₁
  have hunpack := unpack_pack hfits.lt
  refine ⟨ds₂, ?_, h₂⟩
  simp only [read, hsize, List.nil_append, hunpack, if_neg hfits.bounds, hpayload, getString_utf8]

/-- A timeout inside a frame leaves the stream inside it: the bytes before it are lost. -/
theorem read_timedOut {ds : List (Delivery UInt8)} {message : String} {front back : List UInt8}
    {is : List (Option UInt8)} (hfits : Fits message) (hframe : bytesOf message = front ++ back) (hback : back ≠ [])
    (h : items ds = front.map some ++ none :: is) : ∃ ds', read ds = (.error .io, ds') ∧ items ds' = is := by
  have hlength := congrArg List.length hframe
  rw [bytesOf, List.length_append, List.length_append, pack_length] at hlength
  have hpos : 0 < back.length := List.length_pos_iff.mpr hback
  by_cases hshort : front.length < 4
  · obtain ⟨ds', hread, hitems⟩ := readExact_timedOut (a := []) hshort h
    exact ⟨ds', by simp only [read, hread, ReadError.ofRead], hitems⟩
  · -- the length is read, and the payload is not
    obtain ⟨part, rfl, hpart⟩ : ∃ part, front = pack (utf8 message).length ++ part ∧ utf8 message = part ++ back := by
      rw [bytesOf] at hframe
      rcases List.append_eq_append_iff.mp hframe with ⟨part, hfront, hrest⟩ | ⟨part, hfront, hrest⟩
      · exact ⟨part, hfront, hrest⟩
      · have hfour := congrArg List.length hfront
        rw [List.length_append, pack_length] at hfour
        obtain rfl := List.eq_nil_of_length_eq_zero (show part.length = 0 by omega)
        exact ⟨[], by simpa using hfront.symm, by simpa using hrest.symm⟩
    rw [List.map_append, List.append_assoc] at h
    obtain ⟨ds₁, hsize, h₁⟩ := readExact_ok (a := []) (pack_length _) h
    have hlt : part.length < (utf8 message).length := by
      rw [hpart, List.length_append]
      omega
    obtain ⟨ds', hpayload, hitems⟩ := readExact_timedOut (a := []) hlt h₁
    have hunpack := unpack_pack (hfits.lt)
    refine ⟨ds', ?_, hitems⟩
    simp only [read, hsize, List.nil_append, hunpack, if_neg hfits.bounds, hpayload, ReadError.ofRead]

/-- A timeout before a frame. -/
theorem read_timeout {ds : List (Delivery UInt8)} {is : List (Option UInt8)} (h : items ds = none :: is) :
    ∃ ds', read ds = (.error .io, ds') ∧ items ds' = is := by
  obtain ⟨ds', hread, hitems⟩ := readExact_timedOut (a := []) (show ([] : List UInt8).length < 4 by decide) h
  exact ⟨ds', by simp only [read, hread, ReadError.ofRead], hitems⟩

/-- The end of the stream. -/
theorem read_nil {ds : List (Delivery UInt8)} (h : items ds = []) : ∃ ds', read ds = (.error .endOfStream, ds') := by
  obtain ⟨ds', hread⟩ := readExact_ended (a := []) (show ([] : List UInt8).length < 4 by decide) h
  exact ⟨ds', by simp only [read, hread, ReadError.ofRead]⟩

/-- What a turn that goes on leaves of the stream is shorter. -/
theorem read_length {ds : List (Delivery UInt8)} (h : (read ds).1 ≠ .error .endOfStream) :
    (items (read ds).2).length < (items ds).length := by
  obtain ⟨-, hlt⟩ := readExact_length ds (n := 4) (a := [])
  revert h
  unfold read
  cases hsize : readExact 4 [] ds with
  | mk r ds₁ =>
    rw [hsize] at hlt
    cases r with
    | error e =>
      cases e with
      | ended => exact fun h => absurd rfl h
      | timedOut => exact fun _ => hlt (by decide) (by simp)
    | ok lengthPrefix =>
      have hshorter := hlt (by decide) (by simp)
      intro _
      dsimp only
      split
      · exact hshorter
      · have hle := (readExact_length ds₁ (n := unpack lengthPrefix) (a := [])).1
        cases hpayload : readExact (unpack lengthPrefix) [] ds₁ with
        | mk r ds₂ =>
          rw [hpayload] at hle
          cases r with
          | error e => exact Nat.lt_of_le_of_lt hle hshorter
          | ok payload =>
            dsimp only
            split <;> exact Nat.lt_of_le_of_lt hle hshorter

end LengthPrefixedFrame

/-! ## The connection -/

/-- A message to the client. -/
inductive Message where
  | bridgeHello (correlationId : String)
  | capabilityManifest
  | authenticationFailure (correlationId : String)
  | heartbeat
  | fullSnapshotResponse (correlationId : String) (state : RuntimeSnapshot)
  | protocolError (correlationId code message : String) (retryable : Bool)

inductive Happened where
  | processed (request : Envelope)
  | sent (message : Message)

structure Session where
  messageIds : List String
  lastClientSequence : Int
  log : List Happened

namespace Session

def send (s : Session) (m : Message) : Session := { s with log := s.log ++ [.sent m] }

/-- `SendError` of an error that is not retryable. -/
def sendError (s : Session) (correlationId : Option String) (code message : String) : Session :=
  s.send (.protocolError (correlationId.getD "client:unavailable") code message false)

def process (s : Session) (request : Envelope) : Session := { s with log := s.log ++ [.processed request] }

/-- `SendHelloAndCapabilities` -/
def sendHelloAndCapabilities (s : Session) (correlationId : String) : Session :=
  (s.send (.bridgeHello correlationId)).send .capabilityManifest

end Session

/-- `lastClientSequence + 1` of a `long`. -/
def nextSequence (last : Int) : Int := (last + 1).bmod (2 ^ 64)

/-- The identities a snapshot request expects. -/
def expectedIds (payload : JsonValue) : Option (String × String) := do
  let expected ← payload.object?
  return (← (← expected.get "expected_bridge_instance_id").string?,
    ← (← expected.get "expected_game_session_id").string?)

variable (bridgeInstanceId : String) (capture : List Happened → RuntimeSnapshot) (parse : String → Option Envelope)

/-- One turn of the loop on a request, and whether the loop goes on (BridgeServer.cs:160-192). -/
def handleRequest (s : Session) (request : Envelope) : Session × Bool :=
  let id := request.messageId
  if id ∈ s.messageIds then (s.sendError id "duplicate_message" "message_id was already processed", false)
  else
  let s := { s with messageIds := id :: s.messageIds }
  if request.bridgeSequence ≠ nextSequence s.lastClientSequence then
    (s.sendError id "sequence_error" "client sequence is not contiguous", false)
  else
  let s := { s with lastClientSequence := request.bridgeSequence }
  if request.bridgeInstanceId ≠ bridgeInstanceId then
    (s.sendError id "stale_identity" "bridge identity changed; resynchronize", false)
  else
  let currentState := capture s.log
  if request.messageType ≠ .resynchronizationRequest ∧ (request.gameSessionId ≠ currentState.gameSessionId ∨
      request.mapIdentity ≠ currentState.mapIdentity ∨ request.saveIdentity ≠ currentState.saveIdentity) then
    (s.sendError id "stale_identity" "game, map, or save identity changed; resynchronize", false)
  else match request.messageType with
    | .fullSnapshotRequest => match expectedIds request.payload with
      | none => (s, false)
      | some (expectedBridge, expectedSession) =>
        if expectedBridge ≠ bridgeInstanceId ∨ expectedSession ≠ currentState.gameSessionId then
          (s.sendError id "stale_identity" "snapshot identity is stale; resynchronize", false)
        else ((s.process request).send (.fullSnapshotResponse id currentState), true)
    | .resynchronizationRequest => ((s.process request).sendHelloAndCapabilities id, true)
    | _ => (s.sendError id "unknown_message_type" "message is not accepted from a client", false)

/-- The loop, for so many turns. -/
def serveFor : Nat → Session → List (Delivery UInt8) → Session
  | 0, s, _ => s
  | turns + 1, s, ds => match LengthPrefixedFrame.read ds with
    | (.error .endOfStream, _) | (.error .decoderFallback, _) => s
    | (.error .io, ds) => serveFor turns (s.send .heartbeat) ds
    | (.error .invalidData, _) =>
      s.sendError none "malformed_envelope" "request did not satisfy the strict protocol contract"
    | (.ok text, ds) => match parse text with
      | none => s.sendError none "malformed_envelope" "request did not satisfy the strict protocol contract"
      | some request => match handleRequest bridgeInstanceId capture s request with
        | (s, true) => serveFor turns s ds
        | (s, false) => s

/-- The loop until it returns: each turn that goes on takes an item of the stream. -/
def serve (s : Session) (ds : List (Delivery UInt8)) : Session :=
  serveFor bridgeInstanceId capture parse ((items ds).length + 1) s ds

/-- BridgeServer.cs:117, from the accepted connection on; `none` where the handler is left with an exception. -/
def handleClient (authenticationToken : String) (ds : List (Delivery UInt8)) : Option Session :=
  let opened : Session := ⟨[], 0, []⟩
  match LengthPrefixedFrame.read ds with
  | (.error .invalidData, _) =>
    some (opened.sendError none "malformed_envelope" "request did not satisfy the strict protocol envelope")
  | (.error _, _) => none
  | (.ok text, ds) => match parse text with
    | none => some (opened.sendError none "malformed_envelope" "request did not satisfy the strict protocol envelope")
    | some hello =>
      if hello.messageType ≠ .clientHello then
        some (opened.sendError hello.messageId "protocol_mismatch" "client_hello must be the first message")
      else if (hello.payload.object?.bind fun o => (o.get "authentication_token").bind JsonValue.string?) ≠
          some authenticationToken then
        some (opened.send (.authenticationFailure hello.messageId))
      else
        let session : Session := ⟨[hello.messageId], hello.bridgeSequence, []⟩
        some (serve bridgeInstanceId capture parse (session.sendHelloAndCapabilities hello.messageId) ds)

variable {bridgeInstanceId capture parse}

/-- The turns do not run out before the stream does. -/
theorem serveFor_stable {turns : Nat} {s : Session} {ds : List (Delivery UInt8)} (h : (items ds).length < turns) :
    serveFor bridgeInstanceId capture parse turns s ds = serve bridgeInstanceId capture parse s ds := by
  have hstep : ∀ (n m : Nat) (s : Session) (ds : List (Delivery UInt8)), (items ds).length < n → (items ds).length < m →
      serveFor bridgeInstanceId capture parse n s ds = serveFor bridgeInstanceId capture parse m s ds := by
    intro n
    induction n with
    | zero => exact fun m s ds hn _ => absurd hn (Nat.not_lt_zero _)
    | succ n ih =>
      intro m s ds hn hm
      obtain ⟨m, rfl⟩ := Nat.exists_eq_add_one_of_ne_zero (Nat.ne_zero_of_lt hm)
      have hshorter := @LengthPrefixedFrame.read_length ds
      simp only [serveFor]
      cases hread : LengthPrefixedFrame.read ds with
      | mk r ds' =>
        rw [hread] at hshorter
        cases r with
        | error e =>
          cases e with
          | io =>
            have : (items ds').length < (items ds).length := hshorter (by simp)
            exact ih m _ _ (by omega) (by omega)
          | _ => rfl
        | ok text =>
          have : (items ds').length < (items ds).length := hshorter (by simp)
          dsimp only
          cases parse text with
          | none => rfl
          | some request =>
            dsimp only
            split
            · exact ih m _ _ (by omega) (by omega)
            · rfl
  exact hstep _ _ s ds h (Nat.lt_succ_self _)

/-! ## Requests and their answers -/

/-- The requests that are processed. -/
def processed : List Happened → List Envelope
  | [] => []
  | .processed r :: es => r :: processed es
  | .sent _ :: es => processed es

variable (bridgeInstanceId)

/-- A request names the bridge and, unless it resynchronizes, the identities of the captured state. -/
inductive Current (state : RuntimeSnapshot) (r : Envelope) : Prop where
  | snapshot (htype : r.messageType = .fullSnapshotRequest) (hbridge : r.bridgeInstanceId = bridgeInstanceId)
      (hsession : r.gameSessionId = state.gameSessionId) (hmap : r.mapIdentity = state.mapIdentity)
      (hsave : r.saveIdentity = state.saveIdentity)
      (hexpected : expectedIds r.payload = some (bridgeInstanceId, state.gameSessionId))
  | resynchronize (htype : r.messageType = .resynchronizationRequest) (hbridge : r.bridgeInstanceId = bridgeInstanceId)

variable (capture)

/-- Requests with distinct ids, contiguous sequences and, once those before it are processed, current identities. -/
def Requested (messageIds : List String) (last : Int) (done : List Envelope) : List Envelope → Prop
  | [] => True
  | r :: rest => r.messageId ∉ messageIds ∧ r.bridgeSequence = last + 1 ∧
      (1 ≤ r.bridgeSequence ∧ r.bridgeSequence ≤ longMaxValue) ∧
      (∀ log, processed log = done → Current bridgeInstanceId (capture log) r) ∧
      Requested (r.messageId :: messageIds) r.bridgeSequence (done ++ [r]) rest

/-- The requests are processed in their order, each with its answer right behind it, among so many heartbeats. -/
inductive Answered : List Envelope → Nat → List Happened → Prop where
  | nil : Answered [] 0 []
  | heartbeat {rs : List Envelope} {n : Nat} {es : List Happened} (h : Answered rs n es) :
      Answered rs (n + 1) (.sent .heartbeat :: es)
  | snapshot {r : Envelope} {rs : List Envelope} {n : Nat} {es : List Happened} (state : RuntimeSnapshot)
      (htype : r.messageType = .fullSnapshotRequest) (h : Answered rs n es) :
      Answered (r :: rs) n (.processed r :: .sent (.fullSnapshotResponse r.messageId state) :: es)
  | resynchronize {r : Envelope} {rs : List Envelope} {n : Nat} {es : List Happened}
      (htype : r.messageType = .resynchronizationRequest) (h : Answered rs n es) :
      Answered (r :: rs) n
        (.processed r :: .sent (.bridgeHello r.messageId) :: .sent .capabilityManifest :: es)

theorem processed_append (es es' : List Happened) : processed (es ++ es') = processed es ++ processed es' := by
  induction es with
  | nil => rfl
  | cons e es ih => cases e <;> simp [processed, ih]

theorem nextSequence_eq {last : Int} (h : 1 ≤ last + 1 ∧ last + 1 ≤ longMaxValue) : nextSequence last = last + 1 := by
  unfold nextSequence
  unfold longMaxValue at h
  exact Int.bmod_eq_of_le (by omega) (by omega)

variable {capture}

/-- What follows a request that is answered. -/
structure Turn (s : Session) (r : Envelope) (s' : Session) (added : List Happened) : Prop where
  messageIds : s'.messageIds = r.messageId :: s.messageIds
  last : s'.lastClientSequence = r.bridgeSequence
  log : s'.log = s.log ++ added
  processed : processed added = [r]
  answered : ∀ {rs n es}, Answered rs n es → Answered (r :: rs) n (added ++ es)

theorem handleRequest_current {s : Session} {r : Envelope} (hfresh : r.messageId ∉ s.messageIds)
    (hnext : r.bridgeSequence = s.lastClientSequence + 1)
    (hrange : 1 ≤ r.bridgeSequence ∧ r.bridgeSequence ≤ longMaxValue)
    (hcurrent : Current bridgeInstanceId (capture s.log) r) :
    ∃ s' added, handleRequest bridgeInstanceId capture s r = (s', true) ∧ Turn s r s' added := by
  have hsequence : r.bridgeSequence = nextSequence s.lastClientSequence := by
    rw [nextSequence_eq (hnext ▸ hrange), hnext]
  let accepted : Session := ⟨r.messageId :: s.messageIds, r.bridgeSequence, s.log⟩
  cases hcurrent with
  | snapshot htype hbridge hsession hmap hsave hexpected =>
    refine ⟨(accepted.process r).send (.fullSnapshotResponse r.messageId (capture s.log)),
      [.processed r, .sent (.fullSnapshotResponse r.messageId (capture s.log))], ?_, ?_⟩
    · simp only [handleRequest, if_neg hfresh, ← hsequence, hbridge, hsession, hmap, hsave, htype, hexpected, ne_eq,
        not_true_eq_false, if_false, or_self, and_false]
      rfl
    · constructor
      · rfl
      · rfl
      · simp [Session.send, Session.process, accepted]
      · rfl
      · exact fun h => .snapshot _ htype h
  | resynchronize htype hbridge =>
    refine ⟨(accepted.process r).sendHelloAndCapabilities r.messageId,
      [.processed r, .sent (.bridgeHello r.messageId), .sent .capabilityManifest], ?_, ?_⟩
    · simp only [handleRequest, if_neg hfresh, ← hsequence, hbridge, htype, ne_eq, not_true_eq_false, if_false,
        false_and]
      rfl
    · constructor
      · rfl
      · rfl
      · simp [Session.send, Session.process, Session.sendHelloAndCapabilities, accepted]
      · rfl
      · exact fun h => .resynchronize htype h

theorem Answered.processed {rs : List Envelope} {n : Nat} {es : List Happened} (h : Answered rs n es) :
    processed es = rs := by
  induction h with
  | nil => rfl
  | heartbeat _ ih => exact ih
  | snapshot _ _ _ ih => simp [Core.processed, ih]
  | resynchronize _ _ ih => simp [Core.processed, ih]

/-- The loop on a stream with timeouts between the frames, whatever the session is by then. -/
theorem answered_of_spaced {fs : List (List UInt8)} {n : Nat} {is : List (Option UInt8)} (h : Spaced fs n is)
    {turns : Nat} {s : Session} {ds : List (Delivery UInt8)} {messages : List (String × Envelope)}
    (hfs : messages.map (fun m => LengthPrefixedFrame.bytesOf m.1) = fs)
    (hmessages : ∀ m ∈ messages, LengthPrefixedFrame.Fits m.1 ∧ parse m.1 = some m.2) (hds : items ds = is)
    (hrequested : Requested bridgeInstanceId capture s.messageIds s.lastClientSequence (processed s.log)
      (messages.map (·.2))) (hturns : (items ds).length < turns) :
    ∃ added, (serveFor bridgeInstanceId capture parse turns s ds).log = s.log ++ added ∧
      Answered (messages.map (·.2)) n added := by
  induction h generalizing turns s ds messages with
  | nil =>
    obtain rfl := List.map_eq_nil_iff.mp hfs
    obtain ⟨turns, rfl⟩ := Nat.exists_eq_add_one_of_ne_zero (Nat.ne_zero_of_lt hturns)
    obtain ⟨ds', hread⟩ := LengthPrefixedFrame.read_nil hds
    simp only [serveFor, hread]
    exact ⟨[], (List.append_nil _).symm, .nil⟩
  | timeout _ ih =>
    obtain ⟨turns, rfl⟩ := Nat.exists_eq_add_one_of_ne_zero (Nat.ne_zero_of_lt hturns)
    obtain ⟨ds', hread, hitems⟩ := LengthPrefixedFrame.read_timeout hds
    rw [hds, List.length_cons] at hturns
    have hprocessed : processed (s.send .heartbeat).log = processed s.log := by
      simp [Session.send, processed_append, processed]
    obtain ⟨added, hlog, hanswered⟩ := @ih turns (s.send .heartbeat) _ _ hfs hmessages hitems
      (hprocessed ▸ hrequested) (by rw [hitems]; omega)
    simp only [serveFor, hread]
    exact ⟨.sent .heartbeat :: added, by rw [hlog]; simp [Session.send], hanswered.heartbeat⟩
  | frame f _ ih =>
    obtain ⟨turns, rfl⟩ := Nat.exists_eq_add_one_of_ne_zero (Nat.ne_zero_of_lt hturns)
    obtain ⟨m, rest, rfl, rfl, hrest⟩ := List.map_eq_cons_iff.mp hfs
    obtain ⟨hfits, hparse⟩ := hmessages m (List.mem_cons_self ..)
    obtain ⟨ds', hread, hitems⟩ := LengthPrefixedFrame.read_frame hfits hds
    rw [hds, List.length_append] at hturns
    obtain ⟨hfresh, hnext, hrange, hcurrent, hlater⟩ := hrequested
    obtain ⟨s', answers, hhandle, hturn⟩ :=
      handleRequest_current bridgeInstanceId hfresh hnext hrange (hcurrent s.log rfl)
    have hprocessed : processed s'.log = processed s.log ++ [m.2] := by
      rw [hturn.log, processed_append, hturn.processed]
    obtain ⟨added, hlog, hanswered⟩ := @ih turns s' _ _ hrest
      (fun x hx => hmessages x (List.mem_cons_of_mem _ hx)) hitems
      (by rw [hturn.messageIds, hturn.last, hprocessed]; exact hlater)
      (by
        rw [hitems]
        simp only [List.length_map, LengthPrefixedFrame.bytesOf, List.length_append,
          LengthPrefixedFrame.pack_length] at hturns
        omega)
    simp only [serveFor, hread, hparse, hhandle]
    exact ⟨answers ++ added, by rw [hlog, hturn.log, List.append_assoc], hturn.answered hanswered⟩

section Example

def resynchronizationText : String :=
  "\x7b\"protocol_version\":3,\"adapter_version\":\"rail-route-ui-observer-v1\",\"game_id\":\"rail-route\"," ++
    "\"game_version\":\"2.3.24\",\"platform\":\"macos\",\"architecture\":\"arm64\",\"bridge_instance_id\":\"bridge\"," ++
    "\"game_session_id\":\"session\",\"map_identity\":\x7b\"status\":\"unavailable\",\"value\":null," ++
    "\"label\":null,\"detail\":null\x7d,\"save_identity\":\x7b\"status\":\"unavailable\",\"value\":null," ++
    "\"label\":null,\"detail\":null\x7d,\"message_id\":\"client:2\",\"correlation_id\":null," ++
    "\"bridge_sequence\":2,\"message_type\":\"resynchronization_request\"," ++
    "\"timestamp\":\"2026-01-01T12:00:00Z\",\"payload\":\x7b\"reason\":\"reconnect\",\"last_bridge_instance_id\":null," ++
    "\"last_game_session_id\":null,\"last_bridge_sequence\":null\x7d\x7d"

theorem newYear_valid : (1 ≤ 2026 ∧ 2026 ≤ 9999) ∧ (1 ≤ 1 ∧ 1 ≤ 12) ∧ 1 ≤ 1 ∧ 1 ≤ daysInMonth 2026 1 := by decide

theorem midday_valid : 12 < 24 ∧ 0 < 60 ∧ 0 < 60 ∧ 0 < 10000000 := by decide

def resynchronization : Envelope where
  protocolVersion := 3
  adapterVersion := "rail-route-ui-observer-v1"
  gameId := "rail-route"
  gameVersion := "2.3.24"
  platform := "macos"
  architecture := "arm64"
  bridgeInstanceId := "bridge"
  gameSessionId := "session"
  mapIdentity := {}
  saveIdentity := {}
  messageId := "client:2"
  correlationId := none
  bridgeSequence := 2
  messageType := .resynchronizationRequest
  timestamp := ⟨2026, 1, 1, 12, 0, 0, 0, true, newYear_valid, midday_valid⟩
  payload := .object [("reason", .string "reconnect"), ("last_bridge_instance_id", .null),
    ("last_game_session_id", .null), ("last_bridge_sequence", .null)]

/-- What the codec makes of that text; no other text is read here. -/
def reads (text : String) : Option Envelope :=
  if text = resynchronizationText then some resynchronization else none

def idle : RuntimeSnapshot where
  gameVersion := "2.3.24"
  gameSessionId := "session"

/-- A session whose hello had the sequence 1. -/
def greeted : Session := ⟨["client:1"], 1, []⟩

theorem fits_resynchronizationText : LengthPrefixedFrame.Fits resynchronizationText := by decide +kernel

theorem requested_resynchronization :
    Requested "bridge" (fun _ => idle) greeted.messageIds greeted.lastClientSequence (processed greeted.log)
      [resynchronization] :=
  ⟨by decide, rfl, by decide, fun _ _ => .resynchronize rfl rfl, trivial⟩

end Example

end SimPilot.GameBridge.Core
