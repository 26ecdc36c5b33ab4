import SimPilot.AdminNetwork.Client
import Mathlib
/-!
# Whose answers a call reads

The server answers every request completely and in order; what it sent and where the client
reads are one `Connection`. As long as a call gives up only where nothing is unread, what it
leaves unread are statistics, which every later call skips.
-/

namespace SimPilot.AdminNetwork

open Effect Py Relation

/-! ## The connection -/

/-- A packet as the server sends it. -/
structure Frame where
  type : UInt8
  data : Bytes
  fits : 3 + data.length ≤ MAX_PACKET_SIZE

namespace Frame

def bytes (f : Frame) : Bytes := packLittleEndian 2 (3 + f.data.length) ++ f.type :: f.data

def packet (f : Frame) : Except OpenTTDError DecodedPacket := decodePacket f.type.toNat f.data

/-- The frame holds a packet of this type. -/
def Holds (f : Frame) (packetType : Nat) : Prop := f.type.toNat = packetType ∧ ∃ p, f.packet = .ok p

/-- The output line of an rcon response. -/
def line? (f : Frame) : Option String :=
  if f.type.toNat = SERVER_RCON then
    match f.packet with
    | .ok ⟨_, .rcon response⟩ => some response.message
    | _ => none
  else none

end Frame

def linesOf (frames : List Frame) : List String := frames.filterMap Frame.line?

def AdminUpdateType.answerType : AdminUpdateType → Nat
  | date => SERVER_DATE
  | companyInfo => SERVER_COMPANY_INFO
  | companyEconomy => SERVER_COMPANY_ECONOMY
  | companyStats => SERVER_COMPANY_STATS

/-- A complete answer: packets of what was polled, or output lines and the end of a command. -/
def Answers : Request → List Frame → Prop
  | .poll updateType _, frames => ∀ f ∈ frames, f.Holds updateType.answerType
  | .rcon command, frames => ∃ lines last, frames = lines ++ [last] ∧ (∀ f ∈ lines, f.Holds SERVER_RCON) ∧
      last.type.toNat = SERVER_RCON_END ∧ last.packet = .ok ⟨SERVER_RCON_END, .text command⟩

/-- The requests with their answers, the bytes that were read, and where reads of a size began. -/
structure Connection where
  requests : List (Request × List Frame)
  position : Nat
  sizeReads : List Nat

namespace Connection

def empty : Connection := ⟨[], 0, []⟩

def frames (s : Connection) : List Frame := s.requests.flatMap (·.2)

def stream (s : Connection) : Bytes := s.frames.flatMap Frame.bytes

/-- A packet begins there, or the stream ends. -/
def Boundary (s : Connection) (p : Nat) : Prop :=
  ∃ read rest, s.frames = read ++ rest ∧ p = (read.flatMap Frame.bytes).length

/-- A read has begun. -/
def begin (s : Connection) (start : Bool) : Connection :=
  { s with sizeReads := if start then s.sizeReads ++ [s.position] else s.sizeReads }

end Connection

/-- A call may time out here: at any point, or only where nothing is unread. -/
def Late (anytime : Prop) (s : Connection) : Prop := anytime ∨ s.stream.length ≤ s.position

def world (anytime : Prop) : Semantics Call Reply Connection
  | .write request, s, r, s' => ∃ answer, Answers request answer ∧
      s' = { s with requests := s.requests ++ [(request, answer)] } ∧
      (r = .ok () ∨ (∃ text, r = .error (.timeout text)) ∧ Late anytime s')
  | .readexactly size start, s, .ok data, s' => data = (s.stream.drop s.position).take size ∧ data.length = size ∧
      s' = { s.begin start with position := s.position + size }
  | .readexactly _ start, s, .error e, s' => (∃ text, e = .timeout text) ∧ Late anytime s ∧ s' = s.begin start
  | .deadline, s, turns, s' => s' = s ∧ (s.frames.length < turns ∨ Late anytime s)

/-! ## Frames -/

variable {anytime : Prop} {st : Unit} {s s' : Connection} {f : Frame} {unread rest : List Frame}

theorem littleEndian_pack {n : Nat} (h : n < 65536) : littleEndian (packLittleEndian 2 n) = n := by
  have h₁ : (UInt8.ofNat (n % 256)).toNat = n % 256 := by simp
  have h₂ : (UInt8.ofNat (n / 256 % 256)).toNat = n / 256 := by simp; omega
  simp only [packLittleEndian, littleEndian, h₁, h₂]
  omega

theorem Frame.bytes_length : f.bytes.length = 3 + f.data.length := by
  simp [Frame.bytes, packLittleEndian]
  omega

/-- What is unread, in whole packets. -/
def Unread (s : Connection) (unread : List Frame) : Prop :=
  ∃ read, s.frames = read ++ unread ∧ s.position = (read.flatMap Frame.bytes).length

/-- Every answer is complete, and no read began in the middle of a packet. -/
structure Good (s : Connection) : Prop where
  answered : ∀ r ∈ s.requests, Answers r.1 r.2
  sizeReads : ∀ p ∈ s.sizeReads, s.Boundary p

theorem Unread.drop (h : Unread s unread) : s.stream.drop s.position = unread.flatMap Frame.bytes := by
  obtain ⟨read, hframes, hposition⟩ := h
  unfold Connection.stream
  rw [hframes, hposition, List.flatMap_append, List.drop_left]

/-- Where everything is read there is no packet left. -/
theorem Unread.eq_nil (h : Unread s unread) (hend : s.stream.length ≤ s.position) : unread = [] := by
  have hdrop := h.drop
  rw [List.drop_eq_nil_of_le hend] at hdrop
  cases unread with
  | nil => rfl
  | cons f rest =>
    have hlength := congrArg List.length hdrop
    simp only [List.flatMap_cons, List.length_append, Frame.bytes_length, List.length_nil] at hlength
    omega

theorem Unread.boundary (h : Unread s unread) : s.Boundary s.position := by
  obtain ⟨read, hframes, hposition⟩ := h
  exact ⟨read, unread, hframes, hposition⟩

theorem Good.begin (h : Good s) (hu : Unread s unread) (start : Bool) : Good (s.begin start) where
  answered := h.answered
  sizeReads := by
    intro p hp
    unfold Connection.begin at hp
    dsimp only at hp
    split at hp
    · rcases List.mem_append.mp hp with hp | hp
      · exact h.sizeReads p hp
      · rw [List.mem_singleton.mp hp]
        exact hu.boundary
    · exact h.sizeReads p hp

/-- The frames of every answer are packets the client does not refuse. -/
theorem Good.holds (h : Good s) (hf : f ∈ s.frames) : ∃ t ∈ [SERVER_DATE, SERVER_COMPANY_INFO, SERVER_COMPANY_ECONOMY,
    SERVER_COMPANY_STATS, SERVER_RCON, SERVER_RCON_END], f.Holds t := by
  obtain ⟨r, hr, hmem⟩ := List.mem_flatMap.mp hf
  have hanswer := h.answered r hr
  obtain ⟨request, answer⟩ := r
  cases request with
  | poll updateType _ =>
    refine ⟨updateType.answerType, ?_, hanswer f hmem⟩
    cases updateType <;> simp [AdminUpdateType.answerType]
  | rcon command =>
    obtain ⟨lines, last, rfl, hlines, htype, hlast⟩ := hanswer
    rcases List.mem_append.mp hmem with hmem | hmem
    · exact ⟨SERVER_RCON, by simp, hlines f hmem⟩
    · rw [List.mem_singleton.mp hmem]
      exact ⟨SERVER_RCON_END, by simp, htype, _, hlast⟩

theorem Frame.Holds.packet_type {t : Nat} {p : DecodedPacket} (h : f.Holds t) (hp : f.packet = .ok p) : p.type = t := by
  unfold Frame.packet decodePacket at hp
  split at hp
  · cases hp
    exact h.1
  · cases hp

/-! ## Reading -/

theorem ends_readexactly {size : Nat} {start : Bool} {ok : Bytes → Unit → Connection → Prop}
    {er : OpenTTDError → Unit → Connection → Prop}
    (ho : ∀ data, data = (s.stream.drop s.position).take size → data.length = size →
      ok data st { s.begin start with position := s.position + size })
    (he : ∀ text, Late anytime s → er (.timeout text) st (s.begin start)) :
    Py.Ends (world anytime) (readexactly size start) st s ok er := by
  refine .bind (.perform fun r s' h => ?_)
  cases r with
  | ok data =>
    obtain ⟨hdata, hlength, rfl⟩ := h
    exact .lift (fun _ hd => by cases hd; exact ho data hdata hlength) fun _ hd => nomatch hd
  | error e =>
    obtain ⟨⟨text, rfl⟩, hlate, rfl⟩ := h
    exact .lift (fun _ hd => nomatch hd) fun _ hd => by cases hd; exact he text hlate

/-- What a call leaves where it raised: unless it may give up at any point, nothing is unread. -/
structure GaveUp (anytime : Prop) (s s' : Connection) : Prop where
  requests : s'.requests = s.requests
  good : Good s'
  nothing : anytime ∨ Unread s' []

theorem ends_readPacket (hg : Good s) (hu : Unread s unread) :
    Py.Ends (world anytime) readPacket st s
      (fun p _ s' => ∃ f rest, unread = f :: rest ∧ f.packet = .ok p ∧ s'.requests = s.requests ∧ Good s' ∧ Unread s' rest)
      (fun _ _ s' => GaveUp anytime s s') := by
  have hbegun := hg.begin hu true
  unfold readPacket
  refine .bind (ends_readexactly (fun sizeData hsize hlength => ?_) fun _ hlate => ?_)
  · rw [hu.drop] at hsize
    cases unread with
    | nil =>
      rw [hsize] at hlength
      cases hlength
    | cons f rest =>
      have hdata : sizeData = packLittleEndian 2 (3 + f.data.length) := by
        rw [hsize, List.flatMap_cons, Frame.bytes]
        rfl
      have hfits := f.fits
      unfold MAX_PACKET_SIZE at hfits
      have hvalue : littleEndian sizeData = 3 + f.data.length := by
        rw [hdata]
        exact littleEndian_pack (by omega)
      rw [hvalue]
      dsimp only
      refine .ite (fun hbad => by unfold MAX_PACKET_SIZE at hbad; omega) fun _ => ?_
      -- the body is still there, and a read of it that gives up leaves it there
      have hbody : s.stream.drop (s.position + 2) = f.type :: f.data ++ rest.flatMap Frame.bytes := by
        rw [← List.drop_drop, hu.drop]
        rfl
      refine .bind (ends_readexactly (fun body hread _ => ?_) fun _ hlate => ?_)
      · have hread' : body = f.type :: f.data := by
          have htake : body = (s.stream.drop (s.position + 2)).take (3 + f.data.length - 2) := hread
          rw [htake, hbody, show 3 + f.data.length - 2 = (f.type :: f.data).length by simp; omega]
          exact List.take_left
        subst hread'
        have hmem : f ∈ s.frames := by
          obtain ⟨read, hframes, -⟩ := hu
          rw [hframes]
          simp
        obtain ⟨t, ht, hholds⟩ := hg.holds hmem
        obtain ⟨p, hp⟩ := hholds.2
        have hdecoded : decodeBody (f.type :: f.data) = .ok p := by
          have htype := hholds.packet_type hp
          show (decodePacket f.type.toNat f.data).bind acceptPacket = .ok p
          rw [show decodePacket f.type.toNat f.data = .ok p from hp]
          show acceptPacket p = .ok p
          unfold acceptPacket
          rw [htype]
          simp only [List.mem_cons, List.not_mem_nil, or_false] at ht
          rcases ht with rfl | rfl | rfl | rfl | rfl | rfl <;> rfl
        rw [hdecoded]
        refine .lift (fun p' hp' => ?_) fun _ he => nomatch he
        cases hp'
        refine ⟨f, rest, rfl, hp, rfl, ⟨hbegun.answered, hbegun.sizeReads⟩, ?_⟩
        obtain ⟨read, hframes, hposition⟩ := hu
        refine ⟨read ++ [f], by rw [List.append_assoc]; exact hframes, ?_⟩
        show s.position + 2 + (3 + f.data.length - 2) = _
        rw [List.flatMap_append, List.length_append, ← hposition]
        simp only [List.flatMap_cons, List.flatMap_nil, List.append_nil, Frame.bytes_length]
        omega
      · refine ⟨rfl, ⟨hbegun.answered, hbegun.sizeReads⟩, hlate.imp_right fun hend => ?_⟩
        have hnil : s.stream.drop (s.position + 2) = [] := List.drop_eq_nil_of_le hend
        rw [hbody] at hnil
        cases hnil
  · refine ⟨rfl, hbegun, hlate.imp_right fun hend => ?_⟩
    have hnil := hu.eq_nil hend
    subst hnil
    exact hu

/-! ## Receiving -/

theorem Frame.Holds.decoded {t : Nat} {p : DecodedPacket} (h : f.Holds t) (hp : f.packet = .ok p) :
    ∃ payload rest, readPayload t f.data = .ok (payload, rest) ∧ p = ⟨t, payload⟩ := by
  unfold Frame.packet decodePacket at hp
  rw [h.1] at hp
  split at hp
  · next payload rest heq =>
    cases hp
    exact ⟨payload, rest, heq, rfl⟩
  · cases hp

theorem GaveUp.of_requests {s₀ : Connection} (h : GaveUp anytime s s') (heq : s.requests = s₀.requests) : GaveUp anytime s₀ s' :=
  ⟨h.requests.trans heq, h.good, h.nothing⟩

section
variable {T : Type} {packetType : Nat} {select : Payload → Option T} {predicate : T → Bool}

/-- A packet that a receive loop takes a value from. -/
def Frame.Gives (f : Frame) (packetType : Nat) (select : Payload → Option T) (v : T) : Prop :=
  f.Holds packetType ∧ ∃ p, f.packet = .ok p ∧ select p.payload = some v

/-- The value came from a packet that was unread; what followed it still is. -/
def Received (packetType : Nat) (select : Payload → Option T) (predicate : T → Bool) (s : Connection) (unread : List Frame)
    (v : T) (s' : Connection) : Prop :=
  ∃ skipped f rest, unread = skipped ++ f :: rest ∧ f.Gives packetType select v ∧ predicate v = true ∧
    s'.requests = s.requests ∧ Good s' ∧ Unread s' rest

theorem ends_receiveLoop (hselect : ∀ f p, Frame.Holds f packetType → f.packet = .ok p → select p.payload ≠ none) :
    ∀ {turns : Nat} {s : Connection} {unread : List Frame}, Good s → Unread s unread →
      unread.length < turns ∨ anytime ∨ unread = [] →
      Py.Ends (world anytime) (receiveLoop packetType select predicate turns) st s
        (fun v _ s' => Received packetType select predicate s unread v s') (fun _ _ s' => GaveUp anytime s s')
  | 0, s, unread, hg, hu, hturns => by
    refine .raise ⟨rfl, hg, ?_⟩
    rcases hturns with hlt | hany | rfl
    · exact absurd hlt (Nat.not_lt_zero _)
    · exact .inl hany
    · exact .inr hu
  | turns + 1, s, unread, hg, hu, hturns => by
    unfold receiveLoop
    refine .seq (ends_readPacket hg hu) ?_ fun _ _ _ h => h
    rintro p _ s₁ ⟨f, rest, rfl, hp, hrequests, hg₁, hu₁⟩
    have hturns₁ : rest.length < turns ∨ anytime ∨ rest = [] := by
      rcases hturns with hlt | hany | hnil
      · exact .inl (by simpa using hlt)
      · exact .inr (.inl hany)
      · cases hnil
    have hnext : Py.Ends (world anytime) (receiveLoop packetType select predicate turns) st s₁
        (fun v _ s' => Received packetType select predicate s (f :: rest) v s') (fun _ _ s' => GaveUp anytime s s') := by
      refine (ends_receiveLoop hselect hg₁ hu₁ hturns₁).mono ?_ fun _ _ _ h => h.of_requests hrequests
      rintro v _ s₂ ⟨skipped, g, rest', rfl, hgives, hpred, hrequests₂, hg₂, hu₂⟩
      exact ⟨f :: skipped, g, rest', rfl, hgives, hpred, hrequests₂.trans hrequests, hg₂, hu₂⟩
    refine .ite (fun _ => hnext) fun htype => ?_
    have hholds : f.Holds packetType := by
      obtain ⟨read, hframes, -⟩ := hu
      obtain ⟨t, -, hholds⟩ := hg.holds (show f ∈ s.frames by rw [hframes]; simp)
      rw [← not_not.mp htype, hholds.packet_type hp]
      exact hholds
    cases hsel : select p.payload with
    | none => exact absurd hsel (hselect f p hholds hp)
    | some v =>
      refine .ite (fun hpred => .pure ?_) fun _ => hnext
      exact ⟨[], f, rest, rfl, ⟨hholds, p, hp, hsel⟩, hpred, hrequests, hg₁, hu₁⟩

theorem ends_deadline {ok : Nat → Unit → Connection → Prop} {er : OpenTTDError → Unit → Connection → Prop}
    (hu : Unread s unread) (ho : ∀ turns, unread.length < turns ∨ anytime ∨ unread = [] → ok turns st s) :
    Py.Ends (world anytime) (Py.perform Call.deadline : Op Nat) st s ok er := by
  refine .perform fun turns s' h => ?_
  obtain ⟨rfl, hturns⟩ := h
  refine ho turns ?_
  rcases hturns with hlt | hany | hend
  · obtain ⟨read, hframes, -⟩ := hu
    rw [hframes, List.length_append] at hlt
    exact .inl (by omega)
  · exact .inr (.inl hany)
  · exact .inr (.inr (hu.eq_nil hend))

theorem ends_receiveMatching (hselect : ∀ f p, Frame.Holds f packetType → f.packet = .ok p → select p.payload ≠ none)
    (hg : Good s) (hu : Unread s unread) :
    Py.Ends (world anytime) (receiveMatching packetType select predicate) st s
      (fun v _ s' => Received packetType select predicate s unread v s') (fun _ _ s' => GaveUp anytime s s') :=
  .bind (ends_deadline hu fun _ hturns => ends_receiveLoop hselect hg hu hturns)

/-- A packet of an older answer is skipped, so a value comes from the own answer. -/
theorem Received.own {older answer : List Frame} {v : T} (h : Received packetType select predicate s (older ++ answer) v s')
    (holder : ∀ f ∈ older, f.type.toNat ≠ packetType) :
    ∃ f ∈ answer, f.Gives packetType select v ∧ predicate v = true ∧
      ∃ rest, (∀ g ∈ rest, g ∈ answer) ∧ s'.requests = s.requests ∧ Good s' ∧ Unread s' rest := by
  obtain ⟨skipped, f, rest, heq, hgives, hpred, hrequests, hg, hu⟩ := h
  rcases List.append_eq_append_iff.mp heq with ⟨more, rfl, hanswer⟩ | ⟨more, rfl, hrest⟩
  · rw [hanswer]
    exact ⟨f, by simp, hgives, hpred, rest, fun g hg => by simp [hg], hrequests, hg, hu⟩
  · cases more with
    | nil =>
      rw [List.nil_append] at hrest
      rw [← hrest]
      exact ⟨f, List.mem_cons_self .., hgives, hpred, rest, fun g hg => List.mem_cons_of_mem _ hg, hrequests, hg, hu⟩
    | cons g more =>
      injection hrest with hhead
      subst hhead
      exact absurd hgives.1.1 (holder f (by simp))

end


/-! ## Calls -/

/-- Only statistics are unread, which every call skips. -/
structure Clean (s : Connection) : Prop where
  good : Good s
  unread : ∃ unread, Unread s unread ∧ ∀ f ∈ unread, f.type.toNat = SERVER_COMPANY_STATS

/-- What a call leaves where it raised. -/
def Raised (anytime : Prop) (s' : Connection) : Prop := Good s' ∧ (anytime ∨ Clean s')

theorem GaveUp.raised (h : GaveUp anytime s s') : Raised anytime s' :=
  ⟨h.good, h.nothing.imp_right fun hu => ⟨h.good, [], hu, fun _ hf => (List.not_mem_nil hf).elim⟩⟩

theorem ends_send {request : Request} {ok : Unit → Unit → Connection → Prop} {er : OpenTTDError → Unit → Connection → Prop}
    (hg : Good s) (hu : Unread s unread) (henc : ∀ e, request.encode = .error e → er e st s)
    (ho : ∀ answer s', Answers request answer → s'.requests = s.requests ++ [(request, answer)] → Good s' →
      Unread s' (unread ++ answer) → ok () st s')
    (he : ∀ e s', Raised anytime s' → er e st s') : Py.Ends (world anytime) (send request) st s ok er := by
  unfold send
  refine .bind (.lift (fun _ _ => ?_) henc)
  refine .bind (.perform fun r s' h => ?_)
  obtain ⟨answer, hanswer, rfl, hreply⟩ := h
  obtain ⟨read, hframes, hposition⟩ := hu
  have hframes' : s.frames ++ answer = read ++ (unread ++ answer) := by rw [hframes, List.append_assoc]
  have hall : ({ s with requests := s.requests ++ [(request, answer)] } : Connection).frames = s.frames ++ answer := by
    simp [Connection.frames]
  have hg' : Good { s with requests := s.requests ++ [(request, answer)] } :=
    { answered := by
        intro r hr
        rcases List.mem_append.mp hr with hr | hr
        · exact hg.answered r hr
        · rw [List.mem_singleton.mp hr]
          exact hanswer
      sizeReads := by
        intro p hp
        obtain ⟨before, after, hsplit, hp⟩ := hg.sizeReads p hp
        exact ⟨before, after ++ answer, by rw [hall, hsplit, List.append_assoc], hp⟩ }
  have hu' : Unread { s with requests := s.requests ++ [(request, answer)] } (unread ++ answer) :=
    ⟨read, hall.trans hframes', hposition⟩
  rcases hreply with rfl | ⟨⟨text, rfl⟩, hlate⟩
  · exact .lift (fun _ _ => ho answer _ hanswer rfl hg' hu') fun _ hd => nomatch hd
  · refine .lift (fun _ hd => nomatch hd) fun e _ => he e _ ⟨hg', hlate.imp_right fun hend => ⟨hg', [], ?_, ?_⟩⟩
    · rw [hu'.eq_nil hend] at hu'
      exact hu'
    · exact fun _ hf => (List.not_mem_nil hf).elim

theorem linesOf_append {frames frames' : List Frame} : linesOf (frames ++ frames') = linesOf frames ++ linesOf frames' :=
  List.filterMap_append

theorem Frame.Holds.payload {α : Type} {t : Nat} {p : DecodedPacket} {m : PacketReader α} {g : α → Payload} (h : f.Holds t)
    (hp : f.packet = .ok p) (hread : readPayload t = (do return g (← m))) : ∃ a, p = ⟨t, g a⟩ := by
  obtain ⟨payload, rest, hpayload, rfl⟩ := h.decoded hp
  rw [hread] at hpayload
  cases hm : m f.data with
  | error e =>
    simp only [bind, StateT.bind, hm, Except.bind] at hpayload
    cases hpayload
  | ok r =>
    simp only [bind, StateT.bind, hm, Except.bind, pure, StateT.pure, Except.pure, Except.ok.injEq, Prod.mk.injEq] at hpayload
    exact ⟨r.1, by rw [hpayload.1]⟩

theorem Frame.Holds.rcon {p : DecodedPacket} (h : f.Holds SERVER_RCON) (hp : f.packet = .ok p) :
    ∃ response, p = ⟨SERVER_RCON, .rcon response⟩ := h.payload hp rfl

/-! ### Rcon -/

/-- The lines that were read up to the end of a command. -/
def Completed (command : String) (output : List String) (s : Connection) (unread : List Frame) (lines : List String)
    (s' : Connection) : Prop :=
  ∃ skipped f rest, unread = skipped ++ f :: rest ∧ f.type.toNat = SERVER_RCON_END ∧
    (∀ g ∈ skipped, g.type.toNat ≠ SERVER_RCON_END) ∧ f.packet = .ok ⟨SERVER_RCON_END, .text command⟩ ∧
    lines = output ++ linesOf skipped ∧ s'.requests = s.requests ∧ Good s' ∧ Unread s' rest

theorem ends_rconLoop {command : String} :
    ∀ {turns : Nat} {s : Connection} {unread : List Frame} {output : List String}, Good s → Unread s unread →
      (∀ f ∈ unread, f.type.toNat = SERVER_RCON_END → f.packet = .ok ⟨SERVER_RCON_END, .text command⟩) →
      unread.length < turns ∨ anytime ∨ unread = [] →
      Py.Ends (world anytime) (rconLoop command turns output) st s
        (fun lines _ s' => Completed command output s unread lines s') (fun _ _ s' => GaveUp anytime s s')
  | 0, s, unread, output, hg, hu, _, hturns => by
    refine .raise ⟨rfl, hg, ?_⟩
    rcases hturns with hlt | hany | rfl
    · exact absurd hlt (Nat.not_lt_zero _)
    · exact .inl hany
    · exact .inr hu
  | turns + 1, s, unread, output, hg, hu, hend, hturns => by
    unfold rconLoop
    refine .seq (ends_readPacket hg hu) ?_ fun _ _ _ h => h
    rintro p _ s₁ ⟨f, rest, rfl, hp, hrequests, hg₁, hu₁⟩
    have hturns₁ : rest.length < turns ∨ anytime ∨ rest = [] := by
      rcases hturns with hlt | hany | hnil
      · exact .inl (by simpa using hlt)
      · exact .inr (.inl hany)
      · cases hnil
    have hholds : f.Holds p.type := by
      obtain ⟨read, hframes, -⟩ := hu
      obtain ⟨t, -, hholds⟩ := hg.holds (show f ∈ s.frames by rw [hframes]; simp)
      rw [hholds.packet_type hp]
      exact hholds
    have hnext : ∀ output', f.type.toNat ≠ SERVER_RCON_END → output' = output ++ linesOf [f] →
        Py.Ends (world anytime) (rconLoop command turns output') st s₁
          (fun lines _ s' => Completed command output s (f :: rest) lines s') (fun _ _ s' => GaveUp anytime s s') := by
      rintro _ hne rfl
      refine (ends_rconLoop hg₁ hu₁ (fun g hg => hend g (List.mem_cons_of_mem _ hg)) hturns₁).mono ?_
        fun _ _ _ h => h.of_requests hrequests
      rintro lines _ s₂ ⟨skipped, g, rest', rfl, hgtype, hskipped, hgpacket, rfl, hrequests₂, hg₂, hu₂⟩
      refine ⟨f :: skipped, g, rest', rfl, hgtype, ?_, hgpacket, ?_, hrequests₂.trans hrequests, hg₂, hu₂⟩
      · rintro x hx
        rcases List.mem_cons.mp hx with rfl | hx
        · exact hne
        · exact hskipped x hx
      · rw [List.append_assoc, ← linesOf_append]
        rfl
    refine .ite (fun htype => ?_) fun hno => .ite (fun htype => ?_) fun hnoend => ?_
    · rw [htype] at hholds
      obtain ⟨response, rfl⟩ := hholds.rcon hp
      refine hnext _ (by rw [hholds.1]; decide) ?_
      simp [linesOf, Frame.line?, hp, hholds.1]
    · have hpacket := hend f (List.mem_cons_self ..) (hholds.1.trans htype)
      rw [hp] at hpacket
      cases hpacket
      refine .ite (fun hne => absurd rfl hne) fun _ => .pure ?_
      exact ⟨[], f, rest, rfl, hholds.1, fun _ hg => (List.not_mem_nil hg).elim, hp, by simp [linesOf], hrequests, hg₁, hu₁⟩
    · refine hnext output (by rw [hholds.1]; exact hnoend) ?_
      have hline : f.line? = none := if_neg (by rw [hholds.1]; exact hno)
      simp [linesOf, hline]

/-! ## What a call returns -/

/-- The output is the one of the own answer. -/
def OwnOutput (command : String) (s : Connection) (output : List String) (s' : Connection) : Prop :=
  ∃ answer, s'.requests = s.requests ++ [(.rcon command, answer)] ∧ Answers (.rcon command) answer ∧
    output = linesOf answer

theorem linesOf_eq_nil {frames : List Frame} (h : ∀ f ∈ frames, f.type.toNat ≠ SERVER_RCON) : linesOf frames = [] :=
  List.filterMap_eq_nil_iff.mpr fun f hf => if_neg (h f hf)

theorem ends_executeRcon {command : String} (hc : Clean s) :
    Py.Ends (world anytime) (executeRcon command) st s
      (fun output _ s' => OwnOutput command s output s' ∧ Clean s') (fun _ _ s' => Raised anytime s') := by
  obtain ⟨hg, older, hu, holder⟩ := hc
  unfold executeRcon
  refine .bind (ends_send hg hu (fun _ _ => ⟨hg, .inr ⟨hg, older, hu, holder⟩⟩) ?_ fun _ _ h => h)
  intro answer s₁ hanswer hrequests hg₁ hu₁
  obtain ⟨lines, last, rfl, hlines, hlast, hpacket⟩ := hanswer
  have holderEnd : ∀ f ∈ older ++ lines, f.type.toNat ≠ SERVER_RCON_END := by
    intro f hf
    rcases List.mem_append.mp hf with hf | hf
    · rw [holder f hf]
      decide
    · rw [(hlines f hf).1]
      decide
  have hend : ∀ f ∈ older ++ (lines ++ [last]), f.type.toNat = SERVER_RCON_END →
      f.packet = .ok ⟨SERVER_RCON_END, .text command⟩ := by
    intro f hf htype
    rw [← List.append_assoc] at hf
    rcases List.mem_append.mp hf with hf | hf
    · exact absurd htype (holderEnd f hf)
    · rw [List.mem_singleton.mp hf]
      exact hpacket
  refine .bind (ends_deadline hu₁ fun turns hturns => ?_)
  refine (ends_rconLoop hg₁ hu₁ hend hturns).mono ?_ fun _ _ _ h => h.raised
  rintro output _ s₂ ⟨skipped, f, rest, heq, hftype, hskipped, -, rfl, hrequests₂, hg₂, hu₂⟩
  -- the end that was read is the own one, so all lines before it were read
  have hsplit : skipped = older ++ lines ∧ rest = [] := by
    rw [← List.append_assoc] at heq
    rcases List.append_eq_append_iff.mp heq with ⟨more, rfl, hmore⟩ | ⟨more, hmore, hrest⟩
    · cases more with
      | nil =>
        injection hmore with _ hnil
        exact ⟨(List.append_nil _).symm ▸ rfl, hnil.symm⟩
      | cons g more =>
        exfalso
        injection hmore with hhead htail
        exact hskipped g (by simp) (hhead ▸ hlast)
    · cases more with
      | nil =>
        rw [List.append_nil] at hmore
        injection hrest with _ hnil
        exact ⟨hmore.symm, hnil⟩
      | cons g more =>
        exfalso
        injection hrest with hhead htail
        exact holderEnd g (by rw [hmore]; simp) (hhead ▸ hftype)
  obtain ⟨rfl, rfl⟩ := hsplit
  refine ⟨⟨lines ++ [last], hrequests₂.trans hrequests, ⟨lines, last, rfl, hlines, hlast, hpacket⟩, ?_⟩,
    ⟨hg₂, [], hu₂, fun _ hf => (List.not_mem_nil hf).elim⟩⟩
  have hlastLines : linesOf [last] = [] := linesOf_eq_nil fun f hf => by
    rw [List.mem_singleton.mp hf, hlast]
    decide
  have holderLines : linesOf older = [] := linesOf_eq_nil fun f hf => by
    rw [holder f hf]
    decide
  rw [List.nil_append, linesOf_append, linesOf_append, hlastLines, holderLines, List.append_nil, List.nil_append]

/-- A value of the own answer, after which only packets of that answer are unread. -/
def OwnValue {α : Type} (packetType : Nat) (g : α → Payload) (answer : List Frame) (s : Connection) (v : α) (s' : Connection) :
    Prop :=
  (∃ f ∈ answer, f.packet = .ok ⟨packetType, g v⟩) ∧
    ∃ rest, (∀ f ∈ rest, f.Holds packetType) ∧ s'.requests = s.requests ∧ Good s' ∧ Unread s' rest

theorem ends_receiveOwn {α : Type} {packetType : Nat} {select : Payload → Option α} {predicate : α → Bool}
    {m : PacketReader α} (g : α → Payload) {older answer : List Frame} (hread : readPayload packetType = (do return g (← m)))
    (hselect : ∀ a, select (g a) = some a) (hg : Good s) (hu : Unread s (older ++ answer))
    (hanswer : ∀ f ∈ answer, f.Holds packetType) (holder : ∀ f ∈ older, f.type.toNat ≠ packetType) :
    Py.Ends (world anytime) (receiveMatching packetType select predicate) st s
      (fun v _ s' => OwnValue packetType g answer s v s') (fun _ _ s' => GaveUp anytime s s') := by
  refine (ends_receiveMatching (fun f p hf hp => ?_) hg hu).mono ?_ fun _ _ _ h => h
  · obtain ⟨a, rfl⟩ := hf.payload hp hread
    rw [hselect]
    exact Option.some_ne_none _
  · intro v _ s' hreceived
    obtain ⟨f, hf, ⟨hholds, p, hp, hsel⟩, -, rest, hrest, hrequests, hg', hu'⟩ := hreceived.own holder
    obtain ⟨a, rfl⟩ := hholds.payload hp hread
    obtain rfl : a = v := by
      rw [hselect] at hsel
      injection hsel
    exact ⟨⟨f, hf, hp⟩, rest, fun x hx => hanswer x (hrest x hx), hrequests, hg', hu'⟩

theorem Frame.Holds.ne {t t' : Nat} (h : f.Holds t) (hne : t ≠ t') : f.type.toNat ≠ t' := by
  rw [h.1]
  exact hne

/-- The state is built from packets of the answers to the four own polls. -/
def OwnState (companyId : Nat) (s : Connection) (state : OpenTTDState) (s' : Connection) : Prop :=
  ∃ infos dates economies stats : List Frame,
    s'.requests = s.requests ++ [(.poll .companyInfo companyId, infos), (.poll .date ALL_COMPANIES, dates),
      (.poll .companyEconomy ALL_COMPANIES, economies), (.poll .companyStats ALL_COMPANIES, stats)] ∧
    ∃ info economy counts, (∃ f ∈ infos, f.packet = .ok ⟨SERVER_COMPANY_INFO, .info info⟩) ∧
      (∃ f ∈ dates, f.packet = .ok ⟨SERVER_DATE, .integer state.gameDateRaw⟩) ∧
      (∃ f ∈ economies, f.packet = .ok ⟨SERVER_COMPANY_ECONOMY, .economy economy⟩) ∧
      (∃ f ∈ stats, f.packet = .ok ⟨SERVER_COMPANY_STATS, .stats counts⟩) ∧
      companyState info economy counts = .ok state.company

theorem ends_collectState {companyId : Nat} (hc : Clean s) :
    Py.Ends (world anytime) (collectState companyId) st s
      (fun state _ s' => OwnState companyId s state s' ∧ Clean s') (fun _ _ s' => Raised anytime s') := by
  obtain ⟨hg, older, hu, holder⟩ := hc
  unfold collectState
  refine .bind (ends_send hg hu (fun _ _ => ⟨hg, .inr ⟨hg, older, hu, holder⟩⟩) ?_ fun _ _ h => h)
  intro infos s₁ hinfos hr₁ hg₁ hu₁
  have holder₁ : ∀ f ∈ older, f.type.toNat ≠ SERVER_COMPANY_INFO := fun f hf => by
    rw [holder f hf]
    decide
  refine .bind (.tryCatch ((ends_receiveOwn .info rfl (fun _ => by rfl) hg₁ hu₁ hinfos holder₁).mono ?_
    fun _ _ _ h => Py.Ends.raise h.raised))
  rintro info _ s₂ ⟨hinfo, rest, hrest, hr₂, hg₂, hu₂⟩
  refine .bind (ends_send hg₂ hu₂ (fun _ h => by cases h) ?_ fun _ _ h => h)
  intro dates s₃ hdates hr₃ hg₃ hu₃
  refine .seq (ends_receiveOwn .integer rfl (fun _ => by rfl) hg₃ hu₃ hdates fun f hf => (hrest f hf).ne (by decide)) ?_
    fun _ _ _ h => h.raised
  rintro date _ s₄ ⟨hdate, rest₄, hrest₄, hr₄, hg₄, hu₄⟩
  refine .bind (ends_send hg₄ hu₄ (fun _ h => by cases h) ?_ fun _ _ h => h)
  intro economies s₅ heconomies hr₅ hg₅ hu₅
  refine .seq (ends_receiveOwn .economy rfl (fun _ => by rfl) hg₅ hu₅ heconomies fun f hf => (hrest₄ f hf).ne (by decide)) ?_
    fun _ _ _ h => h.raised
  rintro economy _ s₆ ⟨heconomy, rest₆, hrest₆, hr₆, hg₆, hu₆⟩
  refine .bind (ends_send hg₆ hu₆ (fun _ h => by cases h) ?_ fun _ _ h => h)
  intro stats s₇ hstats hr₇ hg₇ hu₇
  refine .seq (ends_receiveOwn .stats rfl (fun _ => by rfl) hg₇ hu₇ hstats fun f hf => (hrest₆ f hf).ne (by decide)) ?_
    fun _ _ _ h => h.raised
  rintro counts _ s₈ ⟨hcounts, rest₈, hrest₈, hr₈, hg₈, hu₈⟩
  have hclean : Clean s₈ := ⟨hg₈, rest₈, hu₈, fun f hf => (hrest₈ f hf).1⟩
  refine .bind (.lift (fun company hcompany => .pure ⟨?_, hclean⟩) fun _ _ => ⟨hg₈, .inr hclean⟩)
  refine ⟨infos, dates, economies, stats, ?_, info, economy, counts, hinfo, hdate, heconomy, hcounts, hcompany⟩
  rw [hr₈, hr₇, hr₆, hr₅, hr₄, hr₃, hr₂, hr₁]
  simp only [List.append_assoc, List.cons_append, List.nil_append]

/-! ## Runs -/

/-- A call on a connected client. -/
inductive ClientCall where
  | executeRcon (command : String)
  | collectState (companyId : Nat)

namespace ClientCall

def perform : ClientCall → Op (List String ⊕ OpenTTDState)
  | executeRcon command => do return .inl (← AdminNetwork.executeRcon command)
  | collectState companyId => do return .inr (← AdminNetwork.collectState companyId)

/-- What was returned is the answer to the own requests. -/
def Own (s : Connection) : ClientCall → List String ⊕ OpenTTDState → Connection → Prop
  | executeRcon command, .inl output, s' => OwnOutput command s output s'
  | collectState companyId, .inr state, s' => OwnState companyId s state s'
  | _, _, _ => False

theorem ends_perform (call : ClientCall) (hc : Clean s) :
    Py.Ends (world anytime) call.perform st s (fun v _ s' => call.Own s v s' ∧ Clean s') (fun _ _ s' => Raised anytime s') := by
  cases call with
  | executeRcon command => exact .seq (ends_executeRcon hc) (fun _ _ _ h => .pure h) fun _ _ _ h => h
  | collectState companyId => exact .seq (ends_collectState hc) (fun _ _ _ h => .pure h) fun _ _ _ h => h

end ClientCall

/-- A call that may give up at any point, or only where nothing is unread. -/
def Step (anytime : Prop) (s s' : Connection) : Prop :=
  ∃ (call : ClientCall) (result : Except OpenTTDError (List String ⊕ OpenTTDState)),
    (call.perform ()).Run (world anytime) s (result, ()) s'

theorem clean_empty : Clean Connection.empty where
  good := ⟨fun _ h => (List.not_mem_nil h).elim, fun _ h => (List.not_mem_nil h).elim⟩
  unread := ⟨[], ⟨[], rfl, rfl⟩, fun _ h => (List.not_mem_nil h).elim⟩

theorem Step.clean (h : Step False s s') (hc : Clean s) : Clean s' := by
  obtain ⟨call, result, hrun⟩ := h
  cases result with
  | ok v => exact ((call.ends_perform hc).returns hrun).2
  | error e => exact ((call.ends_perform hc).raises hrun).2.resolve_left id

/-- As long as no earlier call gave up while something was unread, a call that returns does so
with its own answers, and every packet is read from its beginning. -/
theorem answers_belong {call : ClientCall} {result : Except OpenTTDError (List String ⊕ OpenTTDState)}
    (hsteps : ReflTransGen (Step False) Connection.empty s) (hrun : (call.perform ()).Run (world True) s (result, ()) s') :
    (∀ v, result = .ok v → call.Own s v s') ∧ ∀ p ∈ s'.sizeReads, s'.Boundary p := by
  have hc : Clean s := by
    clear hrun
    induction hsteps with
    | refl => exact clean_empty
    | tail _ hstep ih => exact hstep.clean ih
  cases result with
  | ok v =>
    obtain ⟨hown, hclean⟩ := (call.ends_perform hc).returns hrun
    refine ⟨fun _ h => ?_, hclean.good.sizeReads⟩
    cases h
    exact hown
  | error e =>
    refine ⟨fun _ h => ?_, ((call.ends_perform hc).raises hrun).1.sizeReads⟩
    cases h

/-! ## A command that was given up -/

section Example

def lineFrame : Nat → Frame
  | 0 => ⟨120, [0, 0, 49, 0], by decide⟩
  | _ => ⟨120, [0, 0, 50, 0], by decide⟩

def endFrame : Frame := ⟨125, [100, 0], by decide⟩

/-- A server that answers the command `d` with a line of its own each time; the reads of the
first requests give up. -/
def answering (slow : Nat) : (o : Call) → Connection → Option (Reply o × Connection)
  | .write request, s =>
    if request = .rcon "d" then
      some (.ok (), { s with requests := s.requests ++ [(.rcon "d", [lineFrame s.requests.length, endFrame])] })
    else none
  | .readexactly size start, s =>
    if s.requests.length ≤ slow then some (.error (.timeout ""), s.begin start)
    else if ((s.stream.drop s.position).take size).length = size then
      some (.ok ((s.stream.drop s.position).take size), { s.begin start with position := s.position + size })
    else none
  | .deadline, s => some (s.frames.length + 1, s)

theorem answers_d (n : Nat) : Answers (.rcon "d") [lineFrame n, endFrame] := by
  refine ⟨[lineFrame n], endFrame, rfl, fun f hf => ?_, rfl, by decide +kernel⟩
  rw [List.mem_singleton.mp hf]
  cases n with
  | zero => exact ⟨rfl, ⟨SERVER_RCON, .rcon ⟨0, "1"⟩⟩, show (lineFrame 0).packet = _ by decide +kernel⟩
  | succ n => exact ⟨rfl, ⟨SERVER_RCON, .rcon ⟨0, "2"⟩⟩, show (lineFrame 1).packet = _ by decide +kernel⟩

theorem world_of_answering (slow : Nat) (o : Call) (s : Connection) (r : Reply o) (s' : Connection)
    (h : answering slow o s = some (r, s')) : world True o s r s' := by
  cases o with
  | write request =>
    simp only [answering] at h
    split at h
    · next heq =>
      subst heq
      obtain ⟨rfl, rfl⟩ := Prod.mk.inj (Option.some.inj h)
      exact ⟨_, answers_d _, rfl, .inl rfl⟩
    · cases h
  | readexactly size start =>
    simp only [answering] at h
    split at h
    · obtain ⟨rfl, rfl⟩ := Prod.mk.inj (Option.some.inj h)
      exact ⟨⟨_, rfl⟩, .inl trivial, rfl⟩
    · split at h
      · next hlength =>
        obtain ⟨rfl, rfl⟩ := Prod.mk.inj (Option.some.inj h)
        exact ⟨rfl, hlength, rfl⟩
      · cases h
  | deadline =>
    obtain ⟨rfl, rfl⟩ := Prod.mk.inj (Option.some.inj h)
    exact ⟨rfl, .inr (.inl trivial)⟩

def callOfD (slow : Nat) (s : Connection) :
    Option ((Except OpenTTDError (List String ⊕ OpenTTDState) × Unit) × Connection) :=
  ((ClientCall.executeRcon "d").perform ()).play (answering slow) s

theorem run_of_callOfD {slow : Nat} {r : (Except OpenTTDError (List String ⊕ OpenTTDState) × Unit) × Connection}
    (h : callOfD slow s = some r) : ((ClientCall.executeRcon "d").perform ()).Run (world True) s (r.1.1, ()) r.2 :=
  Prog.run_of_play (world_of_answering slow) h

/-- What a run returned, and the lines of the answers that were sent by then. -/
def summary (r : (Except OpenTTDError (List String ⊕ OpenTTDState) × Unit) × Connection) :
    Option (List String ⊕ OpenTTDState) × List (List String) :=
  (r.1.1.toOption, r.2.requests.map fun x => linesOf x.2)

theorem first_call_in_time : (callOfD 0 .empty).map summary = some (some (.inl ["1"]), [["1"]]) := by
  decide +kernel

theorem first_call_late : (callOfD 1 .empty).map summary = some (none, [["1"]]) := by
  decide +kernel

theorem second_call : ((callOfD 1 .empty).bind fun r => callOfD 1 r.2).map summary =
    some (some (.inl ["1"]), [["1"], ["2"]]) := by
  decide +kernel

/-- After a command that was given up, the next one returns the answer to it. -/
theorem late_answer_returned :
    ¬∀ {call : ClientCall} {result : Except OpenTTDError (List String ⊕ OpenTTDState)} {s s' : Connection},
      ReflTransGen (Step True) Connection.empty s → (call.perform ()).Run (world True) s (result, ()) s' →
      (∀ v, result = .ok v → call.Own s v s') ∧ ∀ p ∈ s'.sizeReads, s'.Boundary p := by
  intro h
  obtain ⟨r₁, hfirst, hr₁⟩ := Option.map_eq_some_iff.mp first_call_late
  obtain ⟨r₂, hsecond, hr₂⟩ := Option.map_eq_some_iff.mp second_call
  rw [hfirst, Option.bind_some] at hsecond
  have hsteps : ReflTransGen (Step True) Connection.empty r₁.2 := .single ⟨_, r₁.1.1, run_of_callOfD hfirst⟩
  have hown := (h hsteps (run_of_callOfD hsecond)).1
  obtain ⟨⟨result, st⟩, s₂⟩ := r₂
  obtain ⟨hresult, hlines⟩ := Prod.mk.inj hr₂
  cases result with
  | error e => cases hresult
  | ok v =>
    obtain rfl : v = .inl ["1"] := Option.some.inj hresult
    obtain ⟨answer, hrequests, -, houtput⟩ := hown _ rfl
    rw [hrequests, List.map_append, (Prod.mk.inj hr₁).2] at hlines
    have hanswer : linesOf answer = ["2"] := by simpa using hlines
    rw [hanswer] at houtput
    exact absurd houtput (by decide)

theorem answers_belong_first : ∃ s', OwnOutput "d" .empty ["1"] s' := by
  obtain ⟨⟨⟨result, st⟩, s'⟩, hfirst, hr⟩ := Option.map_eq_some_iff.mp first_call_in_time
  obtain ⟨hresult, -⟩ := Prod.mk.inj hr
  cases result with
  | error e => cases hresult
  | ok v =>
    obtain rfl : v = .inl ["1"] := Option.some.inj hresult
    exact ⟨s', (answers_belong .refl (run_of_callOfD hfirst)).1 _ rfl⟩

end Example

end SimPilot.AdminNetwork
