import SimPilot.Analysis.Freshness
/-!
# What an answer of the snapshot cache rests on

A process that holds the lock is alone with the cache and the bridge (`InTenure`), so what it
read, probed, collected and wrote there is known event by event. In every interleaving of any
number of commands, also when the system ends processes in the middle of what they do, a cached
answer was collected and verified before, is read twice with the same content around the probe
of its identity, and is young enough by a clock read after that probe (`answers_justified`).
-/

namespace SimPilot.Analysis.SnapshotCache
open Effect Relation

variable {Pid : Type} [DecidableEq Pid]

/-! ## What is claimed of an answer -/

def CacheEvent.IsAnswer : CacheEvent → Prop
  | .answered _ _ => True
  | _ => False

/-- What `p` did while it held the lock: `events` of its own, the last first, and of the others
only answers to earlier calls. -/
structure Tenure (p : Pid) (events : List CacheEvent) (during : List (Pid × CacheEvent)) : Prop where
  alone : ∀ e ∈ during, e.1 = p ∨ e.2.IsAnswer
  own : (during.filter (·.1 = p)).map (·.2) = events

section
variable (digest : String → String) (start : CacheFile)

/-- A record of the cache: it was there from the start, or it is a complete snapshot some
process collected, under the identity it verified then. -/
def Sourced (record : SnapshotCacheRecord) (trace : List (Pid × CacheEvent)) : Prop :=
  start = .record record ∨ record.snapshot.metadata.complete = true ∧
    ∃ q health now verification, (q, CacheEvent.collected record.snapshot health) ∈ trace ∧
      verificationFromHealth digest health .synchronized now = .ok verification ∧
      verification.identity = record.identity

/-- What a cached answer rests on. -/
structure Cached (request : SnapshotRequest) (a : AnalysisSnapshotAcquisition) (events : List CacheEvent)
    (earlier : List (Pid × CacheEvent)) : Prop where
  asked : ¬ request.Bypasses
  maximumAge : a.maximumAcceptableAgeSeconds = request.maximumAge
  read : ∃ record health verifiedAt now first,
    events = [.clock now, .read (.record record), .clock verifiedAt, .probed health, .clock first,
      .read (.record record)] ∧
    Sourced digest start record earlier ∧ a.snapshot = record.snapshot ∧
    verificationFromHealth digest health .identityVerified verifiedAt = .ok a.verification ∧
    record.identity = a.verification.identity ∧
    ((now - a.snapshot.metadata.capturedAt : Nat) : Int) ≤ min request.maximumAge ttlSeconds
  complete : a.snapshot.metadata.complete = true

/-- What a fresh answer rests on: it is stored if and only if it is complete. -/
structure Collected (a : AnalysisSnapshotAcquisition) (events : List CacheEvent) : Prop where
  collected : ∃ health now, .collected a.snapshot health ∈ events ∧
    verificationFromHealth digest health .synchronized now = .ok a.verification
  stored : a.snapshot.metadata.complete = true ↔
    ∃ record, .wrote record ∈ events ∧ record.snapshot = a.snapshot ∧ record.identity = a.verification.identity

def Basis (request : SnapshotRequest) (a : AnalysisSnapshotAcquisition) (events : List CacheEvent)
    (earlier : List (Pid × CacheEvent)) : Prop :=
  match a.source with
  | .compatibleCache => Cached digest start request a events earlier
  | .freshCollection => Collected digest a events

/-- An answer rests on one tenure of the process that gives it, and is about the world whose
identity was verified in it. -/
def Justified (p : Pid) (request : SnapshotRequest) (a : AnalysisSnapshotAcquisition)
    (before : List (Pid × CacheEvent)) : Prop :=
  a.verification.identity.Matches a.snapshot.metadata ∧
  ∃ later during earlier events,
    before = later ++ (p, .unlocked) :: (during ++ (p, .locked) :: earlier) ∧ Tenure p events during ∧
    Basis digest start request a events earlier

/-- When a process may perform an operation. -/
def Allowed (p : Pid) : CacheOp Pid → CacheState Pid → Prop
  | .lock, _ | .perfCounter, _ | .endProcess _, _ => True
  | .writeCache record, s => s.holder = some p ∧ Sourced digest start record s.trace
  | .answer request a, s => Justified digest start p request a s.trace
  | .unlock, s | .now, s | .readCache, s | .verifyIdentity, s | .bridgeObservation, s => s.holder = some p

/-- A process the system has ended does nothing any more. -/
def machine : Protocol (CacheOp Pid) CacheRet Pid (CacheState Pid) where
  step p o s r s' := s.ended p = false ∧ effect p o s r s'
  legal p o s := s.ended p = true ∨ Allowed digest start p o s

end

variable {digest : String → String} {start : CacheFile} {p q : Pid} {s s' : CacheState Pid}
  {events : List CacheEvent} {during earlier : List (Pid × CacheEvent)} {file : CacheFile}

/-! ## One step -/

omit [DecidableEq Pid] in
theorem Sourced.mono {record : SnapshotCacheRecord} {trace trace' : List (Pid × CacheEvent)}
    (h : Sourced digest start record trace) (hs : trace <:+ trace') : Sourced digest start record trace' := by
  rcases h with h | ⟨hc, q, health, now, v, hm, hv⟩
  · exact .inl h
  · exact .inr ⟨hc, q, health, now, v, hs.mem hm, hv⟩

/-- The state a step of `q` leads to. -/
inductive Moved (digest : String → String) (start : CacheFile) (q : Pid) (s : CacheState Pid) : CacheState Pid → Prop
  | same : Moved digest start q s s
  | locked (hs : s.holder = none) : Moved digest start q s ({ s with holder := some q }.log q .locked)
  | held (hs : s.holder = some q) (event : CacheEvent) (he : ¬ event.IsAnswer) (holder : Option Pid) (file : CacheFile)
      (hfile : file = s.file ∨ ∃ record, file = .record record ∧ Sourced digest start record s.trace) :
      Moved digest start q s ({ s with holder, file }.log q event)
  | answered (request : SnapshotRequest) (a : AnalysisSnapshotAcquisition)
      (ha : Justified digest start q request a s.trace) : Moved digest start q s (s.log q (.answered request a))
  | ended (q' : Pid) : Moved digest start q s
      { s with ended := Function.update s.ended q' true, holder := if s.holder = some q' then none else s.holder }

theorem moved (h : (machine digest start).Move q s s') : Moved digest start q s s' := by
  obtain ⟨o, r, hl, hended, hstep⟩ := h
  have hl : Allowed digest start q o s := by simpa [machine, hended] using hl
  cases o with
  | lock =>
    cases r with
    | ok u => exact hstep.2 ▸ .locked hstep.1
    | error e => exact hstep ▸ .same
  | unlock => exact hstep ▸ .held hl .unlocked id _ s.file (.inl rfl)
  | now => exact hstep ▸ .held hl (.clock r) id s.holder s.file (.inl rfl)
  | perfCounter => exact hstep ▸ .same
  | readCache => exact hstep.2 ▸ .held hl (.read r) id s.holder s.file (.inl rfl)
  | writeCache record =>
    have hnew : Moved digest start q s ({ s with file := .record record }.log q (.wrote record)) :=
      .held hl.1 (.wrote record) id s.holder (.record record) (.inr ⟨record, rfl, hl.2⟩)
    cases r with
    | ok u => exact hstep ▸ hnew
    | error e =>
      rcases hstep with rfl | rfl
      · exact .same
      · exact hnew
  | verifyIdentity =>
    cases r with
    | ok health => exact hstep ▸ .held hl (.probed health) id s.holder s.file (.inl rfl)
    | error e => exact hstep ▸ .same
  | bridgeObservation =>
    rcases r with e | ⟨_ | snapshot, health⟩
    · exact hstep ▸ .same
    · exact hstep ▸ .same
    · exact hstep ▸ .held hl (.collected snapshot health) id s.holder s.file (.inl rfl)
  | answer request a => exact hstep ▸ .answered request a hl
  | endProcess q' => exact hstep ▸ .ended q'

theorem Moved.trace (h : Moved digest start q s s') : s.trace <:+ s'.trace := by
  cases h with
  | same => exact List.suffix_rfl
  | locked | held | answered => exact List.suffix_cons _ _
  | ended => exact List.suffix_rfl

theorem Moved.ended_mono (h : Moved digest start q s s') (hp : s.ended p = true) : s'.ended p = true := by
  cases h with
  | same | locked | held | answered => exact hp
  | ended q' =>
    by_cases hq : p = q'
    · simp [hq]
    · simpa [hq] using hp

/-- The cache holds sourced records only. -/
def FileSourced (digest : String → String) (start : CacheFile) (s : CacheState Pid) : Prop :=
  ∀ record, s.file = .record record → Sourced digest start record s.trace

theorem Moved.fileSourced (h : Moved digest start q s s') (hs : FileSourced digest start s) :
    FileSourced digest start s' := by
  have hsuffix := h.trace
  cases h with
  | same => exact hs
  | locked | answered => exact fun record hr => (hs record hr).mono hsuffix
  | held _ _ _ _ file hfile =>
    intro record hr
    have hr : file = .record record := hr
    rcases hfile with rfl | ⟨record', rfl, hsourced⟩
    · exact (hs record hr).mono hsuffix
    · cases hr
      exact hsourced.mono hsuffix
  | ended => exact hs

/-! ## Holding the lock -/

theorem Tenure.nil : Tenure p [] ([] : List (Pid × CacheEvent)) := ⟨by simp, rfl⟩

theorem Tenure.own_event (h : Tenure p events during) (event : CacheEvent) :
    Tenure p (event :: events) ((p, event) :: during) :=
  ⟨by simpa using h.alone, by simp [h.own]⟩

theorem Tenure.others_answer (h : Tenure p events during) (hq : q ≠ p) {event : CacheEvent} (he : event.IsAnswer) :
    Tenure p events ((q, event) :: during) :=
  ⟨by simpa [he] using h.alone, by simp [hq, h.own]⟩

/-- `p` has the lock and has done `events` since it got it, after `earlier`. -/
def InTenure (p : Pid) (events : List CacheEvent) (file : CacheFile) (earlier : List (Pid × CacheEvent))
    (s : CacheState Pid) : Prop :=
  s.ended p = true ∨ s.holder = some p ∧ s.file = file ∧
    ∃ during, s.trace = during ++ (p, .locked) :: earlier ∧ Tenure p events during

/-- `p` has given the lock back. -/
def Released (p : Pid) (events : List CacheEvent) (earlier : List (Pid × CacheEvent)) (s : CacheState Pid) : Prop :=
  s.ended p = true ∨ ∃ later during, s.trace = later ++ (p, .unlocked) :: (during ++ (p, .locked) :: earlier) ∧
    Tenure p events during

theorem InTenure.moved (h : InTenure p events file earlier s) (hq : q ≠ p) (hm : Moved digest start q s s') :
    InTenure p events file earlier s' := by
  rcases h with h | ⟨hholder, hfile, during, htrace, htenure⟩
  · exact .inl (hm.ended_mono h)
  · cases hm with
    | same => exact .inr ⟨hholder, hfile, during, htrace, htenure⟩
    | locked hs => exact absurd (hs.symm.trans hholder) (by simp)
    | held hs => exact absurd (Option.some.inj (hs.symm.trans hholder)) hq
    | answered request a _ =>
      exact .inr ⟨hholder, hfile, (q, .answered request a) :: during, by simp [htrace],
        htenure.others_answer hq trivial⟩
    | ended q' =>
      by_cases hp : q' = p
      · exact .inl (by simp [hp])
      · exact .inr ⟨by simp [hholder, Ne.symm hp], hfile, during, htrace, htenure⟩

theorem InTenure.rely (h : InTenure p events file earlier s) (hr : (machine digest start).Rely p s s') :
    InTenure p events file earlier s' :=
  hr.preserves (fun _ _ _ hq hs hm => hs.moved hq (SnapshotCache.moved hm)) h

theorem Released.rely (h : Released p events earlier s) (hr : (machine digest start).Rely p s s') :
    Released p events earlier s' := by
  refine hr.preserves (fun q s s' hq hs hm => ?_) h
  have hm := SnapshotCache.moved hm
  rcases hs with hs | ⟨later, during, htrace, htenure⟩
  · exact .inl (hm.ended_mono hs)
  · obtain ⟨more, hmore⟩ := hm.trace
    exact .inr ⟨more ++ later, during, by rw [← hmore, htrace, List.append_assoc], htenure⟩

theorem InTenure.log (h : InTenure p events file earlier s) (event : CacheEvent) :
    InTenure p (event :: events) file earlier (s.log p event) := by
  rcases h with h | ⟨hholder, hfile, during, htrace, htenure⟩
  · exact .inl h
  · exact .inr ⟨hholder, hfile, (p, event) :: during, by simp [htrace], htenure.own_event event⟩

theorem InTenure.wrote (h : InTenure p events file earlier s) (record : SnapshotCacheRecord) :
    InTenure p (.wrote record :: events) (.record record) earlier
      ({ s with file := .record record }.log p (.wrote record)) := by
  rcases h with h | ⟨hholder, -, during, htrace, htenure⟩
  · exact .inl h
  · exact .inr ⟨hholder, rfl, (p, .wrote record) :: during, by simp [htrace], htenure.own_event _⟩

theorem InTenure.unlocked (h : InTenure p events file earlier s) :
    Released p events earlier
      ({ s with holder := if s.holder = some p then none else s.holder }.log p .unlocked) := by
  rcases h with h | ⟨-, -, during, htrace, htenure⟩
  · exact .inl h
  · exact .inr ⟨[], during, by simp [htrace], htenure⟩

/-! ## The calls, one after the other -/

section
variable {α : Type} {o : CacheOp Pid} {ok : α → Unit → CacheState Pid → Prop}
  {er : PyError → Unit → CacheState Pid → Prop}

/-- An operation of the process that holds the lock. -/
theorem InTenure.wp_perform {ok : CacheRet o → Unit → CacheState Pid → Prop} (h : InTenure p events file earlier s)
    (hl : ∀ s' during, s'.holder = some p → s'.trace = during ++ (p, .locked) :: earlier → Tenure p events during →
      Allowed digest start p o s')
    (hk : ∀ s' r s'', InTenure p events file earlier s' → s'.ended p = false → effect p o s' r s'' → ok r () s'') :
    Py.wp (machine digest start) p (perform o) () ok er s := by
  refine Py.wp_perform fun s' hr => ?_
  have hs' := h.rely hr
  refine ⟨?_, fun r s'' hstep => hk s' r s'' hs' hstep.1 hstep.2⟩
  rcases hs' with he | ⟨hholder, -, during, htrace, htenure⟩
  · exact .inl he
  · exact .inr (hl s' during hholder htrace htenure)

/-- Some tenure of `p` after `earlier`: what an error leaves. -/
def Held (p : Pid) (earlier : List (Pid × CacheEvent)) (s : CacheState Pid) : Prop :=
  ∃ events file, InTenure p events file earlier s

theorem InTenure.held (h : InTenure p events file earlier s) : Held p earlier s := ⟨events, file, h⟩

theorem wp_attempt {m : Cli Pid (Except PyError α)}
    (h : Py.wp (machine digest start) p m ()
      (fun r _ s => (∀ a, r = .ok a → ok a () s) ∧ ∀ e, r = .error e → er e () s) er s) :
    Py.wp (machine digest start) p (attempt m) () ok er s :=
  Py.wp_seq h (fun _ _ _ hr => Py.wp_lift hr.1 hr.2) fun _ _ _ h => h

theorem InTenure.wp_now {ok : Timestamp → Unit → CacheState Pid → Prop} (h : InTenure p events file earlier s)
    (hk : ∀ now s', InTenure p (.clock now :: events) file earlier s' → ok now () s') :
    Py.wp (machine digest start) p (perform .now) () ok er s :=
  h.wp_perform (fun _ _ hholder _ _ => hholder) fun _ now s'' hs' _ heffect => hk now s'' (heffect ▸ hs'.log _)

theorem InTenure.wp_perfCounter {ok : Nat → Unit → CacheState Pid → Prop} (h : InTenure p events file earlier s)
    (hk : ∀ n s', InTenure p events file earlier s' → ok n () s') :
    Py.wp (machine digest start) p (perform .perfCounter) () ok er s :=
  h.wp_perform (fun _ _ _ _ _ => trivial) fun _ n s'' hs' _ heffect => hk n s'' (heffect ▸ hs')

/-- A lookup the command makes nothing of. -/
def SnapshotCacheLookup.IsFailure : SnapshotCacheLookup → Prop
  | .hit _ _ _ _ | .miss .requiresVerification _ _ => False
  | .miss _ _ _ => True

/-- Nothing has been written to the cache. -/
def Unwritten (events : List CacheEvent) : Prop := ∀ record, .wrote record ∉ events

theorem InTenure.wp_age {ok : Nat → Unit → CacheState Pid → Prop} {record : SnapshotCacheRecord}
    (h : InTenure p events file earlier s)
    (hk : ∀ now s', InTenure p (.clock now :: events) file earlier s' →
      ok (now - record.snapshot.metadata.capturedAt) () s') :
    Py.wp (machine digest start) p (age record) () ok er s :=
  Py.wp_bind (h.wp_now fun now s' hs' => Py.wp_pure (hk now s' hs'))

theorem InTenure.wp_readRecord {ok : Except SnapshotCacheLookup SnapshotCacheRecord → Unit → CacheState Pid → Prop}
    (h : InTenure p events file earlier s)
    (hfail : ∀ failure read s', failure.IsFailure → InTenure p (.read read :: events) file earlier s' →
      ok (.error failure) () s')
    (hrecord : ∀ record s', file = .record record → InTenure p (.read file :: events) file earlier s' →
      ok (.ok record) () s') :
    Py.wp (machine digest start) p readRecord () ok er s := by
  refine Py.wp_bind (h.wp_perform (fun _ _ hholder _ _ => hholder) fun s' read s'' hs' hlive heffect => ?_)
  obtain ⟨hread, rfl⟩ := heffect
  have hs'' := hs'.log (.read read)
  cases read with
  | missing => exact Py.wp_pure (hfail _ _ _ trivial hs'')
  | corrupt => exact Py.wp_pure (hfail _ _ _ trivial hs'')
  | record record =>
    -- only what the file holds is read as a record
    have hfile : file = .record record := by
      rcases hs' with he | ⟨-, hf, -⟩
      · simp [hlive] at he
      · rcases hread with hread | hread
        · exact hf ▸ hread.symm
        · cases hread
    exact Py.wp_pure (hrecord record _ hfile (hfile ▸ hs''))

theorem InTenure.wp_checked {ok : SnapshotCacheLookup → Unit → CacheState Pid → Prop} {record : SnapshotCacheRecord}
    {maximumAge : Int} {rest : Nat → SnapshotCacheLookup} (h : InTenure p events file earlier s)
    (hfail : ∀ now failure s', failure.IsFailure → InTenure p (.clock now :: events) file earlier s' →
      ok failure () s')
    (hrest : ∀ now s', record.snapshot.metadata.complete = true →
      ((now - record.snapshot.metadata.capturedAt : Nat) : Int) ≤ min maximumAge ttlSeconds →
      InTenure p (.clock now :: events) file earlier s' →
      ok (rest (now - record.snapshot.metadata.capturedAt)) () s')
    (her : ∀ e s', Held p earlier s' → er e () s') :
    Py.wp (machine digest start) p (checked record maximumAge rest) () ok er s := by
  refine Py.wp_bind (h.wp_age fun now s' hs' => ?_)
  by_cases hcomplete : record.snapshot.metadata.complete = false
  · rw [if_pos hcomplete]
    exact Py.wp_pure (hfail now _ s' trivial hs')
  rw [if_neg hcomplete]
  refine Py.wp_bind (Py.wp_lift (fun bound hbound => ?_) fun e _ => her e s' hs'.held)
  have hbound : bound = min maximumAge ttlSeconds := by
    unfold effectiveAge at hbound
    split at hbound
    · cases hbound
    · exact (Except.ok.inj hbound).symm
  by_cases hage : bound < ((now - record.snapshot.metadata.capturedAt : Nat) : Int)
  · rw [if_pos hage]
    exact Py.wp_pure (hfail now _ s' trivial hs')
  · rw [if_neg hage]
    exact Py.wp_pure (hrest now s' (by simpa using hcomplete) (hbound ▸ not_lt.1 hage) hs')

theorem InTenure.wp_candidateStatus {ok : SnapshotCacheLookup → Unit → CacheState Pid → Prop} {maximumAge : Int}
    (h : InTenure p events file earlier s)
    (hfail : ∀ failure more s', failure.IsFailure → Unwritten more → InTenure p (more ++ events) file earlier s' →
      ok failure () s')
    (hcandidate : ∀ record now s', file = .record record →
      InTenure p (.clock now :: .read file :: events) file earlier s' →
      ok (candidate (now - record.snapshot.metadata.capturedAt)) () s')
    (her : ∀ e s', Held p earlier s' → er e () s') :
    Py.wp (machine digest start) p (candidateStatus maximumAge) () ok er s := by
  refine Py.wp_bind (h.wp_readRecord (fun failure read s' hf hs' => ?_) fun record s' hfile hs' => ?_)
  · exact Py.wp_pure (hfail failure [.read read] s' hf (by simp [Unwritten]) hs')
  · exact hs'.wp_checked
      (fun now failure s'' hf hs'' => hfail failure [.clock now, .read file] s'' hf (by simp [Unwritten]) hs'')
      (fun now s'' _ _ hs'' => hcandidate record now s'' hfile hs'') her

theorem InTenure.wp_load {ok : SnapshotCacheLookup → Unit → CacheState Pid → Prop} {maximumAge : Int}
    {identity : SnapshotIdentity} (h : InTenure p events file earlier s)
    (hfail : ∀ failure more s', failure.IsFailure → Unwritten more → InTenure p (more ++ events) file earlier s' →
      ok failure () s')
    (hhit : ∀ record now reason s', file = .record record → record.identity = identity →
      record.snapshot.metadata.complete = true →
      ((now - record.snapshot.metadata.capturedAt : Nat) : Int) ≤ min maximumAge ttlSeconds →
      InTenure p (.clock now :: .read file :: events) file earlier s' →
      ok (.hit record.snapshot (now - record.snapshot.metadata.capturedAt) record.collectionDurationSeconds reason)
        () s')
    (her : ∀ e s', Held p earlier s' → er e () s') :
    Py.wp (machine digest start) p (load (some identity) maximumAge) () ok er s := by
  refine Py.wp_bind (h.wp_readRecord (fun failure read s' hf hs' => ?_) fun record s' hfile hs' => ?_)
  · exact Py.wp_pure (hfail failure [.read read] s' hf (by simp [Unwritten]) hs')
  · refine hs'.wp_checked
      (fun now failure s'' hf hs'' => hfail failure [.clock now, .read file] s'' hf (by simp [Unwritten]) hs'')
      (fun now s'' hcomplete hage hs'' => ?_) her
    by_cases hid : record.identity = identity
    · rw [SnapshotCacheRecord.lookup, if_neg (not_not.2 hid)]
      exact hhit record now _ s'' hfile hid hcomplete hage hs''
    · rw [SnapshotCacheRecord.lookup, if_pos hid]
      exact hfail _ [.clock now, .read file] s'' trivial (by simp [Unwritten]) hs''

theorem InTenure.wp_probe {ok : SnapshotVerification → Unit → CacheState Pid → Prop}
    (h : InTenure p events file earlier s)
    (hk : ∀ health now verification s', verificationFromHealth digest health .identityVerified now = .ok verification →
      InTenure p (.clock now :: .probed health :: events) file earlier s' → ok verification () s')
    (her : ∀ e s', Held p earlier s' → er e () s') :
    Py.wp (machine digest start) p (probe digest) () ok er s := by
  refine Py.wp_bind (wp_attempt (h.wp_perform (fun _ _ hholder _ _ => hholder) fun s' reply s'' hs' _ heffect => ?_))
  cases reply with
  | error e =>
    obtain rfl : s'' = s' := heffect
    exact ⟨fun _ h => (by cases h), fun e _ => her e _ hs'.held⟩
  | ok health =>
    refine ⟨fun a ha => ?_, fun _ h => by cases h⟩
    obtain rfl := Except.ok.inj ha
    have hs'' : InTenure p (.probed health :: events) file earlier s'' := heffect ▸ hs'.log _
    exact Py.wp_bind (hs''.wp_now fun now s₁ hs₁ =>
      Py.wp_lift (fun v hv => hk health now v s₁ hv hs₁) fun e _ => her e s₁ hs₁.held)

theorem SnapshotIdentity.matches_of_fromSnapshot {snapshot : WorldSnapshot} {context : Nat}
    {identity : SnapshotIdentity} (h : SnapshotIdentity.fromSnapshot snapshot context = .ok identity) :
    identity.Matches snapshot.metadata := by
  unfold SnapshotIdentity.fromSnapshot at h
  split at h
  · cases h
  · rename_i observer hobserver
    obtain rfl := Except.ok.inj h
    exact ⟨rfl, rfl, rfl, hobserver.symm⟩

theorem InTenure.wp_collect {ok : AnalysisSnapshotAcquisition → Unit → CacheState Pid → Prop}
    (h : InTenure p events file earlier s)
    (hk : ∀ a health now s', a.source = .freshCollection → a.verification.identity.Matches a.snapshot.metadata →
      verificationFromHealth digest health .synchronized now = .ok a.verification →
      InTenure p (.clock now :: .collected a.snapshot health :: events) file earlier s' → ok a () s')
    (her : ∀ e s', Held p earlier s' → er e () s') :
    Py.wp (machine digest start) p (collect digest) () ok er s := by
  refine Py.wp_bind (h.wp_perfCounter fun started s₁ hs₁ => ?_)
  refine Py.wp_bind (wp_attempt (hs₁.wp_perform (fun _ _ hholder _ _ => hholder) fun s' reply s'' hs' _ heffect => ?_))
  rcases reply with e | ⟨_ | snapshot, health⟩
  · obtain rfl : s'' = s' := heffect
    exact ⟨fun _ h => (by cases h), fun e _ => her e _ hs'.held⟩
  · obtain rfl : s'' = s' := heffect
    refine ⟨fun a ha => ?_, fun _ h => by cases h⟩
    obtain rfl := Except.ok.inj ha
    exact Py.wp_bind (hs'.wp_perfCounter fun _ s₂ hs₂ => Py.wp_raise (her _ s₂ hs₂.held))
  · refine ⟨fun a ha => ?_, fun _ h => by cases h⟩
    obtain rfl := Except.ok.inj ha
    have hs'' : InTenure p (.collected snapshot health :: events) file earlier s'' := heffect ▸ hs'.log _
    refine Py.wp_bind (hs''.wp_perfCounter fun finished s₂ hs₂ => ?_)
    refine Py.wp_bind (hs₂.wp_now fun now s₃ hs₃ => ?_)
    refine Py.wp_bind (Py.wp_lift (fun verification hv => ?_) fun e _ => her e s₃ hs₃.held)
    refine Py.wp_bind (Py.wp_lift (fun expected hexpected => ?_) fun e _ => her e s₃ hs₃.held)
    by_cases hid : expected = verification.identity
    · rw [if_neg (not_not.2 hid)]
      refine Py.wp_pure (hk _ health now s₃ rfl ?_ hv hs₃)
      exact hid ▸ SnapshotIdentity.matches_of_fromSnapshot hexpected
    · rw [if_pos hid]
      exact Py.wp_raise (her _ s₃ hs₃.held)

theorem InTenure.wp_cached {ok : Option AnalysisSnapshotAcquisition → Unit → CacheState Pid → Prop}
    {request : SnapshotRequest} (h : InTenure p [] file earlier s)
    (hsourced : ∀ record, file = .record record → Sourced digest start record earlier) (hasked : ¬ request.Bypasses)
    (hnone : ∀ events s', Unwritten events → InTenure p events file earlier s' → ok none () s')
    (hsome : ∀ a events s', a.source = .compatibleCache → a.verification.identity.Matches a.snapshot.metadata →
      Cached digest start request a events earlier → InTenure p events file earlier s' → ok (some a) () s')
    (her : ∀ e s', Held p earlier s' → er e () s') :
    Py.wp (machine digest start) p (cached digest request.maximumAge) () ok er s := by
  refine Py.wp_bind (h.wp_candidateStatus (fun failure more s' hf hmore hs' => ?_)
    (fun record first s' hfile hs' => ?_) her)
  · have hs' : InTenure p more file earlier s' := List.append_nil more ▸ hs'
    rcases failure with _ | ⟨_ | _, _, _⟩
    · exact hf.elim
    · exact hf.elim
    all_goals exact Py.wp_pure (hnone more s' hmore hs')
  · refine Py.wp_bind (hs'.wp_probe (fun health verifiedAt verification s₁ hv hs₁ => ?_) her)
    refine Py.wp_bind (hs₁.wp_load (fun failure more s₂ hf hmore hs₂ => ?_)
      (fun record' now reason s₂ hfile' hid hcomplete hage hs₂ => ?_) her)
    · have hwritten : Unwritten (more ++ [.clock verifiedAt, .probed health, .clock first, .read file]) := by
        simpa [Unwritten] using hmore
      rcases failure with _ | ⟨_, _, _⟩
      · exact hf.elim
      · exact Py.wp_pure (hnone _ s₂ hwritten hs₂)
    · obtain rfl : record = record' := by
        rw [hfile] at hfile'
        cases hfile'
        rfl
      refine Py.wp_pure (hsome _ _ s₂ rfl (hid ▸ record.identity_matches) ?_ hs₂)
      exact {
        asked := hasked
        maximumAge := rfl
        read := ⟨record, health, verifiedAt, now, first, by rw [hfile], hsourced record hfile, rfl, hv, hid, hage⟩
        complete := hcomplete }

/-- What a process writes it has collected. -/
theorem InTenure.wp_store {ok : Unit → Unit → CacheState Pid → Prop} {snapshot : WorldSnapshot}
    {identity : SnapshotIdentity} {duration : Nat} (h : InTenure p events file earlier s)
    (hsourced : snapshot.metadata.complete = true → ∃ health now verification,
      .collected snapshot health ∈ events ∧ verificationFromHealth digest health .synchronized now = .ok verification ∧
      verification.identity = identity)
    (hincomplete : ∀ s', snapshot.metadata.complete = false → InTenure p events file earlier s' → ok () () s')
    (hstored : ∀ now record s', snapshot.metadata.complete = true → record.snapshot = snapshot →
      record.identity = identity → InTenure p (.wrote record :: .clock now :: events) (.record record) earlier s' →
      ok () () s')
    (her : ∀ e s', Held p earlier s' → er e () s') :
    Py.wp (machine digest start) p (store snapshot identity duration) () ok er s := by
  unfold store
  by_cases hcomplete : snapshot.metadata.complete = false
  · rw [if_pos hcomplete]
    exact Py.wp_pure (hincomplete s hcomplete h)
  have hcomplete' : snapshot.metadata.complete = true := by simpa using hcomplete
  rw [if_neg hcomplete]
  refine Py.wp_bind (h.wp_now fun now s₁ hs₁ => ?_)
  by_cases hmatches : identity.Matches snapshot.metadata
  · rw [dif_pos hmatches]
    refine wp_attempt (hs₁.wp_perform (fun s' during hholder htrace htenure => ⟨hholder, ?_⟩)
      fun s' reply s'' hs' _ heffect => ?_)
    · obtain ⟨health, at', verification, hmem, hv, hid⟩ := hsourced hcomplete'
      have hown : CacheEvent.collected snapshot health ∈ (during.filter (·.1 = p)).map (·.2) := by
        rw [htenure.own]
        exact List.mem_cons_of_mem _ hmem
      obtain ⟨⟨q, event⟩, hq, rfl⟩ := List.mem_map.1 hown
      exact .inr ⟨hcomplete', q, health, at', verification,
        htrace ▸ List.mem_append_left _ (List.mem_of_mem_filter hq), hv, hid⟩
    · cases reply with
      | ok u =>
        obtain rfl := heffect
        exact ⟨fun _ _ => hstored now _ _ hcomplete' rfl rfl (hs'.wrote _), fun _ h => (by cases h)⟩
      | error e =>
        refine ⟨fun _ h => (by cases h), fun e _ => ?_⟩
        rcases heffect with rfl | rfl
        · exact her e _ hs'.held
        · exact her e _ (hs'.wrote _).held
  · rw [dif_neg hmatches]
    exact Py.wp_raise (her _ s₁ hs₁.held)

/-- What the body of the `with` has to establish of its answer. -/
def Rests (digest : String → String) (start : CacheFile) (request : SnapshotRequest) (a : AnalysisSnapshotAcquisition)
    (events : List CacheEvent) (earlier : List (Pid × CacheEvent)) : Prop :=
  a.verification.identity.Matches a.snapshot.metadata ∧ Basis digest start request a events earlier

theorem InTenure.wp_refreshed {ok : AnalysisSnapshotAcquisition → Unit → CacheState Pid → Prop}
    {request : SnapshotRequest} (h : InTenure p events file earlier s) (hunwritten : Unwritten events)
    (hk : ∀ a events file s', Rests digest start request a events earlier → InTenure p events file earlier s' →
      ok a () s')
    (her : ∀ e s', Held p earlier s' → er e () s') :
    Py.wp (machine digest start) p (refreshed digest request) () ok er s := by
  refine Py.wp_bind (h.wp_collect (fun a health now s₁ hsource hmatches hv hs₁ => ?_) her)
  have hcollected : CacheEvent.collected a.snapshot health ∈ .clock now :: .collected a.snapshot health :: events := by
    simp
  refine Py.wp_bind (hs₁.wp_store (fun _ => ⟨health, now, a.verification, hcollected, hv, rfl⟩)
    (fun s₂ hcomplete hs₂ => Py.wp_pure (hk _ _ _ s₂ ⟨hmatches, ?_⟩ hs₂))
    (fun now' record s₂ hcomplete hsnapshot hid hs₂ => Py.wp_pure (hk _ _ _ s₂ ⟨hmatches, ?_⟩ hs₂)) her)
  · simp only [Basis, hsource]
    refine ⟨⟨health, now, hcollected, hv⟩, ⟨fun h => absurd (hcomplete.symm.trans h) (by simp), ?_⟩⟩
    rintro ⟨record, hwrote, -, -⟩
    exact absurd (show .wrote record ∈ events by simpa using hwrote) (hunwritten record)
  · simp only [Basis, hsource]
    exact ⟨⟨health, now, by simp, hv⟩, ⟨fun _ => ⟨record, by simp, hsnapshot, hid⟩, fun _ => hcomplete⟩⟩

theorem InTenure.wp_lookedUp {ok : AnalysisSnapshotAcquisition → Unit → CacheState Pid → Prop}
    {request : SnapshotRequest} (h : InTenure p [] file earlier s)
    (hsourced : ∀ record, file = .record record → Sourced digest start record earlier)
    (hk : ∀ a events file s', Rests digest start request a events earlier → InTenure p events file earlier s' →
      ok a () s')
    (her : ∀ e s', Held p earlier s' → er e () s') :
    Py.wp (machine digest start) p (lookedUp digest request) () ok er s := by
  unfold lookedUp
  by_cases hbypasses : request.Bypasses
  · rw [if_pos hbypasses]
    exact h.wp_refreshed (by simp [Unwritten]) hk her
  · rw [if_neg hbypasses]
    refine Py.wp_bind (h.wp_cached hsourced hbypasses (fun events s₁ hunwritten hs₁ => ?_)
      (fun a events s₁ hsource hmatches hcached hs₁ => ?_) her)
    · exact hs₁.wp_refreshed hunwritten hk her
    · refine Py.wp_pure (hk a events file s₁ ⟨hmatches, ?_⟩ hs₁)
      simpa only [Basis, hsource] using hcached

/-- The lock is taken on a sourced cache and given back whatever happens. -/
theorem wp_exclusive {ok : α → Unit → CacheState Pid → Prop} {body : Cli Pid α} {R : α → List CacheEvent →
    List (Pid × CacheEvent) → Prop} (hs : FileSourced digest start s)
    (hbody : ∀ file earlier s' {ok' : α → Unit → CacheState Pid → Prop} {er' : PyError → Unit → CacheState Pid → Prop},
      InTenure p [] file earlier s' → (∀ record, file = .record record → Sourced digest start record earlier) →
      (∀ a events file s', R a events earlier → InTenure p events file earlier s' → ok' a () s') →
      (∀ e s', Held p earlier s' → er' e () s') → Py.wp (machine digest start) p body () ok' er' s')
    (hk : ∀ a events earlier s', R a events earlier → Released p events earlier s' → ok a () s') :
    Py.wp (machine digest start) p (exclusive body) () ok (fun _ _ _ => True) s := by
  have hunlock : ∀ {events file earlier s'} {ok' : Unit → Unit → CacheState Pid → Prop},
      InTenure p events file earlier s' → (∀ s'', Released p events earlier s'' → ok' () () s'') →
      Py.wp (machine digest start) p (perform .unlock) () ok' (fun _ _ _ => True) s' := fun hs' hk' =>
    hs'.wp_perform (fun _ _ hholder _ _ => hholder) fun _ _ _ hs'' _ heffect => hk' _ (heffect ▸ hs''.unlocked)
  refine Py.wp_bind (wp_attempt (Py.wp_perform fun s' hr => ⟨.inr trivial, fun reply s'' hstep => ?_⟩))
  have hs' : FileSourced digest start s' := hr.preserves (fun _ _ _ _ hs hm => (moved hm).fileSourced hs) hs
  cases reply with
  | error e => exact ⟨fun _ h => (by cases h), fun _ _ => trivial⟩
  | ok u =>
    obtain ⟨-, rfl⟩ := hstep.2
    refine ⟨fun _ _ => Py.wp_tryFinally ?_, fun _ h => (by cases h)⟩
    refine hbody s'.file s'.trace _ (.inr ⟨rfl, rfl, [], rfl, .nil⟩) hs' (fun a events file s₁ hrests hs₁ => ?_)
      fun e s₁ hheld => ?_
    · exact hunlock hs₁ fun s₂ hs₂ => hk a events _ s₂ hrests hs₂
    · obtain ⟨events, file, hs₁⟩ := hheld
      exact hunlock hs₁ fun _ _ => trivial

/-- A command that answers is entitled to its answer. -/
theorem wp_command (request : SnapshotRequest) (hs : FileSourced digest start s) :
    (machine digest start).wp p (command digest request) (fun _ _ => True) s := by
  refine Protocol.wp_bind ?_
  have hcall : Py.wp (machine digest start) p (do
      let acquisition ← analysisSnapshot digest request
      perform (.answer request acquisition) : Cli Pid Unit) () (fun _ _ _ => True) (fun _ _ _ => True) s := by
    refine Py.wp_bind ?_
    unfold analysisSnapshot
    split
    · exact Py.wp_raise trivial
    · refine wp_exclusive (R := Rests digest start request) hs
        (fun file earlier s' _ _ htenure hsourced hk her => htenure.wp_lookedUp hsourced hk her)
        fun a events earlier s' hrests hreleased => ?_
      refine Py.wp_perform fun s'' hr => ⟨?_, fun _ _ _ => trivial⟩
      rcases hreleased.rely hr with he | ⟨later, during, htrace, htenure⟩
      · exact .inl he
      · exact .inr ⟨hrests.1, later, during, earlier, events, htrace, htenure, hrests.2⟩
  exact Protocol.wp_mono (fun _ _ _ => trivial) hcall

end

/-! ## Every interleaving -/

/-- Every answer given so far was justified when it was given. -/
def AnswersJustified (digest : String → String) (start : CacheFile) (s : CacheState Pid) : Prop :=
  ∀ p request a before, (p, .answered request a) :: before <:+ s.trace → Justified digest start p request a before

theorem Moved.answersJustified (h : Moved digest start q s s') (hs : AnswersJustified digest start s) :
    AnswersJustified digest start s' := by
  intro p request a before hbefore
  cases h with
  | same | ended => exact hs p request a before hbefore
  | locked =>
    rcases List.suffix_cons_iff.1 hbefore with heq | hsuffix
    · cases heq
    · exact hs p request a before hsuffix
  | held _ event he =>
    rcases List.suffix_cons_iff.1 hbefore with heq | hsuffix
    · cases heq
      exact (he trivial).elim
    · exact hs p request a before hsuffix
  | answered request' a' ha =>
    rcases List.suffix_cons_iff.1 hbefore with heq | hsuffix
    · cases heq
      exact ha
    · exact hs p request a before hsuffix

namespace Desk

def sha256 (text : String) : String := if text = "save-1|company|0" then "7f698436247f4c0cf4715877" else text

def world : WorldSnapshot where
  metadata := {
    snapshotId := "world-1", worldId := "save-1", game := "openttd", gameVersion := "15.3", gameDate := 700000
    captureStartedGameDate := 700000, captureCompletedGameDate := 700000, complete := true
    capabilityFingerprint := "capabilities", saveGeneration := 0, bridgeSequence := 9, capturedAt := 1000000
    observerCompanyId := some "company:7f698436247f4c0cf4715877" }
  coverage := []

def health : BridgeHealth where
  openttdVersion := some "15.3"
  bridgeProtocolVersion := some 2
  scriptVersion := some 2
  scriptInstanceId := some "save-1"
  lastSequence := some 9
  activeCompanyContext := some 0
  capabilityFingerprint := some "capabilities"
  snapshot := some (0, some 0)

/-- A bridge with one world, and a clock that goes on by a second whenever it is read. -/
def handler : Handler (CacheOp Nat) CacheRet Nat (CacheState Nat) Timestamp := fun p o s now =>
  if s.ended p then none else match o with
  | .lock => if s.holder = none then some (.ok (), { s with holder := some p }.log p .locked, now) else none
  | .unlock =>
    some ((), { s with holder := if s.holder = some p then none else s.holder }.log p .unlocked, now)
  | .now => some (now, s.log p (.clock now), now + 1000000)
  | .perfCounter => some (now, s, now)
  | .readCache => some (s.file, s.log p (.read s.file), now)
  | .writeCache record => some (.ok (), { s with file := .record record }.log p (.wrote record), now)
  | .verifyIdentity => some (.ok health, s.log p (.probed health), now)
  | .bridgeObservation => some (.ok (some world, health), s.log p (.collected world health), now)
  | .answer request a => some ((), s.log p (.answered request a), now)
  | .endProcess _ => none

theorem handler_sound : handler.Sound (machine sha256 .missing) := by
  intro p o s now r s' now' h
  unfold handler at h
  split at h
  · cases h
  rename_i hended
  refine ⟨by simpa using hended, ?_⟩
  cases o with
  | lock =>
    simp only at h
    split at h
    · rename_i hholder
      cases h
      exact ⟨hholder, rfl⟩
    · cases h
  | readCache =>
    cases h
    exact ⟨.inl rfl, rfl⟩
  | endProcess => cases h
  | unlock | now | perfCounter | writeCache | verifyIdentity | bridgeObservation | answer =>
    cases h
    rfl

/-- The first command collects the world and dies, the second asks again. -/
def schedule : List (Turn (CacheOp Nat) CacheRet Nat) :=
  [.spawn 0 (command sha256 {}), .spawn 1 (command sha256 {}), .run 0 20, .run 1 20]

def played : Option (Config (CacheOp Nat) CacheRet Nat (CacheState Nat) × Timestamp) :=
  play handler schedule (Config.idle { file := .missing }) 2000000

/-- The last that happened is that process 1 was answered from the cache. -/
def servedFromCache : List (Nat × CacheEvent) → Bool
  | (1, .answered request a) :: _ => request = {} && a.source = .compatibleCache
  | _ => false

theorem played_served : played.any (fun c => servedFromCache c.1.shared.trace) = true := by decide +kernel

end Desk

end SimPilot.Analysis.SnapshotCache
