import SimPilot.SoftwareInc.OperatorRules
/-!
# What follows a resume gesture

Three operators let the game run for an interval. `Since` is what they are told from the resume
gesture on, whatever it is; the game is left stopped where it was seen paused by then, or a pause
gesture was sent. `Stops` says on the replies alone when that happens.
-/

namespace SimPilot.SoftwareInc

open GameBridge Effect Py

/-- The replies since the resume gesture, and the targets of the gestures after it. -/
structure Since where
  /-- The last observation before the gesture. -/
  before : Option Observation
  gestures : List String := []
  sleeps : List (Except UIError Unit) := []
  observations : List (Except UIError Observation) := []
  foregrounds : List (Except UIError Unit) := []
  saves : List (Except UIError Unit) := []
  counts : List (Except UIError Nat) := []
  events : List (Except UIError Unit) := []
  times : List Timestamp := []

/-- What an operator observed last, and what followed its resume gesture. -/
structure Watch where
  last : Option Observation := none
  since : Option Since := none

variable {I W A E σ α : Type}

def Since.note (x : Since) : (o : Call I W A E) → Reply o → Since
  | .observe, r => { x with observations := x.observations ++ [r] }
  | .execute g, _ => { x with gestures := x.gestures ++ [g.targetId] }
  | .sleep _, r => { x with sleeps := x.sleeps ++ [r] }
  | .keepGameForeground, r => { x with foregrounds := x.foregrounds ++ [r] }
  | .save _, r => { x with saves := x.saves ++ [r] }
  | .events _, r => { x with counts := x.counts ++ [r] }
  | .appendEvent _, r => { x with events := x.events ++ [r] }
  | .now, r => { x with times := x.times ++ [r] }
  | _, _ => x

/-- The observation an operator was shown. -/
def seenIn : (o : Call I W A E) → Reply o → Option Observation
  | .observe, .ok o => some o
  | _, _ => none

/-- The resume gesture was executed. -/
def resumes : (o : Call I W A E) → Reply o → Bool
  | .execute g, .ok () => g.targetId = "resume_button"
  | _, _ => false

def Watch.note (s : Watch) (o : Call I W A E) (r : Reply o) : Watch where
  last := (seenIn o r).or s.last
  since := match s.since with
    | some x => some (x.note o r)
    | none => if resumes o r then some { before := s.last } else none

/-- Every reply is possible. -/
def timed : Semantics (Call I W A E) Reply Watch := fun o s r s' => s' = s.note o r

/-- Since the resume gesture the game was observed paused, or a pause gesture was sent. -/
def Since.Stopped (x : Since) : Prop :=
  (∃ o, .ok o ∈ x.observations ∧ o.paused = true) ∨ "pause_button" ∈ x.gestures

/-! ## When the game is stopped -/

variable (words : Wording)

/-- The pause button of an observation can be clicked, unless it is stale by the time that is read. -/
def PauseShown (o : Observation) (times : List Timestamp) : Prop :=
  ∃ t, targetsNamed o "pause_button" = [t] ∧ t.point = true ∧ ∀ now ∈ times.head?, freshTarget words o now t = .ok t

/-- The observation continues the one before the gesture. -/
def Since.Continuous (x : Since) (o : Observation) : Prop :=
  ∃ before ∈ x.before, requireContinuity words before o = .ok ()

/-- What is known later of the replies. -/
structure Since.Extends (x x' : Since) : Prop where
  before : x'.before = x.before
  gestures : x.gestures <+: x'.gestures
  sleeps : x.sleeps <+: x'.sleeps
  observations : x.observations <+: x'.observations
  foregrounds : x.foregrounds <+: x'.foregrounds
  saves : x.saves <+: x'.saves
  counts : x.counts <+: x'.counts
  events : x.events <+: x'.events
  times : x.times <+: x'.times

/-- How an operator gets from its first observation to the second, and acts on that. -/
structure Course where
  /-- No reply keeps it from a second observation. -/
  goesOn : Observation → Since → Prop
  readable : Observation → Prop
  /-- Every call on the way was made, and replied well. -/
  gone : Observation → Since → Prop
  goesOn_of_gone : ∀ {o x}, gone o x → goesOn o x
  later : ∀ {o x x'}, x.Extends x' → gone o x → gone o x'

/-- The replies with which the game is stopped: none of them, as far as there are any, stands in
the way of a pause. -/
def Course.Stops (c : Course) (x : Since) : Prop :=
  (∀ r ∈ x.sleeps.head?, r = .ok ()) ∧ ∀ r ∈ x.observations.head?, ∃ o, r = .ok o ∧
    (o.paused = true ∨ x.Continuous words o ∧ c.goesOn o x ∧ ∀ r' ∈ x.observations[1]?, ∃ o', r' = .ok o' ∧
      (o'.paused = true ∨ c.readable o' ∧ PauseShown words o' x.times))

/-- The second observation is there, and is paused or shows how to pause. -/
def Course.Seen (c : Course) (x : Since) : Prop :=
  ∃ o, x.observations[1]? = some (.ok o) ∧
    (o.paused = true ∨ c.readable o ∧ x.times ≠ [] ∧ PauseShown words o x.times)

/-- Replies with which the game is stopped are there. -/
def Course.Done (c : Course) (x : Since) : Prop :=
  x.sleeps.head? = some (.ok ()) ∧ ∃ o, x.observations.head? = some (.ok o) ∧
    (o.paused = true ∨ x.Continuous words o ∧ c.gone o x ∧ c.Seen words x)

/-! ## Later replies -/

theorem head_of_extends {l l' : List α} {a : α} (h : l <+: l') (ha : l.head? = some a) : l'.head? = some a := by
  obtain ⟨t, rfl⟩ := h
  rw [List.head?_append, ha, Option.some_or]

theorem getElem_of_extends {l l' : List α} {a : α} {i : Nat} (h : l <+: l') (ha : l[i]? = some a) : l'[i]? = some a := by
  obtain ⟨t, rfl⟩ := h
  obtain ⟨hi, -⟩ := List.getElem?_eq_some_iff.mp ha
  rw [List.getElem?_append_left hi, ha]

theorem Since.note_extends (x : Since) (o : Call I W A E) (r : Reply o) : x.Extends (x.note o r) := by
  cases o <;> exact ⟨rfl, by simp [Since.note], by simp [Since.note], by simp [Since.note], by simp [Since.note],
    by simp [Since.note], by simp [Since.note], by simp [Since.note], by simp [Since.note]⟩

section
variable {words} {x x' : Since} {c : Course}

theorem Since.Extends.stopped (h : x.Extends x') (hx : x.Stopped) : x'.Stopped := by
  rcases hx with ⟨o, ho, hpaused⟩ | hpause
  · exact .inl ⟨o, h.observations.subset ho, hpaused⟩
  · exact .inr (h.gestures.subset hpause)

theorem Since.Extends.pauseShown {o : Observation} (h : x.Extends x') (hread : x.times ≠ []) (hx : PauseShown words o x.times) :
    PauseShown words o x'.times := by
  obtain ⟨t, hnamed, hpoint, hfresh⟩ := hx
  refine ⟨t, hnamed, hpoint, fun now hnow => ?_⟩
  obtain ⟨first, hfirst⟩ : ∃ first, x.times.head? = some first := by
    cases htimes : x.times with
    | nil => exact absurd htimes hread
    | cons first rest => exact ⟨first, rfl⟩
  rw [head_of_extends h.times hfirst, Option.mem_some_iff] at hnow
  exact hfresh now (hnow ▸ hfirst)

theorem Since.Extends.done (h : x.Extends x') (hx : c.Done words x) : c.Done words x' := by
  obtain ⟨hslept, o, ho, hx⟩ := hx
  refine ⟨head_of_extends h.sleeps hslept, o, head_of_extends h.observations ho, ?_⟩
  rcases hx with hpaused | ⟨⟨before, hbefore, hcontinuous⟩, hgoes, o', ho', hx⟩
  · exact .inl hpaused
  · refine .inr ⟨⟨before, h.before ▸ hbefore, hcontinuous⟩, c.later h hgoes, o', getElem_of_extends h.observations ho', ?_⟩
    rcases hx with hpaused | ⟨hreadable, hread, hshown⟩
    · exact .inl hpaused
    · exact .inr ⟨hreadable, fun hnone => hread (List.prefix_nil.mp (hnone ▸ h.times)), h.pauseShown hread hshown⟩

theorem Course.Done.stops (hx : c.Done words x) : c.Stops words x := by
  obtain ⟨hslept, o, ho, hx⟩ := hx
  refine ⟨fun r hr => ?_, fun r hr => ⟨o, ?_, ?_⟩⟩
  · rw [hslept, Option.mem_some_iff] at hr
    exact hr.symm
  · rw [ho, Option.mem_some_iff] at hr
    exact hr.symm
  · rcases hx with hpaused | ⟨hcontinuous, hgone, o', ho', hx⟩
    · exact .inl hpaused
    · refine .inr ⟨hcontinuous, c.goesOn_of_gone hgone, fun r' hr' => ⟨o', ?_, ?_⟩⟩
      · rw [ho', Option.mem_some_iff] at hr'
        exact hr'.symm
      · rcases hx with hpaused | ⟨hreadable, -, hshown⟩
        · exact .inl hpaused
        · exact .inr ⟨hreadable, hshown⟩

end

/-! ## States of a run -/

/-- The game is stopped exactly where the replies say so. -/
def Decided (c : Course) (s : Watch) : Prop := ∀ x ∈ s.since, x.Stopped ↔ c.Stops words x

/-- The game is stopped, and the replies say so. -/
structure Safe (c : Course) (s : Watch) : Prop where
  safe : ∃ x, s.since = some x ∧ x.Stopped ∧ c.Done words x

/-- After the gesture the game was seen running, and nothing since. -/
structure Running (o : Observation) (x : Since) : Prop where
  gestures : x.gestures = []
  times : x.times = []
  slept : x.sleeps.head? = some (.ok ())
  observations : x.observations = [.ok o]
  running : o.paused = false
  continuous : x.Continuous words o

/-- The game was seen running a second time. -/
structure Waiting (o o' : Observation) (x : Since) : Prop where
  gestures : x.gestures = []
  slept : x.sleeps.head? = some (.ok ())
  observations : x.observations = [.ok o, .ok o']
  running : o.paused = false
  running' : o'.paused = false
  continuous : x.Continuous words o

section
variable {words} {c : Course} {s : Watch} {x : Since} {o o' : Observation} {st : σ}

theorem Watch.since_note (h : s.since = some x) (call : Call I W A E) (r : Reply call) :
    (s.note call r).since = some (x.note call r) := by
  simp [Watch.note, h]

theorem Safe.decided (h : Safe words c s) : Decided words c s := by
  obtain ⟨x, hx, hstopped, hdone⟩ := h.safe
  intro y hy
  rw [hx, Option.mem_some_iff] at hy
  subst hy
  exact iff_of_true hstopped hdone.stops

theorem decided_of_none (h : s.since = none) : Decided words c s := by
  intro x hx
  rw [h] at hx
  cases hx

theorem decided_of_some (h : s.since = some x) (hx : x.Stopped ↔ c.Stops words x) : Decided words c s := by
  intro y hy
  rw [h, Option.mem_some_iff] at hy
  exact hy ▸ hx

/-- What is stopped stays so, whatever is called. -/
theorem Safe.note (h : Safe words c s) (call : Call I W A E) (r : Reply call) : Safe words c (s.note call r) := by
  obtain ⟨x, hx, hstopped, hdone⟩ := h.safe
  have hlater := x.note_extends call r
  exact ⟨x.note call r, Watch.since_note hx call r, hlater.stopped hstopped, hlater.done hdone⟩

theorem Safe.ends (h : Safe words c s) (m : Operation I W A E σ α) :
    Py.Ends timed m st s (fun _ _ s' => Safe words c s') (fun _ _ s' => Safe words c s') := by
  intro r st' s' hrun
  have hsafe : Safe words c s' := Prog.Run.keeps (fun _ _ _ _ hs hnote => hnote ▸ hs.note _ _) h hrun
  cases r with
  | ok a => exact hsafe
  | error e => exact hsafe

theorem Running.not_stopped (h : Running words o x) : ¬ x.Stopped := by
  rintro (⟨o', ho', hpaused⟩ | hpause)
  · rw [h.observations, List.mem_singleton] at ho'
    cases ho'
    rw [h.running] at hpaused
    cases hpaused
  · rw [h.gestures] at hpause
    cases hpause

/-- Where a reply keeps the operator from its second observation, the game is left running. -/
theorem Running.decided (h : Running words o x) (hs : s.since = some x) (hgoes : ¬ c.goesOn o x) : Decided words c s := by
  refine decided_of_some hs (iff_of_false h.not_stopped ?_)
  rintro ⟨-, hobserved⟩
  obtain ⟨o₁, heq, hpaused | ⟨-, hgoes₁, -⟩⟩ := hobserved (.ok o) (by rw [h.observations]; rfl)
  · cases heq
    rw [h.running] at hpaused
    cases hpaused
  · cases heq
    exact hgoes hgoes₁

theorem Waiting.not_stopped (h : Waiting words o o' x) : ¬ x.Stopped := by
  rintro (⟨o₁, ho₁, hpaused⟩ | hpause)
  · rw [h.observations, List.mem_pair] at ho₁
    rcases ho₁ with heq | heq
    · cases heq
      rw [h.running] at hpaused
      cases hpaused
    · cases heq
      rw [h.running'] at hpaused
      cases hpaused
  · rw [h.gestures] at hpause
    cases hpause

/-- Where the second observation cannot be acted on, the game is left running. -/
theorem Waiting.decided (h : Waiting words o o' x) (hs : s.since = some x)
    (hread : ¬ (c.readable o' ∧ PauseShown words o' x.times)) : Decided words c s := by
  refine decided_of_some hs (iff_of_false h.not_stopped ?_)
  rintro ⟨-, hobserved⟩
  obtain ⟨o₁, heq, hpaused | ⟨-, -, hsecond⟩⟩ := hobserved (.ok o) (by rw [h.observations]; rfl)
  · cases heq
    rw [h.running] at hpaused
    cases hpaused
  · obtain ⟨o₂, heq₂, hx⟩ := hsecond (.ok o') (by rw [h.observations]; rfl)
    cases heq₂
    rcases hx with hpaused | hx
    · rw [h.running'] at hpaused
      cases hpaused
    · exact hread hx

end

/-! ## Rules -/

namespace Watch
variable {words} {c : Course} {s : Watch} {x : Since} {o o' before : Observation} {st : σ} {t : VisualTarget}
  {effect targetId : String} {er : UIError → σ → Watch → Prop}

theorem ends_events {i : I} {ok : Nat → σ → Watch → Prop} (ho : ∀ n, ok n st (s.note (.events i : Call I W A E) (.ok n)))
    (he : ∀ e, er e st (s.note (.events i : Call I W A E) (.error e))) :
    Py.Ends timed (Operation.events i : Operation I W A E σ Nat) st s ok er := by
  refine .bind (.perform fun r s' hs => ?_)
  subst hs
  exact .lift (fun n hr => hr ▸ ho n) fun e hr => hr ▸ he e

theorem ends_appendEvent {event : E} {ok : Unit → σ → Watch → Prop}
    (ho : ok () st (s.note (.appendEvent event : Call I W A E) (.ok ())))
    (he : ∀ e, er e st (s.note (.appendEvent event : Call I W A E) (.error e))) :
    Py.Ends timed (Operation.appendEvent event : Operation I W A E σ Unit) st s ok er := by
  refine .bind (.perform fun r s' hs => ?_)
  subst hs
  exact .lift (fun _ hr => hr ▸ ho) fun e hr => hr ▸ he e

/-- Before the resume gesture every other gesture leaves the watch waiting for it. -/
structure Before (s : Watch) : Prop where
  since : s.since = none

theorem Before.note (h : s.Before) {call : Call I W A E} {r : Reply call} (hr : resumes call r = false) :
    (s.note call r).Before := by
  refine ⟨?_⟩
  simp [Watch.note, h.since, hr]

theorem before_calm : Calm (timed : Semantics (Call I W A E) Reply Watch) Before where
  sleep := by rintro _ _ _ _ hs rfl; exact hs.note rfl
  keepGameForeground := by rintro _ _ _ hs rfl; exact hs.note rfl
  events := by rintro _ _ _ _ hs rfl; exact hs.note rfl
  appendEvent := by rintro _ _ _ _ hs rfl; exact hs.note rfl
  uuid4 := by rintro _ _ _ hs rfl; exact hs.note rfl
  now := by rintro _ _ _ hs rfl; exact hs.note rfl
  observe := by rintro _ _ _ hs rfl; exact hs.note rfl

theorem Before.execute (h : s.Before) {g : InputGesture} {r : Except UIError Unit} (hg : g.targetId ≠ "resume_button") :
    (s.note (.execute g : Call I W A E) r).Before := by
  refine h.note ?_
  cases r with
  | ok u => simpa [resumes] using hg
  | error e => rfl

/-- The watch before the resume gesture, and the last observation. -/
structure At (o : Observation) (s : Watch) : Prop extends Before s where
  last : s.last = some o

theorem At.decided (h : s.At o) : Decided words c s := decided_of_none h.since

theorem At.note (h : s.At o) {call : Call I W A E} {r : Reply call} (hr : resumes call r = false)
    (hseen : seenIn call r = none) : (s.note call r).At o := by
  refine ⟨h.toBefore.note hr, ?_⟩
  simp [Watch.note, hseen, h.last]

theorem At.quiet : Quiet (timed : Semantics (Call I W A E) Reply Watch) (At o) where
  sleep := by rintro _ _ _ _ hs rfl; exact hs.note rfl rfl
  keepGameForeground := by rintro _ _ _ hs rfl; exact hs.note rfl rfl
  events := by rintro _ _ _ _ hs rfl; exact hs.note rfl rfl
  appendEvent := by rintro _ _ _ _ hs rfl; exact hs.note rfl rfl
  uuid4 := by rintro _ _ _ hs rfl; exact hs.note rfl rfl
  now := by rintro _ _ _ hs rfl; exact hs.note rfl rfl

theorem Before.observe (h : s.Before) : (s.note (.observe : Call I W A E) (.ok o)).At o := ⟨h.note rfl, rfl⟩

theorem ends_observe {ok : Observation → σ → Watch → Prop} (h : s.Before)
    (ho : ∀ o s', s'.At o → ok o st s') (he : ∀ e s', s'.Before → er e st s') :
    Py.Ends timed (Operation.observe : Operation I W A E σ Observation) st s ok er :=
  SoftwareInc.ends_observe (fun o s' hs => ho o s' (hs ▸ h.observe)) fun e s' hs => he e s' (hs ▸ h.note rfl)

/-- Another gesture than the resume gesture. -/
theorem ends_click {ok : Observation → σ → Watch → Prop} (h : s.At before) (ht : t.targetId ≠ "resume_button")
    (ho : ∀ o s', s'.At o → ok o st s') (he : ∀ e s', s'.Before → er e st s') :
    Py.Ends timed (click words before t effect : Operation I W A E σ Observation) st s ok er := by
  refine SoftwareInc.ends_click words before_calm ?_ (fun o s₁ s' hs₁ hs _ => ho o s' (hs ▸ hs₁.observe))
    (fun e => he e s h.toBefore) he
  rintro g r s' hg rfl
  exact h.toBefore.execute (hg ▸ ht)

theorem ends_key {code : Nat} {ok : Observation → σ → Watch → Prop} (h : s.At before) (ht : targetId ≠ "resume_button")
    (ho : ∀ o s', s'.At o → ok o st s') (he : ∀ e s', s'.Before → er e st s') :
    Py.Ends timed (key words before code targetId effect : Operation I W A E σ Observation) st s ok er := by
  refine ends_send words before_calm ?_ (fun o s₁ s' hs₁ hs _ => ho o s' (hs ▸ hs₁.observe))
    (he _ s h.toBefore) he
  rintro g r s' hg rfl
  exact h.toBefore.execute (hg ▸ ht)

/-- A target of the last observation. -/
theorem ends_target {ok : VisualTarget → σ → Watch → Prop} (h : s.At o)
    (ho : ∀ t s', t.targetId = targetId → s'.At o → ok t st s') (he : ∀ e s', s'.Before → er e st s') :
    Py.Ends timed (target words before targetId : Operation I W A E σ VisualTarget) st s ok er :=
  SoftwareInc.ends_target words At.quiet h ho fun e s' hs => he e s' hs.toBefore

end Watch

section
variable {words} {c : Course} {s : Watch} {x : Since} {o o' before : Observation} {st : σ} {t : VisualTarget}
  {effect : String}

/-- The replies once the observation of the resume gesture is there. -/
def Since.resumed (before o : Observation) : Since where
  before := some before
  sleeps := [.ok ()]
  observations := [.ok o]

theorem Since.resumed_running (hcontinuous : requireContinuity words before o = .ok ()) (hrunning : o.paused = false) :
    Running words o (Since.resumed before o) :=
  ⟨rfl, rfl, rfl, rfl, hrunning, before, rfl, hcontinuous⟩

/-- Where the first observation is paused, the game is stopped. -/
theorem Since.resumed_safe (hs : s.since = some (Since.resumed before o)) (hpaused : o.paused = true) : Safe words c s :=
  ⟨_, hs, .inl ⟨o, List.mem_singleton_self _, hpaused⟩, rfl, o, rfl, .inl hpaused⟩

theorem ends_resume (h : s.At before) (ht : t.targetId = "resume_button") :
    Py.Ends timed (click words before t effect : Operation I W A E σ Observation) st s
      (fun o _ s' => s'.since = some (Since.resumed before o) ∧ requireContinuity words before o = .ok ())
      (fun _ _ s' => Decided words c s') := by
  refine .ite (fun _ => .raise h.decided) fun _ => ?_
  unfold send
  refine .bind (ends_require (fun _ => ?_) h.decided)
  refine .bind (ends_execute (fun s₁ h₁ => ?_) fun e s₁ h₁ => ?_)
  swap
  · subst h₁
    exact decided_of_none (h.toBefore.note rfl).since
  have hsince : s₁.since = some { before := some before } := by
    subst h₁
    simp [Watch.note, h.since, resumes, ht, h.last]
  clear h₁
  refine .bind (ends_sleep (fun s₂ h₂ => ?_) fun e s₂ h₂ => ?_)
  swap
  · subst h₂
    refine decided_of_some (Watch.since_note hsince _ _) (iff_of_false ?_ ?_)
    · rintro (⟨o, ho, -⟩ | hpause)
      · cases ho
      · cases hpause
    · rintro ⟨hslept, -⟩
      cases hslept (.error e) rfl
  have hslept : s₂.since = some { before := some before, sleeps := [.ok ()] } := by
    subst h₂
    exact Watch.since_note hsince _ _
  clear h₂
  refine .bind (ends_observe (fun o s₃ h₃ => ?_) fun e s₃ h₃ => ?_)
  swap
  · subst h₃
    refine decided_of_some (Watch.since_note hslept _ _) (iff_of_false ?_ ?_)
    · rintro (⟨o, ho, -⟩ | hpause)
      · rcases List.mem_singleton.mp ho with ho
        cases ho
      · cases hpause
    · rintro ⟨-, hobserved⟩
      obtain ⟨o, ho, -⟩ := hobserved (.error e) rfl
      cases ho
  have hseen : s₃.since = some (Since.resumed before o) := by
    subst h₃
    exact Watch.since_note hslept _ _
  refine .bind (.lift (fun _ hcontinuous => .pure ⟨hseen, hcontinuous⟩) fun e hbroken => ?_)
  cases hpaused : o.paused with
  | true => exact (Since.resumed_safe hseen hpaused).decided
  | false =>
    refine decided_of_some hseen (iff_of_false ?_ ?_)
    · rintro (⟨o₁, ho₁, hpaused₁⟩ | hpause)
      · rcases List.mem_singleton.mp ho₁ with ho₁
        cases ho₁
        rw [hpaused] at hpaused₁
        cases hpaused₁
      · cases hpause
    · rintro ⟨-, hobserved⟩
      obtain ⟨o₁, ho₁, hpaused₁ | ⟨⟨b, hb, hcontinuous⟩, -⟩⟩ := hobserved (.ok o) rfl
      · cases ho₁
        rw [hpaused] at hpaused₁
        cases hpaused₁
      · cases ho₁
        cases hb
        rw [hbroken] at hcontinuous
        cases hcontinuous

/-- What the operator is told beside its observations leaves the game seen running once. -/
theorem Running.frame (h : Running words o x) {x' : Since} (hbefore : x'.before = x.before)
    (hgestures : x'.gestures = x.gestures) (htimes : x'.times = x.times) (hsleeps : x.sleeps <+: x'.sleeps)
    (hobservations : x'.observations = x.observations) : Running words o x' := by
  obtain ⟨before, hlast, hcontinuous⟩ := h.continuous
  exact ⟨hgestures.trans h.gestures, htimes.trans h.times, head_of_extends hsleeps h.slept,
    hobservations.trans h.observations, h.running, before, hbefore ▸ hlast, hcontinuous⟩

theorem Running.note (h : Running words o x) {call : Call I W A E} {r : Reply call}
    (hgestures : (x.note call r).gestures = x.gestures) (hobservations : (x.note call r).observations = x.observations)
    (htimes : (x.note call r).times = x.times) : Running words o (x.note call r) :=
  have hlater := x.note_extends call r
  h.frame hlater.before hgestures htimes hlater.sleeps hobservations

/-- The pause button of the second observation is clicked, or the game is left running. -/
theorem ends_pauseClick {m : Observation → Operation I W A E σ α} (h : Waiting words o o' x) (hs : s.since = some x) (htimes : x.times = [])
    (hgone : c.gone o x) (hread : c.readable o') (heffect : sized 1 512 effect = true) :
    Py.Ends timed (target words o' "pause_button" >>= fun t => click words o' t effect >>= m) st s
      (fun _ _ s' => Safe words c s') (fun _ _ s' => Decided words c s') := by
  have hunshown : (¬ ∃ t, targetsNamed o' "pause_button" = [t]) → Decided words c s := by
    refine fun hnone => h.decided hs ?_
    rintro ⟨-, t, hnamed, -⟩
    exact hnone ⟨t, hnamed⟩
  unfold target
  split
  swap
  · next hnamed =>
    exact .bind (.raise (hunshown fun ⟨t, ht⟩ => hnamed t ht))
  next t hnamed =>
  refine .bind (.bind (.perform fun now s₁ h₁ => ?_))
  subst h₁
  have hs₁ := Watch.since_note hs (.now : Call I W A E) now
  have htimes₁ : (x.note (.now : Call I W A E) now).times = [now] := by
    show x.times ++ [now] = [now]
    rw [htimes, List.nil_append]
  have hlater := x.note_extends (.now : Call I W A E) now
  have hwaiting : Waiting words o o' (x.note (.now : Call I W A E) now) :=
    ⟨h.gestures, h.slept, h.observations, h.running, h.running', h.continuous⟩
  have hstale : (freshTarget words o' now t ≠ .ok t ∨ t.point ≠ true) →
      Decided words c (s.note (.now : Call I W A E) now) := by
    intro hstale
    refine hwaiting.decided hs₁ ?_
    rintro ⟨-, t', hnamed', hpoint, hfresh⟩
    rw [hnamed, List.singleton_inj] at hnamed'
    subst hnamed'
    rcases hstale with hstale | hstale
    · exact hstale (hfresh now (by rw [htimes₁]; rfl))
    · exact hstale hpoint
  refine .lift (fun t' ht' => ?_) fun e he => hstale (.inl (by rw [he]; exact fun h => by cases h))
  have htarget : t' = t := by
    unfold freshTarget at ht'
    split at ht'
    · cases ht'
    · exact (Except.ok.inj ht').symm
  subst htarget
  refine .bind (.ite (fun hpoint => .raise (hstale (.inr hpoint))) fun hpoint => ?_)
  have hpoint : t'.point = true := by simpa using hpoint
  have hshown : PauseShown words o' (x.note (.now : Call I W A E) now).times :=
    ⟨t', hnamed, hpoint, fun n hn => by rw [htimes₁] at hn; cases hn; exact ht'⟩
  have hread' : (x.note (.now : Call I W A E) now).times ≠ [] := by simp [htimes₁]
  have hdone : c.Done words (x.note (.now : Call I W A E) now) :=
    ⟨hwaiting.slept, o, by rw [hwaiting.observations]; rfl, .inr ⟨hwaiting.continuous, c.later hlater hgone, o',
      by rw [hwaiting.observations]; rfl, .inr ⟨hread, hread', hshown⟩⟩⟩
  have hpause : t'.targetId = "pause_button" := by
    have hmem : t' ∈ targetsNamed o' "pause_button" := hnamed ▸ List.mem_singleton_self t'
    exact of_decide_eq_true (List.mem_filter.mp hmem).2
  -- from the gesture on the game is stopped
  have hsent : ∀ (g : InputGesture) (r : Except UIError Unit), g.targetId = t'.targetId →
      Safe words c ((s.note (.now : Call I W A E) now).note (.execute g : Call I W A E) r) := by
    intro g r hg
    have hstopped : ((x.note (.now : Call I W A E) now).note (.execute g : Call I W A E) r).Stopped := by
      refine .inr (List.mem_append_right _ ?_)
      rw [hg, hpause]
      exact List.mem_singleton_self _
    exact ⟨_, Watch.since_note hs₁ _ _, hstopped, (Since.note_extends _ _ _).done hdone⟩
  unfold send
  refine .bind (.ite (fun _ => .pure ?_) fun h => absurd heffect h)
  refine .bind (ends_execute (fun s₂ h₂ => ?_) fun e s₂ h₂ => ?_)
  · subst h₂
    refine ((hsent _ _ rfl).ends _).mono (fun a _ _ h => ?_) fun _ _ _ h => h.decided
    exact (h.ends (m a)).mono (fun _ _ _ h => h) fun _ _ _ h => h.decided
  · subst h₂
    exact (hsent _ _ rfl).decided

/-- The second observation, when the operator goes on from the first one. -/
theorem ends_secondObservation {m : Observation → Operation I W A E σ α} {ok : α → σ → Watch → Prop}
    (h : Running words o x) (hs : s.since = some x) (hgone : c.gone o x)
    (hpaused : ∀ o' s', o'.paused = true → Safe words c s' → Py.Ends timed (m o') st s' ok fun _ _ s' => Decided words c s')
    (hrunning : ∀ o' x' s', o'.paused = false → Waiting words o o' x' → x'.times = [] → s'.since = some x' →
      c.gone o x' → Py.Ends timed (m o') st s' ok fun _ _ s' => Decided words c s') :
    Py.Ends timed (Operation.observe >>= m) st s ok fun _ _ s' => Decided words c s' := by
  refine .bind (SoftwareInc.ends_observe (fun o' s₁ h₁ => ?_) fun e s₁ h₁ => ?_)
  · subst h₁
    have hs₁ := Watch.since_note hs (.observe : Call I W A E) (.ok o')
    have hlater := x.note_extends (.observe : Call I W A E) (.ok o')
    have hobservations : (x.note (.observe : Call I W A E) (.ok o')).observations = [.ok o, .ok o'] := by
      show x.observations ++ [.ok o'] = [.ok o, .ok o']
      rw [h.observations, List.singleton_append]
    cases hp : o'.paused with
    | true =>
      refine hpaused o' _ hp ⟨_, hs₁, .inl ⟨o', ?_, hp⟩, h.slept, o, ?_, .inr ⟨h.continuous, c.later hlater hgone, o', ?_, .inl hp⟩⟩
      · rw [hobservations]
        exact List.mem_pair.mpr (.inr rfl)
      · rw [hobservations]
        rfl
      · rw [hobservations]
        rfl
    | false =>
      exact hrunning o' (x.note (.observe : Call I W A E) (.ok o')) _ hp ⟨h.gestures, h.slept, hobservations, h.running, hp, h.continuous⟩ h.times hs₁
        (c.later hlater hgone)
  · subst h₁
    have hobservations : (x.note (.observe : Call I W A E) (.error e)).observations = [.ok o, .error e] := by
      show x.observations ++ [.error e] = [.ok o, .error e]
      rw [h.observations, List.singleton_append]
    refine decided_of_some (Watch.since_note hs _ _) (iff_of_false ?_ ?_)
    · rintro (⟨o₁, ho₁, hp⟩ | hpause)
      · rw [hobservations, List.mem_pair] at ho₁
        rcases ho₁ with heq | heq
        · cases heq
          rw [h.running] at hp
          cases hp
        · cases heq
      · rw [show (x.note (.observe : Call I W A E) (.error e)).gestures = x.gestures from rfl, h.gestures] at hpause
        cases hpause
    · rintro ⟨-, hobserved⟩
      obtain ⟨o₁, heq, hp | ⟨-, -, hsecond⟩⟩ := hobserved (.ok o) (by rw [hobservations]; rfl)
      · cases heq
        rw [h.running] at hp
        cases hp
      · obtain ⟨o₂, ho₂, -⟩ := hsecond (.error e) (by rw [hobservations]; rfl)
        cases ho₂

/-- The cleanup of an interval: it acts where nothing is in the way. -/
theorem ends_pauseAfterInterval_running {failure : String} (h : Running words o x) (hs : s.since = some x)
    (hgone : c.gone o x) (hread : ∀ o', c.readable o' ↔ requireActionable words o' = .ok ())
    (heffect : sized 1 512 effect = true) :
    Py.Ends timed (pauseAfterInterval words effect failure : Operation I W A E σ (Observation × Nat)) st s
      (fun _ _ s' => Safe words c s') (fun _ _ s' => Decided words c s') := by
  refine ends_secondObservation h hs hgone (fun o' s' _ hsafe => ?_) fun o' x' s' hp h' htimes hs' hgone' => ?_
  · exact (hsafe.ends _).mono (fun _ _ _ h => h) fun _ _ _ h => h.decided
  · refine .bind (.lift (fun _ hactionable => ?_) fun e he => ?_)
    · refine .ite (fun hpaused => ?_) fun _ => ?_
      · rw [hp] at hpaused
        cases hpaused
      · exact ends_pauseClick h' hs' htimes hgone' ((hread o').mpr hactionable) heffect
    · refine h'.decided hs' ?_
      rintro ⟨hok, -⟩
      rw [(hread o').mp hok] at he
      cases he

/-- The interval pauses whatever becomes of the wait. -/
theorem ends_boundedInterval_running {st : Cleanup} {runSeconds : ℚ} {failure : String} (h : Running words o x)
    (hs : s.since = some x) (hgone : c.gone o x) (hread : ∀ o', c.readable o' ↔ requireActionable words o' = .ok ())
    (heffect : sized 1 512 effect = true) :
    Py.Ends timed (boundedInterval words runSeconds effect failure : Operation I W A E Cleanup (Observation × Nat)) st s
      (fun _ _ s' => Safe words c s') (fun _ _ s' => Decided words c s') := by
  have hwait : Py.Ends timed
      (do Operation.keepGameForeground; Operation.sleep runSeconds : Operation I W A E Cleanup Unit) st s
      (fun _ _ s' => ∃ x', s'.since = some x' ∧ Running words o x' ∧ c.gone o x')
      (fun _ _ s' => ∃ x', s'.since = some x' ∧ Running words o x' ∧ c.gone o x') := by
    refine .bind (ends_keepGameForeground (fun s₁ h₁ => ?_) fun e s₁ h₁ => ?_)
    · subst h₁
      have h₁ : Running words o (x.note (.keepGameForeground : Call I W A E) (.ok ())) := h.note rfl rfl rfl
      have hgone₁ := c.later (x.note_extends (.keepGameForeground : Call I W A E) (.ok ())) hgone
      refine ends_sleep (fun s₂ h₂ => ?_) fun e s₂ h₂ => ?_
      · subst h₂
        exact ⟨_, Watch.since_note (Watch.since_note hs _ _) _ _, h₁.note rfl rfl rfl, c.later (Since.note_extends _ _ _) hgone₁⟩
      · subst h₂
        exact ⟨_, Watch.since_note (Watch.since_note hs _ _) _ _, h₁.note rfl rfl rfl, c.later (Since.note_extends _ _ _) hgone₁⟩
    · subst h₁
      exact ⟨_, Watch.since_note hs _ _, h.note rfl rfl rfl, c.later (Since.note_extends _ _ _) hgone⟩
  have hcleanup : ∀ (st' : Cleanup) s', (∃ x', s'.since = some x' ∧ Running words o x' ∧ c.gone o x') →
      Py.Ends timed (do Py.setLocals (some (← pauseAfterInterval words effect failure)) : Operation I W A E Cleanup Unit)
        st' s' (fun _ _ s'' => Safe words c s'') (fun _ _ s'' => Decided words c s'') := by
    rintro st' s' ⟨x', hs', h', hgone'⟩
    refine .bind ((ends_pauseAfterInterval_running h' hs' hgone' hread heffect).mono (fun p _ s'' hsafe => ?_)
      fun _ _ _ h => h)
    exact .setLocals hsafe
  refine .bind (.tryFinally (hwait.mono (fun _ st' s' hs' => ?_) fun e st' s' hs' => ?_))
  · refine (hcleanup st' s' hs').mono (fun _ st'' s'' hsafe => ?_) fun _ _ _ h => h
    exact (hsafe.ends _).mono (fun _ _ _ h => h) fun _ _ _ h => h.decided
  · exact (hcleanup st' s' hs').mono (fun _ _ _ h => h.decided) fun _ _ _ h => h

end

end SimPilot.SoftwareInc
