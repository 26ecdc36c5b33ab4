import SimPilot.SoftwareInc.Operator
/-!
# Rules for the operators of Software Inc.

What a call and a helper of an operator end in, whatever semantics the calls have (`Calm`
says which calls only read or wait); and the semantics in which every reply is possible, with
a journal of what a run saw, was granted and saved.
-/

namespace SimPilot.SoftwareInc

open GameBridge Effect

variable {I W A E σ α : Type} (words : Wording)

/-! ## Rules

For every semantics of the calls. -/

open Py

section
variable {S : Type} {sem : Semantics (Call I W A E) Reply S} {st : σ} {s : S} {er : UIError → σ → S → Prop}

theorem ends_observe {ok : Observation → σ → S → Prop} (ho : ∀ o s', sem .observe s (.ok o) s' → ok o st s')
    (he : ∀ e s', sem .observe s (.error e) s' → er e st s') :
    Py.Ends sem (Operation.observe : Operation I W A E σ Observation) st s ok er := by
  refine .bind (.perform fun r s' hs => ?_)
  exact .lift (fun o hr => ho o s' (hr ▸ hs)) fun e hr => he e s' (hr ▸ hs)

theorem ends_execute {g : InputGesture} {ok : Unit → σ → S → Prop}
    (ho : ∀ s', sem (.execute g) s (.ok ()) s' → ok () st s') (he : ∀ e s', sem (.execute g) s (.error e) s' → er e st s') :
    Py.Ends sem (Operation.execute g : Operation I W A E σ Unit) st s ok er := by
  refine .bind (.perform fun r s' hs => ?_)
  exact .lift (fun _ hr => ho s' (hr ▸ hs)) fun e hr => he e s' (hr ▸ hs)

theorem ends_sleep {q : ℚ} {ok : Unit → σ → S → Prop} (ho : ∀ s', sem (.sleep q) s (.ok ()) s' → ok () st s')
    (he : ∀ e s', sem (.sleep q) s (.error e) s' → er e st s') :
    Py.Ends sem (Operation.sleep q : Operation I W A E σ Unit) st s ok er := by
  refine .bind (.perform fun r s' hs => ?_)
  exact .lift (fun _ hr => ho s' (hr ▸ hs)) fun e hr => he e s' (hr ▸ hs)

theorem ends_keepGameForeground {ok : Unit → σ → S → Prop}
    (ho : ∀ s', sem .keepGameForeground s (.ok ()) s' → ok () st s')
    (he : ∀ e s', sem .keepGameForeground s (.error e) s' → er e st s') :
    Py.Ends sem (Operation.keepGameForeground : Operation I W A E σ Unit) st s ok er := by
  refine .bind (.perform fun r s' hs => ?_)
  exact .lift (fun _ hr => ho s' (hr ▸ hs)) fun e hr => he e s' (hr ▸ hs)

theorem ends_approve {a : A} {ok : Bool → σ → S → Prop} (ho : ∀ b s', sem (.approve a) s (.ok b) s' → ok b st s')
    (he : ∀ e s', sem (.approve a) s (.error e) s' → er e st s') :
    Py.Ends sem (Operation.approve a : Operation I W A E σ Bool) st s ok er := by
  refine .bind (.perform fun r s' hs => ?_)
  exact .lift (fun b hr => ho b s' (hr ▸ hs)) fun e hr => he e s' (hr ▸ hs)

theorem ends_save {w : W} {ok : Unit → σ → S → Prop} (ho : ∀ s', sem (.save w) s (.ok ()) s' → ok () st s')
    (he : ∀ e s', sem (.save w) s (.error e) s' → er e st s') :
    Py.Ends sem (Operation.save w : Operation I W A E σ Unit) st s ok er := by
  refine .bind (.perform fun r s' hs => ?_)
  exact .lift (fun _ hr => ho s' (hr ▸ hs)) fun e hr => he e s' (hr ▸ hs)

theorem ends_get {i : I} {ok : Option W → σ → S → Prop} (ho : ∀ w s', sem (.get i) s (.ok w) s' → ok w st s')
    (he : ∀ e s', sem (.get i) s (.error e) s' → er e st s') :
    Py.Ends sem (Operation.get i : Operation I W A E σ (Option W)) st s ok er := by
  refine .bind (.perform fun r s' hs => ?_)
  exact .lift (fun w hr => ho w s' (hr ▸ hs)) fun e hr => he e s' (hr ▸ hs)

theorem ends_current {session save : String} {ok : Option W → σ → S → Prop}
    (ho : ∀ w s', sem (.current session save) s (.ok w) s' → ok w st s')
    (he : ∀ e s', sem (.current session save) s (.error e) s' → er e st s') :
    Py.Ends sem (Operation.current session save : Operation I W A E σ (Option W)) st s ok er := by
  refine .bind (.perform fun r s' hs => ?_)
  exact .lift (fun w hr => ho w s' (hr ▸ hs)) fun e hr => he e s' (hr ▸ hs)

theorem ends_require {p : Prop} [Decidable p] {e : UIError} {ok : Unit → σ → S → Prop} (ho : p → ok () st s)
    (he : er e st s) : Py.Ends sem (Operation.require p e : Operation I W A E σ Unit) st s ok er :=
  .ite (fun hp => .pure (ho hp)) fun _ => .raise he

theorem ends_assertSome {v : Option α} {ok : α → σ → S → Prop} (ho : ∀ a, v = some a → ok a st s)
    (he : er .assertion st s) : Py.Ends sem (Operation.assertSome v : Operation I W A E σ α) st s ok er := by
  cases v with
  | some a => exact .pure (ho a rfl)
  | none => exact .raise he

/-- Waiting, and what an operator only notes, keep `L`. -/
structure Quiet (sem : Semantics (Call I W A E) Reply S) (L : S → Prop) : Prop where
  sleep : ∀ q s r s', L s → sem (.sleep q) s r s' → L s'
  keepGameForeground : ∀ s r s', L s → sem .keepGameForeground s r s' → L s'
  events : ∀ i s r s', L s → sem (.events i) s r s' → L s'
  appendEvent : ∀ e s r s', L s → sem (.appendEvent e) s r s' → L s'
  uuid4 : ∀ s r s', L s → sem .uuid4 s r s' → L s'
  now : ∀ s r s', L s → sem .now s r s' → L s'

/-- Observing keeps `L` too. -/
structure Calm (sem : Semantics (Call I W A E) Reply S) (L : S → Prop) : Prop extends Quiet sem L where
  observe : ∀ s r s', L s → sem .observe s r s' → L s'

section
variable {L : S → Prop} (hquiet : Quiet sem L)
include hquiet

theorem ends_uuid4 {ok : Nat → σ → S → Prop} (hs : L s) (ho : ∀ n s', L s' → ok n st s') :
    Py.Ends sem (Operation.uuid4 : Operation I W A E σ Nat) st s ok er :=
  .perform fun n s' h => ho n s' (hquiet.uuid4 s n s' hs h)

theorem ends_now {ok : Timestamp → σ → S → Prop} (hs : L s) (ho : ∀ n s', L s' → ok n st s') :
    Py.Ends sem (Operation.now : Operation I W A E σ Timestamp) st s ok er :=
  .perform fun n s' h => ho n s' (hquiet.now s n s' hs h)

theorem ends_events {i : I} {ok : Nat → σ → S → Prop} (hs : L s) (ho : ∀ n s', L s' → ok n st s')
    (he : ∀ e s', L s' → er e st s') : Py.Ends sem (Operation.events i : Operation I W A E σ Nat) st s ok er := by
  refine .bind (.perform fun r s' h => ?_)
  have hs' := hquiet.events i s r s' hs h
  exact .lift (fun n _ => ho n s' hs') fun e _ => he e s' hs'

theorem ends_appendEvent {event : E} {ok : Unit → σ → S → Prop} (hs : L s) (ho : ∀ s', L s' → ok () st s')
    (he : ∀ e s', L s' → er e st s') : Py.Ends sem (Operation.appendEvent event : Operation I W A E σ Unit) st s ok er := by
  refine .bind (.perform fun r s' h => ?_)
  have hs' := hquiet.appendEvent event s r s' hs h
  exact .lift (fun _ _ => ho s' hs') fun e _ => he e s' hs'

theorem ends_target {o : Observation} {targetId : String} {ok : VisualTarget → σ → S → Prop} (hs : L s)
    (ho : ∀ t s', t.targetId = targetId → L s' → ok t st s') (he : ∀ e s', L s' → er e st s') :
    Py.Ends sem (target words o targetId : Operation I W A E σ VisualTarget) st s ok er := by
  unfold target
  split
  · next t hnamed =>
    refine .bind (ends_now hquiet hs fun n s' hs' => ?_)
    refine .lift (fun t' ht' => ho t' s' ?_ hs') fun e _ => he e s' hs'
    have hmem : t ∈ targetsNamed o targetId := hnamed ▸ List.mem_singleton_self t
    unfold freshTarget at ht'
    split at ht'
    · cases ht'
    · cases ht'
      exact of_decide_eq_true (List.mem_filter.mp hmem).2
  · exact .raise (he _ _ hs)

end

variable {L : S → Prop} (hcalm : Calm sem L)
include hcalm

/-- A gesture, and the observation that follows it: `L` holds from the gesture on. -/
theorem ends_send {before : Observation} {kind : GestureKind} {targetId effect : String} {ok : Observation → σ → S → Prop}
    (hexec : ∀ g r s', g.targetId = targetId → sem (.execute g) s r s' → L s')
    (ho : ∀ o s₁ s', L s₁ → sem .observe s₁ (.ok o) s' → L s' → ok o st s') (hmodel : er .model st s)
    (he : ∀ e s', L s' → er e st s') :
    Py.Ends sem (send words before kind targetId effect : Operation I W A E σ Observation) st s ok er := by
  unfold send
  refine .bind (ends_require (fun _ => ?_) hmodel)
  refine .bind (ends_execute (fun s₁ h₁ => ?_) fun e s' h => he e s' (hexec _ _ s' rfl h))
  have hs₁ := hexec _ _ s₁ rfl h₁
  refine .bind (ends_sleep (fun s₂ h₂ => ?_) fun e s' h => he e s' (hcalm.sleep _ s₁ _ s' hs₁ h))
  have hs₂ := hcalm.sleep _ s₁ _ s₂ hs₁ h₂
  refine .bind (ends_observe (fun o s₃ h₃ => ?_) fun e s' h => he e s' (hcalm.observe s₂ _ s' hs₂ h))
  have hs₃ := hcalm.observe s₂ _ s₃ hs₂ h₃
  exact .bind (.lift (fun _ _ => .pure (ho o s₂ s₃ hs₂ h₃ hs₃)) fun e _ => he e s₃ hs₃)

theorem ends_click {before : Observation} {t : VisualTarget} {effect : String} {ok : Observation → σ → S → Prop}
    (hexec : ∀ g r s', g.targetId = t.targetId → sem (.execute g) s r s' → L s')
    (ho : ∀ o s₁ s', L s₁ → sem .observe s₁ (.ok o) s' → L s' → ok o st s') (hunsent : ∀ e, er e st s)
    (he : ∀ e s', L s' → er e st s') :
    Py.Ends sem (click words before t effect : Operation I W A E σ Observation) st s ok er :=
  .ite (fun _ => .raise (hunsent _)) fun _ => ends_send words hcalm hexec ho (hunsent _) he

variable (hexec : ∀ g s r s', g.targetId = "pause_button" → L s → sem (.execute g) s r s' → L s')
include hexec

theorem ends_pauseAfterInterval {effect failure : String} {ok : Observation × Nat → σ → S → Prop} (hs : L s)
    (ho : ∀ p s₁ s', L s₁ → sem .observe s₁ (.ok p.1) s' → L s' → ok p st s') (he : ∀ e s', L s' → er e st s') :
    Py.Ends sem (pauseAfterInterval words effect failure : Operation I W A E σ (Observation × Nat)) st s ok er := by
  refine .bind (ends_observe (fun current s₁ h₁ => ?_) fun e s' h => he e s' (hcalm.observe s _ s' hs h))
  have hs₁ := hcalm.observe s _ s₁ hs h₁
  refine .bind (.lift (fun _ _ => ?_) fun e _ => he e s₁ hs₁)
  refine .ite (fun _ => .pure (ho _ s s₁ hs h₁ hs₁)) fun _ => ?_
  refine .bind (ends_target words hcalm.toQuiet hs₁ (fun t s₂ ht hs₂ => ?_) he)
  refine .bind (ends_click words hcalm (fun g r s' hg h => hexec g s₂ r s' (hg.trans ht) hs₂ h) (fun paused s₃ s₄ hs₃ h₄ hs₄ => ?_)
    (fun e => he e s₂ hs₂) he)
  exact .bind (ends_require (fun _ => .pure (ho _ s₃ s₄ hs₃ h₄ hs₄)) (he _ s₄ hs₄))

end

/-- The interval and its cleanup: what was found last is observed after the wait. -/
theorem ends_boundedInterval {S : Type} {sem : Semantics (Call I W A E) Reply S} {s : S} {st : Cleanup} {L : S → Prop}
    {runSeconds : ℚ} {effect failure : String} {ok : Observation × Nat → Cleanup → S → Prop}
    {er : UIError → Cleanup → S → Prop} (hcalm : Calm sem L)
    (hexec : ∀ g s r s', g.targetId = "pause_button" → L s → sem (.execute g) s r s' → L s') (hs : L s)
    (ho : ∀ p st' s₁ s', L s₁ → sem .observe s₁ (.ok p.1) s' → L s' → ok p st' s')
    (he : ∀ e st' s', L s' → er e st' s') :
    Py.Ends sem (boundedInterval words runSeconds effect failure : Operation I W A E _ (Observation × Nat)) st s ok er := by
  have hwait : Py.Ends sem (do Operation.keepGameForeground; Operation.sleep runSeconds : Operation I W A E Cleanup Unit)
      st s (fun _ _ s' => L s') (fun _ _ s' => L s') := by
    refine .bind (ends_keepGameForeground (fun s₁ h₁ => ?_) fun _ s' h => hcalm.keepGameForeground s _ s' hs h)
    have hs₁ := hcalm.keepGameForeground s _ s₁ hs h₁
    exact ends_sleep (fun s' h => hcalm.sleep _ s₁ _ s' hs₁ h) fun _ s' h => hcalm.sleep _ s₁ _ s' hs₁ h
  have hfinally : ∀ (st' : Cleanup) s', L s' →
      Py.Ends sem (do Py.setLocals (some (← pauseAfterInterval words effect failure)) : Operation I W A E Cleanup Unit) st' s'
        (fun _ st'' s'' => L s'' ∧ ∀ p ∈ st'', ∃ s₁, L s₁ ∧ sem .observe s₁ (.ok p.1) s'') (fun _ _ s'' => L s'') := by
    intro st' s' hs'
    refine .bind (ends_pauseAfterInterval words hcalm hexec hs' (fun p s₁ s'' hs₁ h hs'' => ?_) fun _ _ h => h)
    exact .setLocals ⟨hs'', fun _ hp => by cases hp; exact ⟨s₁, hs₁, h⟩⟩
  refine .bind (.tryFinally (hwait.mono (fun _ st' s' hs' => ?_) fun e st' s' hs' => ?_))
  · refine (hfinally st' s' hs').mono (fun _ st'' s'' hs'' => ?_) fun e _ _ h => he e _ _ h
    refine .bind (.locals ?_)
    refine ends_assertSome (fun p hp => ?_) (he _ _ _ hs''.1)
    obtain ⟨s₁, hs₁, h⟩ := hs''.2 p hp
    exact ho p st'' s₁ s'' hs₁ h hs''.1
  · exact (hfinally st' s' hs').mono (fun _ _ _ h => he _ _ _ h.1) fun e _ _ h => he e _ _ h


/-! ## Any world

The replies of a run are whatever they are; the journal keeps what was observed last, what the
last approval was granted on and what was saved. -/

structure Journal (W : Type) where
  lastSeen : Option Observation
  grantedOn : Option Observation
  saved : List W

def Journal.empty : Journal W := ⟨none, none, []⟩

def Journal.note (j : Journal W) : (o : Call I W A E) → Reply o → Journal W
  | .observe, .ok o => { j with lastSeen := some o }
  | .approve _, .ok true => { j with grantedOn := j.lastSeen }
  | .save w, .ok () => { j with saved := j.saved ++ [w] }
  | _, _ => j

def anyWorld : Semantics (Call I W A E) Reply (Journal W) := fun o j r j' => j' = j.note o r

/-- A world that replies from the journal. -/
def replying (reply : Journal W → (o : Call I W A E) → Reply o) (o : Call I W A E) (j : Journal W) :
    Option (Reply o × Journal W) := some (reply j o, j.note o (reply j o))

theorem run_of_replying {reply : Journal W → (o : Call I W A E) → Reply o} {m : Prog (Call I W A E) Reply α}
    {j j' : Journal W} {a : α} (h : m.play (replying reply) j = some (a, j')) : m.Run anyWorld j a j' := by
  refine Prog.run_of_play (fun o s r s' hs => ?_) h
  simp only [replying, Option.some.injEq, Prod.mk.injEq] at hs
  obtain ⟨rfl, rfl⟩ := hs
  rfl

namespace Journal
variable {st : σ} {j : Journal W} {er : UIError → σ → Journal W → Prop} {L : Journal W → Prop}

theorem quiet (L : Journal W → Prop) : Quiet (anyWorld : Semantics (Call I W A E) Reply (Journal W)) L where
  sleep := by rintro _ _ _ _ hj rfl; exact hj
  keepGameForeground := by rintro _ _ _ hj rfl; exact hj
  events := by rintro _ _ _ _ hj rfl; exact hj
  appendEvent := by rintro _ _ _ _ hj rfl; exact hj
  uuid4 := by rintro _ _ _ hj rfl; exact hj
  now := by rintro _ _ _ hj rfl; exact hj

/-- What does not look at the last observation. -/
theorem calm (hL : ∀ j o, L j → L { j with lastSeen := some o }) :
    Calm (anyWorld : Semantics (Call I W A E) Reply (Journal W)) L where
  toQuiet := quiet L
  observe := by
    rintro j (e | o) _ hj rfl
    · exact hj
    · exact hL j o hj

theorem ends_observe {ok : Observation → σ → Journal W → Prop} (ho : ∀ o, ok o st { j with lastSeen := some o })
    (he : ∀ e, er e st j) : Py.Ends anyWorld (Operation.observe : Operation I W A E σ Observation) st j ok er :=
  SoftwareInc.ends_observe (fun o _ h => h ▸ ho o) fun e _ h => h ▸ he e

theorem ends_save {w : W} {ok : Unit → σ → Journal W → Prop} (ho : ok () st { j with saved := j.saved ++ [w] })
    (he : ∀ e, er e st j) : Py.Ends anyWorld (Operation.save w : Operation I W A E σ Unit) st j ok er :=
  SoftwareInc.ends_save (fun _ h => h ▸ ho) fun e _ h => h ▸ he e

theorem ends_approve {a : A} {ok : Bool → σ → Journal W → Prop}
    (hyes : ok true st { j with grantedOn := j.lastSeen }) (hno : ok false st j) (he : ∀ e, er e st j) :
    Py.Ends anyWorld (Operation.approve a : Operation I W A E σ Bool) st j ok er := by
  refine SoftwareInc.ends_approve (fun b _ h => ?_) fun e _ h => h ▸ he e
  cases b with
  | true => exact h ▸ hyes
  | false => exact h ▸ hno

theorem ends_events {i : I} {ok : Nat → σ → Journal W → Prop} (ho : ∀ n, ok n st j) (he : ∀ e, er e st j) :
    Py.Ends anyWorld (Operation.events i : Operation I W A E σ Nat) st j ok er :=
  SoftwareInc.ends_events (quiet (· = j)) rfl (fun n _ h => h ▸ ho n) fun e _ h => h ▸ he e

theorem ends_appendEvent {event : E} {ok : Unit → σ → Journal W → Prop} (ho : ok () st j) (he : ∀ e, er e st j) :
    Py.Ends anyWorld (Operation.appendEvent event : Operation I W A E σ Unit) st j ok er :=
  SoftwareInc.ends_appendEvent (quiet (· = j)) rfl (fun _ h => h ▸ ho) fun e _ h => h ▸ he e

theorem ends_uuid4 {ok : Nat → σ → Journal W → Prop} (ho : ∀ n, ok n st j) :
    Py.Ends anyWorld (Operation.uuid4 : Operation I W A E σ Nat) st j ok er :=
  SoftwareInc.ends_uuid4 (quiet (· = j)) rfl fun n _ h => h ▸ ho n

theorem ends_target {o : Observation} {targetId : String} {ok : VisualTarget → σ → Journal W → Prop}
    (ho : ∀ t, ok t st j) (he : ∀ e, er e st j) :
    Py.Ends anyWorld (target words o targetId : Operation I W A E σ VisualTarget) st j ok er :=
  SoftwareInc.ends_target words (quiet (· = j)) rfl (fun t _ _ h => h ▸ ho t) fun e _ h => h ▸ he e

/-- After a gesture its observation is the last one; what does not look at it is as it was. -/
theorem ends_send {before : Observation} {kind : GestureKind} {targetId effect : String}
    {ok : Observation → σ → Journal W → Prop} (hL : ∀ j o, L j → L { j with lastSeen := some o }) (hj : L j)
    (ho : ∀ o j', L j' → j'.lastSeen = some o → ok o st j') (he : ∀ e j', L j' → er e st j') :
    Py.Ends anyWorld (send words before kind targetId effect : Operation I W A E σ Observation) st j ok er :=
  SoftwareInc.ends_send words (calm hL) (fun _ _ _ _ h => h ▸ hj) (fun o _ j' _ h hj' => ho o j' hj' (h ▸ rfl)) (he _ _ hj) he

theorem ends_click {before : Observation} {t : VisualTarget} {effect : String}
    {ok : Observation → σ → Journal W → Prop} (hL : ∀ j o, L j → L { j with lastSeen := some o }) (hj : L j)
    (ho : ∀ o j', L j' → j'.lastSeen = some o → ok o st j') (he : ∀ e j', L j' → er e st j') :
    Py.Ends anyWorld (click words before t effect : Operation I W A E σ Observation) st j ok er :=
  .ite (fun _ => .raise (he _ _ hj)) fun _ => ends_send words hL hj ho he

theorem ends_boundedInterval {runSeconds : ℚ} {effect failure : String} {st : Cleanup}
    {ok : Observation × Nat → Cleanup → Journal W → Prop} {er : UIError → Cleanup → Journal W → Prop}
    (hL : ∀ j o, L j → L { j with lastSeen := some o }) (hj : L j) (ho : ∀ p st' j', L j' → ok p st' j')
    (he : ∀ e st' j', L j' → er e st' j') :
    Py.Ends anyWorld (boundedInterval words runSeconds effect failure : Operation I W A E _ (Observation × Nat)) st j
      ok er :=
  SoftwareInc.ends_boundedInterval words (calm hL) (fun _ _ _ _ _ hj' h => h ▸ hj') hj
    (fun p st' _ j' _ _ hj' => ho p st' j' hj') he

end Journal

end SimPilot.SoftwareInc
