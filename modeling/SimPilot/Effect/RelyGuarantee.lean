import SimPilot.Effect.Program
import Mathlib.Logic.Relation
import Mathlib.Logic.Function.Basic
/-!
# Rely and guarantee for processes that share a state

Any number of processes run programs over one signature. An operation is atomic
and changes the shared state; between two operations of a process the others may
move. A `Protocol` says what an operation does (`step`) and when a process may
perform it (`legal`). `wp` walks a program once: before every operation the
shared state moves by legal steps of the others, the operation has to be legal
where it lands, and every reply has to be handled.

`Config.sound`: when every program that may be started passes its walk, every
step of every interleaving is a legal move, so an invariant of legal moves is an
invariant of the system.
-/

namespace Effect
open Relation

variable {Op : Type} {Ret : Op → Type} {Pid S α β ε σ τ : Type}

/-- What the operations of a signature do to the shared state, and when process
`p` is entitled to perform one. -/
structure Protocol (Op : Type) (Ret : Op → Type) (Pid S : Type) where
  step : Pid → (o : Op) → S → Ret o → S → Prop
  legal : Pid → Op → S → Prop

namespace Protocol
variable (P : Protocol Op Ret Pid S)

/-- One legal operation of process `p`. -/
def Move (p : Pid) (s s' : S) : Prop := ∃ o r, P.legal p o s ∧ P.step p o s r s'

/-- What the other processes may do between two operations of `p`. -/
def Rely (p : Pid) : S → S → Prop := ReflTransGen fun s s' => ∃ q, q ≠ p ∧ P.Move q s s'

/-- Any number of legal moves of anyone. -/
def Moves : S → S → Prop := ReflTransGen fun s s' => ∃ p, P.Move p s s'

variable {P}

theorem Rely.moves {p : Pid} {s s' : S} (h : P.Rely p s s') : P.Moves s s' := by
  induction h with
  | refl => exact .refl
  | tail _ hm ih => obtain ⟨q, _, hm⟩ := hm; exact ih.tail ⟨q, hm⟩

theorem Move.moves {p : Pid} {s s' : S} (h : P.Move p s s') : P.Moves s s' := .single ⟨p, h⟩

/-- A property that one legal move preserves holds after any number of them. -/
theorem Moves.preserves {I : S → Prop} (hI : ∀ p s s', I s → P.Move p s s' → I s') {s s' : S}
    (h : P.Moves s s') (h0 : I s) : I s' := by
  induction h with
  | refl => exact h0
  | tail _ hm ih => obtain ⟨p, hm⟩ := hm; exact hI p _ _ ih hm

/-- What the others do preserves what every legal move of another process preserves. -/
theorem Rely.preserves {p : Pid} {I : S → Prop} (hI : ∀ q s s', q ≠ p → I s → P.Move q s s' → I s')
    {s s' : S} (h : P.Rely p s s') (h0 : I s) : I s' := by
  induction h with
  | refl => exact h0
  | tail _ hm ih => obtain ⟨q, hq, hm⟩ := hm; exact hI q _ _ hq ih hm

variable (P)

/-- `m`, run by `p` from `s` among the others, performs only legal operations and
ends in `Q`. -/
def wp (p : Pid) : Prog Op Ret α → (α → S → Prop) → S → Prop
  | .ret a, Q, s => Q a s
  | .op o k, Q, s => ∀ s', P.Rely p s s' →
      P.legal p o s' ∧ ∀ r s'', P.step p o s' r s'' → wp p (k r) Q s''

variable {P} {p : Pid}

theorem wp_mono {Q R : α → S → Prop} (h : ∀ a s, Q a s → R a s) :
    ∀ {m : Prog Op Ret α} {s : S}, P.wp p m Q s → P.wp p m R s
  | .ret _, _, hw => h _ _ hw
  | .op _ _, _, hw => fun s' hs =>
    ⟨(hw s' hs).1, fun r s'' ht => wp_mono h ((hw s' hs).2 r s'' ht)⟩

theorem wp_bind {f : α → Prog Op Ret β} {Q : β → S → Prop} :
    ∀ {m : Prog Op Ret α} {s : S}, P.wp p m (fun a => P.wp p (f a) Q) s → P.wp p (m.bind f) Q s
  | .ret _, _, hw => hw
  | .op _ _, _, hw => fun s' hs =>
    ⟨(hw s' hs).1, fun r s'' ht => wp_bind ((hw s' hs).2 r s'' ht)⟩

/-- A walk may start anywhere the others can have moved to, when its end is stable. -/
theorem wp_rely {Q : α → S → Prop} (hQ : ∀ a s s', P.Rely p s s' → Q a s → Q a s') :
    ∀ {m : Prog Op Ret α} {s s' : S}, P.wp p m Q s → P.Rely p s s' → P.wp p m Q s'
  | .ret _, _, _, hw, hs => hQ _ _ _ hs hw
  | .op _ _, _, _, hw, hs => fun s'' hs' => hw s'' (hs.trans hs')

/-- What every legal move preserves holds along the walk. -/
theorem wp_frame {I : S → Prop} (hI : ∀ q s s', I s → P.Move q s s' → I s') {Q : α → S → Prop} :
    ∀ {m : Prog Op Ret α} {s : S}, P.wp p m Q s → I s → P.wp p m (fun a s' => Q a s' ∧ I s') s
  | .ret _, _, hw, hs => ⟨hw, hs⟩
  | .op _ _, _, hw, hs => fun s' hr =>
    have hs' := hr.preserves (fun q _ _ _ => hI q _ _) hs
    ⟨(hw s' hr).1, fun r s'' ht => wp_frame hI ((hw s' hr).2 r s'' ht) (hI p _ _ hs' ⟨_, r, (hw s' hr).1, ht⟩)⟩

end Protocol

/-! ## Python control flow -/

namespace Py
variable {P : Protocol Op Ret Pid S} {p : Pid}

/-- The walk of `m` from locals `st`: `ok` where it returns, `er` where it raises. -/
def wp (P : Protocol Op Ret Pid S) (p : Pid) (m : Py Op Ret ε σ α) (st : σ) (ok : α → σ → S → Prop)
    (er : ε → σ → S → Prop) (s : S) : Prop :=
  P.wp p (m st) (fun r => match r with | (.ok a, st') => ok a st' | (.error e, st') => er e st') s

variable {m : Py Op Ret ε σ α} {f : α → Py Op Ret ε σ β} {st : σ} {s : S}
  {ok : α → σ → S → Prop} {er : ε → σ → S → Prop} {ok' : β → σ → S → Prop}

theorem wp_mono {ok₂ : α → σ → S → Prop} {er₂ : ε → σ → S → Prop} (h : Py.wp P p m st ok er s)
    (ho : ∀ a st s, ok a st s → ok₂ a st s) (he : ∀ e st s, er e st s → er₂ e st s) :
    Py.wp P p m st ok₂ er₂ s := by
  refine Protocol.wp_mono ?_ h
  rintro ⟨r | r, st'⟩ s' hr
  · exact he _ _ _ hr
  · exact ho _ _ _ hr

theorem wp_frame {I : S → Prop} (hI : ∀ q s s', I s → P.Move q s s' → I s') (h : Py.wp P p m st ok er s) (hs : I s) :
    Py.wp P p m st (fun a st' s' => ok a st' s' ∧ I s') (fun e st' s' => er e st' s' ∧ I s') s := by
  refine Protocol.wp_mono ?_ (Protocol.wp_frame hI h hs)
  rintro ⟨r | r, st'⟩ s' hr <;> exact hr

theorem wp_pure {a : α} (h : ok a st s) : Py.wp P p (pure a : Py Op Ret ε σ α) st ok er s := h

theorem wp_bind (h : Py.wp P p m st (fun a st' => Py.wp P p (f a) st' ok' er) er s) :
    Py.wp P p (m >>= f) st ok' er s := by
  refine Protocol.wp_bind (Protocol.wp_mono ?_ h)
  rintro ⟨r | r, st'⟩ s' hr <;> exact hr

/-- A sequence, from what its first part is known to do. -/
theorem wp_seq {er₂ : ε → σ → S → Prop} (h : Py.wp P p m st ok er s)
    (ho : ∀ a st s, ok a st s → Py.wp P p (f a) st ok' er₂ s) (he : ∀ e st s, er e st s → er₂ e st s) :
    Py.wp P p (m >>= f) st ok' er₂ s :=
  wp_bind (wp_mono h ho he)

theorem wp_map {g : α → β} (h : Py.wp P p m st (fun a => ok' (g a)) er s) : Py.wp P p (g <$> m) st ok' er s :=
  wp_bind (f := fun a => pure (g a)) h

theorem wp_raise {e : ε} (h : er e st s) : Py.wp P p (raise e : Py Op Ret ε σ α) st ok er s := h

theorem wp_locals {ok : σ → σ → S → Prop} (h : ok st st s) :
    Py.wp P p (locals : Py Op Ret ε σ σ) st ok er s := h

theorem wp_setLocals {ok : Unit → σ → S → Prop} {st' : σ} (h : ok () st' s) :
    Py.wp P p (setLocals st' : Py Op Ret ε σ Unit) st ok er s := h

theorem wp_update {ok : Unit → σ → S → Prop} {g : σ → σ} (h : ok () (g st) s) :
    Py.wp P p (update g : Py Op Ret ε σ Unit) st ok er s := h

theorem wp_lift {r : Except ε α} (ho : ∀ a, r = .ok a → ok a st s) (he : ∀ e, r = .error e → er e st s) :
    Py.wp P p (lift r : Py Op Ret ε σ α) st ok er s := by
  cases r with
  | ok a => exact ho a rfl
  | error e => exact he e rfl

theorem wp_perform {o : Op} {ok : Ret o → σ → S → Prop}
    (h : ∀ s', P.Rely p s s' → P.legal p o s' ∧ ∀ r s'', P.step p o s' r s'' → ok r st s'') :
    Py.wp P p (perform o : Py Op Ret ε σ (Ret o)) st ok er s := h

theorem wp_tryCatch {handler : ε → Py Op Ret ε σ α}
    (h : Py.wp P p m st ok (fun e st' => Py.wp P p (handler e) st' ok er) s) :
    Py.wp P p (tryCatch m handler) st ok er s := by
  refine Protocol.wp_bind (Protocol.wp_mono ?_ h)
  rintro ⟨r | r, st'⟩ s' hr <;> exact hr

theorem wp_tryFinally {fin : Py Op Ret ε σ Unit}
    (h : Py.wp P p m st (fun a st' => Py.wp P p fin st' (fun _ st'' => ok a st'') er)
      (fun e st' => Py.wp P p fin st' (fun _ st'' => er e st'') er) s) :
    Py.wp P p (tryFinally m fin) st ok er s := by
  refine Protocol.wp_bind (Protocol.wp_mono ?_ h)
  rintro ⟨r | r, st'⟩ s' hr
  all_goals
    refine Protocol.wp_bind (Protocol.wp_mono ?_ hr)
    rintro ⟨r' | r', st''⟩ s'' hr' <;> exact hr'

theorem wp_zoom {enter : σ → τ} {leave : τ → σ → σ} {m : Py Op Ret ε τ α}
    (h : Py.wp P p m (enter st) (fun a st' => ok a (leave st' st)) (fun e st' => er e (leave st' st)) s) :
    Py.wp P p (zoom enter leave m) st ok er s := by
  refine Protocol.wp_bind (Protocol.wp_mono ?_ h)
  rintro ⟨r | r, st'⟩ s' hr <;> exact hr

end Py

/-! ## Interleavings -/

/-- The shared state and what every process still has to do; `none` is a process
not started yet. -/
structure Config (Op : Type) (Ret : Op → Type) (Pid S : Type) where
  shared : S
  running : Pid → Option (Prog Op Ret Unit)

namespace Config
variable (P : Protocol Op Ret Pid S) (start : Prog Op Ret Unit → Prop) [DecidableEq Pid]

/-- One step of an interleaving: a process starts, or a running one performs its
next operation. A process that is never scheduled again has died. -/
inductive Step : Config Op Ret Pid S → Config Op Ret Pid S → Prop
  | spawn {c : Config Op Ret Pid S} (p : Pid) (m : Prog Op Ret Unit) (hp : c.running p = none) (hm : start m) :
      Step c ⟨c.shared, Function.update c.running p (some m)⟩
  | perform {c : Config Op Ret Pid S} (p : Pid) (o : Op) (k : Ret o → Prog Op Ret Unit) (r : Ret o) (s' : S)
      (hp : c.running p = some (.op o k)) (hs : P.step p o c.shared r s') :
      Step c ⟨s', Function.update c.running p (some (k r))⟩

/-- Any number of steps of an interleaving. -/
def Steps : Config Op Ret Pid S → Config Op Ret Pid S → Prop := ReflTransGen (Step P start)

/-- A state in which nothing has been started. -/
def idle (s : S) : Config Op Ret Pid S := ⟨s, fun _ => none⟩

variable {P start} {Fresh : Pid → S → Prop}

/-- What holds between the steps of an interleaving: a process not started is
fresh, a running one passes the walk of what it still has to do. -/
def Walked (P : Protocol Op Ret Pid S) (Fresh : Pid → S → Prop) (c : Config Op Ret Pid S) : Prop :=
  ∀ p, match c.running p with
    | none => Fresh p c.shared
    | some m => P.wp p m (fun _ _ => True) c.shared

omit [DecidableEq Pid] in
theorem walked_idle {s : S} (h : ∀ p, Fresh p s) : Walked P Fresh (idle s) := h

/-- One step is a legal move (or none), and leaves every process walkable. -/
theorem Step.walked (hstart : ∀ m p s, start m → Fresh p s → P.wp p m (fun _ _ => True) s)
    (hfresh : ∀ p q s s', q ≠ p → Fresh p s → P.Move q s s' → Fresh p s') {c c' : Config Op Ret Pid S}
    (h : Step P start c c') (hc : Walked P Fresh c) : P.Moves c.shared c'.shared ∧ Walked P Fresh c' := by
  cases h with
  | spawn p m hp hm =>
    refine ⟨.refl, fun q => ?_⟩
    by_cases hq : q = p
    · subst hq
      have := hc q
      simp only [hp] at this
      simpa using hstart m q c.shared hm this
    · simpa [hq] using hc q
  | perform p o k r s' hp hs =>
    have hw := hc p
    simp only [hp] at hw
    obtain ⟨hl, hk⟩ := hw c.shared .refl
    have hmove : P.Move p c.shared s' := ⟨o, r, hl, hs⟩
    refine ⟨hmove.moves, fun q => ?_⟩
    by_cases hq : q = p
    · subst hq
      simpa using hk r s' hs
    · have hcq := hc q
      simp only [ne_eq, hq, not_false_eq_true, Function.update_of_ne]
      cases hr : c.running q with
      | none =>
        simp only [hr] at hcq
        exact hfresh q p _ _ (Ne.symm hq) hcq hmove
      | some m =>
        simp only [hr] at hcq
        exact Protocol.wp_rely (fun _ _ _ _ _ => trivial) hcq (.single ⟨p, Ne.symm hq, hmove⟩)

/-- Every interleaving of walked programs makes legal moves only. -/
theorem sound (hstart : ∀ m p s, start m → Fresh p s → P.wp p m (fun _ _ => True) s)
    (hfresh : ∀ p q s s', q ≠ p → Fresh p s → P.Move q s s' → Fresh p s') {c c' : Config Op Ret Pid S}
    (h : Steps P start c c') (hc : Walked P Fresh c) : P.Moves c.shared c'.shared ∧ Walked P Fresh c' := by
  induction h with
  | refl => exact ⟨.refl, hc⟩
  | tail _ hs ih =>
    obtain ⟨hm, hw⟩ := ih
    obtain ⟨hm', hw'⟩ := hs.walked hstart hfresh hw
    exact ⟨hm.trans hm', hw'⟩

end Config

end Effect
