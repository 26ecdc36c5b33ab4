import SimPilot.Effect.Program
/-!
# Runs of one program

A `Semantics` says what an operation may reply in a state and which state it leaves.
`Prog.Run` is a run of a program from its start to its result, and `Py.Ends` says what every
run of a computation ends in, whether it returns or raises: one rule for each construct of
`Py`. `Prog.play` computes a run from a function that answers the operations.
-/

namespace Effect

variable {Op : Type} {Ret : Op → Type} {S α β ε σ τ : Type}

/-- `sem o s r s'`: performed in `s`, the operation `o` may reply `r` and leave `s'`. -/
abbrev Semantics (Op : Type) (Ret : Op → Type) (S : Type) : Type := (o : Op) → S → Ret o → S → Prop

namespace Prog
variable {sem : Semantics Op Ret S}

/-- `m`, started in `s`, may return `a` and leave `s'`. -/
def Run (sem : Semantics Op Ret S) : Prog Op Ret α → S → α → S → Prop
  | ret a, s, b, s' => b = a ∧ s' = s
  | op o k, s, b, s'' => ∃ r s', sem o s r s' ∧ (k r).Run sem s' b s''

theorem run_bind {f : α → Prog Op Ret β} {b : β} {s'' : S} :
    ∀ {m : Prog Op Ret α} {s : S}, (m.bind f).Run sem s b s'' ↔ ∃ a s', m.Run sem s a s' ∧ (f a).Run sem s' b s''
  | ret a, s => by
    constructor
    · exact fun h => ⟨a, s, ⟨rfl, rfl⟩, h⟩
    · rintro ⟨_, _, ⟨rfl, rfl⟩, h⟩
      exact h
  | op o k, s => by
    simp only [bind, Run, run_bind]
    constructor
    · rintro ⟨r, s₁, ho, a, s', hk, hf⟩
      exact ⟨a, s', ⟨r, s₁, ho, hk⟩, hf⟩
    · rintro ⟨a, s', ⟨r, s₁, ho, hk⟩, hf⟩
      exact ⟨r, s₁, ho, a, s', hk, hf⟩

/-- What every operation keeps is kept by a run. -/
theorem Run.keeps {L : S → Prop} (h : ∀ o s r s', L s → sem o s r s' → L s') {b : α} {s' : S} :
    ∀ {m : Prog Op Ret α} {s : S}, L s → m.Run sem s b s' → L s'
  | ret _, _, hs, ⟨_, heq⟩ => heq ▸ hs
  | op o _, _, hs, ⟨r, s₁, ho, hk⟩ => keeps h (h o _ r s₁ hs ho) hk

/-- The run in which the operations are answered by a function. -/
def play (answer : (o : Op) → S → Option (Ret o × S)) : Prog Op Ret α → S → Option (α × S)
  | ret a, s => some (a, s)
  | op o k, s => match answer o s with
    | some (r, s') => (k r).play answer s'
    | none => none

theorem run_of_play {answer : (o : Op) → S → Option (Ret o × S)}
    (h : ∀ o s r s', answer o s = some (r, s') → sem o s r s') {a : α} {s' : S} :
    ∀ {m : Prog Op Ret α} {s : S}, m.play answer s = some (a, s') → m.Run sem s a s'
  | ret _, _, hp => by
    simp only [play, Option.some.injEq, Prod.mk.injEq] at hp
    exact ⟨hp.1.symm, hp.2.symm⟩
  | op o k, s, hp => by
    simp only [play] at hp
    cases ha : answer o s with
    | none => simp [ha] at hp
    | some p =>
      rw [ha] at hp
      exact ⟨p.1, p.2, h o s p.1 p.2 ha, run_of_play h hp⟩

end Prog

namespace Py
variable {sem : Semantics Op Ret S}

/-- What every run of `m` from the locals `st` and the state `s` ends in: `ok` where it
returns, `er` where it raises. -/
def Ends (sem : Semantics Op Ret S) (m : Py Op Ret ε σ α) (st : σ) (s : S) (ok : α → σ → S → Prop)
    (er : ε → σ → S → Prop) : Prop :=
  ∀ r st' s', (m st).Run sem s (r, st') s' → match r with
    | .ok a => ok a st' s'
    | .error e => er e st' s'

variable {m : Py Op Ret ε σ α} {f : α → Py Op Ret ε σ β} {st : σ} {s : S}
  {ok : α → σ → S → Prop} {er : ε → σ → S → Prop} {ok' : β → σ → S → Prop}

namespace Ends

theorem returns (h : Ends sem m st s ok er) {a : α} {st' : σ} {s' : S} (hr : (m st).Run sem s (.ok a, st') s') :
    ok a st' s' := h _ _ _ hr

theorem raises (h : Ends sem m st s ok er) {e : ε} {st' : σ} {s' : S} (hr : (m st).Run sem s (.error e, st') s') :
    er e st' s' := h _ _ _ hr

theorem mono {ok₂ : α → σ → S → Prop} {er₂ : ε → σ → S → Prop} (h : Ends sem m st s ok er)
    (ho : ∀ a st s, ok a st s → ok₂ a st s) (he : ∀ e st s, er e st s → er₂ e st s) : Ends sem m st s ok₂ er₂ := by
  intro r st' s' hr
  cases r with
  | ok a => exact ho a st' s' (h.returns hr)
  | error e => exact he e st' s' (h.raises hr)

/-- `mono`, from what is known. -/
theorem weaken {ok₂ : α → σ → S → Prop} {er₂ : ε → σ → S → Prop} (P : α → σ → S → Prop) (R : ε → σ → S → Prop)
    (h : Ends sem m st s P R) (ho : ∀ a st s, P a st s → ok₂ a st s) (he : ∀ e st s, R e st s → er₂ e st s) :
    Ends sem m st s ok₂ er₂ := h.mono ho he

/-- Two things known of the runs of one computation. -/
theorem and {ok₂ : α → σ → S → Prop} {er₂ : ε → σ → S → Prop} (h : Ends sem m st s ok er) (h₂ : Ends sem m st s ok₂ er₂) :
    Ends sem m st s (fun a st s => ok a st s ∧ ok₂ a st s) (fun e st s => er e st s ∧ er₂ e st s) := by
  intro r st' s' hr
  cases r with
  | ok a => exact ⟨h.returns hr, h₂.returns hr⟩
  | error e => exact ⟨h.raises hr, h₂.raises hr⟩

theorem pure {a : α} (h : ok a st s) : Ends sem (Pure.pure a : Py Op Ret ε σ α) st s ok er := by
  rintro _ _ _ ⟨hr, rfl⟩
  cases hr
  exact h

theorem raise {e : ε} (h : er e st s) : Ends sem (Py.raise e : Py Op Ret ε σ α) st s ok er := by
  rintro _ _ _ ⟨hr, rfl⟩
  cases hr
  exact h

theorem lift {r : Except ε α} (ho : ∀ a, r = .ok a → ok a st s) (he : ∀ e, r = .error e → er e st s) :
    Ends sem (Py.lift r : Py Op Ret ε σ α) st s ok er := by
  rintro _ _ _ ⟨hr, rfl⟩
  cases hr
  cases r with
  | ok a => exact ho a rfl
  | error e => exact he e rfl

theorem locals {ok : σ → σ → S → Prop} (h : ok st st s) : Ends sem (Py.locals : Py Op Ret ε σ σ) st s ok er := by
  rintro _ _ _ ⟨hr, rfl⟩
  cases hr
  exact h

theorem setLocals {ok : Unit → σ → S → Prop} {st' : σ} (h : ok () st' s) :
    Ends sem (Py.setLocals st' : Py Op Ret ε σ Unit) st s ok er := by
  rintro _ _ _ ⟨hr, rfl⟩
  cases hr
  exact h

theorem perform {o : Op} {ok : Ret o → σ → S → Prop} (h : ∀ r s', sem o s r s' → ok r st s') :
    Ends sem (Py.perform o : Py Op Ret ε σ (Ret o)) st s ok er := by
  rintro _ _ _ ⟨r, s', ho, hr, rfl⟩
  cases hr
  exact h r _ ho

theorem bind (h : Ends sem m st s (fun a st' s' => Ends sem (f a) st' s' ok' er) er) : Ends sem (m >>= f) st s ok' er := by
  intro r st' s' hr
  obtain ⟨⟨a | a, st₁⟩, s₁, hm, hf⟩ := Prog.run_bind.mp hr
  · obtain ⟨hr, rfl⟩ := hf
    cases hr
    exact h.raises hm
  · exact h.returns hm r st' s' hf

/-- A sequence, from what its first part is known to do. -/
theorem seq {er₂ : ε → σ → S → Prop} (h : Ends sem m st s ok er)
    (ho : ∀ a st s, ok a st s → Ends sem (f a) st s ok' er₂) (he : ∀ e st s, er e st s → er₂ e st s) :
    Ends sem (m >>= f) st s ok' er₂ :=
  bind (h.mono ho he)

theorem map {g : α → β} (h : Ends sem m st s (fun a => ok' (g a)) er) : Ends sem (g <$> m) st s ok' er :=
  bind (f := fun a => Pure.pure (g a)) (h.mono (fun _ _ _ ha => pure ha) fun _ _ _ he => he)

theorem ite {p : Prop} [Decidable p] {m' : Py Op Ret ε σ α} (h : p → Ends sem m st s ok er)
    (h' : ¬ p → Ends sem m' st s ok er) : Ends sem (if p then m else m') st s ok er := by
  split
  · next hp => exact h hp
  · next hp => exact h' hp

theorem tryCatch {handler : ε → Py Op Ret ε σ α}
    (h : Ends sem m st s ok fun e st' s' => Ends sem (handler e) st' s' ok er) :
    Ends sem (Py.tryCatch m handler) st s ok er := by
  intro r st' s' hr
  obtain ⟨⟨x, st₁⟩, s₁, hm, hf⟩ := Prog.run_bind.mp hr
  cases x with
  | error e => exact h.raises hm r st' s' hf
  | ok a =>
    obtain ⟨hr, rfl⟩ := hf
    cases hr
    exact h.returns hm

theorem update {g : σ → σ} {ok : Unit → σ → S → Prop} (h : ok () (g st) s) :
    Ends sem (Py.update g : Py Op Ret ε σ Unit) st s ok er := by
  rintro _ _ _ ⟨hr, rfl⟩
  cases hr
  exact h

theorem tryFinally {fin : Py Op Ret ε σ Unit}
    (h : Ends sem m st s (fun a st' s' => Ends sem fin st' s' (fun _ => ok a) er)
      (fun e st' s' => Ends sem fin st' s' (fun _ => er e) er)) : Ends sem (Py.tryFinally m fin) st s ok er := by
  intro r st' s' hr
  obtain ⟨⟨x, st₁⟩, s₁, hm, hf⟩ := Prog.run_bind.mp hr
  obtain ⟨⟨y, st₂⟩, s₂, hfin, hlast⟩ := Prog.run_bind.mp hf
  cases y with
  | error e =>
    obtain ⟨hr, rfl⟩ := hlast
    cases hr
    cases x with
    | ok a => exact (h.returns hm).raises hfin
    | error e => exact (h.raises hm).raises hfin
  | ok u =>
    obtain ⟨hr, rfl⟩ := hlast
    cases hr
    cases r with
    | ok a => exact (h.returns hm).returns hfin
    | error e => exact (h.raises hm).returns hfin

end Ends

end Py

end Effect
