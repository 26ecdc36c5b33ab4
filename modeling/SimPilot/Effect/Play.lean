import SimPilot.Effect.RelyGuarantee
/-!
# Playing an interleaving

A `Handler` answers the operations of a signature from a state of its own. `play` runs a
schedule against it, and what it reaches is reached by the steps of the protocol the
handler is sound for (`play_steps`): a concrete run can be computed.
-/

namespace Effect

variable {Op : Type} {Ret : Op → Type} {Pid S ω : Type}

/-- How operations are answered; `none` where one is not. -/
abbrev Handler (Op : Type) (Ret : Op → Type) (Pid S ω : Type) : Type :=
  Pid → (o : Op) → S → ω → Option (Ret o × S × ω)

/-- Every answer of the handler is a step of the protocol. -/
def Handler.Sound (H : Handler Op Ret Pid S ω) (P : Protocol Op Ret Pid S) : Prop :=
  ∀ p o s w r s' w', H p o s w = some (r, s', w') → P.step p o s r s'

/-- One entry of a schedule: a process starts, or it performs at most `n` operations. -/
inductive Turn (Op : Type) (Ret : Op → Type) (Pid : Type) where
  | spawn (p : Pid) (m : Prog Op Ret Unit)
  | run (p : Pid) (n : Nat)

variable [DecidableEq Pid] (H : Handler Op Ret Pid S ω)

/-- At most `n` operations of a program. -/
def playProgram (p : Pid) : Nat → Prog Op Ret Unit → S → ω → Option (Prog Op Ret Unit × S × ω)
  | 0, m, s, w => some (m, s, w)
  | _, .ret a, s, w => some (.ret a, s, w)
  | n + 1, .op o k, s, w => match H p o s w with
    | some (r, s', w') => playProgram p n (k r) s' w'
    | none => none

def playTurn : Turn Op Ret Pid → Config Op Ret Pid S → ω → Option (Config Op Ret Pid S × ω)
  | .spawn p m, c, w => match c.running p with
    | none => some (⟨c.shared, Function.update c.running p (some m)⟩, w)
    | some _ => none
  | .run p n, c, w => match c.running p with
    | none => none
    | some m => match playProgram H p n m c.shared w with
      | some (m', s', w') => some (⟨s', Function.update c.running p (some m')⟩, w')
      | none => none

/-- The state a schedule leads to. -/
def play : List (Turn Op Ret Pid) → Config Op Ret Pid S → ω → Option (Config Op Ret Pid S × ω)
  | [], c, w => some (c, w)
  | t :: ts, c, w => match playTurn H t c w with
    | some (c', w') => play ts c' w'
    | none => none

variable {H} {P : Protocol Op Ret Pid S} {start : Prog Op Ret Unit → Prop}

theorem playProgram_steps (hH : H.Sound P) {p : Pid} : ∀ {n : Nat} {m m' : Prog Op Ret Unit} {c : Config Op Ret Pid S}
    {s' : S} {w w' : ω}, playProgram H p n m c.shared w = some (m', s', w') → c.running p = some m →
      Config.Steps P start c ⟨s', Function.update c.running p (some m')⟩
  | 0, m, m', c, s', w, w', h, hp => by
    cases h
    rw [← hp, Function.update_eq_self]
    exact .refl
  | n + 1, .ret a, m', c, s', w, w', h, hp => by
    cases h
    rw [← hp, Function.update_eq_self]
    exact .refl
  | n + 1, .op o k, m', c, s', w, w', h, hp => by
    simp only [playProgram] at h
    split at h
    · rename_i r s₁ w₁ ha
      have hstep : Config.Step P start c ⟨s₁, Function.update c.running p (some (k r))⟩ :=
        .perform p o k r s₁ hp (hH p o _ _ _ _ _ ha)
      have hrest := playProgram_steps hH (c := ⟨s₁, Function.update c.running p (some (k r))⟩) h (by simp)
      simp only [Function.update_idem] at hrest
      exact .head hstep hrest
    · cases h

theorem playTurn_steps (hH : H.Sound P) {t : Turn Op Ret Pid} {c c' : Config Op Ret Pid S} {w w' : ω}
    (hs : ∀ p m, t = .spawn p m → start m) (h : playTurn H t c w = some (c', w')) : Config.Steps P start c c' := by
  cases t with
  | spawn p m =>
    simp only [playTurn] at h
    split at h
    · rename_i hp
      cases h
      exact .single (.spawn p m hp (hs p m rfl))
    · cases h
  | run p n =>
    simp only [playTurn] at h
    split at h
    · cases h
    · rename_i m hp
      split at h
      · rename_i m' s' w₁ hplay
        cases h
        exact playProgram_steps hH hplay hp
      · cases h

/-- A schedule in two parts. -/
theorem play_append {us : List (Turn Op Ret Pid)} : ∀ {ts : List (Turn Op Ret Pid)} {c : Config Op Ret Pid S} {w : ω},
    play H (ts ++ us) c w = (play H ts c w).bind fun cw => play H us cw.1 cw.2
  | [], _, _ => rfl
  | t :: ts, c, w => by
    simp only [List.cons_append, play]
    cases playTurn H t c w with
    | none => rfl
    | some cw => exact play_append

/-- **What is played is an interleaving.** -/
theorem play_steps (hH : H.Sound P) : ∀ {ts : List (Turn Op Ret Pid)} {c c' : Config Op Ret Pid S} {w w' : ω},
    (∀ p m, Turn.spawn p m ∈ ts → start m) → play H ts c w = some (c', w') → Config.Steps P start c c'
  | [], c, c', w, w', _, h => by
    cases h
    exact .refl
  | t :: ts, c, c', w, w', hs, h => by
    simp only [play] at h
    split at h
    · rename_i c₁ w₁ ht
      have hfirst : Config.Steps P start c c₁ := playTurn_steps hH (fun p m he => hs p m (by simp [he])) ht
      exact hfirst.trans (play_steps hH (fun p m hmem => hs p m (List.mem_cons_of_mem _ hmem)) h)
    · cases h

end Effect
