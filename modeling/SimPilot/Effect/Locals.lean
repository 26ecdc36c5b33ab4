import SimPilot.Effect.Program
/-!
# What a program leaves of its locals

`Prog.All Q` says that every result of a program satisfies `Q`, whatever the operations
reply. `Py.Leaves μ m` is the frame it is used for: `m` leaves the measure `μ` of its locals
as it was, whether it returns or raises. One rule for each construct of `Py`.
-/

namespace Effect

variable {Op : Type} {Ret : Op → Type} {α β ε σ τ ι : Type}

namespace Prog

/-- Every result satisfies `Q`, whatever the operations reply. -/
def All (Q : α → Prop) : Prog Op Ret α → Prop
  | ret a => Q a
  | op _ k => ∀ r, (k r).All Q

theorem All.mono {Q R : α → Prop} (h : ∀ a, Q a → R a) : ∀ {m : Prog Op Ret α}, m.All Q → m.All R
  | ret a, hm => h a hm
  | op _ _, hm => fun r => (hm r).mono h

theorem All.bind {Q : β → Prop} {f : α → Prog Op Ret β} :
    ∀ {m : Prog Op Ret α}, m.All (fun a => (f a).All Q) → (m.bind f).All Q
  | ret _, hm => hm
  | op _ _, hm => fun r => (hm r).bind

/-- Continuations that agree on every result are interchangeable. -/
theorem bind_congr {f g : α → Prog Op Ret β} : ∀ {m : Prog Op Ret α}, m.All (fun a => f a = g a) → m.bind f = m.bind g
  | ret _, hm => hm
  | op o k, hm => by
    simp only [bind]
    congr
    funext r
    exact bind_congr (hm r)

end Prog

namespace Py

/-- The computation leaves the measure of its locals as it was. -/
def Leaves (μ : σ → ι) (m : Py Op Ret ε σ α) : Prop := ∀ st, (m st).All fun r => μ r.2 = μ st

namespace Leaves
variable {μ : σ → ι} {m : Py Op Ret ε σ α}

theorem pure (a : α) : Leaves μ (Pure.pure a : Py Op Ret ε σ α) := fun _ => rfl

theorem raise (e : ε) : Leaves μ (Py.raise e : Py Op Ret ε σ α) := fun _ => rfl

theorem locals : Leaves μ (Py.locals : Py Op Ret ε σ σ) := fun _ => rfl

theorem lift (r : Except ε α) : Leaves μ (Py.lift r : Py Op Ret ε σ α) := fun _ => rfl

theorem perform (o : Op) : Leaves μ (Py.perform o : Py Op Ret ε σ (Ret o)) := fun _ _ => rfl

theorem update {g : σ → σ} (h : ∀ st, μ (g st) = μ st) : Leaves μ (Py.update g : Py Op Ret ε σ Unit) := h

theorem bind {f : α → Py Op Ret ε σ β} (hm : Leaves μ m) (hf : ∀ a, Leaves μ (f a)) : Leaves μ (m >>= f) := by
  intro st
  refine Prog.All.bind (Prog.All.mono ?_ (hm st))
  rintro ⟨r | r, st'⟩ hr
  · exact hr
  · exact Prog.All.mono (fun _ h => h.trans hr) (hf r st')

theorem map {g : α → β} (hm : Leaves μ m) : Leaves μ (g <$> m) := bind hm fun _ => pure _

theorem tryCatch {handler : ε → Py Op Ret ε σ α} (hm : Leaves μ m) (hh : ∀ e, Leaves μ (handler e)) :
    Leaves μ (Py.tryCatch m handler) := by
  intro st
  refine Prog.All.bind (Prog.All.mono ?_ (hm st))
  rintro ⟨r | r, st'⟩ hr
  · exact Prog.All.mono (fun _ h => h.trans hr) (hh r st')
  · exact hr

theorem zoom {ν : τ → ι} {enter : σ → τ} {leave : τ → σ → σ} {m : Py Op Ret ε τ α} (hm : Leaves ν m)
    (henter : ∀ st, ν (enter st) = μ st) (hleave : ∀ st' st, μ (leave st' st) = ν st') :
    Leaves μ (Py.zoom enter leave m) := by
  intro st
  refine Prog.All.bind (Prog.All.mono ?_ (hm (enter st)))
  rintro ⟨r, st'⟩ hr
  exact (hleave st' st).trans (hr.trans (henter st))

theorem ite {p : Prop} [Decidable p] {m' : Py Op Ret ε σ α} (h : Leaves μ m) (h' : Leaves μ m') :
    Leaves μ (if p then m else m') := by
  split
  · exact h
  · exact h'

/-- A computation that sets its locals first. -/
theorem update_bind {g : σ → σ} {f : Unit → Py Op Ret ε σ α} (h : Leaves μ (f ())) (st : σ) :
    ((Py.update g >>= f) st).All fun r => μ r.2 = μ (g st) := h (g st)

end Leaves

theorem locals_bind (f : σ → Py Op Ret ε σ α) (st : σ) : (Py.locals >>= f) st = f st st := rfl

theorem bind_congr {m : Py Op Ret ε σ α} {f g : α → Py Op Ret ε σ β} {st : σ}
    (h : (m st).All fun r => ∀ a, r.1 = .ok a → f a r.2 = g a r.2) : (m >>= f) st = (m >>= g) st := by
  refine Prog.bind_congr (Prog.All.mono ?_ h)
  rintro ⟨r | r, st'⟩ hr
  · rfl
  · exact hr r rfl

theorem all_bind {m : Py Op Ret ε σ α} {f : α → Py Op Ret ε σ β} {Q : Except ε β × σ → Prop} {st : σ}
    (h : (m st).All fun r => match r with
      | (.ok a, st') => (f a st').All Q
      | (.error e, st') => Q (.error e, st')) : ((m >>= f) st).All Q := by
  refine Prog.All.bind (Prog.All.mono ?_ h)
  rintro ⟨r | r, st'⟩ hr <;> exact hr

end Py

end Effect
