/-!
# Programs over a signature of operations

A `Prog` is a tree: it returns, or it performs an operation of the signature
and continues with the reply. Nothing is said here about what an operation
does; that is the business of the semantics a client gives the signature
(`RelyGuarantee.lean` for shared state, an interpreter for one handler).

`Py` puts Python's control flow on top: local variables that survive an
exception, `raise`, `try … except`, `try … finally`, and running a callee that
keeps its own locals inside the caller's (`zoom`).
-/

namespace Effect

/-- A program: return a value, or perform `o` and continue with its reply. -/
inductive Prog (Op : Type) (Ret : Op → Type) (α : Type) : Type where
  | ret (a : α)
  | op (o : Op) (k : Ret o → Prog Op Ret α)

variable {Op : Type} {Ret : Op → Type} {α β γ ε σ τ : Type}

namespace Prog

def bind : Prog Op Ret α → (α → Prog Op Ret β) → Prog Op Ret β
  | ret a, f => f a
  | op o k, f => op o fun r => (k r).bind f

theorem bind_ret : ∀ m : Prog Op Ret α, m.bind ret = m
  | ret _ => rfl
  | op o k => by simp only [bind]; congr; funext r; exact bind_ret (k r)

theorem bind_assoc (f : α → Prog Op Ret β) (g : β → Prog Op Ret γ) :
    ∀ m : Prog Op Ret α, (m.bind f).bind g = m.bind fun a => (f a).bind g
  | ret _ => rfl
  | op o k => by simp only [bind]; congr; funext r; exact bind_assoc f g (k r)

end Prog

/-- A computation with locals `σ` and exceptions `ε`. A raised exception keeps
the locals as they were at the `raise`. -/
def Py (Op : Type) (Ret : Op → Type) (ε σ α : Type) : Type :=
  σ → Prog Op Ret (Except ε α × σ)

namespace Py

instance : Monad (Py Op Ret ε σ) where
  pure a := fun st => .ret (.ok a, st)
  bind m f := fun st => (m st).bind fun
    | (.ok a, st) => f a st
    | (.error e, st) => .ret (.error e, st)

/-- Perform an operation. -/
def perform (o : Op) : Py Op Ret ε σ (Ret o) := fun st => .op o fun r => .ret (.ok r, st)

/-- `raise e`. -/
def raise (e : ε) : Py Op Ret ε σ α := fun st => .ret (.error e, st)

def locals : Py Op Ret ε σ σ := fun st => .ret (.ok st, st)

def setLocals (st : σ) : Py Op Ret ε σ Unit := fun _ => .ret (.ok (), st)

def update (f : σ → σ) : Py Op Ret ε σ Unit := fun st => .ret (.ok (), f st)

/-- A value or an exception computed without effects. -/
def lift (r : Except ε α) : Py Op Ret ε σ α := fun st => .ret (r, st)

/-- `try: m except e: handler e`. -/
def tryCatch (m : Py Op Ret ε σ α) (handler : ε → Py Op Ret ε σ α) : Py Op Ret ε σ α :=
  fun st => (m st).bind fun
    | (.ok a, st) => .ret (.ok a, st)
    | (.error e, st) => handler e st

/-- `try: m finally: f`. An exception of `f` replaces the outcome of `m`. -/
def tryFinally (m : Py Op Ret ε σ α) (f : Py Op Ret ε σ Unit) : Py Op Ret ε σ α :=
  fun st => (m st).bind fun
    | (r, st) => (f st).bind fun
      | (.ok (), st) => .ret (r, st)
      | (.error e, st) => .ret (.error e, st)

/-- Run a callee with locals of its own, built from the caller's and written
back into them whether it returns or raises. -/
def zoom (enter : σ → τ) (leave : τ → σ → σ) (m : Py Op Ret ε τ α) : Py Op Ret ε σ α :=
  fun st => (m (enter st)).bind fun
    | (r, st') => .ret (r, leave st' st)

end Py

end Effect
