import Mathlib.Data.List.Basic
/-!
# Exact readers of a format

A reader takes a value from the front of its input. It is exact for a format when it reads a
value if and only if the value is valid and the input begins with what the format writes of it:
it accepts nothing else, and it reads back all that is written. Records are read field by field
(`Exact.field`), and so are their exactness proofs.
-/

namespace Format

variable {ε β α γ ρ : Type}

/-- A reader of the front of a list that may fail. -/
abbrev Reader (ε β α : Type) : Type := StateT (List β) (Except ε) α

/-- The reader reads the valid values, each from what `bytes` writes of it. -/
def Exact (read : Reader ε β α) (valid : α → Prop) (bytes : α → List β) : Prop :=
  ∀ data a rest, read data = .ok (a, rest) ↔ valid a ∧ data = bytes a ++ rest

theorem bind_ok {x : Reader ε β α} {f : α → Reader ε β γ} {data rest : List β} {c : γ} :
    (x >>= f) data = .ok (c, rest) ↔ ∃ a mid, x data = .ok (a, mid) ∧ f a mid = .ok (c, rest) := by
  change (x data).bind (fun am => f am.1 am.2) = _ ↔ _
  cases x data with
  | error e =>
    constructor
    · intro h
      cases h
    · rintro ⟨a, mid, h, -⟩
      cases h
  | ok am =>
    constructor
    · exact fun h => ⟨am.1, am.2, rfl, h⟩
    · rintro ⟨a, mid, h, hf⟩
      cases h
      exact hf

theorem pure_ok {a b : α} {data rest : List β} :
    (pure a : Reader ε β α) data = .ok (b, rest) ↔ a = b ∧ data = rest := by
  change Except.ok (a, data) = Except.ok (b, rest) ↔ _
  simp

namespace Exact

variable {x : Reader ε β α} {valid : α → Prop} {bytes : α → List β}

theorem congr {valid' : α → Prop} {bytes' : α → List β} (h : Exact x valid bytes) (hv : ∀ a, valid a ↔ valid' a)
    (hb : ∀ a, valid' a → bytes a = bytes' a) : Exact x valid' bytes' := by
  intro data a rest
  rw [h, hv]
  exact and_congr_right fun ha => by rw [hb a ha]

/-- The next field of a record: `K` is what the fields before it said of the record. -/
theorem field {f : α → Reader ε β ρ} {K validRest : ρ → Prop} {bytesRest : ρ → List β} (get : ρ → α)
    (hx : Exact x valid bytes) (hf : ∀ a, Exact (f a) (fun r => (K r ∧ get r = a) ∧ validRest r) bytesRest) :
    Exact (x >>= f) (fun r => K r ∧ valid (get r) ∧ validRest r) (fun r => bytes (get r) ++ bytesRest r) := by
  intro data r rest
  rw [bind_ok]
  constructor
  · rintro ⟨a, mid, hread, hrest⟩
    obtain ⟨ha, rfl⟩ := (hx _ _ _).1 hread
    obtain ⟨⟨⟨hK, rfl⟩, hvalid⟩, rfl⟩ := (hf _ _ _ _).1 hrest
    exact ⟨⟨hK, ha, hvalid⟩, (List.append_assoc ..).symm⟩
  · rintro ⟨⟨hK, ha, hvalid⟩, rfl⟩
    exact ⟨get r, bytesRest r ++ rest, (hx _ _ _).2 ⟨ha, List.append_assoc ..⟩,
      (hf _ _ _ _).2 ⟨⟨⟨hK, rfl⟩, hvalid⟩, rfl⟩⟩

/-- The end of a record: the fields say which one it is. -/
theorem record {K : ρ → Prop} {r : ρ} (h : ∀ r', K r' ↔ r = r') :
    Exact (pure r : Reader ε β ρ) (fun r' => K r' ∧ True) (fun _ => []) := by
  intro data r' rest
  simp only [pure_ok, h, and_true, List.nil_append]

/-- A value read as a part of another. -/
theorem map_ok (hx : Exact x valid bytes) {g : α → ρ} {data rest : List β} {r : ρ} :
    (x >>= fun a => pure (g a)) data = .ok (r, rest) ↔ ∃ a, g a = r ∧ valid a ∧ data = bytes a ++ rest := by
  rw [bind_ok]
  constructor
  · rintro ⟨a, mid, hread, hrest⟩
    obtain ⟨rfl, rfl⟩ := pure_ok.1 hrest
    exact ⟨a, rfl, (hx _ _ _).1 hread⟩
  · rintro ⟨a, rfl, h⟩
    exact ⟨a, rest, (hx _ _ _).2 h, pure_ok.2 ⟨rfl, rfl⟩⟩

end Exact

end Format
