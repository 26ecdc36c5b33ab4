import Mathlib.Data.List.Basic
import Mathlib.Data.List.ReduceOption
/-!
# Computations that may fail

When a computation in `Except` succeeds, what its steps gave, and the same of a computation
over a list.
-/

namespace Except

variable {ε α β : Type} {f : α → Except ε β}

theorem bind_eq_ok {x : Except ε α} {b : β} : (x >>= f) = .ok b ↔ ∃ a, x = .ok a ∧ f a = .ok b := by
  cases x with
  | error e =>
    constructor
    · intro h
      cases h
    · rintro ⟨a, h, -⟩
      cases h
  | ok a =>
    constructor
    · intro h
      exact ⟨a, rfl, h⟩
    · rintro ⟨a', h, hf⟩
      cases h
      exact hf

theorem exists_ok {x : Except ε α} (h : x.isOk = true) : ∃ a, x = .ok a := by
  cases x with
  | error e => cases h
  | ok a => exact ⟨a, rfl⟩

theorem apply_of_map {x : Except ε α} {g : α → β} {a : α} {b : β} (hx : x = .ok a) (h : x.toOption.map g = some b) :
    g a = b := by
  subst hx
  exact Option.some.inj h

/-! ## Lists -/

theorem mapM_cons_ok {x : α} {xs : List α} {ys : List β} (h : (x :: xs).mapM f = .ok ys) :
    ∃ y rest, f x = .ok y ∧ xs.mapM f = .ok rest ∧ ys = y :: rest := by
  rw [List.mapM_cons] at h
  obtain ⟨y, hy, h⟩ := bind_eq_ok.mp h
  obtain ⟨rest, hrest, h⟩ := bind_eq_ok.mp h
  cases h
  exact ⟨y, rest, hy, hrest, rfl⟩

theorem mem_mapM {xs : List α} {ys : List β} (h : xs.mapM f = .ok ys) (y : β) : y ∈ ys ↔ ∃ x ∈ xs, f x = .ok y := by
  induction xs generalizing ys with
  | nil =>
    cases h
    simp
  | cons x xs ih =>
    obtain ⟨z, rest, hz, hrest, rfl⟩ := mapM_cons_ok h
    rw [List.mem_cons, ih hrest]
    constructor
    · rintro (rfl | ⟨x', hx', hy⟩)
      · exact ⟨x, List.mem_cons_self .., hz⟩
      · exact ⟨x', List.mem_cons_of_mem _ hx', hy⟩
    · rintro ⟨x', hx', hy⟩
      rcases List.mem_cons.mp hx' with rfl | hx'
      · cases hz.symm.trans hy
        exact .inl rfl
      · exact .inr ⟨x', hx', hy⟩

theorem exists_of_mapM {xs : List α} {ys : List β} (h : xs.mapM f = .ok ys) {x : α} (hx : x ∈ xs) :
    ∃ y, f x = .ok y := by
  induction xs generalizing ys with
  | nil => cases hx
  | cons first xs ih =>
    obtain ⟨y, rest, hy, hrest, -⟩ := mapM_cons_ok h
    rcases List.mem_cons.mp hx with rfl | hx
    · exact ⟨y, hy⟩
    · exact ih hrest hx

theorem length_mapM {xs : List α} {ys : List β} (h : xs.mapM f = .ok ys) : ys.length = xs.length := by
  induction xs generalizing ys with
  | nil =>
    cases h
    rfl
  | cons x xs ih =>
    obtain ⟨y, rest, -, hrest, rfl⟩ := mapM_cons_ok h
    rw [List.length_cons, List.length_cons, ih hrest]

/-- What the first elements give does not hang on the others. -/
theorem mapM_take {xs : List α} {ys zs : List β} {m n : Nat} (hmn : m ≤ n) (hm : (xs.take m).mapM f = .ok ys)
    (hn : (xs.take n).mapM f = .ok zs) : ys = zs.take m := by
  induction xs generalizing m n ys zs with
  | nil =>
    simp only [List.take_nil] at hm hn
    cases hm
    cases hn
    simp
  | cons x xs ih =>
    cases m with
    | zero =>
      cases hm
      rfl
    | succ m =>
      obtain ⟨n, rfl⟩ : ∃ k, n = k + 1 := ⟨n - 1, by omega⟩
      rw [List.take_succ_cons] at hm hn
      obtain ⟨y, rest, hy, hrest, rfl⟩ := mapM_cons_ok hm
      obtain ⟨z, others, hz, hothers, rfl⟩ := mapM_cons_ok hn
      cases hy.symm.trans hz
      rw [List.take_succ_cons, ih (by omega) hrest hothers]

theorem map_of_mapM {γ : Type} {g : β → γ} {k : α → γ} (hg : ∀ x y, f x = .ok y → g y = k x) {xs : List α}
    {ys : List β} (h : xs.mapM f = .ok ys) : ys.map g = xs.map k := by
  induction xs generalizing ys with
  | nil =>
    cases h
    rfl
  | cons x xs ih =>
    obtain ⟨y, rest, hy, hrest, rfl⟩ := mapM_cons_ok h
    rw [List.map_cons, List.map_cons, hg x y hy, ih hrest]

/-- Where the computation over the list succeeds, its results are those of the elements. -/
theorem filterMap_toOption {xs : List α} {ys : List β} (h : xs.mapM f = .ok ys) :
    xs.filterMap (fun x => (f x).toOption) = ys := by
  induction xs generalizing ys with
  | nil =>
    cases h
    rfl
  | cons x xs ih =>
    obtain ⟨y, rest, hy, hrest, rfl⟩ := mapM_cons_ok h
    rw [List.filterMap_cons, hy]
    show y :: _ = _
    rw [ih hrest]

theorem mapM_ok_of_forall {xs : List α} (h : ∀ x ∈ xs, (f x).isOk = true) : ∃ ys, xs.mapM f = .ok ys := by
  induction xs with
  | nil => exact ⟨[], rfl⟩
  | cons x xs ih =>
    obtain ⟨rest, hrest⟩ := ih fun x' hx' => h x' (List.mem_cons_of_mem _ hx')
    obtain ⟨y, hy⟩ := exists_ok (h x (List.mem_cons_self ..))
    refine ⟨y :: rest, ?_⟩
    rw [List.mapM_cons, hy, hrest]
    rfl

theorem mapM_ok_congr {g : α → Except ε β} {xs : List α} {ys zs : List β}
    (hfg : ∀ x ∈ xs, ∀ y z, f x = .ok y → g x = .ok z → y = z) (hf : xs.mapM f = .ok ys) (hg : xs.mapM g = .ok zs) :
    ys = zs := by
  induction xs generalizing ys zs with
  | nil =>
    cases hf
    cases hg
    rfl
  | cons x xs ih =>
    obtain ⟨y, rest, hy, hrest, rfl⟩ := mapM_cons_ok hf
    obtain ⟨z, others, hz, hothers, rfl⟩ := mapM_cons_ok hg
    rw [hfg x (List.mem_cons_self ..) y z hy hz, ih (fun x' hx' => hfg x' (List.mem_cons_of_mem _ hx')) hrest hothers]

theorem mapM_eq_map {g : α → β} {xs : List α} (h : ∀ x ∈ xs, f x = .ok (g x)) : xs.mapM f = .ok (xs.map g) := by
  induction xs with
  | nil => rfl
  | cons x xs ih =>
    rw [List.mapM_cons, h x List.mem_cons_self, ih fun y hy => h y (List.mem_cons_of_mem _ hy)]
    rfl

section
variable {γ : Type} {f : α → Except ε (Option β)}

/-- Of results that may be missing none is, when no element's is. -/
theorem length_reduceOption_mapM {xs : List α} {ys : List (Option β)} {p : α → Prop} (h : xs.mapM f = .ok ys)
    (hp : ∀ x ∈ xs, ∀ y, f x = .ok y → (y.isSome ↔ p x)) : ys.reduceOption.length = xs.length ↔ ∀ x ∈ xs, p x := by
  rw [← length_mapM h, List.reduceOption_length_eq_iff]
  constructor
  · intro hsome x hx
    obtain ⟨y, hy⟩ := exists_of_mapM h hx
    exact (hp x hx y hy).mp (hsome y ((mem_mapM h y).mpr ⟨x, hx, hy⟩))
  · intro hall y hy
    obtain ⟨x, hx, hxy⟩ := (mem_mapM h y).mp hy
    exact (hp x hx y hxy).mpr (hall x hx)

theorem map_reduceOption_mapM {xs : List α} {ys : List (Option β)} {g : β → γ} {k : α → Option γ}
    (h : xs.mapM f = .ok ys) (hg : ∀ x ∈ xs, ∀ y, f x = .ok y → y.map g = k x) :
    ys.reduceOption.map g = xs.filterMap k := by
  induction xs generalizing ys with
  | nil =>
    cases h
    rfl
  | cons x xs ih =>
    obtain ⟨y, rest, hy, hrest, rfl⟩ := mapM_cons_ok h
    have hhead := hg x List.mem_cons_self y hy
    have htail := ih hrest fun x hx => hg x (List.mem_cons_of_mem _ hx)
    cases y with
    | none => rw [List.reduceOption_cons_of_none, List.filterMap_cons_none hhead.symm, htail]
    | some z => rw [List.reduceOption_cons_of_some, List.filterMap_cons_some hhead.symm, List.map_cons, htail]

end

/-! ## What a computation may give -/

section
variable {P : α → Prop} {Q : β → Prop} {E : ε → Prop}

/-- What holds of the result, or of the failure. -/
def Meets (x : Except ε α) (P : α → Prop) (E : ε → Prop) : Prop :=
  match x with
  | .ok a => P a
  | .error e => E e

theorem Meets.bind {x : Except ε α} (hx : x.Meets P E) (hf : ∀ a, P a → (f a).Meets Q E) : (x >>= f).Meets Q E := by
  cases x with
  | error e => exact hx
  | ok a => exact hf a hx

theorem Meets.mono {x : Except ε α} {P' : α → Prop} (hx : x.Meets P E) (h : ∀ a, P a → P' a) : x.Meets P' E := by
  cases x with
  | error e => exact hx
  | ok a => exact h a hx

theorem Meets.of_ok {x : Except ε α} {a : α} (hx : x.Meets P E) (h : x = .ok a) : P a := by
  subst h
  exact hx

theorem Meets.of_error {x : Except ε α} {e : ε} (hx : x.Meets P E) (h : x = .error e) : E e := by
  subst h
  exact hx

end

end Except
