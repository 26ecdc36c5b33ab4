import SimPilot.Data.TextOrder
/-!
# Numbers written with a fixed number of digits

Texts of one fixed layout (a number of digits, a separator, a number of digits, ...) stand
in the order of the numbers they show, the first number before the second.
-/

namespace FixedWidth

/-- The decimal digit of a number below ten. -/
def digit (d : Nat) : Char := Char.ofNat (48 + d)

/-- `f"{n:0{w}d}"` of a number below `10 ^ w`. -/
def digits : Nat → Nat → List Char
  | 0, _ => []
  | w + 1, n => digit (n / 10 ^ w) :: digits w (n % 10 ^ w)

theorem digit_lt_iff {d e : Nat} (hd : d < 10) (he : e < 10) : digit d < digit e ↔ d < e := by
  have hall : ∀ d < 10, ∀ e < 10, (digit d < digit e ↔ d < e) := by decide
  exact hall d hd e he

theorem digit_inj {d e : Nat} (hd : d < 10) (he : e < 10) : digit d = digit e ↔ d = e := by
  have hall : ∀ d < 10, ∀ e < 10, (digit d = digit e ↔ d = e) := by decide
  exact hall d hd e he

@[simp] theorem length_digits (w n : Nat) : (digits w n).length = w := by
  induction w generalizing n with
  | zero => rfl
  | succ w ih => rw [digits, List.length_cons, ih]

/-- Quotients first, then remainders. -/
theorem lt_iff_div_mod (k m n : Nat) : m < n ↔ m / k < n / k ∨ m / k = n / k ∧ m % k < n % k := by
  have hm := Nat.div_add_mod m k
  have hn := Nat.div_add_mod n k
  constructor
  · intro h
    rcases Nat.lt_or_eq_of_le (Nat.div_le_div_right (c := k) h.le) with hlt | heq
    · exact .inl hlt
    · rw [heq] at hm
      exact .inr ⟨heq, by omega⟩
  · rintro (hlt | ⟨heq, hlt⟩)
    · by_contra hle
      exact absurd (Nat.div_le_div_right (c := k) (Nat.le_of_not_lt hle)) (Nat.not_le.2 hlt)
    · rw [heq] at hm
      omega

theorem digits_lt_iff {w m n : Nat} (hm : m < 10 ^ w) (hn : n < 10 ^ w) : digits w m < digits w n ↔ m < n := by
  induction w generalizing m n with
  | zero =>
    rw [pow_zero] at hm hn
    simp only [digits, List.not_lt_nil, false_iff]
    omega
  | succ w ih =>
    have hpos : 0 < 10 ^ w := Nat.pow_pos (by decide)
    have hdm : m / 10 ^ w < 10 := Nat.div_lt_of_lt_mul (by rw [← pow_succ]; exact hm)
    have hdn : n / 10 ^ w < 10 := Nat.div_lt_of_lt_mul (by rw [← pow_succ]; exact hn)
    rw [digits, digits, List.cons_lt_cons_iff, digit_lt_iff hdm hdn, digit_inj hdm hdn,
      ih (Nat.mod_lt m hpos) (Nat.mod_lt n hpos), ← lt_iff_div_mod]

theorem digits_inj {w m n : Nat} (hm : m < 10 ^ w) (hn : n < 10 ^ w) : digits w m = digits w n ↔ m = n := by
  constructor
  · intro h
    have hlt := digits_lt_iff hm hn
    have hgt := digits_lt_iff hn hm
    rw [h] at hlt hgt
    simp only [lt_self_iff_false, false_iff] at hlt hgt
    omega
  · rintro rfl
    rfl

/-! ## Layouts -/

/-- A number of digits and the text behind them. -/
structure Field where
  width : Nat
  separator : List Char

/-- The numbers in the layout. -/
def render : List Field → List Nat → List Char
  | f :: fs, v :: vs => digits f.width v ++ f.separator ++ render fs vs
  | _, _ => []

/-- One number for each field, none too long for it. -/
def Fits (fs : List Field) (vs : List Nat) : Prop := List.Forall₂ (fun f v => v < 10 ^ f.width) fs vs

theorem append_lt_append_iff {α : Type} [LinearOrder α] {xs ys us vs : List α} (h : xs.length = ys.length) :
    xs ++ us < ys ++ vs ↔ xs < ys ∨ xs = ys ∧ us < vs := by
  induction xs generalizing ys with
  | nil =>
    obtain rfl := List.length_eq_zero_iff.1 h.symm
    simp
  | cons x xs ih =>
    cases ys with
    | nil => simp at h
    | cons y ys =>
      have hlength : xs.length = ys.length := by simpa using h
      rw [List.cons_append, List.cons_append, List.cons_lt_cons_iff, List.cons_lt_cons_iff, ih hlength]
      simp only [List.cons.injEq]
      tauto

/-- Two texts of one layout, and what follows them: the numbers decide first. -/
theorem render_append_lt_iff {fs : List Field} {us vs : List Nat} {xs ys : List Char} (hu : Fits fs us)
    (hv : Fits fs vs) : render fs us ++ xs < render fs vs ++ ys ↔ us < vs ∨ us = vs ∧ xs < ys := by
  induction hu generalizing vs with
  | nil =>
    obtain rfl : vs = [] := List.forall₂_nil_left_iff.1 hv
    simp [render]
  | @cons f u fs us hu hus ih =>
    obtain ⟨v, vs, hfits, hvs, rfl⟩ := List.forall₂_cons_left_iff.1 hv
    have hlength : (digits f.width u ++ f.separator).length = (digits f.width v ++ f.separator).length := by simp
    have hsep : digits f.width u ++ f.separator < digits f.width v ++ f.separator ↔ u < v := by
      rw [append_lt_append_iff (by simp), digits_lt_iff hu hfits]
      simp
    have heq : digits f.width u ++ f.separator = digits f.width v ++ f.separator ↔ u = v := by
      rw [List.append_left_inj, digits_inj hu hfits]
    rw [render, render, List.append_assoc _ _ xs, List.append_assoc _ _ ys, append_lt_append_iff hlength, hsep, heq,
      ih hvs, List.cons_lt_cons_iff]
    simp only [List.cons.injEq]
    tauto

end FixedWidth
