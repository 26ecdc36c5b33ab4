import Mathlib.Algebra.Order.Floor.Ring
import Mathlib.Data.Rat.Floor
import Mathlib.Tactic.Linarith
import Mathlib.Tactic.FieldSimp
/-!
# Rounding rational numbers

Rounding to an integer with ties to even, and to six decimals. Both are monotone and
leave what is rounded as it is; bounds that are themselves rounded survive them.
-/

namespace SimPilot

/-- `q` rounded to an integer, ties to even. -/
def roundEven (q : ℚ) : Int :=
  let down := q.floor
  if q - down < 1 / 2 then down
  else if q - down > 1 / 2 then down + 1
  else if down % 2 = 0 then down else down + 1

/-- `round(q, 6)`. -/
def round6 (q : ℚ) : ℚ := roundEven (q * 1000000) / 1000000

theorem roundEven_bounds (q : ℚ) : q.floor ≤ roundEven q ∧ roundEven q ≤ q.floor + 1 := by
  unfold roundEven
  dsimp only
  split_ifs <;> omega

@[simp] theorem roundEven_intCast (n : Int) : roundEven (n : ℚ) = n := by
  have hfloor : (n : ℚ).floor = n := Rat.floor_intCast n
  unfold roundEven
  rw [hfloor]
  norm_num

theorem roundEven_mono {q r : ℚ} (h : q ≤ r) : roundEven q ≤ roundEven r := by
  have hfloor : q.floor ≤ r.floor := Rat.floor_monotone h
  rcases hfloor.lt_or_eq with hlt | heq
  · have hq := (roundEven_bounds q).2
    have hr := (roundEven_bounds r).1
    omega
  · -- between the same two integers the greater number is not rounded down alone
    unfold roundEven
    dsimp only
    rw [← heq]
    split_ifs <;> first | omega | (exfalso; linarith)

theorem round6_mono {q r : ℚ} (h : q ≤ r) : round6 q ≤ round6 r := by
  have hscaled : roundEven (q * 1000000) ≤ roundEven (r * 1000000) := roundEven_mono (by linarith)
  have hcast : (roundEven (q * 1000000) : ℚ) ≤ roundEven (r * 1000000) := by exact_mod_cast hscaled
  unfold round6
  linarith

/-- What is rounded stays as it is. -/
@[simp] theorem round6_round6 (q : ℚ) : round6 (round6 q) = round6 q := by
  have hscaled : round6 q * 1000000 = (roundEven (q * 1000000) : ℚ) := by
    unfold round6
    field_simp
  rw [round6, hscaled, roundEven_intCast]
  rfl

@[simp] theorem round6_intCast (n : Int) : round6 (n : ℚ) = n := by
  have hscaled : (n : ℚ) * 1000000 = ((n * 1000000 : Int) : ℚ) := by push_cast; ring
  rw [round6, hscaled, roundEven_intCast]
  push_cast
  field_simp

@[simp] theorem round6_natCast (n : Nat) : round6 (n : ℚ) = n := round6_intCast n

@[simp] theorem round6_zero : round6 0 = 0 := by simpa using round6_natCast 0

theorem round6_nonneg {q : ℚ} (h : 0 ≤ q) : 0 ≤ round6 q := by
  have := round6_mono h
  rwa [round6_zero] at this

/-- A bound that is rounded. -/
theorem round6_le {q bound : ℚ} (hbound : round6 bound = bound) (h : q ≤ bound) : round6 q ≤ bound := by
  have := round6_mono h
  rwa [hbound] at this

theorem le_round6 {q bound : ℚ} (hbound : round6 bound = bound) (h : bound ≤ q) : bound ≤ round6 q := by
  have := round6_mono h
  rwa [hbound] at this

end SimPilot
