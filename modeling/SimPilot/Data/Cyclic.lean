import Mathlib.Algebra.GroupWithZero.Nat
import Mathlib.Data.List.Rotate
import Mathlib.Data.List.MinMax
import Mathlib.Data.List.Lex
/-!
# The least rotation of a list

Two lists are rotations of one another exactly when their least rotations are the same, so the
least rotation stands for a cyclic sequence. A sum over the neighbours of a cyclic sequence
does not depend on where it starts.
-/

namespace Cyclic
variable {α β : Type}

/-- `(l[i:] + l[:i] for i in range(len(l)))` -/
def rotations (l : List α) : List (List α) := (List.range l.length).map fun i => l.drop i ++ l.take i

theorem mem_rotations {l r : List α} (hl : l ≠ []) : r ∈ rotations l ↔ l ~r r := by
  rw [rotations, List.isRotated_iff_mem_map_range, List.mem_map, List.mem_map]
  have hpos := List.length_pos_iff.mpr hl
  constructor
  · rintro ⟨i, hi, rfl⟩
    rw [List.mem_range] at hi
    exact ⟨i, List.mem_range.mpr (by omega), List.rotate_eq_drop_append_take hi.le⟩
  · rintro ⟨i, hi, rfl⟩
    rw [List.mem_range] at hi
    by_cases hlast : i = l.length
    · refine ⟨0, List.mem_range.mpr hpos, ?_⟩
      rw [hlast, List.rotate_length]
      simp
    · have hlt : i < l.length := by omega
      exact ⟨i, List.mem_range.mpr hlt, (List.rotate_eq_drop_append_take hlt.le).symm⟩

theorem rotations_ne_nil {l : List α} (hl : l ≠ []) : rotations l ≠ [] := by
  simpa [rotations] using hl

/-! ## The least -/

/-- `min(xs)`: the first of the least. -/
def first? [LinearOrder β] (xs : List β) : Option β := xs.argmin id

theorem first?_mem [LinearOrder β] {xs : List β} {b : β} (h : first? xs = some b) : b ∈ xs := List.argmin_mem h

theorem first?_le [LinearOrder β] {xs : List β} {a b : β} (h : first? xs = some b) (ha : a ∈ xs) : b ≤ a :=
  List.le_of_mem_argmin (f := id) ha h

theorem first?_eq_none [LinearOrder β] {xs : List β} : first? xs = none ↔ xs = [] := List.argmin_eq_none

section Least
variable [LinearOrder α] {l r : List α}

/-- `min` of the rotations, and nothing for the empty list. -/
def least (l : List α) : List α := (first? (rotations l)).getD []

theorem first?_rotations (hl : l ≠ []) : first? (rotations l) = some (least l) := by
  unfold least
  cases h : first? (rotations l) with
  | none => exact absurd (first?_eq_none.mp h) (rotations_ne_nil hl)
  | some r => rfl

@[simp] theorem least_nil : least ([] : List α) = [] := rfl

/-- The least rotation is one of them. -/
theorem isRotated_least (l : List α) : l ~r least l := by
  by_cases hl : l = []
  · rw [hl, least_nil]
  · exact (mem_rotations hl).mp (first?_mem (first?_rotations hl))

theorem least_le (hl : l ≠ []) (h : l ~r r) : least l ≤ r :=
  first?_le (first?_rotations hl) ((mem_rotations hl).mpr h)

/-- **Rotations of one another** have the same least rotation. -/
theorem least_eq_iff : least l = least r ↔ l ~r r := by
  constructor
  · intro h
    exact (isRotated_least l).trans (h ▸ (isRotated_least r).symm)
  · intro h
    by_cases hl : l = []
    · rw [hl] at h ⊢
      rw [List.isRotated_nil_iff'.mp h]
    · have hr : r ≠ [] := fun hr => hl (List.isRotated_nil_iff.mp (hr ▸ h))
      apply le_antisymm
      · exact least_le hl (h.trans (isRotated_least r))
      · exact least_le hr (h.symm.trans (isRotated_least l))

theorem least_ne_nil (hl : l ≠ []) : least l ≠ [] := fun h =>
  hl (List.isRotated_nil_iff.mp (h ▸ isRotated_least l))

end Least

/-- The neighbours of a cyclic sequence. -/
def neighbours (l : List α) : List (α × α) := l.zip (l.rotate 1)

theorem neighbours_rotate (l : List α) (n : Nat) : neighbours (l.rotate n) = (neighbours l).rotate n := by
  unfold neighbours List.zip
  rw [List.zipWith_rotate_distrib _ _ _ _ (by simp), List.rotate_rotate, List.rotate_rotate, Nat.add_comm]

/-- A sum over the neighbours is that of every rotation. -/
theorem sum_neighbours {l r : List α} (h : l ~r r) (f : α × α → Nat) :
    ((neighbours l).map f).sum = ((neighbours r).map f).sum := by
  obtain ⟨n, rfl⟩ := h
  rw [neighbours_rotate]
  exact ((List.IsRotated.forall (neighbours l) n).perm.symm.map f).sum_nat

end Cyclic
