import Mathlib.Data.List.Sort
/-!
# Sorting by a key and taking the first

`sorted(…, key=…)` of elements under different keys: what stands first is below all that is
left out.
-/

namespace Ranking
variable {α κ : Type} [LinearOrder κ] (key : α → κ) {l : List α}

/-- `sorted(l, key=key)` -/
def ranked (l : List α) : List α := l.insertionSort fun a b => key a ≤ key b

theorem perm_ranked (l : List α) : (ranked key l).Perm l := List.perm_insertionSort ..

@[simp] theorem mem_ranked {a : α} : a ∈ ranked key l ↔ a ∈ l := (perm_ranked key l).mem_iff

@[simp] theorem length_ranked (l : List α) : (ranked key l).length = l.length := (perm_ranked key l).length_eq

theorem pairwise_le (l : List α) : (ranked key l).Pairwise fun a b => key a ≤ key b := by
  have htotal : Std.Total fun a b => key a ≤ key b := ⟨fun a b => le_total (key a) (key b)⟩
  have htrans : IsTrans α fun a b => key a ≤ key b := ⟨fun _ _ _ => le_trans⟩
  exact List.pairwise_insertionSort _ l

/-- Elements under different keys are strictly ordered. -/
theorem pairwise_lt (hkeys : (l.map key).Nodup) : (ranked key l).Pairwise fun a b => key a < key b := by
  have hnodup : ((ranked key l).map key).Nodup := ((perm_ranked key l).map key).nodup_iff.mpr hkeys
  rw [List.Nodup, List.pairwise_map] at hnodup
  exact ((pairwise_le key l).and hnodup).imp fun h => lt_of_le_of_ne h.1 h.2

theorem pairwise_take (hkeys : (l.map key).Nodup) (n : Nat) :
    ((ranked key l).take n).Pairwise fun a b => key a < key b :=
  (pairwise_lt key hkeys).sublist (List.take_sublist n _)

/-- Whoever is left out comes after all the first ones. -/
theorem lt_of_not_mem_take (hkeys : (l.map key).Nodup) {n : Nat} {a b : α} (ha : a ∈ l)
    (hout : a ∉ (ranked key l).take n) (hb : b ∈ (ranked key l).take n) : key b < key a := by
  have hrest : a ∈ (ranked key l).drop n := by
    have hmem : a ∈ (ranked key l).take n ++ (ranked key l).drop n := by
      rw [List.take_append_drop]
      simpa using ha
    exact (List.mem_append.mp hmem).resolve_left hout
  have hsplit := pairwise_lt key hkeys
  rw [← List.take_append_drop n (ranked key l), List.pairwise_append] at hsplit
  exact hsplit.2.2 b hb a hrest

end Ranking
