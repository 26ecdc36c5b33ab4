import Mathlib.Data.List.Induction
/-!
# The last entries of a log

A bounded buffer that drops its oldest entry holds a window of everything ever put in.
When a new entry always differs from the window it is put behind, entries with one key lie
more than a window apart.
-/

namespace Window
variable {α κ : Type}

/-- The last `n` entries. -/
def last (n : Nat) (l : List α) : List α := l.drop (l.length - n)

@[simp] theorem last_nil (n : Nat) : last n ([] : List α) = [] := List.drop_nil

theorem length_last (n : Nat) (l : List α) : (last n l).length = min n l.length := by
  rw [last, List.length_drop]
  omega

/-- Putting an entry behind a full window drops the oldest. -/
theorem last_concat {n : Nat} (hn : 0 < n) (l : List α) (a : α) :
    (if n < (last n l ++ [a]).length then (last n l ++ [a]).tail else last n l ++ [a]) = last n (l ++ [a]) := by
  have hlen := length_last n l
  rw [List.length_append, hlen, List.length_singleton, last, last, List.length_append, List.length_singleton]
  by_cases hfull : n ≤ l.length
  · have hdrop : l.drop (l.length - n) ≠ [] := by
      rw [ne_eq, List.drop_eq_nil_iff]
      omega
    rw [if_pos (by omega), List.tail_append_of_ne_nil hdrop, List.tail_drop,
      List.drop_append_of_le_length (by omega)]
    congr 2
    omega
  · have hz : l.length - n = 0 := by omega
    have hz' : l.length + 1 - n = 0 := by omega
    rw [if_neg (by omega), hz, hz', List.drop_zero, List.drop_zero]

/-- The window of a list that ends in `b` long enough lies in `b`. -/
theorem last_append {n : Nat} {a b : List α} (h : b.length < n) :
    last n (a ++ b) = last (n - b.length) a ++ b := by
  rw [last, last, List.length_append]
  have hsub : a.length + b.length - n = a.length - (n - b.length) := by omega
  rw [hsub, List.drop_append_of_le_length (by omega)]

/-- Every entry has another key than the `n` entries before it. -/
def Spaced (n : Nat) (key : α → κ) (l : List α) : Prop :=
  ∀ before a after, l = before ++ a :: after → key a ∉ (last n before).map key

theorem Spaced.nil {n : Nat} {key : α → κ} : Spaced n key ([] : List α) := by
  intro before a after h
  simp at h

theorem Spaced.concat {n : Nat} {key : α → κ} {l : List α} (h : Spaced n key l) {a : α}
    (ha : key a ∉ (last n l).map key) : Spaced n key (l ++ [a]) := by
  intro before b after hl
  rcases List.eq_nil_or_concat after with rfl | ⟨init, c, rfl⟩
  · obtain ⟨rfl, hb⟩ := List.append_inj' hl rfl
    obtain rfl := (List.cons.inj hb).1
    exact ha
  · rw [List.concat_eq_append, ← List.cons_append, ← List.append_assoc] at hl
    obtain ⟨hl, -⟩ := List.append_inj' hl rfl
    exact h before b init hl

/-- An entry is in the window until `n` entries have come behind it. -/
theorem mem_last {n : Nat} {before after : List α} {a : α} (h : after.length < n) :
    a ∈ last n (before ++ a :: after) := by
  rcases Nat.lt_or_ge (a :: after).length n with hshort | hlong
  · rw [last_append hshort]
    simp
  · have hn : n = (a :: after).length := by simp only [List.length_cons] at hlong ⊢; omega
    rw [last, hn, List.length_append, Nat.add_sub_cancel, List.drop_left]
    exact List.mem_cons_self

theorem Spaced.of_append {n : Nat} {key : α → κ} {l m : List α} (h : Spaced n key (l ++ m)) : Spaced n key l := by
  rintro before a after rfl
  exact h before a (after ++ m) (by simp)

/-- Within a window the keys are distinct. -/
theorem Spaced.nodup_last {n : Nat} (hn : 0 < n) {key : α → κ} {l : List α} (h : Spaced n key l) :
    ((last n l).map key).Nodup := by
  induction l using List.reverseRecOn with
  | nil => simp
  | append_singleton l a ih =>
    have hboth : ((last n l ++ [a]).map key).Nodup := by
      have hnew : key a ∉ (last n l).map key := h l a [] rfl
      rw [List.map_append, List.map_singleton, List.nodup_append]
      refine ⟨ih h.of_append, List.pairwise_singleton _ _, ?_⟩
      rintro b hb c hc rfl
      rw [List.mem_singleton] at hc
      exact hnew (hc ▸ hb)
    rw [← last_concat hn]
    split
    · exact hboth.sublist ((List.tail_sublist _).map key)
    · exact hboth

/-- A list with such an element has a last one. -/
theorem exists_last {α : Type} {P : α → Prop} {l : List α} (h : ∃ x ∈ l, P x) :
    ∃ older x newer, l = older ++ x :: newer ∧ P x ∧ ∀ y ∈ newer, ¬ P y := by
  induction l using List.reverseRecOn with
  | nil =>
    obtain ⟨x, hx, -⟩ := h
    cases hx
  | append_singleton l y ih =>
    by_cases hy : P y
    · exact ⟨l, y, [], rfl, hy, by simp⟩
    · obtain ⟨x, hx, hp⟩ := h
      have hx : x ∈ l := by
        rcases List.mem_append.1 hx with hx | hx
        · exact hx
        · rw [List.mem_singleton] at hx
          exact (hy (hx ▸ hp)).elim
      obtain ⟨older, x, newer, rfl, hp, hnewer⟩ := ih ⟨x, hx, hp⟩
      refine ⟨older, x, newer ++ [y], by simp, hp, fun z hz => ?_⟩
      rcases List.mem_append.1 hz with hz | hz
      · exact hnewer z hz
      · rw [List.mem_singleton] at hz
        exact hz ▸ hy

end Window
