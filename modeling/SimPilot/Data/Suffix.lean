import Mathlib.Data.List.Basic
/-!
# The longest suffix that fits

A list is shortened from its front until it fits. What is left is the longest suffix that fits,
whatever fitting is; nothing is left where none does.
-/

namespace Data

variable {α : Type}

/-- Elements are dropped from the front until what is left satisfies `fits`. -/
def dropUntil (fits : List α → Prop) [DecidablePred fits] : List α → List α
  | [] => []
  | a :: l => if fits (a :: l) then a :: l else dropUntil fits l

/-- `l` is the longest suffix of `all` with at most `n` elements that fits. -/
structure LongestSuffix (fits : List α → Prop) (n : Nat) (all l : List α) : Prop where
  suffix : l <:+ all
  bounded : l.length ≤ n
  fit : fits l
  longest : ∀ l', l' <:+ all → l'.length ≤ n → fits l' → l'.length ≤ l.length

section
variable {fits : List α → Prop} [DecidablePred fits]

theorem dropUntil_suffix : ∀ {l : List α}, dropUntil fits l <:+ l
  | [] => List.suffix_refl []
  | a :: l => by
    unfold dropUntil
    split
    · exact List.suffix_refl _
    · exact dropUntil_suffix.trans (List.suffix_cons a l)

/-- What is left fits, unless nothing is left. -/
theorem dropUntil_fits : ∀ {l : List α}, dropUntil fits l ≠ [] → fits (dropUntil fits l)
  | [], h => absurd rfl h
  | a :: l, h => by
    unfold dropUntil at h ⊢
    split
    · assumption
    · rename_i hmisfit
      rw [if_neg hmisfit] at h
      exact dropUntil_fits h

/-- A suffix that fits is a suffix of what is left. -/
theorem suffix_dropUntil : ∀ {l l' : List α}, l' <:+ l → fits l' → l' <:+ dropUntil fits l
  | [], l', h, _ => by rwa [dropUntil]
  | a :: l, l', h, hfits => by
    unfold dropUntil
    split
    · exact h
    · rename_i hmisfit
      rcases List.suffix_cons_iff.mp h with rfl | h
      · exact absurd hfits hmisfit
      · exact suffix_dropUntil h hfits

end

/-- The last `n` elements. -/
theorem suffix_drop_iff {n : Nat} {l l' : List α} :
    l' <:+ l.drop (l.length - n) ↔ l' <:+ l ∧ l'.length ≤ n := by
  constructor
  · intro h
    refine ⟨h.trans (List.drop_suffix _ _), ?_⟩
    have hlength := h.length_le
    rw [List.length_drop] at hlength
    omega
  · rintro ⟨h, hn⟩
    have hle := h.length_le
    rw [List.suffix_iff_eq_drop.mp h]
    have hshort : l.length - n ≤ l.length - l'.length := by omega
    obtain ⟨k, hk⟩ := Nat.exists_eq_add_of_le hshort
    rw [hk, ← List.drop_drop]
    exact List.drop_suffix k _

/-- Dropping until it fits, among the last `n` elements. -/
theorem longestSuffix_dropUntil {fits : List α → Prop} [DecidablePred fits] {n : Nat} {l : List α}
    (h : fits (dropUntil fits (l.drop (l.length - n)))) :
    LongestSuffix fits n l (dropUntil fits (l.drop (l.length - n))) := by
  have hsuffix : dropUntil fits (l.drop (l.length - n)) <:+ l ∧ _ := suffix_drop_iff.mp dropUntil_suffix
  refine ⟨hsuffix.1, hsuffix.2, h, fun l' hl' hn hfits => ?_⟩
  exact (suffix_dropUntil (suffix_drop_iff.mpr ⟨hl', hn⟩) hfits).length_le

end Data
