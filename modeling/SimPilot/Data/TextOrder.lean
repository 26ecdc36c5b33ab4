import Mathlib.Data.String.Basic
import Mathlib.Data.List.Dedup
import Mathlib.Data.List.Sort
import Mathlib.Data.List.Lex
/-!
# Two orders of text

Text can be compared by its code points, as the order of `String` does, or by its UTF-16
code units. Surrogates lie below the code points from U+E000 on, so the orders differ on
text that mixes those with code points from U+10000 on, and only there.
-/

namespace TextOrder

/-- The UTF-16 code units of a character. -/
def units (c : Char) : List Nat :=
  if c.toNat < 0x10000 then [c.toNat]
  else [0xD800 + (c.toNat - 0x10000) / 0x400, 0xDC00 + (c.toNat - 0x10000) % 0x400]

def utf16 (s : String) : List Nat := s.toList.flatMap units

/-- Ordinal comparison: the code units in lexicographic order. -/
def OrdinalLt (s t : String) : Prop := utf16 s < utf16 t

instance (s t : String) : Decidable (OrdinalLt s t) := inferInstanceAs (Decidable (utf16 s < utf16 t))

/-- No character from U+E000 on. -/
def Low (s : String) : Prop := ∀ c ∈ s.toList, c.toNat < 0xE000

instance (s : String) : Decidable (Low s) := inferInstanceAs (Decidable (∀ c ∈ s.toList, c.toNat < 0xE000))

theorem units_of_low {c : Char} (h : c.toNat < 0xE000) : units c = [c.toNat] :=
  if_pos (by omega)

theorem utf16_of_low {cs : List Char} (h : ∀ c ∈ cs, c.toNat < 0xE000) : cs.flatMap units = cs.map Char.toNat := by
  induction cs with
  | nil => rfl
  | cons c cs ih =>
    rw [List.flatMap_cons, List.map_cons, units_of_low (h c (List.mem_cons_self ..)),
      ih fun d hd => h d (List.mem_cons_of_mem _ hd)]
    rfl

theorem map_toNat_lt {cs ds : List Char} : cs.map Char.toNat < ds.map Char.toNat ↔ cs < ds := by
  induction cs generalizing ds with
  | nil => cases ds <;> simp
  | cons c cs ih =>
    cases ds with
    | nil => simp
    | cons d ds =>
      have hlt : c.toNat < d.toNat ↔ c < d := Iff.rfl
      simp only [List.map_cons, List.cons_lt_cons_iff, ih, hlt, Char.toNat_inj]

/-- Where no character lies beyond the surrogates the orders agree. -/
theorem ordinalLt_iff {s t : String} (hs : Low s) (ht : Low t) : OrdinalLt s t ↔ s < t := by
  rw [OrdinalLt, utf16, utf16, utf16_of_low hs, utf16_of_low ht, map_toNat_lt, String.lt_iff_toList_lt]

/-! ## Where two orders agree -/

/-- A list that ascends in one order ascends in another as far as the other agrees on it. -/
theorem pairwise_iff_agree {α : Type} {r s : α → α → Prop} (hasymm : ∀ a b, r a b → ¬ r b a) {xs : List α}
    (h : xs.Pairwise r) : xs.Pairwise s ↔ ∀ a ∈ xs, ∀ b ∈ xs, r a b → s a b := by
  constructor
  · intro hs
    induction xs with
    | nil => simp
    | cons x xs ih =>
      obtain ⟨hx, hxs⟩ := List.pairwise_cons.1 h
      obtain ⟨hsx, hsxs⟩ := List.pairwise_cons.1 hs
      intro a ha b hb hr
      rcases List.mem_cons.1 ha with ha | ha
      · rcases List.mem_cons.1 hb with hb | hb
        · rw [ha, hb] at hr
          exact absurd hr (hasymm _ _ hr)
        · rw [ha]
          exact hsx b hb
      · rcases List.mem_cons.1 hb with hb | hb
        · rw [hb] at hr
          exact absurd hr (hasymm _ _ (hx a ha))
        · exact ih hxs hsxs a ha b hb hr
  · intro hagree
    exact h.imp_of_mem fun ha hb hr => hagree _ ha _ hb hr

/-- Two texts of the list in ordinal order are in the order of their code points. -/
def OrdersAgree (xs : List String) : Prop := ∀ a ∈ xs, ∀ b ∈ xs, OrdinalLt a b → a < b

instance (xs : List String) : Decidable (OrdersAgree xs) :=
  inferInstanceAs (Decidable (∀ a ∈ xs, ∀ b ∈ xs, OrdinalLt a b → a < b))

theorem ordersAgree_congr {xs ys : List String} (h : ∀ a, a ∈ xs ↔ a ∈ ys) : OrdersAgree xs ↔ OrdersAgree ys := by
  simp only [OrdersAgree, h]

theorem pairwise_lt_iff {xs : List String} (h : xs.Pairwise OrdinalLt) : xs.Pairwise (· < ·) ↔ OrdersAgree xs :=
  pairwise_iff_agree (fun _ _ hab => lt_asymm hab) h

theorem ordersAgree_of_low {xs : List String} (h : ∀ x ∈ xs, Low x) : OrdersAgree xs :=
  fun a ha b hb hab => (ordinalLt_iff (h a ha) (h b hb)).1 hab

/-! ## Ascending lists -/

section Sorted
variable {α : Type} [LinearOrder α]

/-- The elements once each, in ascending order. -/
def sortedSet (xs : List α) : List α := xs.dedup.insertionSort (· ≤ ·)

theorem mem_sortedSet {a : α} {xs : List α} : a ∈ sortedSet xs ↔ a ∈ xs := by
  rw [sortedSet, (List.perm_insertionSort ..).mem_iff, List.mem_dedup]

theorem nodup_sortedSet (xs : List α) : (sortedSet xs).Nodup :=
  (List.perm_insertionSort ..).nodup_iff.2 (List.nodup_dedup xs)

/-- A list is its own sorted set when it ascends strictly. -/
theorem sortedSet_eq {xs : List α} : sortedSet xs = xs ↔ xs.Pairwise (· < ·) := by
  constructor
  · intro h
    have hsorted : xs.Pairwise (· ≤ ·) := by
      rw [← h]
      exact List.pairwise_insertionSort ..
    have hnodup : xs.Nodup := by
      rw [← h]
      exact nodup_sortedSet xs
    exact (hsorted.and hnodup).imp fun h => lt_of_le_of_ne h.1 h.2
  · intro h
    have hnodup : xs.Nodup := h.imp ne_of_lt
    rw [sortedSet, List.Nodup.dedup hnodup]
    exact (h.imp le_of_lt).insertionSort_eq

end Sorted

end TextOrder
