import Mathlib.Data.List.Basic
import Mathlib.Data.Nat.Digits.Defs
/-!
# Decimal digits

The text of a number determines it, and so does a text that starts with it, up to the next
character that is no digit.
-/

namespace Digits

theorem toList_toString (n : Nat) : (toString n).toList = Nat.toDigits 10 n := by simp

theorem toString_inj {m n : Nat} (h : toString m = toString n) : m = n := by
  have hsame := congrArg (fun s : String => Nat.ofDigitChars 10 s.toList 0) h
  simp only [toList_toString, Nat.ofDigitChars_ten_toDigits] at hsame
  exact hsame

theorem isDigit_of_mem_toString {n : Nat} {c : Char} (h : c ∈ (toString n).toList) : c.isDigit = true := by
  rw [toList_toString] at h
  exact Nat.isDigit_of_mem_toDigits (by decide) (by decide) h

theorem notMem_toString {c : Char} (hc : c.isDigit = false) (n : Nat) : c ∉ (toString n).toList :=
  fun h => Bool.false_ne_true (hc.symm.trans (isDigit_of_mem_toString h))

/-- The digits in front of a character that is none. -/
theorem takeWhile_toString_append {c : Char} (hc : c.isDigit = false) (n : Nat) (r : List Char) :
    ((toString n).toList ++ c :: r).takeWhile Char.isDigit = (toString n).toList := by
  rw [List.takeWhile_append_of_pos fun d hd => isDigit_of_mem_toString hd,
    List.takeWhile_cons_of_neg (by rw [hc]; exact Bool.false_ne_true), List.append_nil]

theorem toString_append_inj {c : Char} (hc : c.isDigit = false) {m n : Nat} {r s : List Char}
    (h : (toString m).toList ++ c :: r = (toString n).toList ++ c :: s) : m = n := by
  have hdigits := congrArg (List.takeWhile Char.isDigit) h
  rw [takeWhile_toString_append hc, takeWhile_toString_append hc] at hdigits
  exact toString_inj (String.toList_inj.mp hdigits)

/-- A number below `10 ^ k` has at most `k` digits. -/
theorem length_toString_le {n k : Nat} (hk : 0 < k) (h : n < 10 ^ k) : (toString n).length ≤ k :=
  Nat.repr_length n k hk h

end Digits
