import Mathlib.Data.List.Basic
/-!
# The length of a text

A text is stored as its bytes, and its characters are counted by decoding them. A text that is
given by its characters, or by other texts, is counted without that, and so is any text by the
first bytes of its characters.
-/

namespace TextLength

theorem ofList_le {n : Nat} {cs : List Char} (h : cs.length ≤ n) : (String.ofList cs).length ≤ n := by
  rw [String.length_ofList]
  exact h

theorem append_ofList_le {n : Nat} {cs ds : List Char} (h : cs.length + ds.length ≤ n) :
    (String.ofList cs ++ String.ofList ds).length ≤ n := by
  rw [String.length_append, String.length_ofList, String.length_ofList]
  exact h

/-- The encoding of a character has one first byte. -/
theorem countP_utf8EncodeChar (c : Char) :
    (String.utf8EncodeChar c).countP (fun b => decide b.IsUTF8FirstByte) = 1 := by
  have hpos : 0 < (String.utf8EncodeChar c).length := by
    rw [String.length_utf8EncodeChar]
    exact c.utf8Size_pos
  obtain ⟨b, bs, hbytes⟩ := List.exists_cons_of_length_pos hpos
  have hfirst : ∀ i (hi : i < (b :: bs).length), (b :: bs)[i].IsUTF8FirstByte ↔ i = 0 := by
    intro i hi
    simp only [← hbytes]
    exact UInt8.isUTF8FirstByte_getElem_utf8EncodeChar
  have hb : b.IsUTF8FirstByte := (hfirst 0 (Nat.zero_lt_succ _)).mpr rfl
  have hbs : bs.countP (fun b => decide b.IsUTF8FirstByte) = 0 := by
    rw [List.countP_eq_zero]
    intro a ha hyes
    obtain ⟨i, hi, rfl⟩ := List.getElem_of_mem ha
    exact absurd ((hfirst (i + 1) (Nat.succ_lt_succ hi)).mp (of_decide_eq_true hyes)) (Nat.succ_ne_zero i)
  rw [hbytes, List.countP_cons, if_pos (decide_eq_true hb), hbs]

theorem countP_flatMap (cs : List Char) :
    (cs.flatMap String.utf8EncodeChar).countP (fun b => decide b.IsUTF8FirstByte) = cs.length := by
  induction cs with
  | nil => rfl
  | cons c cs ih =>
    rw [List.flatMap_cons, List.countP_append, countP_utf8EncodeChar, ih, List.length_cons, Nat.add_comm]

theorem eq_countP (s : String) :
    s.length = s.toByteArray.data.toList.countP fun b => decide b.IsUTF8FirstByte := by
  rw [← String.length_toList, ← countP_flatMap, ← String.utf8Encode_toList]
  simp [List.utf8Encode]

end TextLength
