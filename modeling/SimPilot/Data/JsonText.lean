import Mathlib.Algebra.GroupWithZero.Nat
import SimPilot.Data.TextOrder
/-!
# JSON text in ASCII

Strings with every character escaped that is not printable ASCII, and objects with sorted
members, as lists of characters. Such text takes one byte a character in UTF-8; what a string
takes of it hangs on its characters alone.
-/

namespace JsonText

open TextOrder

/-! ## Bytes -/

/-- The bytes of characters in UTF-8. -/
def bytes (cs : List Char) : Nat := (cs.map Char.utf8Size).sum

theorem utf8ByteSize_ofList (cs : List Char) : (String.ofList cs).utf8ByteSize = bytes cs := by
  induction cs with
  | nil => rfl
  | cons c cs ih =>
    have hcons : String.ofList (c :: cs) = String.ofList [c] ++ String.ofList cs := by
      rw [← String.ofList_append]
      rfl
    rw [hcons, String.utf8ByteSize_append, ih]
    show (String.singleton c).utf8ByteSize + bytes cs = bytes (c :: cs)
    rw [String.utf8ByteSize_singleton]
    simp [bytes]

/-- Printable ASCII. -/
def Printable (c : Char) : Prop := 32 ≤ c.toNat ∧ c.toNat < 127

instance (c : Char) : Decidable (Printable c) := inferInstanceAs (Decidable (_ ∧ _))

theorem Printable.utf8Size {c : Char} (h : Printable c) : c.utf8Size = 1 := by
  rw [Char.utf8Size_eq_one_iff]
  have hlt : c.val.toNat < 127 := h.2
  show c.val.toNat ≤ 127
  omega

theorem bytes_of_printable {cs : List Char} (h : ∀ c ∈ cs, Printable c) : bytes cs = cs.length := by
  have hones : cs.map Char.utf8Size = cs.map fun _ => 1 := List.map_congr_left fun c hc => (h c hc).utf8Size
  unfold bytes
  rw [hones]
  simp

theorem nul_not_mem {cs : List Char} (h : ∀ c ∈ cs, Printable c) : '\x00' ∉ cs := fun hmem =>
  absurd (h _ hmem).1 (by decide)

/-! ## Strings -/

/-- Four hexadecimal digits. -/
def hex4 (n : Nat) : List Char := [n / 4096, n / 256, n / 16, n].map fun d => Nat.digitChar (d % 16)

/-- The letter behind a backslash, of the characters that have one. -/
def shortEscape (c : Char) : Option Char :=
  if c = '"' then some '"' else if c = '\\' then some '\\' else if c = '\n' then some 'n'
  else if c = '\r' then some 'r' else if c = '\t' then some 't' else if c.toNat = 8 then some 'b'
  else if c.toNat = 12 then some 'f' else none

def escape (c : Char) : List Char :=
  match shortEscape c with
  | some letter => ['\\', letter]
  | none => if Printable c then [c] else (units c).flatMap fun u => '\\' :: 'u' :: hex4 u

def quoted (s : String) : List Char := '"' :: s.toList.flatMap escape ++ ['"']

/-- The characters between the quotes. -/
def escapedLength (s : String) : Nat := (s.toList.flatMap escape).length

@[simp] theorem length_quoted (s : String) : (quoted s).length = escapedLength s + 2 := by
  simp [quoted, escapedLength]

theorem escapedLength_append (s t : String) : escapedLength (s ++ t) = escapedLength s + escapedLength t := by
  simp [escapedLength]

theorem hex4_printable (n : Nat) : ∀ c ∈ hex4 n, Printable c := by
  have hdigit : ∀ d < 16, Printable (Nat.digitChar d) := by decide
  intro c hc
  simp only [hex4, List.mem_map] at hc
  obtain ⟨d, -, rfl⟩ := hc
  exact hdigit _ (Nat.mod_lt _ (by decide))

theorem escape_printable (c : Char) : ∀ d ∈ escape c, Printable d := by
  unfold escape
  split
  · rename_i letter hletter
    have hshort : Printable letter := by
      unfold shortEscape at hletter
      split_ifs at hletter <;> (cases hletter; decide)
    intro d hd
    simp only [List.mem_cons, List.not_mem_nil, or_false] at hd
    rcases hd with rfl | rfl
    · decide
    · exact hshort
  · split_ifs with hplain
    · intro d hd
      rw [List.mem_singleton.mp hd]
      exact hplain
    · intro d hd
      obtain ⟨u, -, hd⟩ := List.mem_flatMap.mp hd
      simp only [List.mem_cons] at hd
      rcases hd with rfl | rfl | hd
      · decide
      · decide
      · exact hex4_printable u d hd

theorem quoted_printable (s : String) : ∀ c ∈ quoted s, Printable c := by
  intro c hc
  simp only [quoted, List.cons_append, List.mem_cons, List.mem_append, List.mem_flatMap, List.not_mem_nil,
    or_false] at hc
  rcases hc with rfl | ⟨d, -, hd⟩ | rfl
  · decide
  · exact escape_printable d c hd
  · decide

/-! ## Objects -/

/-- The members of an object and its closing brace. -/
def members : List (String × List Char) → List Char
  | [] => ['}']
  | [(key, value)] => quoted key ++ ':' :: value ++ ['}']
  | (key, value) :: rest => quoted key ++ ':' :: value ++ ',' :: members rest

/-- An object with its members in the order of their keys. -/
def object (items : List (String × List Char)) : List Char :=
  '{' :: members (items.insertionSort fun a b => a.1 ≤ b.1)

/-- What a member takes, with the comma or brace behind it. -/
def memberLength (item : String × List Char) : Nat := escapedLength item.1 + item.2.length + 4

theorem members_printable {items : List (String × List Char)} (h : ∀ item ∈ items, ∀ c ∈ item.2, Printable c) :
    ∀ c ∈ members items, Printable c := by
  induction items with
  | nil =>
    intro c hc
    rw [List.mem_singleton.mp hc]
    decide
  | cons item rest ih =>
    have hvalue := h item (List.mem_cons_self ..)
    have hrest := ih fun other hother => h other (List.mem_cons_of_mem _ hother)
    intro c hc
    cases rest with
    | nil =>
      simp only [members, List.mem_append, List.mem_cons, List.not_mem_nil, or_false] at hc
      rcases hc with (hc | rfl | hc) | rfl
      · exact quoted_printable _ c hc
      · decide
      · exact hvalue c hc
      · decide
    | cons other others =>
      simp only [members, List.mem_append, List.mem_cons] at hc
      rcases hc with (hc | rfl | hc) | rfl | hc
      · exact quoted_printable _ c hc
      · decide
      · exact hvalue c hc
      · decide
      · exact hrest c hc

theorem object_printable {items : List (String × List Char)} (h : ∀ item ∈ items, ∀ c ∈ item.2, Printable c) :
    ∀ c ∈ object items, Printable c := by
  intro c hc
  rcases List.mem_cons.mp hc with rfl | hc
  · decide
  · exact members_printable (fun item hitem => h item ((List.mem_insertionSort _).mp hitem)) c hc

theorem length_members {items : List (String × List Char)} (h : items ≠ []) :
    (members items).length = (items.map memberLength).sum := by
  induction items with
  | nil => exact absurd rfl h
  | cons item rest ih =>
    cases rest with
    | nil =>
      simp only [members, List.length_append, List.length_cons, length_quoted, List.length_nil, List.map_cons,
        List.map_nil, List.sum_cons, List.sum_nil, memberLength]
      omega
    | cons other others =>
      have hrest := ih (List.cons_ne_nil _ _)
      simp only [members, List.length_append, List.length_cons, length_quoted, hrest, memberLength,
        List.map_cons, List.sum_cons]
      omega

/-- The length of an object does not hang on the order of its members. -/
theorem length_object {items : List (String × List Char)} (h : items ≠ []) :
    (object items).length = (items.map memberLength).sum + 1 := by
  have hperm := List.perm_insertionSort (fun a b : String × List Char => a.1 ≤ b.1) items
  have hne : items.insertionSort (fun a b => a.1 ≤ b.1) ≠ [] := fun hnil => h (List.perm_nil.mp (hnil ▸ hperm).symm)
  unfold object
  rw [List.length_cons, length_members hne, (hperm.map memberLength).sum_nat]

end JsonText
