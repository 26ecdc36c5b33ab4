import Mathlib.Algebra.GroupWithZero.Nat
import Mathlib.Data.List.Basic
import Mathlib.Data.Fin.Basic
/-!
# The grammar of JSON texts (RFC 8259)

Texts are lists of UTF-16 code units. The grammar derives a text and the value it stands for. What
it leaves open is a parameter (`Reading`): which integers and which other numbers have a value,
and what may stand behind `\u`. Of `\u` there are two readings here: four hexadecimal digits, and
fewer that are filled up with NULs. They differ on texts with a NUL only.
-/

namespace JsonGrammar

/-- There are code units. -/
instance neZero_codeUnits : NeZero 65536 := ⟨by decide⟩

abbrev CodeUnit := Fin 65536

abbrev Text := List CodeUnit

/-- The code unit of an ASCII character. -/
def unit (c : Char) : CodeUnit := Fin.ofNat 65536 c.toNat

def ascii (s : String) : Text := s.toList.map unit

inductive Tree (ι δ : Type) where
  | null
  | boolean (b : Bool)
  | integer (i : ι)
  | number (d : δ)
  | string (s : Text)
  | array (vs : List (Tree ι δ))
  | object (kvs : List (Text × Tree ι δ))

/-! ## Characters -/

def isBlank (c : CodeUnit) : Bool := c = unit ' ' || c = unit '\t' || c = unit '\r' || c = unit '\n'

def isDigitUnit (c : CodeUnit) : Bool := unit '0' ≤ c && c ≤ unit '9'

def digitValue (c : CodeUnit) : Nat := c.val - (unit '0').val

/-- The number a text of digits stands for. -/
def decimal (ds : Text) : Nat := ds.foldl (fun n d => 10 * n + digitValue d) 0

def hexDigit? (c : CodeUnit) : Option Nat :=
  if isDigitUnit c then some (digitValue c)
  else if unit 'a' ≤ c ∧ c ≤ unit 'f' then some (c.val - (unit 'a').val + 10)
  else if unit 'A' ≤ c ∧ c ≤ unit 'F' then some (c.val - (unit 'A').val + 10)
  else none

def isHex (c : CodeUnit) : Bool := (hexDigit? c).isSome

def hexadecimal (ds : Text) : Nat := ds.foldl (fun n d => 16 * n + (hexDigit? d).getD 0) 0

/-! ## Escapes -/

/-- The escapes of one character. -/
def escapes : List (CodeUnit × CodeUnit) :=
  [(unit '"', unit '"'), (unit '\\', unit '\\'), (unit '/', unit '/'), (unit 'b', 8), (unit 'f', 12),
    (unit 'n', unit '\n'), (unit 'r', unit '\r'), (unit 't', unit '\t')]

/-- Four hexadecimal digits. -/
def Quad (h : Text) (c : CodeUnit) : Prop := h.length = 4 ∧ (∀ d ∈ h, isHex d) ∧ c.val = hexadecimal h

/-- Four characters: hexadecimal digits, at least one, and NULs behind them. -/
def PaddedQuad (h : Text) (c : CodeUnit) : Prop :=
  ∃ ds n, h = ds ++ List.replicate n 0 ∧ h.length = 4 ∧ ds ≠ [] ∧ (∀ d ∈ ds, isHex d) ∧ c.val = hexadecimal ds

/-- What a grammar of JSON texts leaves open. -/
structure Reading (ι δ : Type) where
  /-- the value of an integer literal -/
  integer : Int → Option ι
  /-- the value of a number with a fraction or an exponent -/
  number : Text → Option δ
  /-- the code unit of what stands behind `\u` -/
  quad : Text → CodeUnit → Prop

/-! ## The grammar -/

def Blank (w : Text) : Prop := ∀ c ∈ w, isBlank c

def Digits (ds : Text) : Prop := ∀ d ∈ ds, isDigitUnit d

def Minus (m : Text) : Prop := m = [] ∨ m = [unit '-']

inductive Whole : Text → Prop
  | zero : Whole [unit '0']
  | digits {d : CodeUnit} {ds : Text} (hd : isDigitUnit d) (hne : d ≠ unit '0') (hds : Digits ds) : Whole (d :: ds)

inductive Fraction : Text → Prop
  | absent : Fraction []
  | digits {d : CodeUnit} {ds : Text} (h : Digits (d :: ds)) : Fraction (unit '.' :: d :: ds)

inductive Exponent : Text → Prop
  | absent : Exponent []
  | digits {e d : CodeUnit} {sign ds : Text} (he : e = unit 'e' ∨ e = unit 'E')
      (hsign : sign = [] ∨ sign = [unit '+'] ∨ sign = [unit '-']) (h : Digits (d :: ds)) :
      Exponent (e :: (sign ++ d :: ds))

/-- The integer of a sign and a whole part. -/
def signed (m w : Text) : Int := if m = [] then decimal w else -decimal w

/-- An element of an array with the blanks around it. -/
structure Element (ι δ : Type) where
  before : Text
  text : Text
  value : Tree ι δ
  after : Text

variable {ι δ : Type}

def Element.whole (e : Element ι δ) : Text := e.before ++ e.text ++ e.after

def Element.Spaced (e : Element ι δ) : Prop := Blank e.before ∧ Blank e.after

/-- A member of an object with the blanks around its key and its value. -/
structure Member (ι δ : Type) where
  before : Text
  name : Text
  key : Text
  colon : Text
  element : Element ι δ

def Member.whole (m : Member ι δ) : Text :=
  m.before ++ unit '"' :: (m.name ++ unit '"' :: (m.colon ++ unit ':' :: m.element.whole))

def Member.Spaced (m : Member ι δ) : Prop := Blank m.before ∧ Blank m.colon ∧ m.element.Spaced

def Member.item (m : Member ι δ) : Text × Tree ι δ := (m.key, m.element.value)

/-- The texts with commas between them. -/
def joined (ts : List Text) : Text := [unit ','].intercalate ts

section
variable (quad : Text → CodeUnit → Prop)

inductive Escape : Text → CodeUnit → Prop
  | short {e c : CodeUnit} (h : (e, c) ∈ escapes) : Escape [unit '\\', e] c
  | quad {h : Text} {c : CodeUnit} (hquad : quad h c) : Escape (unit '\\' :: unit 'u' :: h) c

/-- What stands between quotes, and the string it is. -/
inductive Chars : Text → Text → Prop
  | nil : Chars [] []
  | plain {c : CodeUnit} {t s : Text} (hquote : c ≠ unit '"') (hback : c ≠ unit '\\') (hc : 32 ≤ c)
      (h : Chars t s) : Chars (c :: t) (c :: s)
  | escape {e t s : Text} {c : CodeUnit} (he : Escape quad e c) (h : Chars t s) : Chars (e ++ t) (c :: s)

end

section
variable (reading : Reading ι δ)

/-- **A JSON value** without the blanks around it. -/
inductive Value : Text → Tree ι δ → Prop
  | null : Value (ascii "null") .null
  | true : Value (ascii "true") (.boolean Bool.true)
  | false : Value (ascii "false") (.boolean Bool.false)
  | integer {m w : Text} {i : ι} (hm : Minus m) (hw : Whole w) (h : reading.integer (signed m w) = some i) :
      Value (m ++ w) (.integer i)
  | number {m w f e : Text} {d : δ} (hm : Minus m) (hw : Whole w) (hf : Fraction f) (he : Exponent e)
      (hne : f ++ e ≠ []) (h : reading.number (m ++ w ++ f ++ e) = some d) : Value (m ++ w ++ f ++ e) (.number d)
  | string {t s : Text} (h : Chars reading.quad t s) : Value (unit '"' :: (t ++ [unit '"'])) (.string s)
  | emptyArray {w : Text} (hw : Blank w) : Value (unit '[' :: (w ++ [unit ']'])) (.array [])
  | array {es : List (Element ι δ)} (hne : es ≠ []) (hspaced : ∀ e ∈ es, e.Spaced)
      (h : ∀ e ∈ es, Value e.text e.value) :
      Value (unit '[' :: (joined (es.map Element.whole) ++ [unit ']'])) (.array (es.map Element.value))
  | emptyObject {w : Text} (hw : Blank w) : Value (unit '{' :: (w ++ [unit '}'])) (.object [])
  | object {ms : List (Member ι δ)} (hne : ms ≠ []) (hspaced : ∀ m ∈ ms, m.Spaced)
      (hnames : ∀ m ∈ ms, Chars reading.quad m.name m.key) (hkeys : (ms.map Member.key).Nodup)
      (h : ∀ m ∈ ms, Value m.element.text m.element.value) :
      Value (unit '{' :: (joined (ms.map Member.whole) ++ [unit '}'])) (.object (ms.map Member.item))

/-- A JSON text: a value with blanks around it. -/
def Json (s : Text) (v : Tree ι δ) : Prop := ∃ w t w', Blank w ∧ Value reading t v ∧ Blank w' ∧ s = w ++ t ++ w'

end

/-! ## Joined texts -/

theorem joined_cons (t : Text) {ts : List Text} (h : ts ≠ []) : joined (t :: ts) = t ++ unit ',' :: joined ts := by
  cases ts with
  | nil => exact absurd rfl h
  | cons t' ts => simp [joined, List.intercalate]

theorem joined_singleton (t : Text) : joined [t] = t := by simp [joined, List.intercalate]

theorem joined_append (w t : Text) (ts : List Text) : joined ((w ++ t) :: ts) = w ++ joined (t :: ts) := by
  cases ts with
  | nil => simp [joined_singleton]
  | cons t' ts => simp [joined_cons]

theorem blank_append {w w' : Text} (hw : Blank w) (hw' : Blank w') : Blank (w ++ w') := fun c hc =>
  (List.mem_append.mp hc).elim (hw c) (hw' c)

/-! ## NULs -/

theorem nul_not_mem_joined {ts : List Text} : 0 ∉ joined ts ↔ ∀ t ∈ ts, 0 ∉ t := by
  induction ts with
  | nil => simp [joined, List.intercalate]
  | cons t ts ih =>
    cases ts with
    | nil => simp [joined_singleton]
    | cons t' ts =>
      have hcomma : (0 : CodeUnit) ≠ unit ',' := by decide
      rw [joined_cons _ (by simp), List.forall_mem_cons, ← ih]
      simp [hcomma]

theorem nul_not_mem_of_all {p : CodeUnit → Bool} {t : Text} (h : ∀ c ∈ t, p c) (hp : p 0 = false) : 0 ∉ t := by
  intro hmem
  rw [h 0 hmem] at hp
  cases hp

theorem Blank.nul_not_mem {w : Text} (h : Blank w) : 0 ∉ w := nul_not_mem_of_all h (by decide)

theorem Digits.nul_not_mem {ds : Text} (h : Digits ds) : 0 ∉ ds := nul_not_mem_of_all h (by decide)

theorem nul_not_mem_number {m w f e : Text} (hm : Minus m) (hw : Whole w) (hf : Fraction f) (he : Exponent e) :
    0 ∉ m ++ w ++ f ++ e := by
  have hminus : 0 ∉ m := by rcases hm with rfl | rfl <;> decide
  have hwhole : 0 ∉ w := by
    cases hw with
    | zero => decide
    | @digits d ds hd hne hds =>
      have hall : Digits (d :: ds) := by simpa [Digits] using ⟨hd, hds⟩
      exact hall.nul_not_mem
  have hfraction : 0 ∉ f := by
    cases hf with
    | absent => exact List.not_mem_nil
    | digits hds => simpa using ⟨by decide, by simpa using hds.nul_not_mem⟩
  have hexponent : 0 ∉ e := by
    cases he with
    | absent => exact List.not_mem_nil
    | @digits e d sign ds hletter hsign hds =>
      have hletter' : 0 ≠ e := by rcases hletter with rfl | rfl <;> decide
      have hsign' : 0 ∉ sign := by rcases hsign with rfl | rfl | rfl <;> decide
      simpa using ⟨hletter', hsign', by simpa using hds.nul_not_mem⟩
  simp only [List.mem_append, not_or]
  exact ⟨⟨⟨hminus, hwhole⟩, hfraction⟩, hexponent⟩

section
variable {quad quad' : Text → CodeUnit → Prop}

theorem nul_not_mem_escape {e : Text} {c : CodeUnit} (hquad : ∀ h c, quad h c → 0 ∉ h) (h : Escape quad e c) :
    0 ∉ e := by
  cases h with
  | @short x c hmem =>
    have hescapes : escapes.all (fun p => decide (0 ≠ p.1)) = true := by decide
    have hx : 0 ≠ x := of_decide_eq_true (List.all_eq_true.mp hescapes _ hmem)
    simpa using ⟨by decide, hx⟩
  | quad h => simpa using ⟨by decide, by decide, hquad _ _ h⟩

theorem nul_not_mem_chars {t s : Text} (hquad : ∀ h c, quad h c → 0 ∉ h) (h : Chars quad t s) : 0 ∉ t := by
  induction h with
  | nil => exact List.not_mem_nil
  | plain hquote hback hc h ih =>
    rw [List.mem_cons, not_or]
    refine ⟨?_, ih⟩
    rintro rfl
    exact absurd hc (by decide)
  | escape he h ih => simpa using ⟨nul_not_mem_escape hquad he, ih⟩

/-- Without a NUL only the quads without one matter. -/
theorem Chars.transfer {t s : Text} (h : Chars quad t s) (hquad : ∀ h c, 0 ∉ h → quad h c → quad' h c) (ht : 0 ∉ t) :
    Chars quad' t s := by
  induction h with
  | nil => exact .nil
  | plain hquote hback hc h ih => exact .plain hquote hback hc (ih fun hmem => ht (List.mem_cons_of_mem _ hmem))
  | escape he h ih =>
    simp only [List.mem_append, not_or] at ht
    refine .escape ?_ (ih ht.2)
    cases he with
    | short hmem => exact .short hmem
    | quad h =>
      simp only [List.mem_cons, not_or] at ht
      exact .quad (hquad _ _ ht.1.2.2 h)

end

section
variable {reading : Reading ι δ}

/-- Where no quad has a NUL, no JSON text has. -/
theorem Value.nul_not_mem {t : Text} {v : Tree ι δ} (hquad : ∀ h c, reading.quad h c → 0 ∉ h)
    (h : Value reading t v) : 0 ∉ t := by
  induction h with
  | null => decide
  | true => decide
  | false => decide
  | integer hm hw h => simpa using nul_not_mem_number hm hw .absent .absent
  | number hm hw hf he hne h => exact nul_not_mem_number hm hw hf he
  | string hchars => simpa using ⟨by decide, nul_not_mem_chars hquad hchars, by decide⟩
  | emptyArray hw => simpa using ⟨by decide, hw.nul_not_mem, by decide⟩
  | @array es hne hspaced h ih =>
    have hjoined : 0 ∉ joined (es.map Element.whole) := by
      rw [nul_not_mem_joined, List.forall_mem_map]
      intro e he
      simp only [Element.whole, List.mem_append, not_or]
      exact ⟨⟨(hspaced e he).1.nul_not_mem, ih e he⟩, (hspaced e he).2.nul_not_mem⟩
    simpa using ⟨by decide, hjoined, by decide⟩
  | emptyObject hw => simpa using ⟨by decide, hw.nul_not_mem, by decide⟩
  | @object ms hne hspaced hnames hkeys h ih =>
    have hjoined : 0 ∉ joined (ms.map Member.whole) := by
      rw [nul_not_mem_joined, List.forall_mem_map]
      intro m hm
      obtain ⟨hbefore, hcolon, hspace⟩ := hspaced m hm
      simp only [Member.whole, Element.whole, List.mem_append, List.mem_cons, not_or]
      exact ⟨hbefore.nul_not_mem, by decide, nul_not_mem_chars hquad (hnames m hm), by decide, hcolon.nul_not_mem,
        by decide, ⟨hspace.1.nul_not_mem, ih m hm⟩, hspace.2.nul_not_mem⟩
    simpa using ⟨by decide, hjoined, by decide⟩

/-- Without a NUL only the quads without one matter. -/
theorem Value.transfer {t : Text} {v : Tree ι δ} {quad : Text → CodeUnit → Prop} (h : Value reading t v)
    (hquad : ∀ h c, 0 ∉ h → reading.quad h c → quad h c) (ht : 0 ∉ t) : Value { reading with quad := quad } t v := by
  induction h with
  | null => exact .null
  | true => exact .true
  | false => exact .false
  | integer hm hw h => exact .integer hm hw h
  | number hm hw hf he hne h => exact .number hm hw hf he hne h
  | string hchars =>
    simp only [List.mem_cons, List.mem_append, not_or] at ht
    exact .string (hchars.transfer hquad ht.2.1)
  | emptyArray hw => exact .emptyArray hw
  | @array es hne hspaced h ih =>
    simp only [List.mem_cons, List.mem_append, not_or] at ht
    refine .array hne hspaced fun e he => ih e he ?_
    have hwhole := nul_not_mem_joined.mp ht.2.1 _ (List.mem_map_of_mem he)
    simp only [Element.whole, List.mem_append, not_or] at hwhole
    exact hwhole.1.2
  | emptyObject hw => exact .emptyObject hw
  | @object ms hne hspaced hnames hkeys h ih =>
    simp only [List.mem_cons, List.mem_append, not_or] at ht
    have hwhole : ∀ m ∈ ms, 0 ∉ m.name ∧ 0 ∉ m.element.text := by
      intro m hm
      have hmem := nul_not_mem_joined.mp ht.2.1 _ (List.mem_map_of_mem hm)
      simp only [Member.whole, Element.whole, List.mem_append, List.mem_cons, not_or] at hmem
      exact ⟨hmem.2.2.1, hmem.2.2.2.2.2.2.1.2⟩
    exact .object hne hspaced (fun m hm => (hnames m hm).transfer hquad (hwhole m hm).1) hkeys
      fun m hm => ih m hm (hwhole m hm).2

theorem Json.nul_not_mem {s : Text} {v : Tree ι δ} (hquad : ∀ h c, reading.quad h c → 0 ∉ h)
    (h : Json reading s v) : 0 ∉ s := by
  obtain ⟨w, t, w', hw, ht, hw', rfl⟩ := h
  simp only [List.mem_append, not_or]
  exact ⟨⟨hw.nul_not_mem, ht.nul_not_mem hquad⟩, hw'.nul_not_mem⟩

theorem Json.transfer {s : Text} {v : Tree ι δ} {quad : Text → CodeUnit → Prop} (h : Json reading s v)
    (hquad : ∀ h c, 0 ∉ h → reading.quad h c → quad h c) (hs : 0 ∉ s) : Json { reading with quad := quad } s v := by
  obtain ⟨w, t, w', hw, ht, hw', rfl⟩ := h
  simp only [List.mem_append, not_or] at hs
  exact ⟨w, t, w', hw, ht.transfer hquad hs.1.2, hw', rfl⟩

end

/-! ## Four digits, and fewer with NULs -/

section
variable {h : Text} {c : CodeUnit}

theorem Quad.nul_not_mem (hquad : Quad h c) : 0 ∉ h := nul_not_mem_of_all hquad.2.1 (by decide)

theorem Quad.padded (hquad : Quad h c) : PaddedQuad h c := by
  obtain ⟨hlength, hhex, hvalue⟩ := hquad
  exact ⟨h, 0, by simp, hlength, List.ne_nil_of_length_pos (by omega), hhex, hvalue⟩

theorem PaddedQuad.quad (hh : 0 ∉ h) (hquad : PaddedQuad h c) : Quad h c := by
  obtain ⟨ds, n, rfl, hlength, -, hhex, hvalue⟩ := hquad
  cases n with
  | zero => exact ⟨hlength, by simpa using hhex, by simpa using hvalue⟩
  | succ n => exact absurd (by simp) hh

end

end JsonGrammar
