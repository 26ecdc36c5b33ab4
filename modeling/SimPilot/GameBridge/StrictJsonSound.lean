import Mathlib.Data.List.TakeWhile
import SimPilot.Data.Except
import SimPilot.GameBridge.StrictJson
/-!
# What the strict parser reads

Whatever the parser reads is derived in the grammar, with `\u` read as `ushort.TryParse` reads what
stands behind it (`bridge`), and it fails with a `FormatException` or not at all.
-/

namespace SimPilot.GameBridge.StrictJson
open JsonGrammar

/-- The grammar with the numbers of the bridge. -/
def reading {δ : Type} (double : Text → Option δ) (quad : Text → CodeUnit → Prop) : Reading Long δ where
  integer := long?
  number := double
  quad := quad

/-- RFC 8259. -/
abbrev strict {δ : Type} (double : Text → Option δ) : Reading Long δ := reading double Quad

/-- RFC 8259 but for NULs in place of the last digits behind `\u`. -/
abbrev bridge {δ : Type} (double : Text → Option δ) : Reading Long δ := reading double PaddedQuad

def IsFormat (e : Fault) : Prop := ∃ message, e = .format message

@[simp] theorem formatException_meets {α : Type} {P : α → Prop} (message : String) :
    Except.Meets (formatException message) P IsFormat := ⟨_, rfl⟩

@[simp] theorem formatExceptionAt_meets {α : Type} {P : α → Prop} (message : String) (offset : Nat) :
    Except.Meets (formatExceptionAt message offset) P IsFormat := ⟨_, rfl⟩

/-! ## The text that is left -/

section
variable {s : Text} {c : CodeUnit}

theorem blank_skipWhitespace (s : Text) : ∃ w, Blank w ∧ s = w ++ skipWhitespace s :=
  ⟨s.takeWhile isBlank, fun _ h => List.mem_takeWhile_imp h, List.takeWhile_append_dropWhile.symm⟩

theorem digits_skipDigits (s : Text) : ∃ ds, Digits ds ∧ s = ds ++ skipDigits s :=
  ⟨s.takeWhile isDigitUnit, fun _ h => List.mem_takeWhile_imp h, List.takeWhile_append_dropWhile.symm⟩

theorem length_skipWhitespace_le (s : Text) : (skipWhitespace s).length ≤ s.length :=
  (List.dropWhile_suffix isBlank).length_le

theorem standsAt_iff : standsAt s c = true ↔ ∃ r, s = c :: r := by
  cases s with
  | nil => simp [standsAt]
  | cons d s => simp [standsAt, eq_comm]

theorem atEnd_iff : atEnd s = true ↔ s = [] := List.isEmpty_iff

end

/-! ## Strings -/

theorem lookup_escapes {e c : CodeUnit} (h : escapes.lookup e = some c) : (e, c) ∈ escapes := by
  obtain ⟨l₁, l₂, heq, -⟩ := List.lookup_eq_some_iff.mp h
  rw [heq]
  simp

theorem hexDigit_lt (d : CodeUnit) : (hexDigit? d).getD 0 < 16 := by
  have h0 : (unit '0').val = 48 := by decide
  have h9 : (unit '9').val = 57 := by decide
  have ha : (unit 'a').val = 97 := by decide
  have hf : (unit 'f').val = 102 := by decide
  have hA : (unit 'A').val = 65 := by decide
  have hF : (unit 'F').val = 70 := by decide
  unfold hexDigit? isDigitUnit digitValue
  simp only [Fin.le_def, Bool.and_eq_true, decide_eq_true_eq]
  split_ifs
  · rw [Option.getD_some]
    omega
  · rw [Option.getD_some]
    omega
  · rw [Option.getD_some]
    omega
  · exact Nat.zero_lt_succ _

theorem foldl_hexadecimal_lt (h : Text) (n : Nat) :
    h.foldl (fun n d => 16 * n + (hexDigit? d).getD 0) n < 16 ^ h.length * (n + 1) := by
  induction h generalizing n with
  | nil => simp
  | cons d h ih =>
    have hd := hexDigit_lt d
    calc h.foldl _ (16 * n + (hexDigit? d).getD 0)
        < 16 ^ h.length * (16 * n + (hexDigit? d).getD 0 + 1) := ih _
      _ ≤ 16 ^ h.length * (16 * (n + 1)) := Nat.mul_le_mul_left _ (by omega)
      _ = 16 ^ (d :: h).length * (n + 1) := by rw [List.length_cons, pow_succ, Nat.mul_assoc]

theorem hexadecimal_lt {h : Text} (hlength : h.length ≤ 4) : hexadecimal h < 65536 := by
  have hlt := foldl_hexadecimal_lt h 0
  have hpow : 16 ^ h.length ≤ 16 ^ 4 := Nat.pow_le_pow_right (by decide) hlength
  unfold hexadecimal
  omega

theorem paddedQuad_of_tryParseHex {h : Text} {c : CodeUnit} (hlength : h.length = 4) (hc : tryParseHex h = some c) :
    PaddedQuad h c := by
  unfold tryParseHex at hc
  simp only at hc
  split_ifs at hc with hcond
  obtain ⟨hne, hall⟩ := hcond
  have hsplit : h = h.takeWhile isHex ++ h.dropWhile isHex := List.takeWhile_append_dropWhile.symm
  have hnul : h.dropWhile isHex = List.replicate (h.dropWhile isHex).length 0 := by
    rw [List.eq_replicate_iff]
    exact ⟨rfl, by simpa using hall⟩
  have hhex : ∀ d ∈ h.takeWhile isHex, isHex d := fun d hd => List.mem_takeWhile_imp hd
  have hle : (h.takeWhile isHex).length ≤ 4 := hlength ▸ (List.takeWhile_prefix isHex).length_le
  refine ⟨h.takeWhile isHex, (h.dropWhile isHex).length, ?_, hlength, hne, hhex, ?_⟩
  · rw [← hnul]
    exact hsplit
  · rw [← Option.some.inj hc]
    exact Nat.mod_eq_of_lt (hexadecimal_lt hle)

/-- What is read between quotes, up to the quote behind it. -/
def ReadsChars (s before : Text) (read : Text × Text) : Prop :=
  ∃ t cs, Chars PaddedQuad t cs ∧ s = t ++ unit '"' :: read.2 ∧ read.1 = before ++ cs

theorem ReadsChars.plain {s before : Text} {read : Text × Text} {c : CodeUnit} (hquote : c ≠ unit '"')
    (hback : c ≠ unit '\\') (hc : 32 ≤ c) (h : ReadsChars s (before ++ [c]) read) :
    ReadsChars (c :: s) before read := by
  obtain ⟨t, cs, hchars, rfl, hread⟩ := h
  exact ⟨c :: t, c :: cs, .plain hquote hback hc hchars, rfl, by simpa using hread⟩

theorem ReadsChars.escape {s e before : Text} {read : Text × Text} {c : CodeUnit} (he : Escape PaddedQuad e c)
    (h : ReadsChars s (before ++ [c]) read) : ReadsChars (e ++ s) before read := by
  obtain ⟨t, cs, hchars, rfl, hread⟩ := h
  exact ⟨e ++ t, c :: cs, .escape he hchars, by simp, by simpa using hread⟩

theorem readChars_meets (s result : Text) : (readChars s result).Meets (ReadsChars s result) IsFormat := by
  fun_induction readChars s result with
  | case2 s result => exact ⟨[], [], .nil, rfl, (List.append_nil result).symm⟩
  | case4 c s result hquote hc hback ih => exact ih.mono fun _ => .plain hquote hback (not_lt.mp hc)
  | case6 c result hquote hc hback e s c' hlookup ih =>
    obtain rfl := not_ne_iff.mp hback
    exact ih.mono fun _ => .escape (.short (lookup_escapes hlookup))
  | case7 c result hquote hc hback h₀ h₁ h₂ h₃ s c' hquad hlookup ih =>
    obtain rfl := not_ne_iff.mp hback
    exact ih.mono fun _ => .escape (.quad (paddedQuad_of_tryParseHex rfl hquad))
  | _ => simp

/-- What a reader of values reads: blanks, a value and what is left behind it. -/
def ReadsString (s : Text) (read : Text × Text) : Prop :=
  ∃ t, Chars PaddedQuad t read.1 ∧ s = unit '"' :: (t ++ unit '"' :: read.2)

theorem readString_meets {s : Text} (h : standsAt s (unit '"') = true) :
    (readString s).Meets (ReadsString s) IsFormat := by
  obtain ⟨s, rfl⟩ := standsAt_iff.mp h
  exact (readChars_meets s []).mono fun read ⟨t, cs, hchars, hs, hread⟩ => ⟨t, hread ▸ hchars, by rw [hs]⟩

/-! ## Numbers -/

/-- A part of a number that satisfies a rule, and what is left behind it. -/
def Reads (rule : Text → Prop) (s rest : Text) : Prop := ∃ t, rule t ∧ s = t ++ rest

theorem digits_of_length_ne {s : Text} (h : s.length ≠ (skipDigits s).length) :
    ∃ d ds, Digits (d :: ds) ∧ s = d :: ds ++ skipDigits s := by
  obtain ⟨ds, hds, hs⟩ := digits_skipDigits s
  cases ds with
  | nil => exact absurd (congrArg List.length hs) h
  | cons d ds => exact ⟨d, ds, hds, hs⟩

theorem readWhole_meets (s : Text) : (readWhole s).Meets (Reads Whole s) IsFormat := by
  cases s with
  | nil => exact formatException_meets _
  | cons c s =>
    show Except.Meets (if c = unit '0' then _ else _) _ _
    split_ifs with hzero hrange
    · exact ⟨[c], hzero ▸ .zero, rfl⟩
    · exact formatException_meets _
    · have hdigit : isDigitUnit c = true := by
        have h0 : (unit '0').val = 48 := by decide
        have h1 : (unit '1').val = 49 := by decide
        simp only [isDigitUnit, Bool.and_eq_true, decide_eq_true_eq, Fin.le_def, Fin.lt_def, not_or, not_lt] at hrange ⊢
        omega
      obtain ⟨ds, hds, hs⟩ := digits_skipDigits s
      refine ⟨c :: ds, .digits hdigit hzero hds, ?_⟩
      rw [skipDigits, List.dropWhile_cons_of_pos hdigit]
      exact congrArg (c :: ·) hs

theorem readFraction_meets (s : Text) : (readFraction s).Meets (Reads Fraction s) IsFormat := by
  unfold readFraction
  simp only
  split_ifs with hdot hlength
  · exact formatException_meets _
  · obtain ⟨s, rfl⟩ := standsAt_iff.mp hdot
    obtain ⟨d, ds, hds, hs⟩ := digits_of_length_ne hlength
    exact ⟨_, .digits hds, congrArg (unit '.' :: ·) hs⟩
  · exact ⟨[], .absent, rfl⟩

/-- The sign of an exponent. -/
theorem exists_exponent_sign (s : Text) :
    ∃ sign, (sign = [] ∨ sign = [unit '+'] ∨ sign = [unit '-']) ∧
      s = sign ++ if standsAt s (unit '+') || standsAt s (unit '-') then s.tail else s := by
  split_ifs with h
  · rcases Bool.or_eq_true .. ▸ h with h | h
    · obtain ⟨r, rfl⟩ := standsAt_iff.mp h
      exact ⟨_, .inr (.inl rfl), rfl⟩
    · obtain ⟨r, rfl⟩ := standsAt_iff.mp h
      exact ⟨_, .inr (.inr rfl), rfl⟩
  · exact ⟨[], .inl rfl, rfl⟩

theorem readExponent_meets (s : Text) : (readExponent s).Meets (Reads Exponent s) IsFormat := by
  unfold readExponent
  simp only
  by_cases he : (standsAt s (unit 'e') || standsAt s (unit 'E')) = true
  · rw [if_pos he]
    obtain ⟨e, s, hletter, rfl⟩ : ∃ e r, (e = unit 'e' ∨ e = unit 'E') ∧ s = e :: r := by
      rcases Bool.or_eq_true .. ▸ he with he | he
      · obtain ⟨r, rfl⟩ := standsAt_iff.mp he
        exact ⟨_, r, .inl rfl, rfl⟩
      · obtain ⟨r, rfl⟩ := standsAt_iff.mp he
        exact ⟨_, r, .inr rfl, rfl⟩
    obtain ⟨sign, hsign, hs⟩ := exists_exponent_sign s
    rw [List.tail_cons]
    generalize (if standsAt s (unit '+') || standsAt s (unit '-') then s.tail else s) = digits at hs ⊢
    split_ifs with hlength
    · exact formatException_meets _
    · obtain ⟨d, ds, hds, hdigits⟩ := digits_of_length_ne hlength
      refine ⟨_, .digits hletter hsign hds, ?_⟩
      conv_lhs => rw [hs, hdigits]
      simp
  · rw [if_neg he]
    exact ⟨[], .absent, rfl⟩

theorem substring_append (t s : Text) : substring (t ++ s) s = t := by
  rw [substring, List.length_append, Nat.add_sub_cancel, List.take_left]

/-- A whole part starts with a digit. -/
theorem exists_digit_of_whole {w : Text} (h : Whole w) : ∃ d ds, w = d :: ds ∧ isDigitUnit d = true ∧ Digits ds := by
  cases h with
  | zero => exact ⟨_, [], rfl, by decide, by simp [Digits]⟩
  | digits hd hne hds => exact ⟨_, _, rfl, hd, hds⟩

theorem tryParseLong_eq {m w : Text} (hm : Minus m) (hw : Whole w) : tryParseLong (m ++ w) = long? (signed m w) := by
  obtain ⟨d, ds, rfl, hd, -⟩ := exists_digit_of_whole hw
  rcases hm with rfl | rfl
  · have hminus : standsAt (d :: ds) (unit '-') = false := by
      rw [Bool.eq_false_iff]
      intro hstands
      obtain ⟨r, hr⟩ := standsAt_iff.mp hstands
      rw [(List.cons.inj hr).1] at hd
      exact absurd hd (by decide)
    rw [List.nil_append, tryParseLong, hminus, signed, if_pos rfl]
    exact if_neg Bool.false_ne_true
  · have hminus : standsAt ([unit '-'] ++ d :: ds) (unit '-') = true := standsAt_iff.mpr ⟨_, rfl⟩
    rw [tryParseLong, hminus, if_pos rfl, signed, if_neg (List.cons_ne_nil _ _)]
    rfl

section
variable {δ : Type} {double : Text → Option δ} {size : Nat}

/-- A value without blanks in front of it, and what is left behind it. -/
def ReadsValue (double : Text → Option δ) (s : Text) (read : Tree Long δ × Text) : Prop :=
  ∃ t, Value (bridge double) t read.1 ∧ s = t ++ read.2

theorem readInteger_meets {c : CodeUnit} {s : Text} :
    (readInteger double (c :: s)).Meets (ReadsValue double (c :: s)) IsFormat := by
  obtain ⟨m, hm, hstart⟩ : ∃ m, Minus m ∧ c :: s = m ++ if c = unit '-' then (c :: s).tail else c :: s := by
    split_ifs with hminus
    · exact ⟨[c], .inr (hminus ▸ rfl), rfl⟩
    · exact ⟨[], .inl rfl, rfl⟩
  show Except.Meets (readWhole _ >>= _) _ _
  refine (readWhole_meets _).bind fun integerEnd ⟨w, hw, hwhole⟩ => ?_
  refine (readFraction_meets _).bind fun fractionEnd ⟨f, hf, hfraction⟩ => ?_
  refine (readExponent_meets _).bind fun rest ⟨e, he, hexponent⟩ => ?_
  have hall : c :: s = (m ++ w ++ f ++ e) ++ rest := by
    rw [hstart, hwhole, hfraction, hexponent]
    simp
  have hend : integerEnd = f ++ e ++ rest := by
    rw [hfraction, hexponent, List.append_assoc]
  simp only [hall, substring_append]
  split_ifs with hlength
  · have hne : f ++ e ≠ [] := by
      intro hnil
      rw [hend, hnil] at hlength
      exact hlength rfl
    cases hnumber : double (m ++ w ++ f ++ e) with
    | none => exact formatException_meets _
    | some number => exact ⟨_, .number hm hw hf he hne hnumber, rfl⟩
  · have hnil : f ++ e = [] := by
      rw [hend, List.length_append] at hlength
      exact List.length_eq_zero_iff.mp (by omega)
    rw [List.append_assoc _ f e, hnil, List.append_nil, tryParseLong_eq hm hw]
    cases hvalue : long? (signed m w) with
    | none => exact formatException_meets _
    | some value => exact ⟨_, .integer hm hw hvalue, rfl⟩

theorem readLiteral_meets {literal : String} {value : Tree Long δ} {s : Text}
    (h : Value (bridge double) (ascii literal) value) :
    (readLiteral size literal value s).Meets (ReadsValue double s) IsFormat := by
  unfold readLiteral
  split_ifs with hcond
  · exact formatExceptionAt_meets _ _
  · refine ⟨_, h, ?_⟩
    have htake : s.take (ascii literal).length = ascii literal := by
      by_contra hne
      exact hcond (.inr hne)
    conv_lhs => rw [← List.take_append_drop (ascii literal).length s, htake]

/-! ## Arrays and objects -/

/-- What the loop of an array reads: elements with commas between them, up to the bracket. -/
def ReadsElements (double : Text → Option δ) (s : Text) (before : List (Tree Long δ)) (read : Tree Long δ × Text) :
    Prop :=
  ∃ es : List (Element Long δ), es ≠ [] ∧ (∀ e ∈ es, e.Spaced) ∧ (∀ e ∈ es, Value (bridge double) e.text e.value) ∧
    s = joined (es.map Element.whole) ++ unit ']' :: read.2 ∧ read.1 = .array (before ++ es.map Element.value)

/-- What the loop of an object reads: members with commas between them, up to the brace. -/
def ReadsMembers (double : Text → Option δ) (s : Text) (before : List (Text × Tree Long δ))
    (read : Tree Long δ × Text) : Prop :=
  ∃ ms : List (Member Long δ), ms ≠ [] ∧ (∀ m ∈ ms, m.Spaced) ∧ (∀ m ∈ ms, Chars PaddedQuad m.name m.key) ∧
    (before.map Prod.fst ++ ms.map Member.key).Nodup ∧
    (∀ m ∈ ms, Value (bridge double) m.element.text m.element.value) ∧
    s = joined (ms.map Member.whole) ++ unit '}' :: read.2 ∧ read.1 = .object (before ++ ms.map Member.item)

theorem ReadsElements.last {s : Text} {before : List (Tree Long δ)} {e : Element Long δ} {r : Text} (hspaced : e.Spaced)
    (h : Value (bridge double) e.text e.value) (hs : s = e.whole ++ unit ']' :: r) :
    ReadsElements double s before (.array (before ++ [e.value]), r) :=
  ⟨[e], by simp, by simpa using hspaced, by simpa using h, by simpa [joined_singleton] using hs, rfl⟩

theorem ReadsElements.cons {s r : Text} {before : List (Tree Long δ)} {e : Element Long δ} {read : Tree Long δ × Text}
    (hspaced : e.Spaced) (h : Value (bridge double) e.text e.value) (hs : s = e.whole ++ unit ',' :: r)
    (hread : ReadsElements double r (before ++ [e.value]) read) : ReadsElements double s before read := by
  obtain ⟨es, hne, hspaces, hvalues, rfl, hread⟩ := hread
  refine ⟨e :: es, by simp, by simpa using ⟨hspaced, hspaces⟩, by simpa using ⟨h, hvalues⟩, ?_, by simpa using hread⟩
  rw [List.map_cons, joined_cons _ (by simpa using hne), hs]
  simp

theorem ReadsMembers.last {s r : Text} {before : List (Text × Tree Long δ)} {m : Member Long δ} (hspaced : m.Spaced)
    (hname : Chars PaddedQuad m.name m.key) (hkeys : (before.map Prod.fst ++ [m.key]).Nodup)
    (h : Value (bridge double) m.element.text m.element.value) (hs : s = m.whole ++ unit '}' :: r) :
    ReadsMembers double s before (.object (before ++ [m.item]), r) :=
  ⟨[m], by simp, by simpa using hspaced, by simpa using hname, by simpa using hkeys, by simpa using h,
    by simpa [joined_singleton] using hs, rfl⟩

theorem ReadsMembers.cons {s r : Text} {before : List (Text × Tree Long δ)} {m : Member Long δ}
    {read : Tree Long δ × Text} (hspaced : m.Spaced) (hname : Chars PaddedQuad m.name m.key)
    (h : Value (bridge double) m.element.text m.element.value) (hs : s = m.whole ++ unit ',' :: r)
    (hread : ReadsMembers double r (before ++ [m.item]) read) : ReadsMembers double s before read := by
  obtain ⟨ms, hne, hspaces, hnames, hkeys, hvalues, rfl, hread⟩ := hread
  refine ⟨m :: ms, by simp, by simpa using ⟨hspaced, hspaces⟩, by simpa using ⟨hname, hnames⟩, ?_,
    by simpa using ⟨h, hvalues⟩, ?_, by simpa using hread⟩
  · simpa [Member.item] using hkeys
  · rw [List.map_cons, joined_cons _ (by simpa using hne), hs]
    simp

/-- Blanks in front belong to the first element. -/
theorem ReadsElements.blank {s w : Text} {before : List (Tree Long δ)} {read : Tree Long δ × Text} (hw : Blank w)
    (h : ReadsElements double s before read) : ReadsElements double (w ++ s) before read := by
  obtain ⟨es, hne, hspaced, hvalues, rfl, hread⟩ := h
  obtain ⟨e, es, rfl⟩ := List.exists_cons_of_ne_nil hne
  simp only [List.forall_mem_cons] at hspaced hvalues
  refine ⟨{ e with before := w ++ e.before } :: es, by simp, ?_, by simpa using hvalues, ?_, hread⟩
  · simp only [List.forall_mem_cons]
    exact ⟨⟨blank_append hw hspaced.1.1, hspaced.1.2⟩, hspaced.2⟩
  · rw [List.map_cons, List.map_cons, ← List.append_assoc, ← joined_append]
    simp [Element.whole]

theorem ReadsMembers.blank {s w : Text} {before : List (Text × Tree Long δ)} {read : Tree Long δ × Text} (hw : Blank w)
    (h : ReadsMembers double s before read) : ReadsMembers double (w ++ s) before read := by
  obtain ⟨ms, hne, hspaced, hnames, hkeys, hvalues, rfl, hread⟩ := h
  obtain ⟨m, ms, rfl⟩ := List.exists_cons_of_ne_nil hne
  simp only [List.forall_mem_cons] at hspaced hnames hvalues
  refine ⟨{ m with before := w ++ m.before } :: ms, by simp, ?_, by simpa using hnames, hkeys, by simpa using hvalues,
    ?_, hread⟩
  · simp only [List.forall_mem_cons]
    exact ⟨⟨blank_append hw hspaced.1.1, hspaced.1.2⟩, hspaced.2⟩
  · rw [List.map_cons, List.map_cons, ← List.append_assoc, ← joined_append]
    simp [Member.whole]

theorem readArray_meets {loop : Text → Except Fault (Tree Long δ × Text)} {s : Text}
    (hloop : ∀ r, r.length ≤ s.length → (loop r).Meets (ReadsElements double r []) IsFormat) :
    (readArray loop (unit '[' :: s)).Meets (ReadsValue double (unit '[' :: s)) IsFormat := by
  obtain ⟨w, hw, hs⟩ := blank_skipWhitespace s
  show Except.Meets (if standsAt (skipWhitespace s) (unit ']') then _ else _) _ _
  by_cases hclose : standsAt (skipWhitespace s) (unit ']') = true
  · rw [if_pos hclose]
    obtain ⟨r, hr⟩ := standsAt_iff.mp hclose
    refine ⟨_, .emptyArray hw, ?_⟩
    conv_lhs => rw [hs, hr]
    simp [hr]
  · rw [if_neg hclose]
    refine (hloop _ (length_skipWhitespace_le s)).mono fun read hread => ?_
    obtain ⟨es, hne, hspaced, hvalues, hr, hread⟩ := hread.blank hw
    refine ⟨_, by rw [hread]; exact .array hne hspaced hvalues, ?_⟩
    rw [hs, hr]
    simp

theorem readObject_meets {loop : Text → Except Fault (Tree Long δ × Text)} {s : Text}
    (hloop : ∀ r, r.length ≤ s.length → (loop r).Meets (ReadsMembers double r []) IsFormat) :
    (readObject loop (unit '{' :: s)).Meets (ReadsValue double (unit '{' :: s)) IsFormat := by
  obtain ⟨w, hw, hs⟩ := blank_skipWhitespace s
  show Except.Meets (if standsAt (skipWhitespace s) (unit '}') then _ else _) _ _
  by_cases hclose : standsAt (skipWhitespace s) (unit '}') = true
  · rw [if_pos hclose]
    obtain ⟨r, hr⟩ := standsAt_iff.mp hclose
    refine ⟨_, .emptyObject hw, ?_⟩
    conv_lhs => rw [hs, hr]
    simp [hr]
  · rw [if_neg hclose]
    refine (hloop _ (length_skipWhitespace_le s)).mono fun read hread => ?_
    obtain ⟨ms, hne, hspaced, hnames, hkeys, hvalues, hr, hread⟩ := hread.blank hw
    refine ⟨_, by rw [hread]; exact .object hne hspaced hnames (by simpa using hkeys) hvalues, ?_⟩
    rw [hs, hr]
    simp

/-! ## The recursion -/

/-- What is read behind the blanks. -/
def ReadsBlankValue (double : Text → Option δ) (s : Text) (read : Tree Long δ × Text) : Prop :=
  ∃ w, Blank w ∧ ∃ t, Value (bridge double) t read.1 ∧ s = w ++ t ++ read.2

theorem ReadsString.length_lt {s : Text} {read : Text × Text} (h : ReadsString s read) : read.2.length < s.length := by
  obtain ⟨t, -, rfl⟩ := h
  simp only [List.length_cons, List.length_append]
  omega

theorem ReadsBlankValue.length_le {s : Text} {read : Tree Long δ × Text} (h : ReadsBlankValue double s read) :
    read.2.length ≤ s.length := by
  obtain ⟨w, -, t, -, rfl⟩ := h
  simp only [List.length_append]
  omega

/-- One call of `readValue`, from the loops it calls. -/
theorem readValue_step {fuel : Nat} {s : Text}
    (helements : ∀ r, r.length < s.length →
      (readElements double size fuel [] r).Meets (ReadsElements double r []) IsFormat)
    (hmembers : ∀ r, r.length < s.length →
      (readMembers double size fuel [] r).Meets (ReadsMembers double r []) IsFormat) :
    (readValue double size (fuel + 1) s).Meets (ReadsBlankValue double s) IsFormat := by
  obtain ⟨w, hw, hs⟩ := blank_skipWhitespace s
  have hle := length_skipWhitespace_le s
  unfold readValue
  simp only
  generalize skipWhitespace s = s' at hs hle
  have hblank : ∀ x : Except Fault (Tree Long δ × Text), x.Meets (ReadsValue double s') IsFormat →
      x.Meets (ReadsBlankValue double s) IsFormat := fun x hx => hx.mono fun read ⟨t, ht, hread⟩ =>
    ⟨w, hw, t, ht, by rw [hs, hread, List.append_assoc]⟩
  cases s' with
  | nil => exact formatException_meets _
  | cons c r =>
    rw [List.length_cons] at hle
    apply hblank
    show Except.Meets (if c = unit 'n' then _ else _) _ _
    split_ifs with hn ht hf hquote harray hobject hminus hdigit
    · exact readLiteral_meets .null
    · exact readLiteral_meets .true
    · exact readLiteral_meets .false
    · refine (readString_meets (standsAt_iff.mpr ⟨r, by rw [hquote]⟩)).bind fun read ⟨t, hchars, hread⟩ => ?_
      exact ⟨_, .string hchars, by rw [hread]; simp⟩
    · rw [harray]
      exact readArray_meets fun r' hr' => helements r' (by omega)
    · rw [hobject]
      exact readObject_meets fun r' hr' => hmembers r' (by omega)
    · exact readInteger_meets
    · exact readInteger_meets
    · exact formatExceptionAt_meets _ _

/-- One turn of the loop of an array. -/
theorem readElements_step {fuel : Nat} {s : Text} {values : List (Tree Long δ)}
    (hvalue : (readValue double size fuel s).Meets (ReadsBlankValue double s) IsFormat)
    (hloop : ∀ values r, r.length < s.length →
      (readElements double size fuel values r).Meets (ReadsElements double r values) IsFormat) :
    (readElements double size (fuel + 1) values s).Meets (ReadsElements double s values) IsFormat := by
  unfold readElements
  refine hvalue.bind fun (value, s₁) hread => ?_
  have hle := hread.length_le
  obtain ⟨w, hw, t, ht, hs⟩ := hread
  obtain ⟨w', hw', hs₁⟩ := blank_skipWhitespace s₁
  have hle' := length_skipWhitespace_le s₁
  simp only at hs hle ⊢
  generalize skipWhitespace s₁ = s₂ at hs₁ hle'
  cases s₂ with
  | nil => exact formatException_meets _
  | cons c r =>
    rw [List.length_cons] at hle'
    let e : Element Long δ := ⟨w, t, value, w'⟩
    have hwhole : s = e.whole ++ c :: r := by
      rw [hs, hs₁]
      simp [e, Element.whole]
    show Except.Meets (if c = unit ']' then _ else _) _ _
    split_ifs with hclose hcomma
    · exact .last (e := e) ⟨hw, hw'⟩ ht (hclose ▸ hwhole)
    · exact formatException_meets _
    · rw [not_ne_iff] at hcomma
      exact (hloop (values ++ [value]) r (by omega)).mono fun read hread =>
        .cons (e := e) ⟨hw, hw'⟩ ht (hcomma ▸ hwhole) hread

theorem not_mem_keys {values : Assoc Text (Tree Long δ)} {key : Text} (h : ¬ values.contains key = true) :
    key ∉ values.map Prod.fst :=
  Assoc.get_eq_none (by simpa [Assoc.contains] using h)

/-- One turn of the loop of an object. -/
theorem readMembers_step {fuel : Nat} {s : Text} {values : Assoc Text (Tree Long δ)}
    (hkeys : (values.map Prod.fst).Nodup)
    (hvalue : ∀ r, r.length < s.length → (readValue double size fuel r).Meets (ReadsBlankValue double r) IsFormat)
    (hloop : ∀ (values : Assoc Text (Tree Long δ)) r, (values.map Prod.fst).Nodup → r.length < s.length →
      (readMembers double size fuel values r).Meets (ReadsMembers double r values) IsFormat) :
    (readMembers double size (fuel + 1) values s).Meets (ReadsMembers double s values) IsFormat := by
  obtain ⟨w, hw, hs⟩ := blank_skipWhitespace s
  have hle := length_skipWhitespace_le s
  unfold readMembers
  simp only
  generalize skipWhitespace s = s₁ at hs hle
  by_cases hquote : standsAt s₁ (unit '"') = true
  case neg =>
    rw [if_pos (by simpa using hquote)]
    exact formatException_meets _
  rw [if_neg (by simpa using hquote)]
  refine (readString_meets hquote).bind fun (key, s₂) hstring => ?_
  have hlt := hstring.length_lt
  obtain ⟨name, hname, hs₁⟩ := hstring
  obtain ⟨w', hw', hs₂⟩ := blank_skipWhitespace s₂
  have hle' := length_skipWhitespace_le s₂
  simp only at hname hs₁ hlt ⊢
  generalize skipWhitespace s₂ = s₃ at hs₂ hle'
  by_cases hcolon : standsAt s₃ (unit ':') = true
  case neg =>
    rw [if_pos (by simpa using hcolon)]
    exact formatException_meets _
  rw [if_neg (by simpa using hcolon)]
  obtain ⟨s₃, rfl⟩ := standsAt_iff.mp hcolon
  rw [List.length_cons] at hle'
  refine (hvalue s₃ (by omega)).bind fun (value, s₄) hread => ?_
  have hle'' := hread.length_le
  obtain ⟨v, hv, t, ht, hs₃⟩ := hread
  simp only at ht hs₃ hle'' ⊢
  by_cases hduplicate : values.contains key = true
  · rw [if_pos hduplicate]
    exact ⟨_, rfl⟩
  rw [if_neg hduplicate]
  have hfresh := not_mem_keys hduplicate
  obtain ⟨v', hv', hs₄⟩ := blank_skipWhitespace s₄
  have hlast := length_skipWhitespace_le s₄
  generalize skipWhitespace s₄ = s₅ at hs₄ hlast
  cases s₅ with
  | nil => exact formatException_meets _
  | cons c r =>
    rw [List.length_cons] at hlast
    let m : Member Long δ := ⟨w, name, key, w', v, t, value, v'⟩
    have hwhole : s = m.whole ++ c :: r := by
      rw [hs, hs₁, hs₂, hs₃, hs₄]
      simp [m, Member.whole, Element.whole]
    have hnodup : (values.map Prod.fst ++ [key]).Nodup := by
      rw [← List.concat_eq_append]
      exact hkeys.concat hfresh
    show Except.Meets (if c = unit '}' then _ else _) _ _
    split_ifs with hclose hcomma
    · exact .last (m := m) ⟨hw, hw', hv, hv'⟩ hname hnodup ht (hclose ▸ hwhole)
    · exact formatException_meets _
    · rw [not_ne_iff] at hcomma
      exact (hloop (values ++ [(key, value)]) r (by simpa using hnodup) (by omega)).mono fun read hread =>
        .cons (m := m) ⟨hw, hw', hv, hv'⟩ hname ht (hcomma ▸ hwhole) hread

/-- **What the parser reads**, by induction on the depth of the calls. -/
theorem reads_meets (double : Text → Option δ) (size fuel : Nat) :
    (∀ s, 2 * s.length < fuel → (readValue double size fuel s).Meets (ReadsBlankValue double s) IsFormat) ∧
    (∀ values s, 2 * s.length + 1 < fuel →
      (readElements double size fuel values s).Meets (ReadsElements double s values) IsFormat) ∧
    (∀ (values : Assoc Text (Tree Long δ)) s, (values.map Prod.fst).Nodup → 2 * s.length + 1 < fuel →
      (readMembers double size fuel values s).Meets (ReadsMembers double s values) IsFormat) := by
  induction fuel with
  | zero => simp
  | succ fuel ih =>
    obtain ⟨hvalue, helements, hmembers⟩ := ih
    refine ⟨fun s hs => ?_, fun values s hs => ?_, fun values s hkeys hs => ?_⟩
    · exact readValue_step (fun r hr => helements [] r (by omega)) fun r hr => hmembers [] r List.nodup_nil (by omega)
    · exact readElements_step (hvalue s (by omega)) fun values r hr => helements values r (by omega)
    · exact readMembers_step hkeys (fun r hr => hvalue r (by omega)) fun values r hkeys hr =>
        hmembers values r hkeys (by omega)

/-- What is parsed is derived, and a failure is a `FormatException`. -/
theorem parse_meets (double : Text → Option δ) (text : Text) :
    (parse double text).Meets (Json (bridge double) text) IsFormat := by
  refine ((reads_meets double text.length (2 * text.length + 1)).1 text (by omega)).bind fun (result, s) hread => ?_
  obtain ⟨w, hw, t, ht, rfl⟩ := hread
  obtain ⟨w', hw', hs⟩ := blank_skipWhitespace s
  simp only at ht ⊢
  split_ifs with hend
  · rw [atEnd_iff] at hend
    rw [hend, List.append_nil] at hs
    exact ⟨w, t, w', hw, ht, hw', by rw [hs]⟩
  · exact formatException_meets _

end

end SimPilot.GameBridge.StrictJson
