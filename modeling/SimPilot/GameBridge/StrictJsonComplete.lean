import Mathlib.Data.List.DropRight
import SimPilot.GameBridge.StrictJsonSound
/-!
# Every derived text is read

Where the grammar of the bridge derives a text, the parser reads it to the value derived. A value
is read up to what follows it, which must not go on with a number.
-/

namespace SimPilot.GameBridge.StrictJson
open JsonGrammar

/-! ## The text that is left -/

theorem standsAt_cons {c d : CodeUnit} {r : Text} (h : d ≠ c) : standsAt (d :: r) c = false := by
  simpa [standsAt] using h

@[simp] theorem standsAt_self (c : CodeUnit) (r : Text) : standsAt (c :: r) c = true := by simp [standsAt]

def NoDigit (r : Text) : Prop := ∀ c ∈ r.head?, isDigitUnit c = false

/-- What may stand behind a number. -/
def Follows (r : Text) : Prop := NoDigit r ∧ standsAt r (unit '.') = false ∧ standsAt r (unit 'e') = false ∧
  standsAt r (unit 'E') = false

theorem dropWhile_append {p : CodeUnit → Bool} {w r : Text} (hw : ∀ c ∈ w, p c) (hr : ∀ c ∈ r.head?, p c = false) :
    (w ++ r).dropWhile p = r := by
  rw [List.dropWhile_append_of_pos hw]
  cases r with
  | nil => rfl
  | cons c r => exact List.dropWhile_cons_of_neg (by simpa using hr c rfl)

theorem skipDigits_append {ds r : Text} (hds : Digits ds) (hr : NoDigit r) : skipDigits (ds ++ r) = r :=
  dropWhile_append hds hr

theorem skipWhitespace_append {w r : Text} (hw : Blank w) (hr : ∀ c ∈ r.head?, isBlank c = false) :
    skipWhitespace (w ++ r) = r :=
  dropWhile_append hw hr

theorem skipWhitespace_skipWhitespace (s : Text) : skipWhitespace (skipWhitespace s) = skipWhitespace s :=
  List.dropWhile_idempotent isBlank s

theorem follows_nil : Follows [] := ⟨by simp [NoDigit], rfl, rfl, rfl⟩

theorem follows_cons {c : CodeUnit} {r : Text}
    (h : isBlank c = true ∨ c = unit ',' ∨ c = unit ']' ∨ c = unit '}') : Follows (c :: r) := by
  have hc : c = unit ' ' ∨ c = unit '\t' ∨ c = unit '\r' ∨ c = unit '\n' ∨
      c = unit ',' ∨ c = unit ']' ∨ c = unit '}' := by
    simpa [isBlank, or_assoc] using h
  rcases hc with rfl | rfl | rfl | rfl | rfl | rfl | rfl
  all_goals exact ⟨by simp only [NoDigit, List.head?_cons, Option.mem_some_iff, forall_eq']; decide,
    standsAt_cons (by decide), standsAt_cons (by decide), standsAt_cons (by decide)⟩

theorem follows_blank {w : Text} {c : CodeUnit} {r : Text} (hw : Blank w)
    (hc : c = unit ',' ∨ c = unit ']' ∨ c = unit '}') : Follows (w ++ c :: r) := by
  cases w with
  | nil => exact follows_cons (.inr hc)
  | cons d w => exact follows_cons (.inl (hw d List.mem_cons_self))

/-! ## Strings -/

theorem lookup_of_mem {e c : CodeUnit} (h : (e, c) ∈ escapes) : escapes.lookup e = some c := by
  simp only [escapes, List.mem_cons, Prod.mk.injEq, List.not_mem_nil, or_false] at h
  rcases h with ⟨rfl, rfl⟩ | ⟨rfl, rfl⟩ | ⟨rfl, rfl⟩ | ⟨rfl, rfl⟩ | ⟨rfl, rfl⟩ | ⟨rfl, rfl⟩ | ⟨rfl, rfl⟩ | ⟨rfl, rfl⟩
  all_goals decide

theorem tryParseHex_of_paddedQuad {h : Text} {c : CodeUnit} (hquad : PaddedQuad h c) : tryParseHex h = some c := by
  obtain ⟨ds, n, rfl, hlength, hne, hhex, hvalue⟩ := hquad
  have hnul : ∀ c ∈ (List.replicate n (0 : CodeUnit)).head?, isHex c = false := by
    intro c hc
    rw [List.eq_of_mem_replicate (List.mem_of_mem_head? hc)]
    decide
  have hdrop : (ds ++ List.replicate n 0).dropWhile isHex = List.replicate n 0 := dropWhile_append hhex hnul
  have htake : (ds ++ List.replicate n 0).takeWhile isHex = ds := by
    have hsplit := List.takeWhile_append_dropWhile (p := isHex) (l := ds ++ List.replicate n (0 : CodeUnit))
    rw [hdrop] at hsplit
    exact List.append_cancel_right hsplit
  unfold tryParseHex
  simp only [hdrop, htake]
  rw [if_pos ⟨hne, by simp⟩]
  congr 1
  apply Fin.ext
  rw [hvalue]
  exact Nat.mod_eq_of_lt (hvalue ▸ c.isLt)

theorem readChars_quote (s result : Text) : readChars (unit '"' :: s) result = .ok (result, s) := by
  rw [readChars.eq_def]
  exact if_pos rfl

theorem readChars_plain {c : CodeUnit} (hquote : c ≠ unit '"') (hback : c ≠ unit '\\') (hc : 32 ≤ c) (s result : Text) :
    readChars (c :: s) result = readChars s (result ++ [c]) := by
  conv_lhs => rw [readChars.eq_def]
  simp only
  rw [if_neg hquote, if_neg (not_lt.mpr hc), if_pos hback]

theorem readChars_short {e c : CodeUnit} (h : escapes.lookup e = some c) (s result : Text) :
    readChars (unit '\\' :: e :: s) result = readChars s (result ++ [c]) := by
  conv_lhs => rw [readChars.eq_def]
  simp only [h]
  rw [if_neg (by decide), if_neg (by decide), if_neg (not_not.mpr rfl)]

theorem readChars_quad {h₀ h₁ h₂ h₃ c : CodeUnit} (h : tryParseHex [h₀, h₁, h₂, h₃] = some c) (s result : Text) :
    readChars (unit '\\' :: unit 'u' :: h₀ :: h₁ :: h₂ :: h₃ :: s) result = readChars s (result ++ [c]) := by
  have hlookup : escapes.lookup (unit 'u') = none := by decide
  conv_lhs => rw [readChars.eq_def]
  simp only [h, hlookup]
  rw [if_neg (by decide), if_neg (by decide), if_neg (not_not.mpr rfl), if_pos trivial]

theorem readChars_append {t cs : Text} (h : Chars PaddedQuad t cs) (result r : Text) :
    readChars (t ++ unit '"' :: r) result = .ok (result ++ cs, r) := by
  induction h generalizing result with
  | nil =>
    rw [List.nil_append, readChars_quote, List.append_nil]
  | plain hquote hback hc h ih =>
    rw [List.cons_append, readChars_plain hquote hback hc, ih]
    simp
  | @escape e t cs c he h ih =>
    cases he with
    | @short x c hmem =>
      show readChars (unit '\\' :: x :: (t ++ unit '"' :: r)) result = _
      rw [readChars_short (lookup_of_mem hmem), ih]
      simp
    | @quad q c hquad =>
      obtain ⟨h₀, h₁, h₂, h₃, rfl⟩ : ∃ h₀ h₁ h₂ h₃, q = [h₀, h₁, h₂, h₃] := by
        obtain ⟨-, -, -, hlength, -⟩ := hquad
        exact List.length_eq_four.mp hlength
      show readChars (unit '\\' :: unit 'u' :: h₀ :: h₁ :: h₂ :: h₃ :: (t ++ unit '"' :: r)) result = _
      rw [readChars_quad (tryParseHex_of_paddedQuad hquad), ih]
      simp

theorem readString_append {t cs : Text} (h : Chars PaddedQuad t cs) (r : Text) :
    readString (unit '"' :: (t ++ unit '"' :: r)) = .ok (cs, r) :=
  readChars_append h [] r

/-! ## Numbers -/

theorem isDigit_ne {c d : CodeUnit} (hc : isDigitUnit c = true) (hd : isDigitUnit d = false) : c ≠ d := by
  rintro rfl
  rw [hc] at hd
  cases hd

theorem NoDigit.of_cons {c : CodeUnit} {r : Text} (h : isDigitUnit c = false) : NoDigit (c :: r) := by
  simpa [NoDigit] using h

theorem readWhole_append {w r : Text} (hw : Whole w) (hr : NoDigit r) : readWhole (w ++ r) = .ok r := by
  cases hw with
  | zero => rfl
  | @digits d ds hd hne hds =>
    show (if d = unit '0' then _ else if d < unit '1' ∨ unit '9' < d then _ else _) = _
    have hrange : ¬ (d < unit '1' ∨ unit '9' < d) := by
      have h0 : (unit '0').val = 48 := by decide
      have h1 : (unit '1').val = 49 := by decide
      have hne' : d.val ≠ 48 := fun h => hne (Fin.ext (h.trans h0.symm))
      simp only [isDigitUnit, Bool.and_eq_true, decide_eq_true_eq, Fin.le_def, Fin.lt_def, not_or, not_lt] at hd ⊢
      omega
    rw [if_neg hne, if_neg hrange]
    have hall : Digits (d :: ds) := by simpa [Digits] using ⟨hd, hds⟩
    exact congrArg Except.ok (skipDigits_append hall hr)

theorem readFraction_append {f r : Text} (hf : Fraction f) (hr : NoDigit r) (hdot : standsAt r (unit '.') = false) :
    readFraction (f ++ r) = .ok r := by
  cases hf with
  | absent =>
    rw [List.nil_append, readFraction, hdot]
    rfl
  | @digits d ds hds =>
    have hskip : skipDigits (d :: ds ++ r) = r := skipDigits_append hds hr
    rw [readFraction, List.cons_append, standsAt_self, if_pos rfl, List.tail_cons]
    simp only [hskip]
    rw [if_neg (by simp only [List.length_append, List.length_cons]; omega)]

theorem readExponent_append {e r : Text} (he : Exponent e) (hr : Follows r) : readExponent (e ++ r) = .ok r := by
  cases he with
  | absent =>
    rw [List.nil_append, readExponent, hr.2.2.1, hr.2.2.2]
    rfl
  | @digits e d sign ds hletter hsign hds =>
    have hskip : skipDigits (d :: ds ++ r) = r := skipDigits_append hds hr.1
    have hdigit : isDigitUnit d = true := hds d List.mem_cons_self
    have hplus : standsAt (d :: ds ++ r) (unit '+') = false := standsAt_cons (isDigit_ne hdigit (by decide))
    have hminus : standsAt (d :: ds ++ r) (unit '-') = false := standsAt_cons (isDigit_ne hdigit (by decide))
    have hsigned : (if standsAt (sign ++ (d :: ds ++ r)) (unit '+') || standsAt (sign ++ (d :: ds ++ r)) (unit '-') then
        (sign ++ (d :: ds ++ r)).tail else sign ++ (d :: ds ++ r)) = d :: ds ++ r := by
      rcases hsign with rfl | rfl | rfl
      · rw [List.nil_append, hplus, hminus]
        rfl
      · rw [List.singleton_append, standsAt_self]
        rfl
      · rw [List.singleton_append, standsAt_self, Bool.or_true]
        rfl
    have hstart : (standsAt (e :: (sign ++ (d :: ds ++ r))) (unit 'e') ||
        standsAt (e :: (sign ++ (d :: ds ++ r))) (unit 'E')) = true := by
      rcases hletter with rfl | rfl
      · rw [standsAt_self, Bool.true_or]
      · rw [standsAt_self, Bool.or_true]
    show readExponent (e :: (sign ++ d :: ds ++ r)) = _
    rw [List.append_assoc, readExponent, hstart, if_pos rfl, List.tail_cons]
    simp only [hsigned, hskip]
    rw [if_neg (by simp only [List.length_append, List.length_cons]; omega)]

section
variable {δ : Type} {double : Text → Option δ} {size : Nat}

/-- A fraction and what stands behind it. -/
theorem fraction_follows {e r : Text} (he : Exponent e) (hr : Follows r) :
    NoDigit (e ++ r) ∧ standsAt (e ++ r) (unit '.') = false := by
  cases he with
  | absent => exact ⟨hr.1, hr.2.1⟩
  | digits hletter hsign hds =>
    rcases hletter with rfl | rfl
    · exact ⟨.of_cons (by decide), standsAt_cons (by decide)⟩
    · exact ⟨.of_cons (by decide), standsAt_cons (by decide)⟩

theorem whole_follows {f e r : Text} (hf : Fraction f) (he : Exponent e) (hr : Follows r) :
    NoDigit (f ++ (e ++ r)) := by
  cases hf with
  | absent => exact (fraction_follows he hr).1
  | digits hds => exact .of_cons (by decide)

/-- What `readInteger` gives, once its parts are read. -/
theorem readInteger_append (double : Text → Option δ) {m w f e r : Text} (hm : Minus m) (hw : Whole w)
    (hf : Fraction f) (he : Exponent e) (hr : Follows r) : readInteger double (m ++ w ++ f ++ e ++ r) =
      if f ++ e ≠ [] then
        match double (m ++ w ++ f ++ e) with
        | some number => .ok (.number number, r)
        | none => formatException "JSON number is out of range"
      else
        match long? (signed m w) with
        | some value => .ok (.integer value, r)
        | none => formatException "JSON integer is out of range" := by
  have hwhole : readWhole (w ++ (f ++ (e ++ r))) = .ok (f ++ (e ++ r)) := readWhole_append hw (whole_follows hf he hr)
  have hfraction : readFraction (f ++ (e ++ r)) = .ok (e ++ r) :=
    readFraction_append hf (fraction_follows he hr).1 (fraction_follows he hr).2
  have hexponent : readExponent (e ++ r) = .ok r := readExponent_append he hr
  obtain ⟨c, s, hstart, hbehind⟩ : ∃ c s, m ++ w ++ f ++ e ++ r = c :: s ∧
      (if c = unit '-' then s else c :: s) = w ++ (f ++ (e ++ r)) := by
    rcases hm with rfl | rfl
    · obtain ⟨d, ds, rfl, hd, -⟩ := exists_digit_of_whole hw
      exact ⟨d, ds ++ (f ++ (e ++ r)), by simp, by rw [if_neg (isDigit_ne hd (by decide))]; rfl⟩
    · exact ⟨unit '-', w ++ (f ++ (e ++ r)), by simp, if_pos rfl⟩
  have hraw : substring (c :: s) r = m ++ w ++ f ++ e := by rw [← hstart, substring_append]
  have hlength : (r.length ≠ (f ++ (e ++ r)).length) = (f ++ e ≠ []) := by
    rw [← List.append_assoc, List.length_append, ne_eq, ne_eq, ← List.length_eq_zero_iff]
    exact propext (not_congr ⟨fun h => by omega, fun h => by omega⟩)
  rw [hstart]
  show (readWhole (if c = unit '-' then s else c :: s) >>= _) = _
  rw [hbehind, hwhole]
  show (readFraction _ >>= _) = _
  rw [hfraction]
  show (readExponent _ >>= _) = _
  rw [hexponent]
  show (if r.length ≠ (f ++ (e ++ r)).length then _ else _) = _
  simp only [hlength]
  split_ifs with hne
  · cases hdouble : double (m ++ w ++ f ++ e) <;> simp only [hraw, hdouble]
  · rw [not_ne_iff] at hne
    rw [List.append_assoc _ f e, hne, List.append_nil] at hraw
    cases hlong : long? (signed m w) <;> simp only [hraw, tryParseLong_eq hm hw, hlong]

theorem readLiteral_append (literal : String) (value : Tree Long δ) (r : Text) :
    readLiteral size literal value (ascii literal ++ r) = .ok (value, r) := by
  unfold readLiteral
  rw [if_neg (by simp), List.drop_left]

/-! ## Values -/

/-- A value starts with none of the characters that may stand around it. -/
def Starts (s : Text) : Prop := ∀ c ∈ s.head?, isBlank c = false ∧ c ≠ unit ']' ∧ c ≠ unit '}'

theorem starts_cons {c : CodeUnit} {s : Text} (h : isBlank c = false ∧ c ≠ unit ']' ∧ c ≠ unit '}') :
    Starts (c :: s) := by simpa [Starts] using h

theorem starts_digit {c : CodeUnit} {s : Text} (h : isDigitUnit c = true) : Starts (c :: s) := by
  refine starts_cons ⟨?_, isDigit_ne h (by decide), isDigit_ne h (by decide)⟩
  simp only [isBlank, Bool.or_eq_false_iff, decide_eq_false_iff_not]
  exact ⟨⟨⟨isDigit_ne h (by decide), isDigit_ne h (by decide)⟩, isDigit_ne h (by decide)⟩, isDigit_ne h (by decide)⟩

theorem starts_number {m w s : Text} (hm : Minus m) (hw : Whole w) : Starts (m ++ w ++ s) := by
  obtain ⟨d, ds, rfl, hd, -⟩ := exists_digit_of_whole hw
  rcases hm with rfl | rfl
  · exact starts_digit hd
  · exact starts_cons (by decide)

theorem starts_value {reading : Reading Long δ} {t : Text} {v : Tree Long δ} (h : Value reading t v) (r : Text) :
    Starts (t ++ r) := by
  cases h with
  | integer hm hw h => exact starts_number hm hw
  | number hm hw hf he hne h =>
    simp only [List.append_assoc]
    rw [← List.append_assoc]
    exact starts_number hm hw
  | _ => exact starts_cons (by decide)

theorem skipWhitespace_value {reading : Reading Long δ} {w t r : Text} {v : Tree Long δ} (h : Value reading t v)
    (hw : Blank w) : skipWhitespace (w ++ t ++ r) = t ++ r := by
  rw [List.append_assoc]
  exact skipWhitespace_append hw fun c hc => (starts_value h r c hc).1

/-- A text that is read to a value, whatever may stand around it. -/
def Completes (double : Text → Option δ) (size : Nat) (t : Text) (v : Tree Long δ) : Prop :=
  ∀ fuel w r, Blank w → Follows r → 2 * (w ++ t ++ r).length < fuel →
    readValue double size fuel (w ++ t ++ r) = .ok (v, r)

theorem readValue_skipWhitespace (fuel : Nat) (s : Text) :
    readValue double size fuel (skipWhitespace s) = readValue double size fuel s := by
  cases fuel with
  | zero => rfl
  | succ fuel => rw [readValue, readValue, skipWhitespace_skipWhitespace]

theorem readElements_skipWhitespace (fuel : Nat) (values : List (Tree Long δ)) (s : Text) :
    readElements double size fuel values (skipWhitespace s) = readElements double size fuel values s := by
  cases fuel with
  | zero => rfl
  | succ fuel => rw [readElements, readElements, readValue_skipWhitespace]

theorem readMembers_skipWhitespace (fuel : Nat) (values : Assoc Text (Tree Long δ)) (s : Text) :
    readMembers double size fuel values (skipWhitespace s) = readMembers double size fuel values s := by
  cases fuel with
  | zero => rfl
  | succ fuel => rw [readMembers, readMembers, skipWhitespace_skipWhitespace]

/-! ## Arrays and objects -/

theorem skipWhitespace_cons {w r : Text} {c : CodeUnit} (hw : Blank w) (hc : isBlank c = false) :
    skipWhitespace (w ++ c :: r) = c :: r := skipWhitespace_append hw (by simpa using hc)

theorem isBlank_separator {c : CodeUnit} (hc : c = unit ',' ∨ c = unit ']' ∨ c = unit '}') : isBlank c = false := by
  rcases hc with rfl | rfl | rfl <;> decide

/-- One turn of the loop of an array. -/
theorem readElements_turn {e : Element Long δ} (hspaced : e.Spaced) (h : Completes double size e.text e.value)
    {c : CodeUnit} (hc : c = unit ',' ∨ c = unit ']' ∨ c = unit '}') {fuel : Nat} {r : Text}
    (hfuel : 2 * (e.whole ++ c :: r).length < fuel) (values : List (Tree Long δ)) :
    readElements double size (fuel + 1) values (e.whole ++ c :: r) =
      if c = unit ']' then .ok (.array (values ++ [e.value]), r)
      else if c ≠ unit ',' then formatException "expected comma in JSON array"
      else readElements double size fuel (values ++ [e.value]) r := by
  have htext : e.whole ++ c :: r = e.before ++ e.text ++ (e.after ++ c :: r) := by simp [Element.whole]
  have hread : readValue double size fuel (e.whole ++ c :: r) = .ok (e.value, e.after ++ c :: r) := by
    rw [htext] at hfuel ⊢
    exact h fuel e.before _ hspaced.1 (follows_blank hspaced.2 hc) hfuel
  rw [readElements, hread]
  show (if atEnd (skipWhitespace (e.after ++ c :: r)) then _ else _) = _
  rw [skipWhitespace_cons hspaced.2 (isBlank_separator hc)]
  rfl

theorem readElements_append {es : List (Element Long δ)} (hne : es ≠ []) (hspaced : ∀ e ∈ es, e.Spaced)
    (h : ∀ e ∈ es, Completes double size e.text e.value) (fuel : Nat) (values : List (Tree Long δ)) (r : Text)
    (hfuel : 2 * (joined (es.map Element.whole) ++ unit ']' :: r).length + 1 < fuel) :
    readElements double size fuel values (joined (es.map Element.whole) ++ unit ']' :: r) =
      .ok (.array (values ++ es.map Element.value), r) := by
  induction es generalizing fuel values with
  | nil => exact absurd rfl hne
  | cons e es ih =>
    obtain ⟨fuel, rfl⟩ : ∃ n, fuel = n + 1 := ⟨fuel - 1, by omega⟩
    have he := h e List.mem_cons_self
    have hspace := hspaced e List.mem_cons_self
    cases es with
    | nil =>
      rw [List.map_cons, List.map_nil, joined_singleton] at hfuel ⊢
      rw [readElements_turn hspace he (.inr (.inl rfl)) (by omega), if_pos rfl]
      rfl
    | cons e' es =>
      have htext : joined ((e :: e' :: es).map Element.whole) ++ unit ']' :: r =
          e.whole ++ unit ',' :: (joined ((e' :: es).map Element.whole) ++ unit ']' :: r) := by
        rw [List.map_cons, joined_cons _ (by simp)]
        simp
      rw [htext] at hfuel ⊢
      rw [readElements_turn hspace he (.inl rfl) (by omega), if_neg (by decide), if_neg (not_not.mpr rfl),
        ih (by simp) (fun x hx => hspaced x (List.mem_cons_of_mem _ hx)) (fun x hx => h x (List.mem_cons_of_mem _ hx))]
      · simp
      · simp only [List.length_append, List.length_cons] at hfuel ⊢
        omega

/-- One turn of the loop of an object. -/
theorem readMembers_turn {m : Member Long δ} (hspaced : m.Spaced) (hname : Chars PaddedQuad m.name m.key)
    (h : Completes double size m.element.text m.element.value) {c : CodeUnit}
    (hc : c = unit ',' ∨ c = unit ']' ∨ c = unit '}') {fuel : Nat} {r : Text}
    (hfuel : 2 * (m.whole ++ c :: r).length < fuel) {values : Assoc Text (Tree Long δ)}
    (hfresh : m.key ∉ values.map Prod.fst) :
    readMembers double size (fuel + 1) values (m.whole ++ c :: r) =
      if c = unit '}' then .ok (.object (values ++ [m.item]), r)
      else if c ≠ unit ',' then formatException "expected comma in JSON object"
      else readMembers double size fuel (values ++ [m.item]) r := by
  obtain ⟨hbefore, hcolon, hspace⟩ := hspaced
  have htext : m.whole ++ c :: r =
      m.before ++ unit '"' :: (m.name ++ unit '"' :: (m.colon ++ unit ':' :: (m.element.whole ++ c :: r))) := by
    simp [Member.whole]
  have hvalue : m.element.whole ++ c :: r = m.element.before ++ m.element.text ++ (m.element.after ++ c :: r) := by
    simp [Element.whole]
  have hlength : 2 * (m.element.whole ++ c :: r).length < fuel := by
    rw [htext] at hfuel
    simp only [List.length_append, List.length_cons] at hfuel ⊢
    omega
  have hread : readValue double size fuel (m.element.whole ++ c :: r) =
      .ok (m.element.value, m.element.after ++ c :: r) := by
    rw [hvalue] at hlength ⊢
    exact h fuel m.element.before _ hspace.1 (follows_blank hspace.2 hc) hlength
  have hnew : Assoc.contains values m.key = false := by
    rw [Bool.eq_false_iff]
    intro hcontains
    obtain ⟨v, hv⟩ := Option.isSome_iff_exists.mp hcontains
    exact hfresh (List.mem_map_of_mem (Assoc.mem_of_get hv))
  rw [readMembers, htext, skipWhitespace_cons hbefore (by decide)]
  simp only [standsAt_self, Bool.not_true]
  rw [if_neg Bool.false_ne_true, readString_append hname]
  show (if !standsAt (skipWhitespace (m.colon ++ unit ':' :: (m.element.whole ++ c :: r))) (unit ':') then _ else _) = _
  rw [skipWhitespace_cons hcolon (by decide), standsAt_self, Bool.not_true, if_neg Bool.false_ne_true, List.tail_cons,
    hread]
  show (if Assoc.contains values m.key then _ else _) = _
  rw [hnew, if_neg Bool.false_ne_true]
  show (if atEnd (skipWhitespace (m.element.after ++ c :: r)) then _ else _) = _
  rw [skipWhitespace_cons hspace.2 (isBlank_separator hc)]
  rfl

theorem readMembers_append {ms : List (Member Long δ)} (hne : ms ≠ []) (hspaced : ∀ m ∈ ms, m.Spaced)
    (hnames : ∀ m ∈ ms, Chars PaddedQuad m.name m.key)
    (h : ∀ m ∈ ms, Completes double size m.element.text m.element.value) (fuel : Nat)
    (values : Assoc Text (Tree Long δ)) (hkeys : (values.map Prod.fst ++ ms.map Member.key).Nodup) (r : Text)
    (hfuel : 2 * (joined (ms.map Member.whole) ++ unit '}' :: r).length + 1 < fuel) :
    readMembers double size fuel values (joined (ms.map Member.whole) ++ unit '}' :: r) =
      .ok (.object (values ++ ms.map Member.item), r) := by
  induction ms generalizing fuel values with
  | nil => exact absurd rfl hne
  | cons m ms ih =>
    obtain ⟨fuel, rfl⟩ : ∃ n, fuel = n + 1 := ⟨fuel - 1, by omega⟩
    have hm := h m List.mem_cons_self
    have hname := hnames m List.mem_cons_self
    have hspace := hspaced m List.mem_cons_self
    have hfresh : m.key ∉ values.map Prod.fst := fun hmem =>
      (List.nodup_append.mp hkeys).2.2 m.key hmem m.key (by simp) rfl
    cases ms with
    | nil =>
      rw [List.map_cons, List.map_nil, joined_singleton] at hfuel ⊢
      rw [readMembers_turn hspace hname hm (.inr (.inr rfl)) (by omega) hfresh, if_pos rfl]
      rfl
    | cons m' ms =>
      have htext : joined ((m :: m' :: ms).map Member.whole) ++ unit '}' :: r =
          m.whole ++ unit ',' :: (joined ((m' :: ms).map Member.whole) ++ unit '}' :: r) := by
        rw [List.map_cons, joined_cons _ (by simp)]
        simp
      rw [htext] at hfuel ⊢
      rw [readMembers_turn hspace hname hm (.inl rfl) (by omega) hfresh, if_neg (by decide), if_neg (not_not.mpr rfl),
        ih (by simp) (fun x hx => hspaced x (List.mem_cons_of_mem _ hx))
          (fun x hx => hnames x (List.mem_cons_of_mem _ hx)) (fun x hx => h x (List.mem_cons_of_mem _ hx))]
      · simp
      · simpa [Member.item] using hkeys
      · simp only [List.length_append, List.length_cons] at hfuel ⊢
        omega

/-- What a call of `readValue` does at the character it finds. -/
theorem readValue_eq {fuel : Nat} {x s : Text} {c : CodeUnit} (h : skipWhitespace x = c :: s) :
    readValue double size (fuel + 1) x =
      if c = unit 'n' then readLiteral size "null" .null (c :: s)
      else if c = unit 't' then readLiteral size "true" (.boolean true) (c :: s)
      else if c = unit 'f' then readLiteral size "false" (.boolean false) (c :: s)
      else if c = unit '"' then (readString (c :: s) >>= fun read => .ok (.string read.1, read.2))
      else if c = unit '[' then readArray (readElements double size fuel []) (c :: s)
      else if c = unit '{' then readObject (readMembers double size fuel []) (c :: s)
      else if c = unit '-' then readInteger double (c :: s)
      else if isDigitUnit c then readInteger double (c :: s)
      else formatExceptionAt "unexpected JSON character" (size - (c :: s).length) := by
  rw [readValue, h]
  rfl

theorem readValue_number {fuel : Nat} {x m w s : Text} (hm : Minus m) (hw : Whole w)
    (h : skipWhitespace x = m ++ w ++ s) : readValue double size (fuel + 1) x = readInteger double (m ++ w ++ s) := by
  obtain ⟨d, ds, rfl, hd, -⟩ := exists_digit_of_whole hw
  rcases hm with rfl | rfl
  · rw [readValue_eq (s := ds ++ s) (c := d) h]
    rw [if_neg (isDigit_ne hd (by decide)), if_neg (isDigit_ne hd (by decide)), if_neg (isDigit_ne hd (by decide)),
      if_neg (isDigit_ne hd (by decide)), if_neg (isDigit_ne hd (by decide)), if_neg (isDigit_ne hd (by decide)),
      if_neg (isDigit_ne hd (by decide)), if_pos hd]
    rfl
  · rw [readValue_eq (s := d :: ds ++ s) (c := unit '-') h]
    rw [if_neg (by decide), if_neg (by decide), if_neg (by decide), if_neg (by decide), if_neg (by decide),
      if_neg (by decide), if_pos rfl]
    rfl

theorem readArray_append {es : List (Element Long δ)} (hne : es ≠ []) (hspaced : ∀ e ∈ es, e.Spaced)
    (hvalues : ∀ e ∈ es, Value (bridge double) e.text e.value)
    (h : ∀ e ∈ es, Completes double size e.text e.value) {fuel : Nat} {r : Text}
    (hfuel : 2 * (joined (es.map Element.whole) ++ unit ']' :: r).length + 1 < fuel) :
    readArray (readElements double size fuel []) (unit '[' :: (joined (es.map Element.whole) ++ unit ']' :: r)) =
      .ok (.array (es.map Element.value), r) := by
  have hopen : standsAt (skipWhitespace (joined (es.map Element.whole) ++ unit ']' :: r)) (unit ']') = false := by
    obtain ⟨e, es, rfl⟩ := List.exists_cons_of_ne_nil hne
    have hspace := hspaced e List.mem_cons_self
    obtain ⟨x, hx⟩ : ∃ x, joined ((e :: es).map Element.whole) ++ unit ']' :: r = e.before ++ e.text ++ x := by
      cases es with
      | nil => exact ⟨e.after ++ unit ']' :: r, by simp [joined_singleton, Element.whole]⟩
      | cons e' es =>
        refine ⟨e.after ++ unit ',' :: (joined ((e' :: es).map Element.whole) ++ unit ']' :: r), ?_⟩
        rw [List.map_cons, joined_cons _ (by simp), Element.whole]
        simp only [List.append_assoc, List.cons_append]
    have hvalue := hvalues e List.mem_cons_self
    rw [hx, skipWhitespace_value hvalue hspace.1, Bool.eq_false_iff]
    intro hstands
    obtain ⟨y, hy⟩ := standsAt_iff.mp hstands
    exact (starts_value hvalue x (unit ']') (by rw [hy]; rfl)).2.1 rfl
  unfold readArray
  rw [List.tail_cons]
  simp only [hopen]
  rw [if_neg Bool.false_ne_true, readElements_skipWhitespace, readElements_append hne hspaced h _ _ _ hfuel]
  rfl

theorem readObject_append {ms : List (Member Long δ)} (hne : ms ≠ []) (hspaced : ∀ m ∈ ms, m.Spaced)
    (hnames : ∀ m ∈ ms, Chars PaddedQuad m.name m.key) (hkeys : (ms.map Member.key).Nodup)
    (h : ∀ m ∈ ms, Completes double size m.element.text m.element.value) {fuel : Nat} {r : Text}
    (hfuel : 2 * (joined (ms.map Member.whole) ++ unit '}' :: r).length + 1 < fuel) :
    readObject (readMembers double size fuel []) (unit '{' :: (joined (ms.map Member.whole) ++ unit '}' :: r)) =
      .ok (.object (ms.map Member.item), r) := by
  have hopen : standsAt (skipWhitespace (joined (ms.map Member.whole) ++ unit '}' :: r)) (unit '}') = false := by
    obtain ⟨m, ms, rfl⟩ := List.exists_cons_of_ne_nil hne
    have hspace := hspaced m List.mem_cons_self
    obtain ⟨x, hx⟩ : ∃ x, joined ((m :: ms).map Member.whole) ++ unit '}' :: r = m.before ++ unit '"' :: x := by
      cases ms with
      | nil => exact ⟨_, by rw [List.map_cons, List.map_nil, joined_singleton, Member.whole, List.append_assoc]; rfl⟩
      | cons m' ms =>
        refine ⟨m.name ++ unit '"' :: (m.colon ++ unit ':' :: (m.element.whole ++ unit ',' ::
          (joined ((m' :: ms).map Member.whole) ++ unit '}' :: r))), ?_⟩
        rw [List.map_cons, joined_cons _ (by simp), Member.whole]
        simp only [List.append_assoc, List.cons_append]
    rw [hx, skipWhitespace_cons hspace.1 (by decide)]
    exact standsAt_cons (by decide)
  unfold readObject
  rw [List.tail_cons]
  simp only [hopen]
  rw [if_neg Bool.false_ne_true, readMembers_skipWhitespace,
    readMembers_append hne hspaced hnames h _ _ (by simpa using hkeys) _ hfuel]
  rfl

/-- A text that is read, once the blanks in front are skipped. -/
theorem completes_of_read {t : Text} {v : Tree Long δ} (h : Value (bridge double) t v)
    (hread : ∀ fuel x r, Follows r → skipWhitespace x = t ++ r → 2 * (t ++ r).length < fuel + 1 →
      readValue double size (fuel + 1) x = .ok (v, r)) : Completes double size t v := by
  intro fuel w r hw hr hfuel
  obtain ⟨fuel, rfl⟩ : ∃ n, fuel = n + 1 := ⟨fuel - 1, by omega⟩
  refine hread fuel _ r hr (skipWhitespace_value h hw) ?_
  simp only [List.length_append] at hfuel ⊢
  omega

/-- **Every value is read**, by induction on its derivation. -/
theorem completes_value {t : Text} {v : Tree Long δ} (h : Value (bridge double) t v) : Completes double size t v := by
  induction h with
  | null =>
    refine completes_of_read .null fun fuel x r _ hx _ => ?_
    rw [readValue_eq (c := unit 'n') (s := ascii "ull" ++ r) hx, if_pos rfl]
    exact readLiteral_append "null" .null r
  | true =>
    refine completes_of_read .true fun fuel x r _ hx _ => ?_
    rw [readValue_eq (c := unit 't') (s := ascii "rue" ++ r) hx, if_neg (by decide), if_pos rfl]
    exact readLiteral_append "true" (.boolean Bool.true) r
  | false =>
    refine completes_of_read .false fun fuel x r _ hx _ => ?_
    rw [readValue_eq (c := unit 'f') (s := ascii "alse" ++ r) hx, if_neg (by decide), if_neg (by decide), if_pos rfl]
    exact readLiteral_append "false" (.boolean Bool.false) r
  | @integer m w i hm hw hi =>
    refine completes_of_read (.integer hm hw hi) fun fuel x r hr hx _ => ?_
    have hread := readInteger_append double hm hw .absent .absent hr
    simp only [List.append_nil, ne_eq, not_true_eq_false, if_false] at hread
    rw [readValue_number hm hw hx, hread]
    have hlong : long? (signed m w) = some i := hi
    rw [hlong]
  | @number m w f e d hm hw hf he hne hd =>
    refine completes_of_read (.number hm hw hf he hne hd) fun fuel x r hr hx _ => ?_
    have hread := readInteger_append double hm hw hf he hr
    have hx' : skipWhitespace x = m ++ w ++ (f ++ (e ++ r)) := by rw [hx]; simp only [List.append_assoc]
    rw [readValue_number hm hw hx']
    have hdouble : double (m ++ w ++ f ++ e) = some d := hd
    rw [if_pos hne, hdouble] at hread
    simpa only [List.append_assoc] using hread
  | @string t s hchars =>
    refine completes_of_read (.string hchars) fun fuel x r _ hx _ => ?_
    have hx' : skipWhitespace x = unit '"' :: (t ++ unit '"' :: r) := by rw [hx]; simp
    rw [readValue_eq hx', if_neg (by decide), if_neg (by decide), if_neg (by decide), if_pos rfl,
      readString_append hchars]
    rfl
  | @emptyArray w hw =>
    refine completes_of_read (.emptyArray hw) fun fuel x r _ hx _ => ?_
    have hx' : skipWhitespace x = unit '[' :: (w ++ unit ']' :: r) := by rw [hx]; simp
    rw [readValue_eq hx', if_neg (by decide), if_neg (by decide), if_neg (by decide), if_neg (by decide), if_pos rfl,
      readArray, List.tail_cons]
    simp only [skipWhitespace_cons hw (show isBlank (unit ']') = false by decide), standsAt_self]
    rfl
  | @array es hne hspaced hvalues ih =>
    refine completes_of_read (.array hne hspaced hvalues) fun fuel x r _ hx hfuel => ?_
    have hx' : skipWhitespace x = unit '[' :: (joined (es.map Element.whole) ++ unit ']' :: r) := by rw [hx]; simp
    rw [readValue_eq hx', if_neg (by decide), if_neg (by decide), if_neg (by decide), if_neg (by decide), if_pos rfl,
      readArray_append hne hspaced hvalues ih]
    simp only [List.length_append, List.length_cons, List.length_nil] at hfuel ⊢
    omega
  | @emptyObject w hw =>
    refine completes_of_read (.emptyObject hw) fun fuel x r _ hx _ => ?_
    have hx' : skipWhitespace x = unit '{' :: (w ++ unit '}' :: r) := by rw [hx]; simp
    rw [readValue_eq hx', if_neg (by decide), if_neg (by decide), if_neg (by decide), if_neg (by decide),
      if_neg (by decide), if_pos rfl, readObject, List.tail_cons]
    simp only [skipWhitespace_cons hw (show isBlank (unit '}') = false by decide), standsAt_self]
    rfl
  | @object ms hne hspaced hnames hkeys hvalues ih =>
    refine completes_of_read (.object hne hspaced hnames hkeys hvalues) fun fuel x r _ hx hfuel => ?_
    have hx' : skipWhitespace x = unit '{' :: (joined (ms.map Member.whole) ++ unit '}' :: r) := by rw [hx]; simp
    rw [readValue_eq hx', if_neg (by decide), if_neg (by decide), if_neg (by decide), if_neg (by decide),
      if_neg (by decide), if_pos rfl, readObject_append hne hspaced hnames hkeys ih]
    simp only [List.length_append, List.length_cons, List.length_nil] at hfuel ⊢
    omega

/-- Every derived text is parsed to the value derived. -/
theorem parse_of_json {text : Text} {v : Tree Long δ} (h : Json (bridge double) text v) :
    parse double text = .ok v := by
  obtain ⟨w, t, w', hw, ht, hw', rfl⟩ := h
  have hfollows : Follows w' := by
    cases w' with
    | nil => exact follows_nil
    | cons c w' => exact follows_cons (.inl (hw' c List.mem_cons_self))
  have hend : skipWhitespace w' = [] := by simpa using skipWhitespace_append hw' (r := []) (by simp)
  unfold parse
  rw [completes_value ht _ w w' hw hfollows (by omega)]
  show (if atEnd (skipWhitespace w') then _ else _) = _
  rw [hend]
  rfl

/-- **What the bridge parses** is what its grammar derives. -/
theorem parse_ok_iff {text : Text} {v : Tree Long δ} : parse double text = .ok v ↔ Json (bridge double) text v :=
  ⟨(parse_meets double text).of_ok, parse_of_json⟩

end

end SimPilot.GameBridge.StrictJson
