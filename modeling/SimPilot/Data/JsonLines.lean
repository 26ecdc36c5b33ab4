import Mathlib.Data.List.DropRight
import Mathlib.Data.List.TakeWhile
/-!
# JSON objects, one a line

A text is cut into lines where `str.splitlines` cuts it: at a newline, and at nine other
characters. Three of these may stand in a string of a JSON text as they are, and one between its
tokens; a text with one of them between two of its other characters is broken (`Broken`). Where a
text is broken its first line is no JSON object; where it is not it has one line that is more than
blanks, and that line is the object.
-/

namespace JsonLines

/-! ## Characters -/

/-- Where `str.splitlines` cuts. -/
def isBoundary (c : Char) : Bool :=
  ['\n', '\r', '\x0b', '\x0c', '\x1c', '\x1d', '\x1e', '\u0085', '\u2028', '\u2029'].contains c

/-- `str.isspace` of one character -/
def isSpace (c : Char) : Bool :=
  let n := c.toNat
  (9 ≤ n && n ≤ 13) || (28 ≤ n && n ≤ 32) || n = 133 || n = 160 || n = 5760 || (8192 ≤ n && n ≤ 8202) || n = 8232 ||
    n = 8233 || n = 8239 || n = 8287 || n = 12288

/-- What may stand around the tokens of JSON. -/
def isJsonBlank (c : Char) : Bool := c = ' ' || c = '\t' || c = '\n' || c = '\r'

def Blank (t : List Char) : Prop := ∀ c ∈ t, isSpace c = true

def JsonBlank (t : List Char) : Prop := ∀ c ∈ t, isJsonBlank c = true

instance (t : List Char) : Decidable (Blank t) := inferInstanceAs (Decidable (∀ c ∈ t, isSpace c = true))

theorem isSpace_of_isBoundary {c : Char} (h : isBoundary c = true) : isSpace c = true := by
  simp only [isBoundary, List.contains_iff_mem, List.mem_cons, List.not_mem_nil, or_false] at h
  rcases h with rfl | rfl | rfl | rfl | rfl | rfl | rfl | rfl | rfl | rfl <;> decide

theorem isSpace_of_isJsonBlank {c : Char} (h : isJsonBlank c = true) : isSpace c = true := by
  simp only [isJsonBlank, Bool.or_eq_true, decide_eq_true_eq] at h
  rcases h with ((rfl | rfl) | rfl) | rfl <;> decide

theorem JsonBlank.blank {t : List Char} (h : JsonBlank t) : Blank t := fun c hc => isSpace_of_isJsonBlank (h c hc)

theorem not_isBoundary {c : Char} (h : isSpace c = false) : isBoundary c = false := by
  rw [Bool.eq_false_iff] at h ⊢
  exact fun hc => h (isSpace_of_isBoundary hc)

/-! ## Lines -/

/-- The lines from one that has begun; `returned` behind a carriage return, whose newline belongs
to it. -/
def splitFrom : List Char → Bool → List Char → List (List Char)
  | line, _, [] => if line = [] then [] else [line]
  | line, returned, c :: s =>
    if returned && c = '\n' then splitFrom line false s
    else if isBoundary c then line :: splitFrom [] (c = '\r') s
    else splitFrom (line ++ [c]) false s

/-- `s.splitlines()` -/
def splitlines (s : List Char) : List (List Char) := splitFrom [] false s

section
variable {line w y s rest : List Char} {c : Char} {returned : Bool}

theorem splitFrom_char (h : isBoundary c = false) :
    splitFrom line returned (c :: s) = splitFrom (line ++ [c]) false s := by
  have hnewline : c ≠ '\n' := by
    rintro rfl
    exact absurd h (by decide)
  simp [splitFrom, h, hnewline]

theorem splitFrom_newline : splitFrom line false ('\n' :: s) = line :: splitlines s := rfl

/-- Characters without a boundary stay on the line. -/
theorem splitFrom_append (hy : ∀ c ∈ y, isBoundary c = false) (hne : y ≠ []) :
    splitFrom line returned (y ++ s) = splitFrom (line ++ y) false s := by
  induction y generalizing line returned with
  | nil => exact absurd rfl hne
  | cons c y ih =>
    rw [List.forall_mem_cons] at hy
    rw [List.cons_append, splitFrom_char hy.1]
    by_cases hnil : y = []
    · rw [hnil, List.nil_append]
    · rw [ih hy.2 hnil, List.append_assoc, List.singleton_append]

/-- Blanks in front of a character are lines of blanks and the start of its line. -/
theorem splitFrom_blank (line : List Char) (returned : Bool) (hline : Blank line) (hw : Blank w) (hnewline : '\n' ∉ w) :
    ∃ blanks front line' returned', (∀ l ∈ blanks, Blank l) ∧ line ++ w = front ++ line' ∧
      ∀ c s, isSpace c = false →
        splitFrom line returned (w ++ c :: s) = blanks ++ splitFrom line' returned' (c :: s) := by
  induction w generalizing line returned with
  | nil => exact ⟨[], [], line, returned, by simp, by simp, fun _ _ _ => rfl⟩
  | cons d w ih =>
    have hd := hw d List.mem_cons_self
    have hw' : Blank w := fun x hx => hw x (List.mem_cons_of_mem _ hx)
    rw [List.mem_cons, not_or] at hnewline
    have hskip : ¬ (returned && d = '\n') = true := by simp [Ne.symm hnewline.1]
    by_cases hboundary : isBoundary d = true
    · obtain ⟨blanks, front, line', returned', hblanks, hsplit, heq⟩ :=
        ih [] (d = '\r') (by simp [Blank]) hw' hnewline.2
      refine ⟨line :: blanks, line ++ d :: front, line', returned', by simpa using ⟨hline, hblanks⟩, ?_, ?_⟩
      · rw [List.nil_append] at hsplit
        rw [hsplit]
        simp
      · intro c s hc
        rw [List.cons_append, splitFrom, if_neg hskip, if_pos hboundary, heq c s hc]
        rfl
    · have hline' : Blank (line ++ [d]) := by
        intro x hx
        rcases List.mem_append.mp hx with hx | hx
        · exact hline x hx
        · exact List.mem_singleton.mp hx ▸ hd
      obtain ⟨blanks, front, line', returned', hblanks, hsplit, heq⟩ :=
        ih (line ++ [d]) false hline' hw' hnewline.2
      refine ⟨blanks, front, line', returned', hblanks, by rw [← hsplit]; simp, ?_⟩
      intro c s hc
      rw [List.cons_append, splitFrom, if_neg hskip, if_neg hboundary, heq c s hc]

/-- Blanks up to the end of a line are lines of blanks. -/
theorem splitFrom_blanks (line : List Char) (returned : Bool) (hline : Blank line) (hw : Blank w) (hnewline : '\n' ∉ w)
    (hreturned : returned = true → line = []) : ∃ blanks, (∀ l ∈ blanks, Blank l) ∧
      ∀ rest, splitFrom line returned (w ++ '\n' :: rest) = blanks ++ splitlines rest := by
  induction w generalizing line returned with
  | nil =>
    cases returned with
    | true =>
      refine ⟨[], by simp, fun rest => ?_⟩
      rw [hreturned rfl]
      rfl
    | false => exact ⟨[line], by simpa using hline, fun rest => rfl⟩
  | cons d w ih =>
    have hd := hw d List.mem_cons_self
    have hw' : Blank w := fun x hx => hw x (List.mem_cons_of_mem _ hx)
    rw [List.mem_cons, not_or] at hnewline
    have hskip : ¬ (returned && d = '\n') = true := by simp [Ne.symm hnewline.1]
    by_cases hboundary : isBoundary d = true
    · obtain ⟨blanks, hblanks, heq⟩ :=
        ih [] (d = '\r') (by simp [Blank]) hw' hnewline.2 fun _ => rfl
      refine ⟨line :: blanks, by simpa using ⟨hline, hblanks⟩, fun rest => ?_⟩
      rw [List.cons_append, splitFrom, if_neg hskip, if_pos hboundary, heq rest]
      rfl
    · have hline' : Blank (line ++ [d]) := by
        intro x hx
        rcases List.mem_append.mp hx with hx | hx
        · exact hline x hx
        · exact List.mem_singleton.mp hx ▸ hd
      obtain ⟨blanks, hblanks, heq⟩ := ih (line ++ [d]) false hline' hw' hnewline.2 (by simp)
      refine ⟨blanks, hblanks, fun rest => ?_⟩
      rw [List.cons_append, splitFrom, if_neg hskip, if_neg hboundary, heq rest]

/-- The line that starts with a character ends at the first boundary. -/
theorem splitFrom_object (hc : isSpace c = false) (hy : ∀ c ∈ y, isBoundary c = false) (s : List Char) :
    splitFrom line returned (c :: y ++ s) = splitFrom (line ++ c :: y) false s := by
  refine splitFrom_append ?_ (List.cons_ne_nil c y)
  rw [List.forall_mem_cons]
  exact ⟨not_isBoundary hc, hy⟩

end

/-! ## Objects -/

/-- A decoder of JSON objects: an object stands between braces, blanks around it do not matter, and
nothing but blanks can follow it. -/
structure Decoder (ε : Type) where
  decode : List Char → Option ε
  braces : ∀ t e, decode t = some e → ∃ w b w', JsonBlank w ∧ JsonBlank w' ∧ t = w ++ '{' :: (b ++ '}' :: w')
  blanks : ∀ w t w', JsonBlank w → JsonBlank w' → decode (w ++ t ++ w') = decode t
  whole : ∀ t r e e', decode t = some e → decode (t ++ r) = some e' → JsonBlank r

/-- A boundary between two characters of a text that are no blanks. -/
def Broken (t : List Char) : Prop :=
  ∃ a b c, t = a ++ b :: c ∧ isBoundary b = true ∧ ¬ Blank a ∧ ¬ Blank c

theorem Blank.subset {a t : List Char} (h : Blank t) (hsub : ∀ c ∈ a, c ∈ t) : Blank a := fun c hc => h c (hsub c hc)

/-- In front of a boundary there are blanks only when the text behind the blanks has none. -/
theorem blank_of_split {w x a c : List Char} {b : Char} (hw : Blank w) (hx : ∀ c ∈ x, isBoundary c = false)
    (hb : isBoundary b = true) (h : w ++ x = a ++ b :: c) : Blank a := by
  rcases List.append_eq_append_iff.mp h with ⟨a', rfl, hx'⟩ | ⟨c', rfl, -⟩
  · have hfalse := hx b (by rw [hx']; simp)
    rw [hb] at hfalse
    cases hfalse
  · exact hw.subset fun c hc => List.mem_append_left c' hc

/-- Blanks at the end of an object lie behind its brace. -/
theorem jsonBlank_of_split {b w y z : List Char} (hw : JsonBlank w) (hz : Blank z) (h : b ++ '}' :: w = y ++ z) :
    JsonBlank z := by
  have hbrace : '}' ∉ z := fun hmem => absurd (hz '}' hmem) (by decide)
  rcases List.append_eq_append_iff.mp h with ⟨a, -, hw'⟩ | ⟨c, -, rfl⟩
  · cases a with
    | nil =>
      rw [List.nil_append] at hw'
      exact absurd (hw' ▸ List.mem_cons_self) hbrace
    | cons d a =>
      obtain ⟨-, rfl⟩ := List.cons.inj hw'
      exact fun c hc => hw c (List.mem_append_right a hc)
  · exact absurd (List.mem_append_right c List.mem_cons_self) hbrace

section
variable {ε : Type} (decoder : Decoder ε) {t : List Char} {e : ε}

theorem Decoder.decode_front {w x : List Char} (hw : JsonBlank w) : decoder.decode (w ++ x) = decoder.decode x := by
  simpa using decoder.blanks w x [] hw (by simp [JsonBlank])

/-- The first line that is more than blanks, and what the lines behind it are. -/
theorem exists_first_line (hdecode : decoder.decode t = some e) (hnewline : '\n' ∉ t) :
    ∃ blanks p, (∀ l ∈ blanks, Blank l) ∧ ¬ Blank p ∧
      ((Broken t ∧ decoder.decode p = none ∧ ∀ rest, ∃ others, splitlines (t ++ '\n' :: rest) = blanks ++ p :: others) ∨
        (¬ Broken t ∧ decoder.decode p = some e ∧
          ∃ others, (∀ l ∈ others, Blank l) ∧
            ∀ rest, splitlines (t ++ '\n' :: rest) = blanks ++ p :: (others ++ splitlines rest))) := by
  obtain ⟨w, b, w', hw, hw', rfl⟩ := decoder.braces t e hdecode
  have hbrace : isSpace '{' = false := by decide
  -- the text behind the brace, up to the first boundary and from there on
  obtain ⟨y, z, hy, hz, hyz⟩ : ∃ y z, (∀ c ∈ y, isBoundary c = false) ∧ (∀ d z', z = d :: z' → isBoundary d = true) ∧
      b ++ '}' :: w' = y ++ z := by
    refine ⟨_, _, fun c hc => ?_, fun d z' hd => ?_,
      (List.takeWhile_append_dropWhile (p := fun c => !isBoundary c) (l := b ++ '}' :: w')).symm⟩
    · simpa using List.mem_takeWhile_imp hc
    · have hhead := List.dropWhile_get_zero_not (fun c => !isBoundary c) (b ++ '}' :: w') (by rw [hd]; simp)
      simpa [hd] using hhead
  rw [hyz] at hdecode hnewline ⊢
  simp only [List.mem_append, List.mem_cons, not_or] at hnewline
  obtain ⟨blanks, front, line, returned, hblanks, hsplit, hlines⟩ :=
    splitFrom_blank [] false (by simp [Blank]) hw.blank hnewline.1
  rw [List.nil_append] at hsplit
  have hline : JsonBlank line := fun c hc => hw c (by rw [hsplit]; exact List.mem_append_right front hc)
  have hfirst : ∀ rest, splitlines (w ++ '{' :: (y ++ z) ++ '\n' :: rest) =
      blanks ++ splitFrom (line ++ '{' :: y) false (z ++ '\n' :: rest) := by
    intro rest
    have htext : w ++ '{' :: (y ++ z) ++ '\n' :: rest = w ++ '{' :: (y ++ (z ++ '\n' :: rest)) := by simp
    rw [splitlines, htext, hlines _ _ hbrace, ← List.cons_append, splitFrom_object hbrace hy]
  have hdecodeFirst : decoder.decode (line ++ '{' :: y) = decoder.decode (w ++ '{' :: y) := by
    rw [decoder.decode_front hline, decoder.decode_front hw]
  have hobject : ∀ c ∈ '{' :: y, isBoundary c = false := by
    rw [List.forall_mem_cons]
    exact ⟨not_isBoundary hbrace, hy⟩
  refine ⟨blanks, line ++ '{' :: y, hblanks, fun h => absurd (h '{' (by simp)) (by decide), ?_⟩
  cases z with
  | nil =>
    refine .inr ⟨?_, ?_, [], by simp, fun rest => ?_⟩
    · rintro ⟨a, d, c, heq, hd, ha, -⟩
      rw [List.append_nil] at heq
      exact ha (blank_of_split hw.blank hobject hd heq)
    · rw [hdecodeFirst]
      simpa using hdecode
    · rw [hfirst, List.nil_append, splitFrom_newline, List.nil_append]
  | cons d z =>
    have hd := hz d z rfl
    have hrest : ∀ rest, splitFrom (line ++ '{' :: y) false (d :: z ++ '\n' :: rest) =
        (line ++ '{' :: y) :: splitFrom [] (d = '\r') (z ++ '\n' :: rest) := fun rest => by
      simp [splitFrom, hd]
    by_cases hblank : Blank z
    · right
      have hdz : JsonBlank (d :: z) := jsonBlank_of_split hw' (by
        rw [Blank, List.forall_mem_cons]
        exact ⟨isSpace_of_isBoundary hd, hblank⟩) hyz
      obtain ⟨others, hothers, hlast⟩ := splitFrom_blanks [] (d = '\r') (by simp [Blank]) hblank
        (fun h => hnewline.2.2.2 (List.mem_cons_of_mem _ h)) fun _ => rfl
      refine ⟨?_, ?_, others, hothers, fun rest => by rw [hfirst, hrest, hlast]⟩
      · rintro ⟨a, d', c, heq, hd', ha, hc⟩
        have heq' : (w ++ '{' :: y) ++ d :: z = a ++ d' :: c := by rw [← heq]; simp
        rcases List.append_eq_append_iff.mp heq' with ⟨a', -, hdz'⟩ | ⟨c', hc', hdc⟩
        · refine hc (hdz.blank.subset fun x hx => ?_)
          rw [hdz']
          simp [hx]
        · cases c' with
          | nil =>
            rw [List.nil_append] at hdc
            exact hc ((List.cons.inj hdc).2 ▸ hblank)
          | cons d'' c'' =>
            obtain ⟨rfl, -⟩ := List.cons.inj hdc
            exact ha (blank_of_split hw.blank hobject hd' hc')
      · have htext : w ++ '{' :: (y ++ d :: z) = w ++ ('{' :: y) ++ (d :: z) := by simp
        rw [htext, decoder.blanks w _ _ hw hdz] at hdecode
        rw [hdecodeFirst, decoder.decode_front hw]
        exact hdecode
    · left
      refine ⟨⟨w ++ '{' :: y, d, z, by simp, hd, fun h => absurd (h '{' (by simp)) (by decide), hblank⟩, ?_,
        fun rest => ⟨_, by rw [hfirst, hrest]⟩⟩
      rw [hdecodeFirst]
      cases hnone : decoder.decode (w ++ '{' :: y) with
      | none => rfl
      | some e' =>
        have htext : w ++ '{' :: (y ++ d :: z) = (w ++ '{' :: y) ++ (d :: z) := by simp
        rw [htext] at hdecode
        have hjson := decoder.whole _ _ _ _ hnone hdecode
        exact absurd (hjson.blank.subset fun x hx => List.mem_cons_of_mem d hx) hblank

end

/-! ## A decoder of one object -/

section
variable {ε : Type}

/-- A text without the blanks around it. -/
def strip (t : List Char) : List Char := (t.dropWhile isJsonBlank).rdropWhile isJsonBlank

theorem rdropWhile_append {x w : List Char} (hw : JsonBlank w) :
    (x ++ w).rdropWhile isJsonBlank = x.rdropWhile isJsonBlank := by
  rw [List.rdropWhile, List.reverse_append, List.dropWhile_append_of_pos fun c hc => hw c (List.mem_reverse.mp hc)]
  rfl

theorem strip_append {w t w' : List Char} (hw : JsonBlank w) (hw' : JsonBlank w') : strip (w ++ t ++ w') = strip t := by
  rw [strip, strip, List.append_assoc, List.dropWhile_append_of_pos hw, List.dropWhile_append]
  split_ifs with hempty
  · rw [List.isEmpty_iff.mp hempty, List.dropWhile_eq_nil_iff.mpr hw']
  · exact rdropWhile_append hw'

theorem exists_strip (t : List Char) : ∃ w w', JsonBlank w ∧ JsonBlank w' ∧ t = w ++ strip t ++ w' := by
  refine ⟨t.takeWhile isJsonBlank, (t.dropWhile isJsonBlank).rtakeWhile isJsonBlank,
    fun c hc => List.mem_takeWhile_imp hc, fun c hc => List.mem_rtakeWhile_imp hc, ?_⟩
  rw [List.append_assoc, strip, List.rdropWhile_append_rtakeWhile, List.takeWhile_append_dropWhile]

theorem strip_object (b : List Char) : strip ('{' :: (b ++ ['}'])) = '{' :: (b ++ ['}']) := by
  have hfront : ('{' :: (b ++ ['}'])).dropWhile isJsonBlank = '{' :: (b ++ ['}']) :=
    List.dropWhile_cons_of_neg (by decide)
  rw [strip, hfront, ← List.cons_append, List.rdropWhile_concat_neg _ _ _ (by decide)]

/-- Behind an object that is left of a text there are blanks. -/
theorem jsonBlank_of_strip {w b x : List Char} (hw : JsonBlank w)
    (h : strip (w ++ '{' :: (b ++ '}' :: x)) = '{' :: (b ++ ['}'])) : JsonBlank x := by
  have hfront : (w ++ '{' :: (b ++ '}' :: x)).dropWhile isJsonBlank = '{' :: (b ++ ['}']) ++ x := by
    rw [List.dropWhile_append_of_pos hw, List.dropWhile_cons_of_neg (by decide)]
    simp
  rw [strip, hfront] at h
  have hall := List.rdropWhile_append_rtakeWhile (p := isJsonBlank) (l := '{' :: (b ++ ['}']) ++ x)
  rw [h] at hall
  rw [← List.append_cancel_left hall]
  exact fun c hc => List.mem_rtakeWhile_imp hc

/-- A decoder that knows one object, by the text between its braces. -/
def Decoder.single (b : List Char) (e : ε) : Decoder ε where
  decode t := if strip t = '{' :: (b ++ ['}']) then some e else none
  braces := by
    intro t e' h
    split_ifs at h with hstrip
    obtain ⟨w, w', hw, hw', ht⟩ := exists_strip t
    refine ⟨w, b, w', hw, hw', ?_⟩
    rw [ht, hstrip]
    simp
  blanks := by
    intro w t w' hw hw'
    rw [strip_append hw hw']
  whole := by
    intro t r e₁ e₂ h h'
    split_ifs at h h' with hstrip hstrip'
    obtain ⟨w, w', hw, hw', ht⟩ := exists_strip t
    have htext : t ++ r = w ++ '{' :: (b ++ '}' :: (w' ++ r)) := by
      rw [ht, hstrip]
      simp
    rw [htext] at hstrip'
    exact fun c hc => jsonBlank_of_strip hw hstrip' c (List.mem_append_right w' hc)

theorem Decoder.decode_single {b : List Char} {e : ε} :
    (Decoder.single b e).decode ('{' :: (b ++ ['}'])) = some e := if_pos (strip_object b)

end

end JsonLines
