import Mathlib.Data.List.Chain
/-!
# Numerals in a text

A numeral is digits with separators between them, a sign in front and a percent mark behind.
`scan` finds numerals from left to right, each as long as it goes, and none right behind a
blocked character. `Numeral` says where a text has a numeral that is neither part of a longer one
nor glued to what stands around it: `scan` finds all of these (`mem_scan`).
-/

namespace Numerals

/-- The characters numerals are made of. -/
structure Alphabet (γ : Type) where
  digit : γ → Bool
  sign : γ → Bool
  separator : γ → Bool
  percent : γ → Bool
  sign_digit : ∀ c, sign c = true → digit c = false
  separator_digit : ∀ c, separator c = true → digit c = false
  percent_digit : ∀ c, percent c = true → digit c = false
  sign_separator : ∀ c, sign c = true → separator c = false
  sign_percent : ∀ c, sign c = true → percent c = false
  percent_separator : ∀ c, percent c = true → separator c = false

variable {γ : Type} (A : Alphabet γ)

/-! ## Numerals -/

/-- Digits, and a separator between two of them. -/
inductive Body : List γ → Prop where
  | digit {c : γ} (hc : A.digit c = true) : Body [c]
  | more {c : γ} {b : List γ} (hc : A.digit c = true) (h : Body b) : Body (c :: b)
  | separated {c s : γ} {b : List γ} (hc : A.digit c = true) (hs : A.separator s = true) (h : Body b) :
      Body (c :: s :: b)

/-- At most one character of a kind. -/
def Mark (kind : γ → Bool) (m : List γ) : Prop := m = [] ∨ ∃ c, kind c = true ∧ m = [c]

/-- A numeral with its marks. -/
structure Written (tok : List γ) : Prop where
  parts : ∃ front body back, tok = front ++ (body ++ back) ∧ Mark A.sign front ∧ Body A body ∧ Mark A.percent back

/-- The numeral is part of no longer one. -/
structure Maximal (pre tok post : List γ) : Prop where
  written : Written A tok
  longest : ∀ pre' tok' post', pre' ++ tok' ++ post' = pre ++ tok ++ post → pre'.length ≤ pre.length →
    post'.length ≤ post.length → Written A tok' → tok' = tok

/-- Somewhere in the text the numeral is maximal, and nothing it is glued to stands beside it. -/
def Numeral (glue : γ → Bool) (text tok : List γ) : Prop :=
  ∃ pre post, text = pre ++ tok ++ post ∧ Maximal A pre tok post ∧ (∀ c ∈ pre.getLast?, glue c = false) ∧
    ∀ c ∈ post.head?, glue c = false

/-! ## The scanner -/

/-- The digits and separators at the head, a separator only before a digit. -/
def run : List γ → List γ
  | [] => []
  | c :: cs => if A.digit c || (A.separator c && cs.head?.any A.digit) then c :: run cs else []

/-- What `run` takes, with the percent mark behind it. -/
def number (cs : List γ) : List γ :=
  let body := run A cs
  body ++ ((cs.drop body.length).head?.filter A.percent).toList

/-- The numeral at the head. -/
def tokenAt : List γ → Option (List γ)
  | [] => none
  | c :: cs =>
    if A.sign c then if cs.head?.any A.digit then some (c :: number A cs) else none
    else if A.digit c then some (number A (c :: cs))
    else none

/-- The numerals from left to right, `skip` characters being taken already and `previous` before the rest. -/
def scan (blocked : γ → Bool) : Nat → Option γ → List γ → List (List γ)
  | _, _, [] => []
  | skip + 1, _, c :: cs => scan blocked skip (some c) cs
  | 0, previous, c :: cs =>
    match if previous.any blocked then none else tokenAt A (c :: cs) with
    | some tok => tok :: scan blocked (tok.length - 1) (some c) cs
    | none => scan blocked 0 (some c) cs

variable {A}

/-! ## Bodies -/

namespace Body
variable {b : List γ}

theorem head (h : Body A b) : ∃ c cs, b = c :: cs ∧ A.digit c = true := by
  cases h with
  | digit hc => exact ⟨_, _, rfl, hc⟩
  | more hc _ => exact ⟨_, _, rfl, hc⟩
  | separated hc _ _ => exact ⟨_, _, rfl, hc⟩

theorem mem (h : Body A b) : ∀ c ∈ b, A.digit c = true ∨ A.separator c = true := by
  induction h with
  | digit hc => simp [hc]
  | more hc _ ih => exact List.forall_mem_cons.mpr ⟨.inl hc, ih⟩
  | separated hc hs _ ih => exact List.forall_mem_cons.mpr ⟨.inl hc, List.forall_mem_cons.mpr ⟨.inr hs, ih⟩⟩

theorem append_digit (h : Body A b) {d : γ} (hd : A.digit d = true) : Body A (b ++ [d]) := by
  induction h with
  | digit hc => exact .more hc (.digit hd)
  | more hc _ ih => exact .more hc ih
  | separated hc hs _ ih => exact .separated hc hs ih

theorem append_separated (h : Body A b) {s d : γ} (hs : A.separator s = true) (hd : A.digit d = true) :
    Body A (b ++ [s, d]) := by
  induction h with
  | digit hc => exact .separated hc hs (.digit hd)
  | more hc _ ih => exact .more hc ih
  | separated hc hs' _ ih => exact .separated hc hs' ih

theorem run_append (h : Body A b) (post : List γ) : run A (b ++ post) = b ++ run A post := by
  induction h with
  | digit hc => simp [run, hc]
  | more hc _ ih => simp [run, hc, ih]
  | separated hc hs h ih =>
    obtain ⟨d, ds, rfl, hd⟩ := h.head
    simp only [List.cons_append] at ih ⊢
    rw [run, if_pos (by simp [hc]), run, if_pos (by simp [hs, hd]), ih]

end Body

/-- What stands beside what in a numeral. -/
def Beside (A : Alphabet γ) (x y : γ) : Prop :=
  A.digit x = true ∨ ((A.sign x = true ∨ A.separator x = true) ∧ A.digit y = true)

theorem Body.chain {b : List γ} (h : Body A b) : b.IsChain (Beside A) ∧ ∃ d ∈ b.getLast?, A.digit d = true := by
  induction h with
  | digit hc => exact ⟨List.isChain_singleton _, _, rfl, hc⟩
  | @more c b hc h ih =>
    obtain ⟨d, ds, rfl, hd⟩ := h.head
    obtain ⟨l, hl, hlast⟩ := ih.2
    exact ⟨List.isChain_cons_cons.mpr ⟨.inl hc, ih.1⟩, l, by simpa using hl, hlast⟩
  | @separated c s b hc hs h ih =>
    obtain ⟨d, ds, rfl, hd⟩ := h.head
    obtain ⟨l, hl, hlast⟩ := ih.2
    refine ⟨List.isChain_cons_cons.mpr ⟨.inl hc, List.isChain_cons_cons.mpr ⟨.inr ⟨.inr hs, hd⟩, ih.1⟩⟩, l, ?_, hlast⟩
    simpa using hl

namespace Written
variable {tok : List γ}

theorem chain (h : Written A tok) : tok.IsChain (Beside A) := by
  obtain ⟨front, body, back, rfl, hfront, hbody, hback⟩ := h.parts
  obtain ⟨hchain, l, hl, hlast⟩ := hbody.chain
  obtain ⟨d, ds, hbody', hd⟩ := hbody.head
  have hrest : (body ++ back).IsChain (Beside A) := by
    refine List.isChain_append.mpr ⟨hchain, ?_, ?_⟩
    · rcases hback with rfl | ⟨p, -, rfl⟩
      · exact List.isChain_nil
      · exact List.isChain_singleton _
    · intro x hx y _
      rw [Option.mem_def.mp hl] at hx
      cases hx
      exact .inl hlast
  rcases hfront with rfl | ⟨s, hs, rfl⟩
  · exact hrest
  · rw [List.singleton_append]
    rw [hbody', List.cons_append] at hrest ⊢
    exact List.isChain_cons_cons.mpr ⟨.inr ⟨.inl hs, hd⟩, hrest⟩

/-- The first character is a sign or a digit. -/
theorem head (h : Written A tok) : ∃ c cs, tok = c :: cs ∧ (A.sign c = true ∨ A.digit c = true) := by
  obtain ⟨front, body, back, rfl, hfront, hbody, -⟩ := h.parts
  obtain ⟨d, ds, rfl, hd⟩ := hbody.head
  rcases hfront with rfl | ⟨s, hs, rfl⟩
  · exact ⟨_, _, rfl, .inr hd⟩
  · exact ⟨_, _, rfl, .inl hs⟩

theorem mem (h : Written A tok) {c : γ} (hc : c ∈ tok) :
    A.digit c = true ∨ A.separator c = true ∨ A.sign c = true ∨ A.percent c = true := by
  obtain ⟨front, body, back, rfl, hfront, hbody, hback⟩ := h.parts
  rcases List.mem_append.mp hc with hc | hc
  · rcases hfront with rfl | ⟨s, hs, rfl⟩
    · cases hc
    · rw [List.mem_singleton.mp hc]
      exact .inr (.inr (.inl hs))
  · rcases List.mem_append.mp hc with hc | hc
    · rcases hbody.mem c hc with h | h
      · exact .inl h
      · exact .inr (.inl h)
    · rcases hback with rfl | ⟨p, hp, rfl⟩
      · cases hc
      · rw [List.mem_singleton.mp hc]
        exact .inr (.inr (.inr hp))

/-- A numeral that starts with a digit has no sign. -/
theorem unsigned (h : Written A tok) {c : γ} (hc : c ∈ tok.head?) (hd : A.digit c = true) :
    ∃ body back, tok = body ++ back ∧ Body A body ∧ Mark A.percent back := by
  obtain ⟨front, body, back, rfl, hfront, hbody, hback⟩ := h.parts
  rcases hfront with rfl | ⟨s, hs, rfl⟩
  · exact ⟨body, back, rfl, hbody, hback⟩
  · obtain rfl : s = c := by simpa using hc
    rw [A.sign_digit s hs] at hd
    cases hd

theorem cons_sign (h : Written A tok) {c s : γ} (hc : c ∈ tok.head?) (hd : A.digit c = true) (hs : A.sign s = true) :
    Written A (s :: tok) := by
  obtain ⟨body, back, rfl, hbody, hback⟩ := h.unsigned hc hd
  exact ⟨[s], body, back, rfl, .inr ⟨s, hs, rfl⟩, hbody, hback⟩

theorem cons_separated (h : Written A tok) {c d s : γ} (hc : c ∈ tok.head?) (hcd : A.digit c = true)
    (hd : A.digit d = true) (hs : A.separator s = true) : Written A (d :: s :: tok) := by
  obtain ⟨body, back, rfl, hbody, hback⟩ := h.unsigned hc hcd
  exact ⟨[], d :: s :: body, back, rfl, .inl rfl, .separated hd hs hbody, hback⟩

end Written

/-! ## What the scanner takes -/

theorem run_starts (cs : List γ) : run A cs <+: cs := by
  induction cs with
  | nil => exact List.prefix_rfl
  | cons c cs ih =>
    rw [run]
    split
    · exact List.cons_prefix_cons.mpr ⟨rfl, ih⟩
    · exact List.nil_prefix

theorem run_body : ∀ {cs : List γ} {c : γ}, c ∈ cs.head? → A.digit c = true → Body A (run A cs)
  | c :: cs, _, hc, hd => by
    obtain rfl : c = _ := by simpa using hc
    rw [run, if_pos (by simp [hd])]
    match cs with
    | [] => exact .digit hd
    | c' :: cs =>
      by_cases hc' : A.digit c' = true
      · exact .more hd (run_body rfl hc')
      · by_cases hs : A.separator c' = true ∧ ∃ d ∈ cs.head?, A.digit d = true
        · obtain ⟨hs, d, hdcs, hdd⟩ := hs
          rw [run, if_pos (by rw [Option.mem_def.mp hdcs]; simp [hs, hdd])]
          exact .separated hd hs (run_body hdcs hdd)
        · rw [run, if_neg]
          · exact .digit hd
          · simp only [Bool.or_eq_true, Bool.and_eq_true, Option.any_eq_true, not_or]
            exact ⟨hc', fun ⟨h, d, hd, hdd⟩ => hs ⟨h, d, hd, hdd⟩⟩

theorem mark_percent (cs : List γ) : Mark A.percent (cs.head?.filter A.percent).toList := by
  cases cs with
  | nil => exact .inl rfl
  | cons c cs =>
    by_cases hc : A.percent c = true
    · exact .inr ⟨c, hc, by simp [Option.filter, hc]⟩
    · exact .inl (by simp [Option.filter, hc])

theorem number_starts (cs : List γ) : number A cs <+: cs := by
  have hmark : ∀ ds : List γ, (ds.head?.filter A.percent).toList <+: ds := by
    intro ds
    cases ds with
    | nil => exact List.prefix_rfl
    | cons d ds => by_cases hd : A.percent d = true <;> simp [Option.filter, hd]
  have h : run A cs ++ _ <+: run A cs ++ cs.drop (run A cs).length := (List.prefix_append_right_inj _).mpr (hmark _)
  rwa [List.prefix_iff_eq_append.mp (run_starts cs)] at h

/-- What is found is a numeral at the head. -/
theorem tokenAt_some {cs tok : List γ} (h : tokenAt A cs = some tok) : Written A tok ∧ tok <+: cs := by
  cases cs with
  | nil => cases h
  | cons c cs =>
    rw [tokenAt] at h
    split at h
    · next hs =>
      split at h
      · next hd =>
        obtain ⟨d, hd, hdd⟩ := (Option.any_eq_true _ _).mp hd
        cases h
        exact ⟨⟨[c], _, _, rfl, .inr ⟨c, hs, rfl⟩, run_body hd hdd, mark_percent _⟩,
          List.cons_prefix_cons.mpr ⟨rfl, number_starts cs⟩⟩
      · cases h
    · split at h
      · next hd =>
        cases h
        exact ⟨⟨[], _, _, rfl, .inl rfl, run_body rfl hd, mark_percent _⟩, number_starts _⟩
      · cases h

namespace Maximal
variable {pre tok post : List γ}

theorem not_written_append (h : Maximal A pre tok post) {more rest : List γ} (hpost : post = more ++ rest)
    (hmore : more ≠ []) : ¬ Written A (tok ++ more) := by
  intro hwritten
  have heq := h.longest pre (tok ++ more) rest (by rw [hpost]; simp) le_rfl (by rw [hpost]; simp) hwritten
  exact hmore (by simpa using heq)

theorem not_written_cons (h : Maximal A pre tok post) {rest more : List γ} (hpre : pre = rest ++ more)
    (hmore : more ≠ []) : ¬ Written A (more ++ tok) := by
  intro hwritten
  have heq := h.longest rest (more ++ tok) post (by rw [hpre]; simp) (by rw [hpre]; simp) le_rfl hwritten
  exact hmore (by simpa using heq)

/-- Nothing behind a numeral without a percent mark continues it. -/
theorem stops (h : Maximal A pre tok post) {front body : List γ} (htok : tok = front ++ body)
    (hfront : Mark A.sign front) (hbody : Body A body) : run A post = [] ∧ post.head?.filter A.percent = none := by
  have hlonger : ∀ {body' back rest : List γ} (more : List γ), post = more ++ rest → more ≠ [] → body' ++ back = body ++ more →
      Body A body' → Mark A.percent back → False := by
    intro body' back rest more hpost hmore heq hbody' hback
    refine h.not_written_append hpost hmore ⟨front, body', back, ?_, hfront, hbody', hback⟩
    rw [htok, heq, List.append_assoc]
  cases post with
  | nil => exact ⟨rfl, rfl⟩
  | cons c cs =>
    constructor
    · rw [run, if_neg]
      simp only [Bool.or_eq_true, Bool.and_eq_true, Option.any_eq_true, not_or]
      constructor
      · exact fun hc => hlonger [c] rfl (by simp) (List.append_nil _) (hbody.append_digit hc) (.inl rfl)
      · rintro ⟨hc, d, hd, hdd⟩
        obtain ⟨ds, rfl⟩ := List.head?_eq_some_iff.mp hd
        exact hlonger [c, d] rfl (by simp) (List.append_nil _) (hbody.append_separated hc hdd) (.inl rfl)
    · by_contra hne
      have hc : A.percent c = true := by
        by_contra hc
        exact hne (by simp [Option.filter, hc])
      exact hlonger [c] rfl (by simp) rfl hbody (.inr ⟨c, hc, rfl⟩)

end Maximal

/-- A numeral at the head is found where nothing behind it continues it. -/
theorem tokenAt_append {pre tok post : List γ} (h : Maximal A pre tok post) : tokenAt A (tok ++ post) = some tok := by
  obtain ⟨front, body, back, rfl, hfront, hbody, hback⟩ := h.written.parts
  obtain ⟨d, ds, hds, hd⟩ := hbody.head
  have hnumber : number A (body ++ (back ++ post)) = body ++ back := by
    have hstop : run A (back ++ post) = [] ∧ ((back ++ post).head?.filter A.percent).toList = back := by
      rcases hback with rfl | ⟨p, hp, rfl⟩
      · obtain ⟨hrun, hpercent⟩ := h.stops (by rw [List.append_nil]) hfront hbody
        exact ⟨hrun, by rw [List.nil_append, hpercent]; rfl⟩
      · simp [run, A.percent_digit p hp, A.percent_separator p hp, Option.filter, hp]
    unfold number
    rw [hbody.run_append, hstop.1, List.append_nil]
    dsimp only
    rw [List.drop_left, hstop.2]
  rcases hfront with rfl | ⟨s, hs, rfl⟩
  · rw [List.nil_append, List.append_assoc]
    rw [hds, List.cons_append] at hnumber ⊢
    have hsign : A.sign d = false := by
      by_contra hne
      rw [A.sign_digit d (by simpa using hne)] at hd
      cases hd
    rw [tokenAt, if_neg (by simp [hsign]), if_pos hd, hnumber]
  · rw [List.append_assoc, List.append_assoc, List.singleton_append, tokenAt, if_pos hs, if_pos (by simp [hds, hd]),
      hnumber]
    rfl

/-- A numeral found before a maximal one ends before it. -/
theorem Maximal.length_le {pre tok post : List γ} (h : Maximal A pre tok post) {glue : γ → Bool}
    (hdigit : ∀ c, A.digit c = true → glue c = true) (hglue : ∀ c ∈ pre.getLast?, glue c = false) {done q t : List γ}
    (hpre : pre = done ++ q) (hq : q ≠ []) (ht : Written A t) (hstarts : t <+: q ++ (tok ++ post)) :
    t.length ≤ q.length := by
  by_contra hlt
  -- it would go on into the maximal one, over the last character before that
  obtain ⟨r, rfl⟩ : q <+: t :=
    List.prefix_of_prefix_length_le (List.prefix_append ..) hstarts (by omega)
  obtain ⟨y, ys, htok, -⟩ := h.written.head
  obtain ⟨z, zs, rfl⟩ : ∃ z zs, r = z :: zs := by
    cases r with
    | nil => simp at hlt
    | cons z zs => exact ⟨z, zs, rfl⟩
  obtain rfl : z = y := by
    rw [htok, List.prefix_append_right_inj, List.cons_append] at hstarts
    exact (List.cons_prefix_cons.mp hstarts).1
  have hhead : z ∈ tok.head? := by rw [htok]; rfl
  obtain ⟨us, x, rfl⟩ := (List.eq_nil_or_concat' q).resolve_left hq
  have hx : A.digit x = false := by
    by_contra hne
    have := hglue x (by rw [hpre]; simp)
    rw [hdigit x (by simpa using hne)] at this
    cases this
  have hchain := ht.chain
  rw [List.isChain_append] at hchain
  rcases hchain.2.2 x (by simp) z rfl with hd | ⟨hs | hs, hz⟩
  · rw [hx] at hd
    cases hd
  · refine h.not_written_cons (show pre = (done ++ us) ++ [x] by rw [hpre]; simp) (by simp) ?_
    exact h.written.cons_sign hhead hz hs
  · rcases List.eq_nil_or_concat' us with rfl | ⟨vs, w, rfl⟩
    · obtain ⟨c, cs, hc, hfirst⟩ := ht.head
      obtain ⟨rfl, -⟩ := List.cons.inj hc
      rcases hfirst with hfirst | hfirst
      · have := A.sign_separator x hfirst
        rw [hs] at this
        cases this
      · rw [hx] at hfirst
        cases hfirst
    · have hbefore := hchain.1
      rw [List.isChain_append] at hbefore
      rcases hbefore.2.2 w (by simp) x rfl with hw | ⟨-, hd⟩
      · refine h.not_written_cons (show pre = (done ++ vs) ++ [w, x] by rw [hpre]; simp) (by simp) ?_
        exact h.written.cons_separated hhead hz hw hs
      · rw [hx] at hd
        cases hd

/-! ## The scanner finds the numerals -/

theorem written_of_mem_scan {blocked : γ → Bool} {tok cs : List γ} {skip : Nat} {previous : Option γ}
    (h : tok ∈ scan A blocked skip previous cs) : Written A tok := by
  induction cs generalizing skip previous with
  | nil => cases skip <;> simp [scan] at h
  | cons c cs ih =>
    cases skip with
    | succ skip => exact ih h
    | zero =>
      rw [scan] at h
      split at h
      · next t ht =>
        rcases List.mem_cons.mp h with rfl | h
        · split at ht
          · cases ht
          · exact (tokenAt_some ht).1
        · exact ih h
      · exact ih h

theorem scan_skip {blocked : γ → Bool} {cs : List γ} {skip : Nat} {previous : Option γ} (h : cs.length ≤ skip) :
    scan A blocked skip previous cs = [] := by
  induction cs generalizing skip previous with
  | nil => cases skip <;> rfl
  | cons c cs ih =>
    obtain ⟨skip, rfl⟩ := Nat.exists_eq_add_one_of_ne_zero (Nat.ne_zero_of_lt (Nat.lt_of_lt_of_le (Nat.succ_pos _) h))
    exact ih (Nat.le_of_succ_le_succ h)

/-- A numeral alone is maximal. -/
theorem Written.maximal {tok : List γ} (h : Written A tok) : Maximal A [] tok [] := by
  refine ⟨h, fun pre' tok' post' heq hpre hpost _ => ?_⟩
  obtain rfl := List.eq_nil_of_length_eq_zero (Nat.le_zero.mp hpre)
  obtain rfl := List.eq_nil_of_length_eq_zero (Nat.le_zero.mp hpost)
  simpa using heq

/-- Of a numeral alone the scanner finds the numeral. -/
theorem scan_written {blocked : γ → Bool} {tok : List γ} (h : Written A tok) : scan A blocked 0 none tok = [tok] := by
  have hfound := tokenAt_append h.maximal
  rw [List.append_nil] at hfound
  obtain ⟨c, cs, rfl, -⟩ := h.head
  rw [scan]
  simp only [Option.any_none, Bool.false_eq_true, if_false, hfound]
  rw [scan_skip (by simp)]

theorem mem_scan_of_maximal {blocked glue : γ → Bool} (hblocked : ∀ c, blocked c = true → glue c = true)
    (hdigit : ∀ c, A.digit c = true → glue c = true) {pre tok post : List γ} (h : Maximal A pre tok post)
    (hglue : ∀ c ∈ pre.getLast?, glue c = false) {done q : List γ} {skip : Nat} {previous : Option γ}
    (hpre : pre = done ++ q) (hskip : skip ≤ q.length) (hprevious : q = [] → ∀ c ∈ previous, glue c = false) :
    tok ∈ scan A blocked skip previous (q ++ (tok ++ post)) := by
  induction q generalizing done skip previous with
  | nil =>
    obtain rfl := Nat.le_zero.mp hskip
    have hunblocked : previous.any blocked = false := by
      by_contra hne
      obtain ⟨c, hc, hb⟩ := (Option.any_eq_true _ _).mp (Bool.not_eq_false _ ▸ hne)
      have := hprevious rfl c hc
      rw [hblocked c hb] at this
      cases this
    have hfound := tokenAt_append h
    obtain ⟨c, cs, hcs, -⟩ := h.written.head
    rw [List.nil_append]
    rw [hcs, List.cons_append] at hfound ⊢
    rw [scan]
    simp only [hunblocked, Bool.false_eq_true, if_false, hfound]
    exact List.mem_cons_self ..
  | cons c q ih =>
    have hlast : q = [] → ∀ x ∈ some c, glue x = false := by
      rintro rfl x hx
      obtain rfl := Option.some.inj hx
      exact hglue c (by rw [hpre]; simp)
    have hrest : pre = (done ++ [c]) ++ q := by rw [hpre]; simp
    rw [List.cons_append]
    cases skip with
    | succ skip => exact ih hrest (Nat.le_of_succ_le_succ hskip) hlast
    | zero =>
      rw [scan]
      split
      · next t ht =>
        split at ht
        · cases ht
        · obtain ⟨hwritten, hstarts⟩ := tokenAt_some ht
          have hlength := h.length_le hdigit hglue (q := c :: q) hpre (by simp) hwritten hstarts
          rw [List.length_cons] at hlength
          exact List.mem_cons_of_mem _ (ih hrest (by omega) hlast)
      · exact ih hrest (Nat.zero_le _) hlast

/-- **Every numeral that is glued to nothing is found.** -/
theorem mem_scan {blocked glue : γ → Bool} (hblocked : ∀ c, blocked c = true → glue c = true)
    (hdigit : ∀ c, A.digit c = true → glue c = true) {text tok : List γ} (h : Numeral A glue text tok) :
    tok ∈ scan A blocked 0 none text := by
  obtain ⟨pre, post, rfl, hmaximal, hglue, -⟩ := h
  rw [List.append_assoc]
  exact mem_scan_of_maximal hblocked hdigit hmaximal hglue (List.nil_append _).symm (Nat.zero_le _) (by simp)

/-- A numeral alone is one of the text it is. -/
theorem Written.numeral {glue : γ → Bool} {tok : List γ} (h : Written A tok) : Numeral A glue tok tok :=
  ⟨[], [], by simp, h.maximal, by simp, by simp⟩

/-- A numeral is maximal where no character of a numeral stands beside it. -/
theorem Maximal.of_apart {pre tok post : List γ} (h : Written A tok)
    (hpre : ∀ c ∈ pre.getLast?, ¬ (A.digit c = true ∨ A.separator c = true ∨ A.sign c = true ∨ A.percent c = true))
    (hpost : ∀ c ∈ post.head?, ¬ (A.digit c = true ∨ A.separator c = true ∨ A.sign c = true ∨ A.percent c = true)) :
    Maximal A pre tok post := by
  refine ⟨h, fun pre' tok' post' heq hbefore hbehind hwritten => ?_⟩
  obtain ⟨more, rfl⟩ : pre' <+: pre := by
    refine List.prefix_of_prefix_length_le ?_ (show pre <+: pre ++ tok ++ post from ⟨tok ++ post, by simp⟩) hbefore
    exact ⟨tok' ++ post', by rw [← heq, List.append_assoc]⟩
  obtain ⟨rest, rfl⟩ : post' <:+ post := by
    refine List.suffix_of_suffix_length_le ?_ (show post <:+ pre' ++ more ++ tok ++ post from ⟨_, rfl⟩) hbehind
    exact ⟨pre' ++ tok', heq⟩
  have htok : tok' = more ++ (tok ++ rest) := by
    have hassoc : pre' ++ (tok' ++ post') = pre' ++ ((more ++ (tok ++ rest)) ++ post') := by
      simpa only [List.append_assoc] using heq
    exact List.append_cancel_right (List.append_cancel_left hassoc)
  obtain rfl : more = [] := by
    by_contra hne
    obtain ⟨us, x, rfl⟩ := (List.eq_nil_or_concat' more).resolve_left hne
    exact hpre x (by simp) (hwritten.mem (by rw [htok]; simp))
  obtain rfl : rest = [] := by
    by_contra hne
    obtain ⟨x, xs, rfl⟩ := List.exists_cons_of_ne_nil hne
    exact hpost x rfl (hwritten.mem (by rw [htok]; simp))
  simpa using htok

end Numerals
