import SimPilot.Analysis.Findings
import SimPilot.Data.Except
import SimPilot.Data.Numerals
/-!
# The check of an explanation (analysis/explanation.py)

An explanation by a provider is accepted when its statements refer to what the analysis found,
and bring no number its texts do not have. The numbers of a text are what one regular expression
finds in it. It looks one character back only, so of digits glued to a letter it finds a part.

| here | there |
|---|---|
| `ExplainedResponse` | the fields of an `AnalysisResponse` that are read, of a presentation its guidance |
| `numbers` | `_numbers` (explanation.py:247) |
| `validateExplanation` | explanation.py:79 |
-/

namespace SimPilot.Analysis

open Numerals

/-! ## Explanations (analysis/contracts.py:348-371) -/

inductive ExplanationClaimType where
  | summary | possibleContributor | recommendation | limitation
  deriving DecidableEq, Repr

structure ExplanationMetricReference where
  findingId : String
  metricName : String
  metricValue : JsonValue
  findingId_nonempty : findingId ≠ ""
  metricName_nonempty : metricName ≠ ""

structure AnalysisExplanationStatement where
  claimType : ExplanationClaimType
  text : String
  findingIds : List String := []
  recommendationIds : List String := []
  entityIds : List String := []
  metricReferences : List ExplanationMetricReference := []
  text_size : 1 ≤ text.length ∧ text.length ≤ 2000

structure AnalysisExplanation where
  statements : List AnalysisExplanationStatement
  statements_size : 1 ≤ statements.length ∧ statements.length ≤ 20

structure ExplainedResponse where
  answer : String
  findings : List AnalysisFinding := []
  recommendations : List AnalysisRecommendation := []
  guidance : Option InspectionGuidance := none

inductive ExplanationError where
  /-- `AnalysisInputError` -/
  | input (message : String)
  /-- An `assert` fails. -/
  | assertion
  deriving DecidableEq, Repr

/-! ## Numbers -/

/-- The first of each ten decimal digits of Unicode, which `\\d` matches. -/
def zeros : List Nat :=
  [0x30, 0x660, 0x6F0, 0x7C0, 0x966, 0x9E6, 0xA66, 0xAE6, 0xB66, 0xBE6, 0xC66, 0xCE6, 0xD66, 0xDE6, 0xE50, 0xED0, 0xF20,
    0x1040, 0x1090, 0x17E0, 0x1810, 0x1946, 0x19D0, 0x1A80, 0x1A90, 0x1B50, 0x1BB0, 0x1C40, 0x1C50, 0xA620, 0xA8D0,
    0xA900, 0xA9D0, 0xA9F0, 0xAA50, 0xABF0, 0xFF10, 0x104A0, 0x10D30, 0x11066, 0x110F0, 0x11136, 0x111D0, 0x112F0,
    0x11450, 0x114D0, 0x11650, 0x116C0, 0x11730, 0x118E0, 0x11950, 0x11C50, 0x11D50, 0x11DA0, 0x11F50, 0x16A60, 0x16AC0,
    0x16B50, 0x1D7CE, 0x1D7D8, 0x1D7E2, 0x1D7EC, 0x1D7F6, 0x1E140, 0x1E2F0, 0x1E4F0, 0x1E950, 0x1FBF0]

def isDecimal (c : Char) : Bool := zeros.any fun z => z ≤ c.toNat && c.toNat < z + 10

/-- `\\d`, `[-+]`, `[.,]` and `%`. -/
def numberAlphabet : Alphabet Char where
  digit := isDecimal
  sign c := c = '-' || c = '+'
  separator c := c = '.' || c = ','
  percent c := c = '%'
  sign_digit c h := by
    simp only [Bool.or_eq_true, decide_eq_true_eq] at h
    rcases h with rfl | rfl <;> decide
  separator_digit c h := by
    simp only [Bool.or_eq_true, decide_eq_true_eq] at h
    rcases h with rfl | rfl <;> decide
  percent_digit c h := by
    obtain rfl := of_decide_eq_true h
    decide
  sign_separator c h := by
    simp only [Bool.or_eq_true, decide_eq_true_eq] at h
    rcases h with rfl | rfl <;> decide
  sign_percent c h := by
    simp only [Bool.or_eq_true, decide_eq_true_eq] at h
    rcases h with rfl | rfl <;> decide
  percent_separator c h := by
    obtain rfl := of_decide_eq_true h
    decide

/-- `set(re.findall(r"(?<![A-Za-z])[-+]?\\d+(?:[.,]\\d+)*%?", value))` -/
def numbers (value : String) : List (List Char) := scan numberAlphabet Char.isAlpha 0 none value.toList

/-- `str(value)` -/
def pyStr : JsonValue → String
  | .str s => s
  | .uuid id => id.text
  | .decimal q => floatRepr q
  | .datetime t => toString t
  | .digest v => "sha256:" ++ v.repr
  | .text v => v.repr
  | v => v.repr

/-- The texts the numbers of an explanation are looked for in. -/
def authoritativeTexts (response : ExplainedResponse) : List String :=
  response.answer :: response.findings.map (·.title) ++ response.findings.map (·.summary) ++
    response.findings.map (fun item => pyStr item.metricValue) ++ response.recommendations.map (·.rationale)

def authoritativeNumbers (response : ExplainedResponse) : List (List Char) :=
  numbers (" ".intercalate (authoritativeTexts response))

/-! ## The check -/

section
variable (py : PyText) (response : ExplainedResponse)

/-- `if condition: raise AnalysisInputError(message)` -/
def refuse (condition : Prop) [Decidable condition] (message : String) : Except ExplanationError Unit :=
  if condition then .error (.input message) else .ok ()

/-- `findings.get(finding_id)`: of findings with one id the last counts. -/
def findingOf (findingId : String) : Option AnalysisFinding :=
  response.findings.reverse.find? (·.findingId = findingId)

/-- The ids of the entities in the evidence. -/
def evidenceEntities : List String := response.findings.flatMap fun finding => finding.evidence.filterMap (·.entityId)

/-- What a recommendation is checked for against the selected guidance (explanation.py:127-144). -/
def checkGuidance (statement : AnalysisExplanationStatement) : Except ExplanationError Unit :=
  match response.guidance with
  | none => .error (.input "explanation recommendation has no selected guidance")
  | some guidance => do
    refuse (guidance.status ≠ .recommended) "explanation recommendation contradicts unavailable guidance"
    match guidance.targetLabel with
    | none => .error .assertion
    | some label =>
      refuse (¬ (py.casefold label).toList <:+: (py.casefold statement.text).toList)
        "explanation recommendation changes the inspection target"
      refuse
        (∃ target ∈ guidance.targetEntityId, ¬ (statement.entityIds ≠ [] ∧ ∀ id ∈ statement.entityIds, id = target))
        "explanation recommendation changes the inspection entity"
      refuse (¬ ∀ id ∈ guidance.supportingFindingIds, id ∈ statement.findingIds)
        "explanation recommendation changes its evidence basis"

def checkReference (reference : ExplanationMetricReference) : Except ExplanationError Unit :=
  match findingOf response reference.findingId with
  | none => .error (.input "metric reference cites an unknown finding")
  | some finding => do
    refuse (finding.metricName ≠ some reference.metricName) "explanation changes an authoritative metric name"
    refuse (¬ finding.metricValue.pyEq reference.metricValue) "explanation changes an authoritative metric value"

def checkStatement (statement : AnalysisExplanationStatement) : Except ExplanationError Unit := do
  refuse (assertsCausality statement.text) "explanation asserts unsupported causal certainty"
  refuse (¬ ∀ n ∈ numbers statement.text, n ∈ authoritativeNumbers response)
    "explanation introduces an unsupported number"
  refuse (¬ ∀ id ∈ statement.findingIds, id ∈ response.findings.map (·.findingId))
    "explanation references an unknown finding"
  refuse (¬ ∀ id ∈ statement.recommendationIds, id ∈ response.recommendations.map (·.recommendationId))
    "explanation references an unknown recommendation"
  refuse (¬ ∀ id ∈ statement.entityIds, id ∈ evidenceEntities response) "explanation references an unknown entity"
  refuse (statement.recommendationIds ≠ [] ∧ statement.claimType ≠ .recommendation)
    "an explanation recommendation must be labeled as a recommendation"
  if statement.claimType = .recommendation then checkGuidance py response statement
  statement.metricReferences.forM (checkReference response)

/-- The critical findings with limitations. -/
def criticalFindings : List String :=
  (response.findings.filter fun item => item.severity = .critical ∧ item.limitations ≠ []).map (·.findingId)

/-- The findings that limitation statements name. -/
def acknowledgedLimitations (explanation : AnalysisExplanation) : List String :=
  explanation.statements.flatMap fun statement => if statement.claimType = .limitation then statement.findingIds else []

def validateExplanation (explanation : AnalysisExplanation) : Except ExplanationError AnalysisExplanation := do
  explanation.statements.forM (checkStatement py response)
  refuse (¬ ∀ id ∈ criticalFindings response, id ∈ acknowledgedLimitations explanation)
    "explanation omits a critical finding limitation"
  return explanation

end

/-! ## Which numbers are supported -/

/-- What a numeral is not glued to: letters, whichever characters are, and digits. -/
def glues (letter : Char → Bool) (c : Char) : Bool := letter c || isDecimal c

/-- A maximal numeral of one of the authoritative texts. -/
def AuthoritativeNumeral (letter : Char → Bool) (response : ExplainedResponse) (n : List Char) : Prop :=
  ∃ text ∈ authoritativeTexts response, Numeral numberAlphabet (glues letter) text.toList n

/-- Every maximal numeral of a statement is one of an authoritative text. -/
def Supported (letter : Char → Bool) (explanation : AnalysisExplanation) (response : ExplainedResponse) : Prop :=
  ∀ statement ∈ explanation.statements, ∀ n, Numeral numberAlphabet (glues letter) statement.text.toList n →
    AuthoritativeNumeral letter response n

theorem refuse_eq_ok {condition : Prop} [Decidable condition] {message : String} {u : Unit} :
    refuse condition message = .ok u ↔ ¬ condition := by
  unfold refuse
  by_cases h : condition <;> simp [h]

theorem forM_eq_ok {α ε : Type} {f : α → Except ε Unit} {xs : List α} {u : Unit} :
    xs.forM f = .ok u ↔ ∀ x ∈ xs, f x = .ok () := by
  induction xs with
  | nil => exact ⟨fun _ _ h => (List.not_mem_nil h).elim, fun _ => rfl⟩
  | cons x xs ih =>
    rw [List.forall_mem_cons, ← ih]
    refine Except.bind_eq_ok.trans ⟨?_, ?_⟩
    · rintro ⟨_, hx, hxs⟩
      exact ⟨hx, hxs⟩
    · rintro ⟨hx, hxs⟩
      exact ⟨(), hx, hxs⟩

section
variable {py : PyText} {response : ExplainedResponse}

/-- An accepted statement has authoritative numbers only. -/
theorem numbers_of_checkStatement {statement : AnalysisExplanationStatement}
    (h : checkStatement py response statement = .ok ()) :
    ∀ n ∈ numbers statement.text, n ∈ authoritativeNumbers response := by
  obtain ⟨_, -, h⟩ := Except.bind_eq_ok.mp h
  obtain ⟨_, hnumbers, -⟩ := Except.bind_eq_ok.mp h
  exact not_not.mp (refuse_eq_ok.mp hnumbers)

theorem supported_of_accepted {letter : Char → Bool} (hletter : ∀ c : Char, c.isAlpha = true → letter c = true)
    (hnumbers : ∀ n ∈ authoritativeNumbers response, n.length ≤ 2000 → AuthoritativeNumeral letter response n)
    {explanation : AnalysisExplanation} (h : (validateExplanation py response explanation).isOk = true) :
    Supported letter explanation response := by
  intro statement hstatement n hn
  obtain ⟨accepted, haccepted⟩ := Except.exists_ok h
  obtain ⟨_, hchecked, -⟩ := Except.bind_eq_ok.mp haccepted
  have hfound : n ∈ numbers statement.text := by
    refine mem_scan (fun c hc => ?_) (fun c hc => ?_) hn
    · rw [glues, hletter c hc, Bool.true_or]
    · rw [glues, show isDecimal c = true from hc, Bool.or_true]
  refine hnumbers n (numbers_of_checkStatement (forM_eq_ok.mp hchecked statement hstatement) n hfound) ?_
  obtain ⟨pre, post, htext, -⟩ := hn
  have hlength := congrArg List.length htext
  simp only [List.length_append, String.length_toList] at hlength
  have := statement.text_size.2
  omega

end

/-! ## An explanation with one number -/

theorem mem_of_occursAsWords {p : Char} {ps : List Char} : ∀ {cs : List Char} {previous : Bool},
    occursAsWords (p :: ps) cs previous = true → p ∈ cs
  | [], _, h => by simp [occursAsWords] at h
  | c :: cs, _, h => by
    simp only [occursAsWords, Bool.or_eq_true, decide_eq_true_eq] at h
    rcases h with ⟨-, hstarts, -⟩ | h
    · exact List.mem_cons.mpr (.inl (List.cons_prefix_cons.mp hstarts).1)
    · exact List.mem_cons_of_mem _ (mem_of_occursAsWords h)

theorem toLower_eq {c d : Char} (h : c.toLower = d) : c = d ∨ c.toNat + 32 = d.toNat := by
  unfold Char.toLower at h
  split at h
  · next hc =>
    refine .inr ?_
    subst h
    have hle := UInt32.le_iff_toNat_le.mp hc.2
    simp only [Char.toNat, UInt32.toNat_add]
    have : c.val.toNat ≤ 90 := hle
    show _ = (c.val.toNat + 32) % 4294967296
    omega
  · exact .inl h

theorem assertsCausality_written {n : List Char} (h : Written numberAlphabet n) :
    assertsCausality (String.ofList n) = false := by
  have hletters : ∀ p ∈ ['p', 'i', 'g'], p ∉ n.map Char.toLower := by
    intro p hp hmem
    obtain ⟨c, hc, hlower⟩ := List.mem_map.mp hmem
    have hpart := h.mem hc
    simp only [List.mem_cons, List.not_mem_nil, or_false] at hp
    rcases toLower_eq hlower with heq | hupper
    · rw [heq] at hpart
      revert hpart
      rcases hp with rfl | rfl | rfl <;> decide
    · have hc : c = Char.ofNat (p.toNat - 32) := by rw [← hupper, Nat.add_sub_cancel, Char.ofNat_toNat]
      rw [hc] at hpart
      revert hpart
      rcases hp with rfl | rfl | rfl <;> decide
  rw [assertsCausality, List.any_eq_false]
  intro phrase hphrase hoccurs
  rw [String.toList_ofList] at hoccurs
  have hfirst : ∃ p ∈ ['p', 'i', 'g'], ∃ ps, phrase.toList = p :: ps := by
    simp only [List.mem_cons, List.not_mem_nil, or_false] at hphrase
    rcases hphrase with rfl | rfl | rfl | rfl | rfl | rfl <;> exact ⟨_, by decide, _, rfl⟩
  obtain ⟨p, hp, ps, hps⟩ := hfirst
  rw [hps] at hoccurs
  exact hletters p hp (mem_of_occursAsWords hoccurs)

/-- The number alone, as a limitation of the critical findings. -/
def numberStatement (response : ExplainedResponse) (n : List Char) (hsize : 1 ≤ n.length ∧ n.length ≤ 2000) :
    AnalysisExplanation where
  statements := [{
    claimType := .limitation
    text := String.ofList n
    findingIds := criticalFindings response
    text_size := by simpa using hsize }]
  statements_size := ⟨le_rfl, by simp⟩

theorem numbers_ofList {n : List Char} (h : Written numberAlphabet n) : numbers (String.ofList n) = [n] := by
  rw [numbers, String.toList_ofList, scan_written h]

theorem accepted_numberStatement {py : PyText} {response : ExplainedResponse} {n : List Char}
    (hn : n ∈ authoritativeNumbers response) (hsize : 1 ≤ n.length ∧ n.length ≤ 2000) :
    validateExplanation py response (numberStatement response n hsize) = .ok (numberStatement response n hsize) := by
  have hwritten : Written numberAlphabet n := written_of_mem_scan hn
  have hknown : ∀ id ∈ criticalFindings response, id ∈ response.findings.map (·.findingId) := by
    intro id hid
    obtain ⟨finding, hfinding, rfl⟩ := List.mem_map.mp hid
    exact List.mem_map_of_mem (List.mem_of_mem_filter hfinding)
  have hstatement : ∀ s ∈ (numberStatement response n hsize).statements, checkStatement py response s = .ok () := by
    intro s hs
    obtain rfl := List.mem_singleton.mp hs
    have hnumbers : ∀ m ∈ numbers (String.ofList n), m ∈ authoritativeNumbers response := by
      rw [numbers_ofList hwritten]
      exact List.forall_mem_singleton.mpr hn
    refine Except.bind_eq_ok.mpr ⟨(), refuse_eq_ok.mpr (by simp [assertsCausality_written hwritten]), ?_⟩
    refine Except.bind_eq_ok.mpr ⟨(), refuse_eq_ok.mpr (not_not.mpr hnumbers), ?_⟩
    refine Except.bind_eq_ok.mpr ⟨(), refuse_eq_ok.mpr (not_not.mpr hknown), ?_⟩
    rfl
  refine Except.bind_eq_ok.mpr ⟨(), forM_eq_ok.mpr hstatement, ?_⟩
  refine Except.bind_eq_ok.mpr ⟨(), refuse_eq_ok.mpr (not_not.mpr fun id hid => ?_), rfl⟩
  simpa [acknowledgedLimitations, numberStatement] using hid

section Example

/-- Every text is as it is. -/
def plainPython : PyText where
  lower := id
  casefold := id
  isSpace c := c = ' '

def tripsResponse : ExplainedResponse where
  answer := "Line 4 ran 12.5% fewer trips, -3 in all."

theorem numeral_of_apart {letter : Char → Bool} {n : List Char} {response : ExplainedResponse} (pre post : List Char)
    (htext : response.answer.toList = pre ++ n ++ post) (hn : Written numberAlphabet n)
    (hbefore : pre.getLast?.all (· = ' ') = true) (hbehind : post.head?.all (· = ' ') = true)
    (hspace : letter ' ' = false) : AuthoritativeNumeral letter response n := by
  have hpre : ∀ c ∈ pre.getLast?, c = ' ' := fun c hc => by simpa using (Option.all_eq_true _ _).mp hbefore c hc
  have hpost : ∀ c ∈ post.head?, c = ' ' := fun c hc => by simpa using (Option.all_eq_true _ _).mp hbehind c hc
  refine ⟨response.answer, List.mem_append_left _ (by simp), pre, post, htext, ?_, ?_, ?_⟩
  · refine .of_apart hn (fun c hc => ?_) fun c hc => ?_
    · rw [hpre c hc]
      decide
    · rw [hpost c hc]
      decide
  · intro c hc
    rw [hpre c hc, glues, hspace]
    decide
  · intro c hc
    rw [hpost c hc, glues, hspace]
    decide

def vehicleResponse : ExplainedResponse where
  answer := "Vehicle A12 is late."

def vehiclesExplanation : AnalysisExplanation where
  statements := [{ claimType := .summary, text := "2 vehicles are late.", text_size := by decide +kernel }]
  statements_size := by decide +kernel

end Example

end SimPilot.Analysis
