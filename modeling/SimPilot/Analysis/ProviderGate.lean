import SimPilot.Analysis.Compiler
import SimPilot.Data.Except
/-!
# The gate behind a model provider (analysis/compiler.py:617-661)

`normalize_provider_compilation` infers the intent of the answer from the question again,
and asks the type of the analysis of some words of the question. It looks for fewer words
than the compiler, and for each of them before all others: a question that says `losing
money` must be about the company's health here, and is about its routes there when it
names a route.

| here | there |
|---|---|
| `requiredAnalysisType` | `_required_analysis_type` |
| `GateAgrees` | both classifiers read the question alike |
-/

namespace SimPilot.Analysis

/-- `_required_analysis_type` -/
def requiredAnalysisType (question : String) : Option AnalysisType :=
  if mentions question "losing money" then some .companyHealth
  else if mentions question "debt" ∨ mentions question "cash" then some .financialSummary
  else if mentions question "improving" ∨ mentions question "getting worse" then some .worldChanges
  else none

/-- What the gate compares of the intents; forms as sets. -/
def AnswerIntent.matches (supplied inferred : AnswerIntent) : Bool :=
  supplied.concept = inferred.concept && supplied.kind = inferred.kind &&
    (supplied.questionForms.all (· ∈ inferred.questionForms) && inferred.questionForms.all (· ∈ supplied.questionForms)) &&
    supplied.requestedMetric = inferred.requestedMetric && supplied.period = inferred.period &&
    supplied.premise = inferred.premise && supplied.comparisonRequired = inferred.comparisonRequired &&
    supplied.referenceKind = inferred.referenceKind

/-- An intent the provider supplied is the inferred one (compiler.py:629-643). -/
def checkIntent (supplied : Option AnswerIntent) (inferred : AnswerIntent) : Except PyError Unit :=
  match supplied with
  | some supplied =>
    if supplied.matches inferred then .ok ()
    else .error (requestError "provider answer intent does not match the normalized question")
  | none => .ok ()

/-- The type the provider selected is the one the question requires (compiler.py:645-650). -/
def checkType (selected : AnalysisType) (question : String) : Except PyError Unit :=
  match requiredAnalysisType question with
  | some required =>
    if selected = required then .ok ()
    else
      let selected := selected.value
      let required := required.value
      .error (requestError s!"provider selected {selected} for a question requiring {required}")
  | none => .ok ()

/-- `normalize_provider_compilation` -/
def normalizeProviderCompilation (py : PyText) : AnalysisCompilation → Except PyError AnalysisCompilation
  | .request request => do
    let normalized := py.folded request.question
    let inferred := answerIntentForQuestion normalized request.analysisType request.ranking request.subjectType
    checkIntent request.answerIntent inferred
    let request := { request with answerIntent := some inferred }
    checkType request.analysisType normalized
    let _ ← validateAnalysisRequest request
    return .request request
  | compilation => .ok compilation

/-! ## What the compiler returns -/

/-- The request the compiler makes of a type and a resolution. -/
structure Compiled (py : PyText) (question : String) (type : AnalysisType) (resolution : Option Resolution)
    (request : AnalysisRequest) : Prop where
  typed : request.analysisType = type
  asked : request.question = py.strip question
  ranked : request.ranking = rankingOf (py.lowered question) type
  about : request.subjectType = compiledSubject (py.lowered question) type resolution
  intent : request.answerIntent =
    some (answerIntentForQuestion (py.lowered question) type request.ranking request.subjectType)
  accepted : ∃ capability, validateAnalysisRequest request = .ok capability

section Compile
variable {py : PyText} {question : String} {context : Option AnalysisCompilerContext} {request : AnalysisRequest}

theorem compileRequest_ok {type : AnalysisType} {resolution : Option Resolution}
    (h : compileRequest py question context type resolution = .ok request) :
    Compiled py question type resolution request := by
  unfold compileRequest at h
  obtain ⟨reference, -, h⟩ := Except.bind_eq_ok.mp h
  obtain ⟨intent, hintent, h⟩ := Except.bind_eq_ok.mp h
  obtain ⟨built, hbuilt, h⟩ := Except.bind_eq_ok.mp h
  obtain ⟨capability, haccepted, h⟩ := Except.bind_eq_ok.mp h
  cases h
  have hintent := construct_ok hintent
  have hrequest := construct_ok hbuilt
  subst hintent
  subst hrequest
  exact ⟨rfl, rfl, rfl, rfl, rfl, capability, haccepted⟩

/-- A question that compiles has a type and what it refers to. -/
theorem compile_request (h : compile py question context = .ok (.request request)) :
    ∃ resolution type, resolveReference context (py.lowered question) = .ok resolution ∧
      compiledType (py.lowered question) resolution = some type ∧ Compiled py question type resolution request := by
  unfold compile at h
  simp only [pure, Except.pure, bind, Except.bind, throw, throwThe, MonadExceptOf.throw] at h
  -- every other branch returns a clarification or a reason
  repeat' split at h
  all_goals try cases h
  rename_i resolution hresolution _ type htype _ hcompiled
  exact ⟨resolution, type, hresolution, htype, compileRequest_ok hcompiled⟩

end Compile

/-! ## The gate -/

/-- Both classifiers read the question alike: the intent is the same of the lower-cased and
of the case-folded question, and the type the gate asks for, if any, is the compiled one. -/
def GateAgrees (py : PyText) (question : String) (context : Option AnalysisCompilerContext) : Prop :=
  let lowered := py.lowered question
  let folded := py.folded (py.strip question)
  ∀ resolution type, resolveReference context lowered = .ok resolution → compiledType lowered resolution = some type →
    answerIntentForQuestion folded type (rankingOf lowered type) (compiledSubject lowered type resolution) =
      answerIntentForQuestion lowered type (rankingOf lowered type) (compiledSubject lowered type resolution) ∧
    ∀ expected ∈ requiredAnalysisType folded, type = expected

theorem AnswerIntent.matches_self (intent : AnswerIntent) : intent.matches intent = true := by
  simp [AnswerIntent.matches]

section Gate
variable {py : PyText} {question : String} {context : Option AnalysisCompilerContext} {request : AnalysisRequest}

theorem checkType_ok {selected : AnalysisType} {asked : String} :
    checkType selected asked = .ok () ↔ ∀ required ∈ requiredAnalysisType asked, selected = required := by
  unfold checkType
  cases requiredAnalysisType asked with
  | none => simp
  | some required => simp

theorem normalizeProviderCompilation_request {inferred : AnswerIntent} (hinferred : answerIntentForQuestion
    (py.folded request.question) request.analysisType request.ranking request.subjectType = inferred) :
    normalizeProviderCompilation py (.request request) = (do
      checkIntent request.answerIntent inferred
      checkType request.analysisType (py.folded request.question)
      let _ ← validateAnalysisRequest { request with answerIntent := some inferred }
      return .request { request with answerIntent := some inferred }) := by
  subst hinferred
  rfl

/-- The gate returns an accepted request with an intent as it was when it infers this intent
and asks for no other type. -/
theorem normalizeProviderCompilation_iff {intent : AnswerIntent} (hintent : request.answerIntent = some intent)
    (haccepted : ∃ capability, validateAnalysisRequest request = .ok capability) :
    normalizeProviderCompilation py (.request request) = .ok (.request request) ↔
      answerIntentForQuestion (py.folded request.question) request.analysisType request.ranking request.subjectType =
        intent ∧
      ∀ expected ∈ requiredAnalysisType (py.folded request.question), request.analysisType = expected := by
  obtain ⟨capability, haccepted⟩ := haccepted
  generalize hinferred : answerIntentForQuestion (py.folded request.question) request.analysisType request.ranking
    request.subjectType = inferred
  rw [normalizeProviderCompilation_request hinferred]
  constructor
  · intro hgate
    obtain ⟨_, -, hgate⟩ := Except.bind_eq_ok.mp hgate
    obtain ⟨_, htype, hgate⟩ := Except.bind_eq_ok.mp hgate
    obtain ⟨_, -, hgate⟩ := Except.bind_eq_ok.mp hgate
    have hrequest : { request with answerIntent := some inferred } = request :=
      AnalysisCompilation.request.inj (Except.ok.inj hgate)
    have hsame : some inferred = some intent := hintent ▸ congrArg AnalysisRequest.answerIntent hrequest
    exact ⟨Option.some.inj hsame, checkType_ok.1 htype⟩
  · rintro ⟨rfl, htype⟩
    have hkept : { request with answerIntent := some inferred } = request := by rw [← hintent]
    have hintent' : checkIntent request.answerIntent inferred = .ok () := by
      rw [hintent, checkIntent, if_pos inferred.matches_self]
    rw [hkept, hintent', checkType_ok.2 htype, haccepted]
    rfl

/-- **The provider gate returns what the deterministic compiler made exactly when both read
the question alike**, for every question and context, whatever lower-casing, case-folding
and whitespace are. -/
theorem provider_gate_accepts_iff (py : PyText) (question : String) (context : Option AnalysisCompilerContext)
    (request : AnalysisRequest) (h : compile py question context = .ok (.request request)) :
    normalizeProviderCompilation py (.request request) = .ok (.request request) ↔ GateAgrees py question context := by
  obtain ⟨resolution, type, hresolution, htype, hcompiled⟩ := compile_request h
  rw [normalizeProviderCompilation_iff hcompiled.intent hcompiled.accepted, hcompiled.typed, hcompiled.asked,
    hcompiled.ranked, hcompiled.about]
  constructor
  · intro hboth resolution' type' hresolution' htype'
    rw [hresolution, Except.ok.injEq] at hresolution'
    subst hresolution'
    rw [htype, Option.some.injEq] at htype'
    subst htype'
    exact hboth
  · exact fun hagrees => hagrees resolution type hresolution htype

end Gate

/-! ## Where the classifiers differ -/

/-- The words that make a question about changes, routes and so on before it is looked at
for those of this rule and of the later ones. -/
def earlierWords (rule : Nat) : List String := (typeRules.take rule).flatMap (·.1)

/-- The rule of vehicle types, which comes before all others. -/
def asksVehicleType (question : String) : Bool :=
  mentions question "vehicle type" && mentionsAny question ["dragging", "loses", "loss", "least profitable"]

/-- A word the gate requires a type for, in a question that has another type by an earlier rule. -/
def Overridden (question : String) : Prop :=
  if mentions question "losing money" then asksVehicleType question = true ∨ mentionsAny question (earlierWords 11) = true
  else if mentions question "debt" ∨ mentions question "cash" then
    asksVehicleType question = true ∨ mentionsAny question (earlierWords 10) = true
  else (mentions question "improving" = true ∨ mentions question "getting worse" = true) ∧ asksVehicleType question = true

theorem mentionsAny_earlierWords (question : String) (n : Nat) :
    mentionsAny question (earlierWords n) = (typeRules.take n).any fun rule => mentionsAny question rule.1 := by
  unfold mentionsAny earlierWords
  rw [List.any_flatMap]

/-- A question with a word of a rule has its type unless an earlier rule takes it. -/
theorem analysisType_rule {question : String} (before : List (List String × AnalysisType))
    {after : List (List String × AnalysisType)} {words : List String} {type : AnalysisType} (hrules : typeRules = before ++ (words, type) :: after) (hwords : mentionsAny question words = true)
    (hfresh : ∀ rule ∈ before, rule.2 ≠ type) (hfleet : type ≠ .fleetSummary) :
    analysisType question = some type ↔
      ¬ (asksVehicleType question = true ∨ (before.any fun rule => mentionsAny question rule.1) = true) := by
  unfold analysisType asksVehicleType
  rw [Bool.and_eq_true]
  split
  · rename_i hasks
    constructor
    · intro heq
      exact absurd (Option.some.inj heq).symm hfleet
    · exact fun hnot => absurd (.inl hasks) hnot
  · rename_i hasks
    rw [hrules, List.find?_append]
    cases hfind : before.find? fun rule => mentionsAny question rule.1 with
    | some rule =>
      have hmem := List.mem_of_find?_eq_some hfind
      have hmentions := List.find?_some hfind
      constructor
      · intro heq
        exact absurd (Option.some.inj heq) (hfresh rule hmem)
      · exact fun hnot => absurd (.inr (List.any_eq_true.2 ⟨rule, hmem, hmentions⟩)) hnot
    | none =>
      have hnone : (before.any fun rule => mentionsAny question rule.1) = false := by
        rw [List.any_eq_false]
        exact fun rule hrule => List.find?_eq_none.1 hfind rule hrule
      simp [hwords, hasks, hnone]

/-- On one text the gate requires another type than the compiler's just for those words. -/
theorem required_iff {question : String} {resolution : Option Resolution} {type : AnalysisType}
    (htype : compiledType question resolution = some type) :
    (∀ required ∈ requiredAnalysisType question, type = required) ↔ ¬ Overridden question := by
  have hcompiled : ∀ {words : List String} {required : AnalysisType}, (words, required) ∈ typeRules →
      mentionsAny question words = true → (type = required ↔ analysisType question = some required) := by
    intro words required hmem hwords
    unfold compiledType at htype
    cases hanalysis : analysisType question with
    | some found =>
      rw [hanalysis] at htype
      cases htype
      simp
    | none =>
      unfold analysisType at hanalysis
      split at hanalysis
      · cases hanalysis
      · rw [Option.map_eq_none_iff, List.find?_eq_none] at hanalysis
        exact absurd hwords (hanalysis _ hmem)
  unfold requiredAnalysisType Overridden
  by_cases hlosing : mentions question "losing money" = true
  · rw [if_pos hlosing, if_pos hlosing, mentionsAny_earlierWords]
    have hwords : mentionsAny question ["losing money", "company health", "healthy is", "health"] = true := by
      simp [mentionsAny, hlosing]
    rw [← analysisType_rule (typeRules.take 11) rfl hwords (by decide) (by decide), ← hcompiled (by decide) hwords]
    simp
  · rw [if_neg hlosing, if_neg hlosing]
    by_cases hmoney : mentions question "debt" = true ∨ mentions question "cash" = true
    · rw [if_pos hmoney, if_pos hmoney, mentionsAny_earlierWords]
      have hwords : mentionsAny question ["debt", "cash", "financial summary", "finances"] = true := by
        rcases hmoney with h | h <;> simp [mentionsAny, h]
      rw [← analysisType_rule (typeRules.take 10) rfl hwords (by decide) (by decide),
        ← hcompiled (by decide) hwords]
      simp
    · rw [if_neg hmoney, if_neg hmoney]
      by_cases hchange : mentions question "improving" = true ∨ mentions question "getting worse" = true
      · rw [if_pos hchange]
        have hwords : mentionsAny question ["changed", "what changed", "improving", "getting worse", "gained",
            "became unprofitable", "become unprofitable"] = true := by
          rcases hchange with h | h <;> simp [mentionsAny, h]
        have hrule := analysisType_rule [] rfl hwords (by decide) (by decide)
        rw [← hcompiled (by decide) hwords] at hrule
        simpa [hchange] using hrule
      · rw [if_neg hchange]
        simp [hchange]

/-- **For a question that lower-casing and case-folding treat alike** the gate rejects just the
requests of the overridden questions. -/
theorem provider_gate_accepts_plain {py : PyText} {question : String} {context : Option AnalysisCompilerContext}
    {request : AnalysisRequest} (h : compile py question context = .ok (.request request))
    (hplain : py.folded (py.strip question) = py.lowered question) :
    normalizeProviderCompilation py (.request request) = .ok (.request request) ↔
      ¬ Overridden (py.lowered question) := by
  obtain ⟨resolution, type, hresolution, htype, hcompiled⟩ := compile_request h
  rw [normalizeProviderCompilation_iff hcompiled.intent hcompiled.accepted, hcompiled.typed, hcompiled.asked,
    hplain, ← required_iff htype]
  simp

/-! ## Two questions in English -/

/-- `str` on ASCII texts. -/
def asciiText : PyText where
  lower s := String.ofList (s.toList.map Char.toLower)
  casefold s := String.ofList (s.toList.map Char.toLower)
  isSpace := isSpace

def cashQuestion : String := "How much cash do I have?"

def cashRequest : AnalysisRequest where
  analysisType := .financialSummary
  question := cashQuestion
  answerIntent := some {
    concept := .availableCash, kind := .fact, questionForms := [.quantity], requestedMetric := some .cash
    period := some .current
    evidenceRequirements := [{ kind := .currentSnapshot },
      { kind := .metricCurrent, metric := some .cash, subjectType := some .company }] }

/-- The gate takes the question for the cash. -/
theorem provider_gate_accepts_cash :
    normalizeProviderCompilation asciiText (.request cashRequest) = .ok (.request cashRequest) := by
  refine (provider_gate_accepts_iff asciiText cashQuestion none cashRequest (by decide +kernel)).2 ?_
  have hlowered : asciiText.lowered cashQuestion = "how much cash do i have?" := by decide +kernel
  have hfolded : asciiText.folded (asciiText.strip cashQuestion) = "how much cash do i have?" := by decide +kernel
  have hanalysis : analysisType "how much cash do i have?" = some .financialSummary := by decide +kernel
  have hrequired : requiredAnalysisType "how much cash do i have?" = some .financialSummary := by decide +kernel
  unfold GateAgrees compiledType
  simp only [hlowered, hfolded, hanalysis, hrequired]
  rintro resolution type - htype
  cases htype
  exact ⟨trivial, fun required hrequired => Option.some.inj hrequired⟩

def routesQuestion : String := "Which routes are losing money?"

def routesRequest : AnalysisRequest where
  analysisType := .routePerformance
  question := routesQuestion
  ranking := some { metric := .routeAggregateProfit, direction := .ascending }
  answerIntent := some {
    concept := .performance, kind := .ranking, questionForms := [.premiseCheck, .cause, .drillDown]
    requestedMetric := some .routeAggregateProfit, period := some .lastYear, premise := some .routeLosing
    premiseAsserted := true
    evidenceRequirements := [{ kind := .currentSnapshot },
      { kind := .metricCurrent, metric := some .routeAggregateProfit, subjectType := some .route },
      { kind := .candidateContributors, metric := some .routeAggregateProfit, subjectType := some .route },
      { kind := .resolvedSubject, subjectType := some .route }] }

/-- The gate rejects the question for the routes that lose money, as the compiler compiles it. -/
theorem not_provider_gate_accepts_routes : ¬ ∀ (question : String) (context : Option AnalysisCompilerContext)
    (request : AnalysisRequest), compile asciiText question context = .ok (.request request) →
      normalizeProviderCompilation asciiText (.request request) = .ok (.request request) := by
  intro h
  have haccepted := h routesQuestion none routesRequest (by decide +kernel)
  have hrejected : normalizeProviderCompilation asciiText (.request routesRequest) =
      .error (requestError "provider selected route_performance for a question requiring company_health") := by
    decide +kernel
  rw [hrejected] at haccepted
  cases haccepted

end SimPilot.Analysis
