import SimPilot.Analysis.ProviderGate
import Mathlib.Data.List.TakeWhile
/-!
# Which questions compile (analysis/compiler.py:119-245)

The compiler picks the type of an analysis, its subject, its ranking and the metric of its
answer by separate words of the question, and validates what came together at the end. The
validation raises for three kinds of questions: a follow-up on an entity the type is not about,
an anomaly of a metric, and idle vehicles that are also ranked (`Catalogued`). All others get a
request that validates, a clarification or a reason (`compile_total_iff`).
-/

namespace SimPilot.Analysis

/-! ## The words of a question -/

/-- A question of the other branches: it is answered without a request (compiler.py:128-150). -/
def answeredEarly (normalized : String) : Bool :=
  mentionsAny normalized ["ten years", "will be profitable", "future profit"] ||
    (mentions normalized "crash" && mentions normalized "why") ||
    mentionsAny normalized ["fix ", "build ", "buy ", "change orders"] ||
    (mentions normalized "which route is bad" || normalized = "which route is weak?") ||
    rstripQuestionMark normalized ∈ ["what should i do", "is this okay"]

/-- The compiler gets to a request of this type, about what the question refers to. -/
structure Reaches (py : PyText) (question : String) (context : Option AnalysisCompilerContext) (type : AnalysisType)
    (resolution : Option Resolution) : Prop where
  notAnswered : answeredEarly (py.lowered question) = false
  resolved : resolveReference context (py.lowered question) = .ok resolution
  typed : compiledType (py.lowered question) resolution = some type

/-- What the words of a question come together to is in the catalog. -/
structure Catalogued (normalized : String) (type : AnalysisType) (resolution : Option Resolution) : Prop where
  /-- What a follow-up is about is a subject of the type. -/
  subject : ∀ resolved ∈ resolution, resolved.entity.subjectType ∈ (capabilityFor type).subjects
  /-- No anomaly of a metric is asked for. -/
  anomaly : type = .anomalyDetection → mentionsAny normalized ["population", "town", "profit", "unprofitable"] = false
  /-- Vehicles that are idle are not ranked by their profit. -/
  idle : type = .vehiclePerformance → mentions normalized "idle" = true ∨ mentions normalized "sitting" = true →
    rankingOf normalized type = none ∨
      (mentions normalized "flag" = true ∧ mentionsAny normalized ["this vehicle", "that vehicle"] = true)

/-- The compiler raises nothing, and what it requests validates. -/
def CompilesTotally (py : PyText) (question : String) (context : Option AnalysisCompilerContext) : Prop :=
  ∃ outcome, compile py question context = .ok outcome ∧
    ∀ request, outcome = .request request → (validateAnalysisRequest request).isOk = true

/-! ## The validation -/

/-- What the validation asks of a request. -/
structure Accepts (request : AnalysisRequest) : Prop where
  required : (capabilityFor request.analysisType).subjectRequired = true → request.subjectType.isSome = true
  subject : ∀ subject ∈ request.subjectType, subject ∈ (capabilityFor request.analysisType).subjects
  filters : unsupportedFilters request = []
  ranked : ∀ ranking ∈ request.ranking, ranking.metric ∈ (capabilityFor request.analysisType).rankingMetrics
  asked : ∀ metric ∈ request.answerIntent.bind (·.requestedMetric),
    metric ∈ (capabilityFor request.analysisType).rankingMetrics ∧ ∀ ranking ∈ request.ranking, metric = ranking.metric

theorem isOk_check {ε α : Type} {p : Prop} [Decidable p] {e : ε} {x : Except ε α} :
    (if p then Except.error e else x).isOk = true ↔ ¬ p ∧ x.isOk = true := by
  by_cases h : p
  · simp [h, Except.isOk, Except.toBool]
  · simp [h]

theorem validate_isOk_iff {request : AnalysisRequest} :
    (validateAnalysisRequest request).isOk = true ↔ Accepts request := by
  have haccepts : Accepts request ↔ (¬ ((capabilityFor request.analysisType).subjectRequired = true ∧
        request.subjectType.isNone = true)) ∧
      (∀ subject ∈ request.subjectType, subject ∈ (capabilityFor request.analysisType).subjects) ∧
      unsupportedFilters request = [] ∧
      (∀ ranking ∈ request.ranking, ranking.metric ∈ (capabilityFor request.analysisType).rankingMetrics) ∧
      ∀ metric ∈ request.answerIntent.bind (·.requestedMetric),
        metric ∈ (capabilityFor request.analysisType).rankingMetrics ∧
          ∀ ranking ∈ request.ranking, metric = ranking.metric := by
    constructor
    · intro h
      refine ⟨fun hnone => ?_, h.subject, h.filters, h.ranked, h.asked⟩
      have hsome := h.required hnone.1
      rw [Option.isNone_iff_eq_none.mp hnone.2] at hsome
      cases hsome
    · rintro ⟨hrequired, hsubject, hfilters, hranked, hasked⟩
      refine ⟨fun hr => ?_, hsubject, hfilters, hranked, hasked⟩
      by_contra hnone
      exact hrequired ⟨hr, by simpa using hnone⟩
  rw [haccepts]
  unfold validateAnalysisRequest
  simp only [pure, Except.pure, bind, Except.bind, throw, throwThe, MonadExceptOf.throw]
  have hok : ∀ capability : AnalysisCapability,
      (Except.ok capability : Except PyError AnalysisCapability).isOk = true := fun _ => rfl
  cases request.subjectType with
  | none =>
    cases request.ranking with
    | none =>
      cases request.answerIntent.bind (·.requestedMetric) with
      | none =>
        simp only [isOk_check, hok]
        simp
      | some metric =>
        simp only [isOk_check, hok]
        simp
    | some ranking =>
      cases request.answerIntent.bind (·.requestedMetric) with
      | none =>
        simp only [isOk_check, hok]
        simp
      | some metric =>
        simp only [isOk_check, hok]
        simp
  | some subject =>
    cases request.ranking with
    | none =>
      cases request.answerIntent.bind (·.requestedMetric) with
      | none =>
        simp only [isOk_check, hok]
        simp
      | some metric =>
        simp only [isOk_check, hok]
        simp
    | some ranking =>
      cases request.answerIntent.bind (·.requestedMetric) with
      | none =>
        simp only [isOk_check, hok]
        simp
      | some metric =>
        simp only [isOk_check, hok]
        simp

/-! ## What the words give -/

section Words
variable {question : String} {type : AnalysisType}

theorem subjectScope_supported {subject : AnalysisSubjectType} (h : subjectScope question type = some subject) :
    subject ∈ (capabilityFor type).subjects := by
  have hrules : ∀ t, ∀ rule ∈ subjectRules t, rule.2 ∈ (capabilityFor t).subjects := by
    intro t
    cases t <;> decide
  obtain ⟨rule, hrule, rfl⟩ := Option.map_eq_some_iff.mp h
  exact hrules type rule (List.mem_of_find?_eq_some hrule)

theorem rankingOf_supported {ranking : RankingRequest} (h : rankingOf question type = some ranking) :
    ranking.metric ∈ (capabilityFor type).rankingMetrics := by
  unfold rankingOf at h
  cases type with
  | vehiclePerformance =>
    simp only at h
    split_ifs at h <;> (cases h; decide)
  | stationPerformance =>
    simp only at h
    split_ifs at h
    cases h
    decide
  | routePerformance =>
    simp only at h
    split_ifs at h <;> (cases h; decide)
  | fleetSummary =>
    simp only at h
    split_ifs at h
    cases h
    decide
  | priorityReview =>
    cases h
    decide
  | _ => cases h

theorem rankingOf_vehicle {ranking : RankingRequest} (h : rankingOf question .vehiclePerformance = some ranking) :
    ranking.metric = .profitLastYear := by
  simp only [rankingOf] at h
  split_ifs at h <;> cases h <;> rfl

end Words

/-! ## The intent of the answer -/

theorem length_evidenceRequirements (forms : List QuestionForm) (metric : Option AnswerMetric)
    (subjectType : Option AnalysisSubjectType) : (evidenceRequirements forms metric subjectType).length ≤ 10 := by
  unfold evidenceRequirements
  simp only [List.length_append]
  split_ifs <;> simp

theorem fieldError_eq_none {intent : AnswerIntent} (hforms : intent.questionForms.length ≤ 4)
    (hevidence : intent.evidenceRequirements.length ≤ 10) (hnodup : intent.questionForms.Nodup)
    (hpremise : intent.premise.isSome = true → .premiseCheck ∈ intent.questionForms) : intent.fieldError = none := by
  unfold AnswerIntent.fieldError
  rw [if_neg (by omega), if_neg (by omega), if_neg (not_not.mpr hnodup), if_neg]
  rintro ⟨hsome, hmissing⟩
  exact hmissing (hpremise hsome)

section Intent
variable (question : String) (type : AnalysisType) (ranking : Option RankingRequest)
  (subjectType : Option AnalysisSubjectType)

theorem generalIntent_valid : (generalIntent question type ranking subjectType).fieldError = none := by
  refine fieldError_eq_none ?_ (length_evidenceRequirements ..) ?_ (by simp [generalIntent])
  · simp only [generalIntent]
    split_ifs <;> simp
  · simp only [generalIntent]
    split_ifs <;> decide

theorem vehicleIntent_valid : (vehicleIntent question ranking subjectType).fieldError = none := by
  unfold vehicleIntent
  split_ifs <;> exact fieldError_eq_none (by simp) (length_evidenceRequirements ..) (by simp) (by simp)

theorem changesIntent_valid : (changesIntent question type subjectType).fieldError = none :=
  fieldError_eq_none (by simp [changesIntent]) (length_evidenceRequirements ..) (by simp [changesIntent])
    (by simp [changesIntent])

theorem routeIntent_valid : (routeIntent question ranking).fieldError = none := by
  refine fieldError_eq_none ?_ (length_evidenceRequirements ..) ?_ ?_
  · simp only [routeIntent]
    split_ifs <;> simp
  · simp only [routeIntent]
    split_ifs <;> decide
  · simp only [routeIntent]
    split_ifs <;> simp_all

/-- The intent of every question is a valid one. -/
theorem answerIntent_valid : (answerIntentForQuestion question type ranking subjectType).fieldError = none := by
  cases type with
  | companyHealth =>
    simp only [answerIntentForQuestion, companyHealthIntent]
    split_ifs <;> exact fieldError_eq_none (by simp) (length_evidenceRequirements ..) (by decide) (by simp)
  | financialSummary =>
    simp only [answerIntentForQuestion, financialIntent]
    split_ifs with hdebt hmuch
    · exact fieldError_eq_none (by simp) (length_evidenceRequirements ..) (by simp) (by simp)
    · exact fieldError_eq_none (by simp) (length_evidenceRequirements ..) (by simp) (by simp)
    · exact fieldError_eq_none (by simp) (length_evidenceRequirements ..) (by simp) (by simp)
    · exact generalIntent_valid ..
  | worldChanges => exact changesIntent_valid ..
  | anomalyDetection => exact changesIntent_valid ..
  | vehiclePerformance => exact vehicleIntent_valid ..
  | routePerformance => exact routeIntent_valid ..
  | fleetSummary =>
    simp only [answerIntentForQuestion]
    split_ifs
    · exact fieldError_eq_none (by simp [vehicleTypeIntent]) (length_evidenceRequirements ..) (by decide) nofun
    · exact generalIntent_valid ..
  | stationPerformance => exact generalIntent_valid ..
  | serviceCoverage => exact generalIntent_valid ..
  | industryOpportunities => exact generalIntent_valid ..
  | townCoverage => exact generalIntent_valid ..
  | priorityReview => exact generalIntent_valid ..
  | entitySummary => exact generalIntent_valid ..

end Intent

/-! ## The metric of the answer -/

/-- The metric that is asked for, if any, is one of the type and the ranked one. -/
def MetricFits (type : AnalysisType) (ranking : Option RankingRequest) (asked : Option AnswerMetric) : Prop :=
  ∀ metric ∈ asked, metric ∈ (capabilityFor type).rankingMetrics ∧ ∀ r ∈ ranking, metric = r.metric

section Metric
variable {question : String} {type : AnalysisType} {subjectType : Option AnalysisSubjectType}

theorem metricFits_none {ranking : Option RankingRequest} : MetricFits type ranking none := nofun

theorem metricFits_ranked : MetricFits type (rankingOf question type) ((rankingOf question type).map (·.metric)) := by
  intro metric hmetric
  obtain ⟨ranking, hranking, rfl⟩ := Option.map_eq_some_iff.mp hmetric
  refine ⟨rankingOf_supported hranking, fun r hr => ?_⟩
  rw [Option.some.inj (hranking.symm.trans hr)]

theorem metricFits_unranked {metric : AnswerMetric} (hmetric : metric ∈ (capabilityFor type).rankingMetrics) :
    MetricFits type none (some metric) := by
  intro m hm
  cases hm
  exact ⟨hmetric, nofun⟩

theorem generalIntent_fits (htype : type ≠ .serviceCoverage) :
    MetricFits type (rankingOf question type)
      (generalIntent question type (rankingOf question type) subjectType).requestedMetric := by
  have hmetric : (generalIntent question type (rankingOf question type) subjectType).requestedMetric =
      (rankingOf question type).map (·.metric) := if_neg fun h => htype h.1
  rw [hmetric]
  exact metricFits_ranked

theorem changesIntent_metric : (changesIntent question type subjectType).requestedMetric =
    if mentions question "population" ∨ mentions question "town" then some .population
    else if mentions question "profit" ∨ mentions question "unprofitable" then some .profitLastYear
    else none := rfl

/-- No anomaly is measured by a metric. -/
theorem anomaly_fits_iff :
    MetricFits .anomalyDetection (rankingOf question .anomalyDetection)
        (changesIntent question .anomalyDetection subjectType).requestedMetric ↔
      mentionsAny question ["population", "town", "profit", "unprofitable"] = false := by
  have hnone : ∀ metric, MetricFits .anomalyDetection (rankingOf question .anomalyDetection) (some metric) →
      metric = .materiality := by
    intro metric h
    simpa [capabilityFor] using (h metric rfl).1
  rw [changesIntent_metric]
  simp only [mentionsAny, List.any_cons, List.any_nil, Bool.or_false, Bool.or_eq_false_iff]
  split_ifs with htown hprofit
  · constructor
    · intro h
      cases hnone _ h
    · rintro ⟨hpopulation, hnotown, -⟩
      simp [hpopulation, hnotown] at htown
  · constructor
    · intro h
      cases hnone _ h
    · rintro ⟨-, -, hnoprofit, hnoloss⟩
      simp [hnoprofit, hnoloss] at hprofit
  · refine ⟨fun _ => ?_, fun _ => metricFits_none⟩
    rw [not_or, Bool.not_eq_true, Bool.not_eq_true] at htown hprofit
    exact ⟨htown.1, htown.2, hprofit.1, hprofit.2⟩

/-- Idle vehicles are not ranked by another metric. -/
theorem vehicle_fits_iff :
    MetricFits .vehiclePerformance (rankingOf question .vehiclePerformance)
        (vehicleIntent question (rankingOf question .vehiclePerformance) subjectType).requestedMetric ↔
      (mentions question "idle" = true ∨ mentions question "sitting" = true →
        rankingOf question .vehiclePerformance = none ∨
          (mentions question "flag" = true ∧ mentionsAny question ["this vehicle", "that vehicle"] = true)) := by
  by_cases hflag : mentions question "flag" = true ∧ mentionsAny question ["this vehicle", "that vehicle"] = true
  · rw [vehicleIntent, if_pos hflag]
    exact ⟨fun _ _ => .inr hflag, fun _ => metricFits_none⟩
  · rw [vehicleIntent, if_neg hflag]
    by_cases hidle : mentions question "idle" = true ∨ mentions question "sitting" = true
    · rw [if_pos hidle]
      constructor
      · intro h _
        cases hranking : rankingOf question .vehiclePerformance with
        | none => exact .inl rfl
        | some ranking =>
          have hsame := (h .runningState rfl).2 ranking hranking
          rw [rankingOf_vehicle hranking] at hsame
          cases hsame
      · intro h
        rw [(h hidle).resolve_right hflag]
        exact metricFits_unranked (by decide)
    · rw [if_neg hidle]
      exact ⟨fun _ h => absurd h hidle, fun _ => metricFits_ranked⟩

/-- The metric fits unless an anomaly of a metric is asked for, or idle vehicles are ranked. -/
theorem metricFits_iff :
    MetricFits type (rankingOf question type)
        (answerIntentForQuestion question type (rankingOf question type) subjectType).requestedMetric ↔
      (type = .anomalyDetection →
        mentionsAny question ["population", "town", "profit", "unprofitable"] = false) ∧
      (type = .vehiclePerformance → mentions question "idle" = true ∨ mentions question "sitting" = true →
        rankingOf question type = none ∨
          (mentions question "flag" = true ∧ mentionsAny question ["this vehicle", "that vehicle"] = true)) := by
  have hfits : ∀ {p : Prop}, p → type ≠ .anomalyDetection → type ≠ .vehiclePerformance → (p ↔
      (type = .anomalyDetection → mentionsAny question ["population", "town", "profit", "unprofitable"] = false) ∧
      (type = .vehiclePerformance → mentions question "idle" = true ∨ mentions question "sitting" = true →
        rankingOf question type = none ∨
          (mentions question "flag" = true ∧ mentionsAny question ["this vehicle", "that vehicle"] = true))) := by
    intro p hp hanomaly hvehicle
    exact ⟨fun _ => ⟨fun h => absurd h hanomaly, fun h => absurd h hvehicle⟩, fun _ => hp⟩
  cases type with
  | companyHealth =>
    refine hfits ?_ (by decide) (by decide)
    simp only [answerIntentForQuestion, companyHealthIntent]
    split_ifs <;> exact metricFits_unranked (by decide)
  | financialSummary =>
    refine hfits ?_ (by decide) (by decide)
    simp only [answerIntentForQuestion, financialIntent]
    split_ifs
    · exact metricFits_unranked (by decide)
    · exact metricFits_unranked (by decide)
    · exact metricFits_unranked (by decide)
    · exact generalIntent_fits (by decide)
  | worldChanges =>
    refine hfits ?_ (by decide) (by decide)
    simp only [answerIntentForQuestion, changesIntent_metric]
    split_ifs
    · exact metricFits_unranked (by decide)
    · exact metricFits_unranked (by decide)
    · exact metricFits_none
  | anomalyDetection =>
    rw [show answerIntentForQuestion question .anomalyDetection _ subjectType =
      changesIntent question _ subjectType from rfl, anomaly_fits_iff]
    simp
  | vehiclePerformance =>
    rw [show answerIntentForQuestion question .vehiclePerformance _ subjectType = vehicleIntent question _ subjectType
      from rfl, vehicle_fits_iff]
    simp
  | routePerformance => exact hfits metricFits_ranked (by decide) (by decide)
  | fleetSummary =>
    refine hfits ?_ (by decide) (by decide)
    simp only [answerIntentForQuestion]
    split_ifs with hvehicle
    · simp [rankingOf, hvehicle, vehicleTypeIntent, MetricFits, capabilityFor]
    · exact generalIntent_fits (by decide)
  | serviceCoverage =>
    refine hfits ?_ (by decide) (by decide)
    simp only [answerIntentForQuestion, generalIntent]
    split_ifs
    · exact metricFits_unranked (by decide)
    · exact metricFits_ranked
  | stationPerformance => exact hfits (generalIntent_fits (by decide)) (by decide) (by decide)
  | industryOpportunities => exact hfits (generalIntent_fits (by decide)) (by decide) (by decide)
  | townCoverage => exact hfits (generalIntent_fits (by decide)) (by decide) (by decide)
  | priorityReview => exact hfits (generalIntent_fits (by decide)) (by decide) (by decide)
  | entitySummary => exact hfits (generalIntent_fits (by decide)) (by decide) (by decide)

end Metric

/-! ## The texts -/

section Texts
variable {py : PyText} {question : String}

/-- A part between spaces that is not empty, around a character that is no space. -/
theorem exists_part {p : Char → Bool} {l : List Char} {c : Char} (hc : c ∈ l) (hp : p c = false) :
    ∃ part ∈ l.splitOnP p, part ≠ [] := by
  induction l with
  | nil => cases hc
  | cons x xs ih =>
    rw [List.splitOnP_cons_eq_if_modifyHead]
    by_cases hx : p x = true
    · rw [if_pos hx]
      have hne : c ≠ x := by
        rintro rfl
        rw [hp] at hx
        cases hx
      obtain ⟨part, hpart, hnonempty⟩ := ih ((List.mem_cons.mp hc).resolve_left hne)
      exact ⟨part, List.mem_cons_of_mem _ hpart, hnonempty⟩
    · rw [if_neg hx]
      cases hsplit : xs.splitOnP p with
      | nil => exact (List.splitOnP_ne_nil _ _ hsplit).elim
      | cons part parts => exact ⟨x :: part, by simp, by simp⟩

theorem intercalate_ne_empty {parts : List String} (hne : parts ≠ []) (hparts : ∀ part ∈ parts, part ≠ "") :
    " ".intercalate parts ≠ "" := by
  cases parts with
  | nil => exact absurd rfl hne
  | cons part parts =>
    have hpart := hparts part (by simp)
    cases parts with
    | nil =>
      rw [String.intercalate_singleton]
      exact hpart
    | cons next parts =>
      rw [String.intercalate_cons_cons]
      intro h
      have hlength := congrArg String.length h
      rw [String.length_append, String.length_append] at hlength
      have hspace : " ".length = 1 := rfl
      have hempty : "".length = 0 := rfl
      omega

theorem lowered_ne_empty (hlower : ∃ c ∈ (py.lower question).toList, py.isSpace c = false) :
    py.lowered question ≠ "" := by
  obtain ⟨c, hc, hspace⟩ := hlower
  obtain ⟨part, hpart, hnonempty⟩ := exists_part hc hspace
  refine intercalate_ne_empty ?_ fun s hs => ?_
  · intro h
    have hmem : String.ofList part ∈ py.split (py.lower question) :=
      List.mem_map_of_mem (List.mem_filter.mpr ⟨hpart, by simpa using hnonempty⟩)
    rw [h] at hmem
    cases hmem
  · obtain ⟨l, hl, rfl⟩ := List.mem_map.mp hs
    have hl' : l ≠ [] := by simpa using (List.mem_filter.mp hl).2
    intro h
    exact hl' (by simpa using congrArg String.toList h)

theorem strip_length (hblank : ∃ c ∈ question.toList, py.isSpace c = false) :
    (py.strip question).length ≠ 0 ∧ (py.strip question).length ≤ question.length := by
  obtain ⟨c, hc, hspace⟩ := hblank
  have hlength : (py.strip question).length =
      ((question.toList.dropWhile py.isSpace).reverse.dropWhile py.isSpace).length := by
    simp [PyText.strip]
  have hfirst := (List.dropWhile_suffix (l := question.toList) py.isSpace).length_le
  have hsecond := (List.dropWhile_suffix (l := (question.toList.dropWhile py.isSpace).reverse) py.isSpace).length_le
  rw [List.length_reverse] at hsecond
  rw [hlength]
  constructor
  · intro hzero
    have hall := List.dropWhile_eq_nil_iff.mp (List.eq_nil_of_length_eq_zero hzero)
    have hmem : c ∈ question.toList.takeWhile py.isSpace ++ question.toList.dropWhile py.isSpace := by
      rw [List.takeWhile_append_dropWhile]
      exact hc
    rcases List.mem_append.mp hmem with hmem | hmem
    · have := List.mem_takeWhile_imp hmem
      rw [hspace] at this
      cases this
    · have := hall c (List.mem_reverse.mpr hmem)
      rw [hspace] at this
      cases this
  · rw [String.length_toList] at hfirst
    omega

end Texts

/-! ## The request -/

section Request
variable {py : PyText} {question : String} {context : Option AnalysisCompilerContext} {type : AnalysisType}
  {resolution : Option Resolution}

theorem conversationReference_size {kind : ConversationReferenceKind} {phrase : String}
    (h : conversationReference question = some (kind, phrase)) : phrase.length ≠ 0 ∧ phrase.length ≤ 100 := by
  obtain ⟨rule, hrule, heq⟩ := Option.map_eq_some_iff.mp h
  cases heq
  have hmem := List.mem_of_find?_eq_some hrule
  simp only [List.mem_cons, List.not_mem_nil, or_false] at hmem
  rcases hmem with rfl | rfl | rfl | rfl | rfl | rfl | rfl | rfl | rfl <;> decide

theorem resolution_size {resolved : Resolution} (h : resolveReference context question = .ok (some resolved)) :
    resolved.phrase.length ≠ 0 ∧ resolved.phrase.length ≤ 100 := by
  unfold resolveReference at h
  cases hphrase : conversationReference question with
  | none =>
    rw [hphrase] at h
    cases h
  | some found =>
    rw [hphrase] at h
    have hsize := conversationReference_size hphrase
    cases context with
    | none => cases h
    | some context =>
      simp only at h
      split at h
      · split at h
        · split at h
          · cases h
            exact hsize
          · cases h
        · cases h
      · split at h
        · cases h
          exact hsize
        · cases h

theorem compileReference_ok (h : resolveReference context question = .ok resolution) :
    ∃ reference, compileReference resolution (context.bind (·.priorAnalysisId)) = .ok reference := by
  cases resolution with
  | none => exact ⟨none, rfl⟩
  | some resolved =>
    cases context with
    | none => exact ⟨none, rfl⟩
    | some context =>
      cases hprior : context.priorAnalysisId with
      | none => exact ⟨none, by simp [compileReference, hprior]⟩
      | some prior =>
        have hsize := resolution_size h
        have hvalid : (resolved.reference prior).fieldError = none := by
          have hid : isAnalysisId prior = true := context.prior_ok prior hprior
          have hentity := resolved.entity.canonicalId_nonempty
          have hfinding : resolved.finding.map (·.findingId) ≠ some "" := by
            cases hf : resolved.finding with
            | none => simp
            | some finding => simpa using finding.findingId_nonempty
          simp [ResolvedConversationReference.fieldError, Resolution.reference, hid, hentity, hfinding, hsize.1]
          omega
        refine ⟨some (resolved.reference prior), ?_⟩
        simp [compileReference, hprior, construct, hvalid, Except.map]

/-- A question without a type of its own is about what it refers to. -/
theorem resolution_of_entitySummary (h : compiledType question resolution = some .entitySummary) :
    resolution.isSome = true := by
  unfold compiledType at h
  cases hanalysis : analysisType question with
  | some found =>
    rw [hanalysis] at h
    cases h
    unfold analysisType at hanalysis
    split at hanalysis
    · cases hanalysis
    · obtain ⟨rule, hrule, heq⟩ := Option.map_eq_some_iff.mp hanalysis
      have hmem := List.mem_of_find?_eq_some hrule
      have hother : ∀ rule ∈ typeRules, rule.2 ≠ .entitySummary := by decide
      exact absurd heq (hother rule hmem)
  | none =>
    rw [hanalysis] at h
    simp only at h
    split_ifs at h with hsome
    exact hsome

/-- The request before its validation. -/
def requestOf (py : PyText) (question : String) (context : Option AnalysisCompilerContext) (type : AnalysisType)
    (resolution : Option Resolution) (reference : Option ResolvedConversationReference) : AnalysisRequest :=
  let normalized := py.lowered question
  { analysisType := type
    question := py.strip question
    subjectType := compiledSubject normalized type resolution
    subjectIds := (resolution.map (·.entity.canonicalId)).toList
    filters := match vehicleType normalized with
      | some vehicleType => if type = .vehiclePerformance then [vehicleTypeFilter vehicleType] else []
      | none => []
    ranking := rankingOf normalized type
    comparisonSnapshotId := context.bind (·.comparisonSnapshotId)
    answerIntent := some (answerIntentForQuestion normalized type (rankingOf normalized type)
      (compiledSubject normalized type resolution))
    resolvedReference := reference }

theorem construct_of_valid {α : Type} {fieldError : α → Option String} {model : α} (h : fieldError model = none) :
    construct fieldError model = .ok model := by
  unfold construct
  rw [h]

theorem requestOf_valid (hblank : ∃ c ∈ question.toList, py.isSpace c = false) (hsize : question.length ≤ 2000)
    (htype : compiledType (py.lowered question) resolution = some type)
    (reference : Option ResolvedConversationReference) :
    (requestOf py question context type resolution reference).fieldError = none := by
  obtain ⟨hnonempty, hle⟩ := strip_length hblank
  have hcomparison : context.bind (·.comparisonSnapshotId) ≠ some "" := by
    cases context with
    | none => simp
    | some context => exact context.comparison_nonempty
  have hfilters : (requestOf py question context type resolution reference).filters.length ≤ 1 := by
    unfold requestOf
    simp only
    split
    · split_ifs <;> simp
    · simp
  have hentity : type = .entitySummary → resolution.isSome = true := by
    rintro rfl
    exact resolution_of_entitySummary htype
  unfold AnalysisRequest.fieldError
  rw [if_neg (show ¬ ((requestOf py question context type resolution reference).question.length = 0 ∨ _) by
    simp only [requestOf]; omega)]
  rw [if_neg (show ¬ 100 < (requestOf py question context type resolution reference).subjectIds.length by
    cases resolution <;> simp [requestOf]), if_neg (by omega),
    if_neg (show ¬ (requestOf py question context type resolution reference).comparisonSnapshotId = some "" from
      hcomparison),
    if_neg (by simp [requestOf]),
    if_neg (by cases resolution <;> simp [requestOf, compiledSubject]), if_neg, if_neg]
  · cases resolution <;> simp [requestOf]
  · rintro ⟨hsummary, hnone⟩
    cases resolution with
    | none => cases hentity hsummary
    | some resolved => simp [requestOf] at hnone

theorem compileRequest_eq (hblank : ∃ c ∈ question.toList, py.isSpace c = false) (hsize : question.length ≤ 2000)
    (hresolution : resolveReference context (py.lowered question) = .ok resolution)
    (htype : compiledType (py.lowered question) resolution = some type) :
    ∃ reference, compileRequest py question context type resolution = (do
      let request := requestOf py question context type resolution reference
      let _ ← validateAnalysisRequest request
      return request) := by
  obtain ⟨reference, hreference⟩ := compileReference_ok hresolution
  refine ⟨reference, ?_⟩
  have hintent := construct_of_valid (answerIntent_valid (py.lowered question) type
    (rankingOf (py.lowered question) type) (compiledSubject (py.lowered question) type resolution))
  have hrequest : construct AnalysisRequest.fieldError (requestOf py question context type resolution reference) =
      .ok (requestOf py question context type resolution reference) :=
    construct_of_valid (requestOf_valid hblank hsize htype reference)
  have hbind : ∀ {α β : Type} (a : α) (f : α → Except PyError β), (Except.ok a >>= f) = f a := fun _ _ => rfl
  simp only [requestOf] at hrequest ⊢
  simp only [compileRequest, hreference, hintent, hbind]
  cases hfilter : vehicleType (py.lowered question) with
  | none =>
    simp only [hfilter] at hrequest ⊢
    rw [hrequest, hbind]
  | some vehicleType =>
    simp only [hfilter] at hrequest ⊢
    rw [hrequest, hbind]

/-- The request is in the catalog when what its words come together to is. -/
theorem accepts_requestOf (context : Option AnalysisCompilerContext)
    (reference : Option ResolvedConversationReference)
    (htype : compiledType (py.lowered question) resolution = some type) :
    Accepts (requestOf py question context type resolution reference) ↔
      Catalogued (py.lowered question) type resolution := by
  have hmetric : MetricFits type (rankingOf (py.lowered question) type)
      (answerIntentForQuestion (py.lowered question) type (rankingOf (py.lowered question) type)
        (compiledSubject (py.lowered question) type resolution)).requestedMetric ↔ _ := metricFits_iff
  constructor
  · intro h
    obtain ⟨hanomaly, hidle⟩ := hmetric.mp h.asked
    refine ⟨fun resolved hresolved => ?_, hanomaly, hidle⟩
    cases hresolved
    exact h.subject _ rfl
  · intro h
    refine ⟨fun hrequired => ?_, fun subject hsubject => ?_, ?_, fun ranking hranking => rankingOf_supported hranking,
      hmetric.mpr ⟨h.anomaly, h.idle⟩⟩
    · have hsummary : type = .entitySummary := by
        revert hrequired
        simp only [requestOf]
        cases type <;> decide
      subst hsummary
      obtain ⟨resolved, rfl⟩ := Option.isSome_iff_exists.mp (resolution_of_entitySummary htype)
      rfl
    · cases resolution with
      | none => exact subjectScope_supported hsubject
      | some resolved =>
        cases hsubject
        exact h.subject resolved rfl
    · have hnone : ∀ vehicleType, unsupportedFilters { requestOf py question context type resolution reference with
          filters := if type = .vehiclePerformance then [vehicleTypeFilter vehicleType] else [] } = [] := by
        intro vehicleType
        by_cases hvehicle : type = .vehiclePerformance
        · subst hvehicle
          rfl
        · rw [if_neg hvehicle]
          rfl
      cases hfilter : vehicleType (py.lowered question) with
      | none =>
        simp only [requestOf, hfilter]
        rfl
      | some vehicleType =>
        have h := hnone vehicleType
        simp only [requestOf, hfilter] at h ⊢
        exact h

end Request

/-! ## Compilation -/

section Compile
variable {py : PyText} {question : String} {context : Option AnalysisCompilerContext} {type : AnalysisType}
  {resolution : Option Resolution}

theorem compile_early (context : Option AnalysisCompilerContext) (hne : py.lowered question ≠ "")
    (hearly : answeredEarly (py.lowered question) = true) :
    ∃ text, compile py question context = .ok (.unsupported text) ∨
      compile py question context = .ok (.clarification text) := by
  unfold compile
  rw [if_neg hne]
  by_cases h1 : mentionsAny (py.lowered question) ["ten years", "will be profitable", "future profit"] = true
  · rw [if_pos h1]
    exact ⟨_, .inl rfl⟩
  rw [if_neg h1]
  by_cases h2 : mentions (py.lowered question) "crash" = true ∧ mentions (py.lowered question) "why" = true
  · rw [if_pos h2]
    exact ⟨_, .inl rfl⟩
  rw [if_neg h2]
  by_cases h3 : mentionsAny (py.lowered question) ["fix ", "build ", "buy ", "change orders"] = true
  · rw [if_pos h3]
    exact ⟨_, .inl rfl⟩
  rw [if_neg h3]
  by_cases h4 : mentions (py.lowered question) "which route is bad" = true ∨
      py.lowered question = "which route is weak?"
  · rw [if_pos h4]
    exact ⟨_, .inr rfl⟩
  rw [if_neg h4]
  by_cases h5 : rstripQuestionMark (py.lowered question) ∈ ["what should i do", "is this okay"]
  · rw [if_pos h5]
    exact ⟨_, .inr rfl⟩
  · simp only [answeredEarly, Bool.or_eq_true, Bool.and_eq_true, decide_eq_true_eq] at hearly
    exact absurd hearly (not_or.mpr ⟨not_or.mpr ⟨not_or.mpr ⟨not_or.mpr ⟨h1, h2⟩, h3⟩, h4⟩, h5⟩)

/-- What becomes of a question that is not answered early. -/
theorem compile_eq (context : Option AnalysisCompilerContext) (hne : py.lowered question ≠ "")
    (hearly : answeredEarly (py.lowered question) = false) :
    compile py question context = match resolveReference context (py.lowered question) with
      | .error text => .ok (.clarification text)
      | .ok resolution => match compiledType (py.lowered question) resolution with
        | none => .ok (.unsupported "The question does not map to the supported deterministic analysis catalog.")
        | some type => do return .request (← compileRequest py question context type resolution) := by
  have hnot : ¬ answeredEarly (py.lowered question) = true := by simp [hearly]
  simp only [answeredEarly, Bool.or_eq_true, Bool.and_eq_true, decide_eq_true_eq, not_or] at hnot
  obtain ⟨⟨⟨⟨h1, h2⟩, h3⟩, h4⟩, h5⟩ := hnot
  unfold compile
  rw [if_neg hne, if_neg h1, if_neg h2, if_neg h3, if_neg (not_or.mpr h4), if_neg h5]
  rfl

theorem totally_of_ok {outcome : AnalysisCompilation} (h : compile py question context = .ok outcome)
    (hrequest : ∀ request, outcome ≠ .request request) : CompilesTotally py question context :=
  ⟨outcome, h, fun request heq => absurd heq (hrequest request)⟩

/-- A question that does not get as far as a request is answered. -/
theorem totally_of_not_reaches (hne : py.lowered question ≠ "")
    (hreaches : ∀ type resolution, ¬ Reaches py question context type resolution) :
    CompilesTotally py question context := by
  cases hearly : answeredEarly (py.lowered question) with
  | true =>
    obtain ⟨text, h | h⟩ := compile_early context hne hearly
    · exact totally_of_ok h fun _ heq => by cases heq
    · exact totally_of_ok h fun _ heq => by cases heq
  | false =>
    have hcompile := compile_eq context hne hearly
    cases hresolved : resolveReference context (py.lowered question) with
    | error text =>
      rw [hresolved] at hcompile
      exact totally_of_ok hcompile fun _ heq => by cases heq
    | ok resolution =>
      cases htype : compiledType (py.lowered question) resolution with
      | none =>
        rw [hresolved] at hcompile
        simp only [htype] at hcompile
        exact totally_of_ok hcompile fun _ heq => by cases heq
      | some type => exact absurd ⟨hearly, hresolved, htype⟩ (hreaches type resolution)

/-- A question that gets as far as a request is answered when its words are in the catalog. -/
theorem totally_iff_of_reaches (hne : py.lowered question ≠ "")
    (hblank : ∃ c ∈ question.toList, py.isSpace c = false) (hsize : question.length ≤ 2000)
    (hreaches : Reaches py question context type resolution) :
    CompilesTotally py question context ↔ Catalogued (py.lowered question) type resolution := by
  obtain ⟨reference, hrequest⟩ := compileRequest_eq hblank hsize hreaches.resolved hreaches.typed
  have hcompile := compile_eq context hne hreaches.notAnswered
  rw [hreaches.resolved] at hcompile
  simp only [hreaches.typed, hrequest] at hcompile
  rw [← accepts_requestOf context reference hreaches.typed, ← validate_isOk_iff]
  cases hvalid : validateAnalysisRequest (requestOf py question context type resolution reference) with
  | error e =>
    rw [hvalid] at hcompile
    constructor
    · rintro ⟨outcome, hok, -⟩
      rw [hcompile] at hok
      cases hok
    · intro h
      cases h
  | ok capability =>
    rw [hvalid] at hcompile
    refine ⟨fun _ => rfl, fun _ => ⟨_, hcompile, ?_⟩⟩
    intro request heq
    cases heq
    rw [hvalid]
    rfl

theorem Reaches.unique {type' : AnalysisType} {resolution' : Option Resolution}
    (h : Reaches py question context type resolution) (h' : Reaches py question context type' resolution') :
    type' = type ∧ resolution' = resolution := by
  obtain rfl : resolution' = resolution := Except.ok.inj (h'.resolved.symm.trans h.resolved)
  exact ⟨Option.some.inj (h'.typed.symm.trans h.typed), rfl⟩

/-- **Which questions compile.** A question that gets as far as a request raises nothing exactly
when what its words come together to is in the catalog. -/
theorem compile_total_iff (py : PyText) (question : String) (context : Option AnalysisCompilerContext)
    (hlower : (∃ c ∈ question.toList, py.isSpace c = false) → ∃ c ∈ (py.lower question).toList, py.isSpace c = false)
    (hblank : ∃ c ∈ question.toList, py.isSpace c = false) (hsize : question.length ≤ 2000) :
    CompilesTotally py question context ↔ ∀ type resolution, Reaches py question context type resolution →
      Catalogued (py.lowered question) type resolution := by
  have hne := lowered_ne_empty (hlower hblank)
  by_cases hreaches : ∃ type resolution, Reaches py question context type resolution
  · obtain ⟨type, resolution, hreaches⟩ := hreaches
    rw [totally_iff_of_reaches hne hblank hsize hreaches]
    constructor
    · intro h type' resolution' hreaches'
      obtain ⟨rfl, rfl⟩ := hreaches.unique hreaches'
      exact h
    · intro h
      exact h type resolution hreaches
  · have hnone : ∀ type resolution, ¬ Reaches py question context type resolution := fun type resolution h =>
      hreaches ⟨type, resolution, h⟩
    exact ⟨fun _ type resolution h => absurd h (hnone type resolution), fun _ => totally_of_not_reaches hne hnone⟩

theorem compile_total_iff_cash : CompilesTotally asciiText cashQuestion none ↔
    ∀ type resolution, Reaches asciiText cashQuestion none type resolution →
      Catalogued (asciiText.lowered cashQuestion) type resolution :=
  compile_total_iff asciiText cashQuestion none (fun _ => ⟨'h', by decide +kernel, by decide⟩)
    ⟨'H', by decide +kernel, by decide⟩ (by decide)

/-- A question for unusual profits is a request of the type of anomalies, with a metric it has not. -/
theorem not_compile_total_profits : ¬ ∀ (py : PyText) (question : String) (context : Option AnalysisCompilerContext),
    ((∃ c ∈ question.toList, py.isSpace c = false) → ∃ c ∈ (py.lower question).toList, py.isSpace c = false) →
    (∃ c ∈ question.toList, py.isSpace c = false) → question.length ≤ 2000 → CompilesTotally py question context := by
  intro h
  obtain ⟨outcome, hok, -⟩ := h asciiText "Are there unusual profits?" none
    (fun _ => ⟨'u', by decide +kernel, by decide⟩) ⟨'u', by decide +kernel, by decide⟩ (by decide)
  have herror : compile asciiText "Are there unusual profits?" none =
      .error (requestError "answer metric profit_last_year is unsupported for anomaly_detection") := by
    decide +kernel
  rw [hok] at herror
  cases herror

end Compile

end SimPilot.Analysis
