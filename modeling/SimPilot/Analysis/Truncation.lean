import SimPilot.Analysis.Vehicles
/-!
# What the number of listed findings decides

The findings are cut to `maximum_findings` before the answer is selected among them
(service.py:57, :81), so the cut takes part in the answer. Two cuts answer alike exactly
when what decides is in both of them or in neither (`ListedAlike`), and that no vehicle is
idle is told rightly exactly when no idle one is told of in the cut although one is there
(`IdleTold`).
-/

namespace SimPilot.Analysis

/-! ## What of a finding is read -/

section
variable {py : PyFormat} {request : AnalysisRequest} {snapshot : WorldSnapshot} {comparison : Option WorldSnapshot}
  (retained : List String)

theorem find?_retain (p : AnalysisFinding → Bool) (hp : ∀ f, p (f.retain retained) = p f)
    (findings : List AnalysisFinding) :
    (findings.map (·.retain retained)).find? p = (findings.find? p).map (·.retain retained) := by
  induction findings with
  | nil => rfl
  | cons f findings ih =>
    rw [List.map_cons, List.find?_cons, List.find?_cons, hp]
    cases p f with
    | true => rfl
    | false => exact ih

theorem mostSevere_retain (findings : List AnalysisFinding) :
    mostSevere (findings.map (·.retain retained)) = (mostSevere findings).map (·.retain retained) := by
  cases findings with
  | nil => rfl
  | cons first rest =>
    show some _ = some _
    congr 1
    induction rest generalizing first with
    | nil => rfl
    | cons f rest ih =>
      rw [List.map_cons, List.foldl_cons, List.foldl_cons]
      have hbefore : (f.retain retained).before (first.retain retained) = f.before first := rfl
      rw [hbefore]
      cases f.before first with
      | true => exact ih f
      | false => exact ih first

theorem selectDecisive_retain (findings : List AnalysisFinding) (metric : Option String) :
    selectDecisive request (findings.map (·.retain retained)) metric snapshot =
      (selectDecisive request findings metric snapshot).map (·.retain retained) := by
  unfold selectDecisive
  rw [find?_retain retained _ fun _ => rfl, find?_retain retained _ fun _ => rfl, mostSevere_retain]
  by_cases hidle : intentConcept request = some .idle
  · rw [if_pos hidle, if_pos hidle]
  · rw [if_neg hidle, if_neg hidle]
    cases metric with
    | some metric =>
      dsimp only
      rw [find?_retain retained _ fun _ => rfl]
      cases findings.find? (·.metricName = some metric) with
      | none => rfl
      | some candidate =>
        have htop : matchesActualRankingTop request snapshot (candidate.retain retained) metric =
          matchesActualRankingTop request snapshot candidate metric := rfl
        simp only [Option.map_some, htop]
        split_ifs <;> rfl
    | none =>
      cases findings.find? (·.metricName = some "net_operating_result") with
      | none => rfl
      | some operating =>
        simp only [Option.map_some]
        split_ifs <;> rfl

theorem comparisonProblem_retain (findings : List AnalysisFinding) :
    comparisonProblem request comparison (findings.map (·.retain retained)) =
      comparisonProblem request comparison findings := by
  have hevidence : (findings.map (·.retain retained)).flatMap (·.evidence) = findings.flatMap (·.evidence) := by
    rw [List.flatMap_map]
    rfl
  unfold comparisonProblem
  rw [hevidence]

/-- A verdict over findings of which some recommendations are left. -/
def Verdict.retain : Verdict → Verdict
  | .decided decisive => .decided (decisive.retain retained)
  | other => other

theorem verdict_retain (findings : List AnalysisFinding) :
    verdict request snapshot comparison (findings.map (·.retain retained)) =
      (verdict request snapshot comparison findings).retain retained := by
  have hnone : nothingAnomalous request comparison (findings.map (·.retain retained)) =
      nothingAnomalous request comparison findings := by
    simp only [nothingAnomalous, List.isEmpty_map]
  unfold verdict
  rw [hnone, comparisonProblem_retain, selectDecisive_retain]
  by_cases h : nothingAnomalous request comparison findings
  · rw [if_pos h, if_pos h]
    rfl
  · rw [if_neg h, if_neg h]
    cases (if needsComparison request then comparisonProblem request comparison findings else none) with
    | some problem => rfl
    | none =>
      cases selectDecisive request findings (requiredMetric request) snapshot with
      | some decisive => rfl
      | none =>
        by_cases hidle : intentConcept request = some .idle
        · simp only [Option.map_none, if_pos hidle, Verdict.retain]
        · simp only [Option.map_none, if_neg hidle]
          cases requiredMetric request <;> rfl

theorem shown_retain (v : Verdict) (status : AnalysisStatus) (fallback : String) :
    (v.retain retained).shown py request snapshot status fallback = v.shown py request snapshot status fallback := by
  cases v <;> rfl

end

/-! ## What decides -/

section
variable (py : PyFormat) (request : AnalysisRequest) (snapshot : WorldSnapshot) (comparison : Option WorldSnapshot)

/-- An evaluated change from the comparison is among the evidence of the findings. -/
def ChangeListed (cut : List AnalysisFinding) : Prop :=
  ∃ other, comparison = some other ∧ request.comparisonSnapshotId = some other.metadata.snapshotId ∧
    ∃ f ∈ cut, ∃ evidence ∈ f.evidence, evidence.isChangeFrom other.metadata.snapshotId = true

def Evaluated (cut : List AnalysisFinding) : Prop := needsComparison request = true → ChangeListed request comparison cut

def IdleListed (cut : List AnalysisFinding) : Prop := ∃ f ∈ cut, f.findingCode = "idle_vehicle"

/-- A finding with the metric is listed, and where a ranking is asked for the first of them is of its top. -/
def MetricListed (metric : String) (cut : List AnalysisFinding) : Prop :=
  ∃ f, cut.find? (·.metricName = some metric) = some f ∧
    (request.ranking.isSome = true → matchesActualRankingTop request snapshot f metric = true)

/-- What decides the answer is listed in both cuts or in neither. -/
structure ListedAlike (cut cut' : List AnalysisFinding) : Prop where
  change : Evaluated request comparison cut ↔ Evaluated request comparison cut'
  idle : Evaluated request comparison cut → intentConcept request = some .idle → (IdleListed cut ↔ IdleListed cut')
  metric : Evaluated request comparison cut → intentConcept request ≠ some .idle → ∀ metric,
    requiredMetric request = some metric →
      (MetricListed request snapshot metric cut ↔ MetricListed request snapshot metric cut')
  severest : Evaluated request comparison cut → intentConcept request ≠ some .idle → requiredMetric request = none →
    ∀ f f', selectDecisive request cut none snapshot = some f → selectDecisive request cut' none snapshot = some f' →
      directAnswer py request f snapshot = directAnswer py request f' snapshot ∧ decidedBasis f = decidedBasis f'

/-- No vehicle of the observer company that matches the filters is idle. -/
def NoneIdle : Prop :=
  ∀ company, observerCompany snapshot = .ok company → ∀ vehicle ∈ snapshot.vehicles, vehicle.ownerId = company.id →
    matchesFilters request.filters vehicle = true → vehicle.isIdle py = false

/-- That none is idle is told only where none is. -/
def IdleTold (answer : String) : Prop :=
  intentConcept request = some .idle → answer = noneIdleText → NoneIdle py request snapshot

/-- Where one is idle and the answer rests on the findings, an idle one is listed. -/
def IdleFound (cut : List AnalysisFinding) : Prop :=
  intentConcept request = some .idle → Evaluated request comparison cut → ¬ IdleListed cut →
    NoneIdle py request snapshot

end

section
variable {py : PyFormat} {request : AnalysisRequest} {snapshot : WorldSnapshot} {comparison : Option WorldSnapshot}
  {cut cut' : List AnalysisFinding} {status : AnalysisStatus} {fallback : String}
  {shown : AnalysisStatus × String × AnswerBasis}

theorem comparisonProblem_eq_none :
    comparisonProblem request comparison cut = none ↔ ChangeListed request comparison cut := by
  unfold comparisonProblem ChangeListed
  cases comparison with
  | none => simp
  | some other =>
    cases hid : request.comparisonSnapshotId with
    | none => simp
    | some requested =>
      simp only [Option.some.injEq, exists_eq_left']
      by_cases hsame : requested = other.metadata.snapshotId
      · rw [if_neg (by simpa using hsame)]
        split_ifs with hall
        · simp only [List.all_eq_true, List.mem_flatMap, decide_eq_true_eq] at hall
          refine iff_of_false (by simp) ?_
          rintro ⟨-, f, hf, evidence, he, hchange⟩
          exact hall evidence ⟨f, hf, he⟩ hchange
        · refine iff_of_true rfl ⟨hsame, ?_⟩
          simp only [List.all_eq_true, List.mem_flatMap, decide_eq_true_eq, not_forall] at hall
          obtain ⟨evidence, ⟨f, hf, he⟩, hchange⟩ := hall
          exact ⟨f, hf, evidence, he, by simpa using hchange⟩
      · rw [if_pos hsame]
        exact iff_of_false (by simp) fun h => hsame h.1

/-- What is wrong with a comparison does not hang on the cut. -/
theorem comparisonProblem_unique {problem problem' : String}
    (h : comparisonProblem request comparison cut = some problem)
    (h' : comparisonProblem request comparison cut' = some problem') : problem = problem' := by
  unfold comparisonProblem at h h'
  cases comparison with
  | none =>
    cases h
    cases h'
    rfl
  | some other =>
    cases hid : request.comparisonSnapshotId with
    | none =>
      rw [hid] at h h'
      cases h
      cases h'
      rfl
    | some requested =>
      simp only [hid] at h h'
      split_ifs at h h' <;> simp_all

/-- The problem of the comparison, where one is needed. -/
def problemOf (request : AnalysisRequest) (comparison : Option WorldSnapshot) (cut : List AnalysisFinding) :
    Option String :=
  if needsComparison request then comparisonProblem request comparison cut else none

theorem problemOf_eq_none : problemOf request comparison cut = none ↔ Evaluated request comparison cut := by
  unfold problemOf Evaluated
  by_cases hneeds : needsComparison request = true
  · rw [if_pos hneeds, comparisonProblem_eq_none]
    exact ⟨fun h _ => h, fun h => h hneeds⟩
  · rw [if_neg hneeds]
    exact iff_of_true rfl fun h => absurd h hneeds

theorem problemOf_unique {problem problem' : String} (h : problemOf request comparison cut = some problem)
    (h' : problemOf request comparison cut' = some problem') : problem = problem' := by
  unfold problemOf at h h'
  by_cases hneeds : needsComparison request = true
  · rw [if_pos hneeds] at h h'
    exact comparisonProblem_unique h h'
  · rw [if_neg hneeds] at h
    cases h

/-- Without findings nothing is evaluated. -/
theorem Evaluated.ne_nil (h : Evaluated request comparison cut) (hneeds : needsComparison request = true) : cut ≠ [] := by
  obtain ⟨_, _, _, f, hf, _⟩ := h hneeds
  exact List.ne_nil_of_mem hf

theorem Evaluated.not_anomalous (h : Evaluated request comparison cut) :
    ¬ nothingAnomalous request comparison cut = true := by
  intro hnothing
  simp only [nothingAnomalous, decide_eq_true_eq] at hnothing
  exact h.ne_nil hnothing.1 (List.isEmpty_iff.mp hnothing.2.2.2)

/-- The verdict where the answer rests on the findings. -/
theorem verdict_evaluated (h : Evaluated request comparison cut) :
    verdict request snapshot comparison cut =
      match selectDecisive request cut (requiredMetric request) snapshot with
      | some decisive => .decided decisive
      | none =>
        if intentConcept request = some .idle then .noneIdle else
        match requiredMetric request with
        | some metric => .metricMissing metric
        | none => .unanswered := by
  have hnone := problemOf_eq_none.mpr h
  unfold problemOf at hnone
  unfold verdict
  rw [if_neg h.not_anomalous, hnone] <;> rfl

/-- The verdict of findings that do not answer the comparison. -/
theorem verdict_blocked (hcut : cut ≠ []) {problem : String} (h : problemOf request comparison cut = some problem) :
    verdict request snapshot comparison cut = .blocked problem := by
  unfold problemOf at h
  have hnothing : ¬ nothingAnomalous request comparison cut = true := by
    intro hnothing
    simp only [nothingAnomalous, decide_eq_true_eq] at hnothing
    exact hcut (List.isEmpty_iff.mp hnothing.2.2.2)
  unfold verdict
  rw [if_neg hnothing, h]

theorem selectDecisive_idle (hidle : intentConcept request = some .idle) (metric : Option String) :
    selectDecisive request cut metric snapshot = cut.find? (·.findingCode = "idle_vehicle") := by
  unfold selectDecisive
  rw [if_pos hidle]

theorem selectDecisive_metric (hidle : intentConcept request ≠ some .idle) (metric : String) (f : AnalysisFinding) :
    selectDecisive request cut (some metric) snapshot = some f ↔
      cut.find? (·.metricName = some metric) = some f ∧
        (request.ranking.isSome = true → matchesActualRankingTop request snapshot f metric = true) := by
  unfold selectDecisive
  rw [if_neg hidle]
  dsimp only
  cases cut.find? (·.metricName = some metric) with
  | none => simp
  | some candidate =>
    dsimp only
    split_ifs with htop
    · refine iff_of_false (by simp) ?_
      rintro ⟨hf, h⟩
      cases hf
      exact htop.2 (h htop.1)
    · refine ⟨fun h => ?_, fun h => h.1⟩
      cases h
      refine ⟨rfl, fun hranking => ?_⟩
      by_contra hne
      exact htop ⟨hranking, hne⟩

theorem mostSevere_isSome (h : cut ≠ []) : ∃ f, mostSevere cut = some f := by
  cases cut with
  | nil => exact absurd rfl h
  | cons first rest => exact ⟨_, rfl⟩

/-- Without a metric some finding decides. -/
theorem selectDecisive_severest (hidle : intentConcept request ≠ some .idle) (h : cut ≠ []) :
    ∃ f, selectDecisive request cut none snapshot = some f := by
  unfold selectDecisive
  rw [if_neg hidle]
  dsimp only
  cases cut.find? (·.metricName = some "net_operating_result") with
  | none => exact mostSevere_isSome h
  | some operating =>
    dsimp only
    split_ifs
    · exact ⟨operating, rfl⟩
    · exact mostSevere_isSome h

/-! ## What tells the answers apart -/

/-- Texts whose first `n` letters differ differ. -/
theorem append_ne {a b s t : String} (n : Nat) (ha : n ≤ a.toList.length) (hb : n ≤ b.toList.length)
    (hne : a.toList.take n ≠ b.toList.take n) : a ++ s ≠ b ++ t := by
  intro h
  have hlist := congrArg (fun text : String => text.toList.take n) h
  simp only [String.toList_append, List.take_append_of_le_length ha, List.take_append_of_le_length hb] at hlist
  exact hne hlist

theorem blockedText_ne_noneIdleText (problem : String) : blockedText problem ≠ noneIdleText := by
  have h : noneIdleText = noneIdleText ++ "" := by simp
  rw [h]
  exact append_ne 1 (by decide +kernel) (by decide +kernel) (by decide +kernel)

theorem blockedText_ne_metricMissingText (problem metric : String) : blockedText problem ≠ metricMissingText metric := by
  unfold metricMissingText
  split_ifs
  · have h : "I cannot identify missing cargo types because observed network cargo coverage is unavailable." =
      "I cannot identify" ++ " missing cargo types because observed network cargo coverage is unavailable." := by decide +kernel
    rw [h]
    exact append_ne 10 (by decide +kernel) (by decide +kernel) (by decide +kernel)
  · rw [String.append_assoc]
    exact append_ne 19 (by decide +kernel) (by decide +kernel) (by decide +kernel)

/-- An idle vehicle that is listed is told of. -/
theorem idleAnswer_ne (hidle : intentConcept request = some .idle) {f : AnalysisFinding} {text : String}
    (h : directAnswer py request f snapshot = .ok text) : text ≠ noneIdleText := by
  have hconcept : conceptAnswer py request f snapshot = some do
      let label ← primaryLabel py f snapshot
      return s!"At least one idle vehicle was detected: {label}." := by
    unfold conceptAnswer
    rw [hidle]
  unfold directAnswer at h
  rw [hconcept] at h
  dsimp only at h
  obtain ⟨label, -, htext⟩ := Except.bind_eq_ok.mp h
  cases htext
  have h : noneIdleText = noneIdleText ++ "" := by simp
  rw [h, String.append_assoc]
  exact append_ne 1 (by decide) (by decide) (by decide)

theorem decidedBasis_ne (f : AnalysisFinding) : decidedBasis f ≠ .insufficientData := by
  unfold decidedBasis
  split_ifs <;> simp

/-- An answer that rests on the findings is none that refuses the comparison. -/
theorem evaluated_ne_blocked (hcut : cut ≠ []) (he : Evaluated request comparison cut)
    (h : (verdict request snapshot comparison cut).shown py request snapshot status fallback = .ok shown)
    (problem : String) : shown ≠ (.insufficientData, blockedText problem, .insufficientData) := by
  rintro rfl
  rw [verdict_evaluated he] at h
  cases hd : selectDecisive request cut (requiredMetric request) snapshot with
  | some decisive =>
    rw [hd] at h
    obtain ⟨text, -, hshown⟩ := Except.bind_eq_ok.mp h
    have hparts := Except.ok.inj hshown
    simp only [Prod.mk.injEq] at hparts
    exact decidedBasis_ne decisive hparts.2.2
  | none =>
    rw [hd] at h
    by_cases hidle : intentConcept request = some .idle
    · simp only [if_pos hidle, Verdict.shown, Except.ok.injEq, Prod.mk.injEq] at h
      exact blockedText_ne_noneIdleText problem h.2.1.symm
    · simp only [if_neg hidle] at h
      cases hmetric : requiredMetric request with
      | some metric =>
        simp only [hmetric, Verdict.shown, Except.ok.injEq, Prod.mk.injEq] at h
        exact blockedText_ne_metricMissingText problem metric h.2.1.symm
      | none =>
        rw [hmetric] at hd
        obtain ⟨f, hf⟩ : ∃ f, selectDecisive request cut none snapshot = some f := selectDecisive_severest hidle hcut
        rw [hf] at hd
        cases hd

/-! ## Two cuts of one list -/

theorem find?_take_unique {α : Type} {p : α → Bool} {every : List α} {m m' : Nat} {a b : α}
    (ha : (every.take m).find? p = some a) (hb : (every.take m').find? p = some b) : a = b := by
  have hevery : ∀ {n : Nat} {x : α}, (every.take n).find? p = some x → every.find? p = some x := by
    intro n x hx
    rw [← List.take_append_drop n every, List.find?_append, hx]
    rfl
  have hsame := (hevery ha).symm.trans (hevery hb)
  cases hsame
  rfl

theorem ListedAlike.refl (cut : List AnalysisFinding) : ListedAlike py request snapshot comparison cut cut where
  change := Iff.rfl
  idle _ _ := Iff.rfl
  metric _ _ _ _ := Iff.rfl
  severest _ _ _ f f' hf hf' := by
    rw [hf] at hf'
    cases hf'
    exact ⟨rfl, rfl⟩

/-- A verdict for a finding that decides, and the one where none does. -/
def Verdict.ofDecisive (missing : Verdict) : Option AnalysisFinding → Verdict
  | some decisive => .decided decisive
  | none => missing

/-- Where the finding that decides can only be one, both cuts have it or neither does. -/
theorem shown_eq_iff_together (missing : Verdict) {d d' : Option AnalysisFinding} {fallback' : String}
    {shown' : AnalysisStatus × String × AnswerBasis} (hsame : ∀ f f', d = some f → d' = some f' → f = f')
    (hmissing : ∀ f s, (Verdict.decided f).shown py request snapshot status fallback = .ok s →
      missing.shown py request snapshot status fallback ≠ .ok s)
    (h : (Verdict.ofDecisive missing d).shown py request snapshot status fallback = .ok shown)
    (h' : (Verdict.ofDecisive missing d').shown py request snapshot status fallback' = .ok shown')
    (hfallback : missing.shown py request snapshot status fallback = missing.shown py request snapshot status fallback') :
    shown = shown' ↔ (d.isSome = true ↔ d'.isSome = true) := by
  cases d with
  | some f =>
    cases d' with
    | some f' =>
      rw [hsame f f' rfl rfl] at h
      have hshown : Except.ok shown = Except.ok shown' := h.symm.trans h'
      exact iff_of_true (by injection hshown) Iff.rfl
    | none =>
      refine iff_of_false ?_ (by simp)
      rintro rfl
      exact hmissing f _ h (hfallback.trans h')
  | none =>
    cases d' with
    | some f' =>
      refine iff_of_false ?_ (by simp)
      rintro rfl
      exact hmissing f' _ h' h
    | none =>
      have hshown : Except.ok shown = Except.ok shown' := h.symm.trans (hfallback.trans h')
      exact iff_of_true (by injection hshown) Iff.rfl

theorem idleListed_iff : IdleListed cut ↔ (cut.find? (·.findingCode = "idle_vehicle")).isSome = true := by
  rw [List.find?_isSome]
  simp [IdleListed]

theorem metricListed_iff (hidle : intentConcept request ≠ some .idle) (metric : String) :
    MetricListed request snapshot metric cut ↔ (selectDecisive request cut (some metric) snapshot).isSome = true := by
  rw [Option.isSome_iff_exists]
  exact exists_congr fun f => (selectDecisive_metric hidle metric f).symm

/-- Where both cuts answer the comparison, the finding that decides tells whether they answer alike. -/
theorem shown_eq_iff_evaluated {every : List AnalysisFinding} {m m' : Nat} {fallback' : String}
    {shown' : AnalysisStatus × String × AnswerBasis} (hcut : every.take m ≠ []) (hcut' : every.take m' ≠ [])
    (he : Evaluated request comparison (every.take m)) (he' : Evaluated request comparison (every.take m'))
    (h : (verdict request snapshot comparison (every.take m)).shown py request snapshot status fallback = .ok shown)
    (h' : (verdict request snapshot comparison (every.take m')).shown py request snapshot status fallback' = .ok shown') :
    shown = shown' ↔ ListedAlike py request snapshot comparison (every.take m) (every.take m') := by
  rw [verdict_evaluated he] at h
  rw [verdict_evaluated he'] at h'
  by_cases hidle : intentConcept request = some .idle
  · -- the first idle vehicle of the two cuts is the same
    rw [selectDecisive_idle hidle] at h h'
    rw [if_pos hidle] at h h'
    have hiff := shown_eq_iff_together .noneIdle (fun f f' hf hf' => find?_take_unique hf hf')
      (fun f s hs hnone => by
        obtain ⟨text, htext, hshown⟩ := Except.bind_eq_ok.mp hs
        cases hshown
        simp only [Verdict.shown, Except.ok.injEq, Prod.mk.injEq] at hnone
        exact idleAnswer_ne hidle htext hnone.2.1.symm) h h' rfl
    rw [hiff, ← idleListed_iff, ← idleListed_iff]
    exact ⟨fun hboth => ⟨iff_of_true he he', fun _ _ => hboth, fun _ hnot => absurd hidle hnot,
      fun _ hnot => absurd hidle hnot⟩, fun halike => halike.idle he hidle⟩
  · rw [if_neg hidle] at h h'
    cases hmetric : requiredMetric request with
    | some metric =>
      rw [hmetric] at h h'
      have hiff := shown_eq_iff_together (.metricMissing metric)
        (fun f f' hf hf' => find?_take_unique ((selectDecisive_metric hidle metric f).mp hf).1
          ((selectDecisive_metric hidle metric f').mp hf').1)
        (fun f s hs hnone => by
          obtain ⟨text, htext, hshown⟩ := Except.bind_eq_ok.mp hs
          cases hshown
          simp only [Verdict.shown, Except.ok.injEq, Prod.mk.injEq] at hnone
          exact decidedBasis_ne f hnone.2.2.symm) h h' rfl
      rw [hiff, ← metricListed_iff hidle, ← metricListed_iff hidle]
      refine ⟨fun hboth => ⟨iff_of_true he he', fun _ hyes => absurd hyes hidle, fun _ _ named hnamed => ?_,
        fun _ _ hnone => ?_⟩, fun halike => halike.metric he hidle metric hmetric⟩
      · rw [hmetric] at hnamed
        cases hnamed
        exact hboth
      · rw [hmetric] at hnone
        cases hnone
    | none =>
      rw [hmetric] at h h'
      obtain ⟨f, hf⟩ : ∃ f, selectDecisive request (every.take m) none snapshot = some f :=
        selectDecisive_severest hidle hcut
      obtain ⟨f', hf'⟩ : ∃ f, selectDecisive request (every.take m') none snapshot = some f :=
        selectDecisive_severest hidle hcut'
      rw [hf] at h
      rw [hf'] at h'
      obtain ⟨text, htext, hshown⟩ := Except.bind_eq_ok.mp h
      obtain ⟨text', htext', hshown'⟩ := Except.bind_eq_ok.mp h'
      cases hshown
      cases hshown'
      constructor
      · intro hsame
        simp only [Prod.mk.injEq, true_and] at hsame
        refine ⟨iff_of_true he he', fun _ hyes => absurd hyes hidle, fun _ _ metric hsome => ?_,
          fun _ _ _ g g' hg hg' => ?_⟩
        · rw [hmetric] at hsome
          cases hsome
        · cases hf.symm.trans hg
          cases hf'.symm.trans hg'
          rw [htext, htext', hsame.1]
          exact ⟨rfl, hsame.2⟩
      · intro halike
        obtain ⟨htexts, hbasis⟩ := halike.severest he hidle hmetric f f' hf hf'
        rw [htext, htext'] at htexts
        cases htexts
        rw [hbasis]

/-- **Two cuts of the findings show the same exactly when what decides is listed alike.** -/
theorem shown_eq_iff {every : List AnalysisFinding} {m m' : Nat} (hm : 1 ≤ m) (hm' : 1 ≤ m') {fallback' : String}
    {shown' : AnalysisStatus × String × AnswerBasis}
    (hfallback : every.take m = [] → every.take m' = [] → fallback' = fallback)
    (h : (verdict request snapshot comparison (every.take m)).shown py request snapshot status fallback = .ok shown)
    (h' : (verdict request snapshot comparison (every.take m')).shown py request snapshot status fallback' = .ok shown') :
    shown = shown' ↔ ListedAlike py request snapshot comparison (every.take m) (every.take m') := by
  cases every with
  | nil =>
    simp only [List.take_nil] at h h' hfallback ⊢
    rw [hfallback trivial trivial, h] at h'
    exact iff_of_true (by injection h') (ListedAlike.refl [])
  | cons first rest =>
    have hcut : (first :: rest).take m ≠ [] := by
      obtain ⟨k, rfl⟩ : ∃ k, m = k + 1 := ⟨m - 1, by omega⟩
      simp
    have hcut' : (first :: rest).take m' ≠ [] := by
      obtain ⟨k, rfl⟩ : ∃ k, m' = k + 1 := ⟨m' - 1, by omega⟩
      simp
    cases hp : problemOf request comparison ((first :: rest).take m) with
    | none =>
      have he := problemOf_eq_none.mp hp
      cases hp' : problemOf request comparison ((first :: rest).take m') with
      | none => exact shown_eq_iff_evaluated hcut hcut' he (problemOf_eq_none.mp hp') h h'
      | some problem =>
        rw [verdict_blocked hcut' hp'] at h'
        cases h'
        refine iff_of_false (evaluated_ne_blocked hcut he h problem) fun halike => ?_
        have hnone := problemOf_eq_none.mpr (halike.change.mp he)
        rw [hp'] at hnone
        cases hnone
    | some problem =>
      have hnot : ¬ Evaluated request comparison ((first :: rest).take m) := by
        intro he
        rw [problemOf_eq_none.mpr he] at hp
        cases hp
      rw [verdict_blocked hcut hp] at h
      cases h
      cases hp' : problemOf request comparison ((first :: rest).take m') with
      | none =>
        have he' := problemOf_eq_none.mp hp'
        refine iff_of_false (fun hsame => evaluated_ne_blocked hcut' he' h' problem hsame.symm) fun halike => ?_
        exact hnot (halike.change.mpr he')
      | some problem' =>
        rw [verdict_blocked hcut' hp'] at h'
        cases h'
        have hnot' : ¬ Evaluated request comparison ((first :: rest).take m') := by
          intro he'
          rw [problemOf_eq_none.mpr he'] at hp'
          cases hp'
        rw [problemOf_unique hp hp']
        exact iff_of_true rfl ⟨iff_of_false hnot hnot', fun he => absurd he hnot, fun he => absurd he hnot,
          fun he => absurd he hnot⟩

/-! ## The answer on idle vehicles -/

/-- That none is idle is the answer where the findings are asked and list none. -/
theorem answer_noneIdle_iff (hidle : intentConcept request = some .idle)
    (h : (verdict request snapshot comparison cut).shown py request snapshot status fallback = .ok shown) :
    shown.2.1 = noneIdleText ↔ Evaluated request comparison cut ∧ ¬ IdleListed cut := by
  by_cases he : Evaluated request comparison cut
  · rw [verdict_evaluated he, selectDecisive_idle hidle, if_pos hidle] at h
    cases hf : cut.find? (·.findingCode = "idle_vehicle") with
    | some f =>
      rw [hf] at h
      obtain ⟨text, htext, hshown⟩ := Except.bind_eq_ok.mp h
      have hparts := Except.ok.inj hshown
      rw [← hparts]
      refine iff_of_false (idleAnswer_ne hidle htext) fun hnone => hnone.2 ?_
      rw [idleListed_iff, hf]
      rfl
    | none =>
      rw [hf] at h
      cases h
      refine iff_of_true rfl ⟨he, fun hlisted => ?_⟩
      rw [idleListed_iff, hf] at hlisted
      cases hlisted
  · refine iff_of_false (fun htext => ?_) fun hnone => he hnone.1
    by_cases hnothing : nothingAnomalous request comparison cut = true
    · unfold verdict at h
      rw [if_pos hnothing] at h
      cases h
      exact absurd htext (by decide)
    · cases hp : problemOf request comparison cut with
      | none => exact he (problemOf_eq_none.mp hp)
      | some problem =>
        unfold verdict at h
        unfold problemOf at hp
        rw [if_neg hnothing, hp] at h
        cases h
        exact blockedText_ne_noneIdleText problem htext

theorem idleTold_iff
    (h : (verdict request snapshot comparison cut).shown py request snapshot status fallback = .ok shown) :
    IdleTold py request snapshot shown.2.1 ↔ IdleFound py request snapshot comparison cut := by
  constructor
  · intro htold hidle he hnone
    exact htold hidle ((answer_noneIdle_iff hidle h).mpr ⟨he, hnone⟩)
  · intro hfound hidle htext
    obtain ⟨he, hnone⟩ := (answer_noneIdle_iff hidle h).mp htext
    exact hfound hidle he hnone

end

/-! ## Two maxima of one request -/

section
variable {py : PyFormat} {service : AnalysisService} {request : AnalysisRequest} {snapshot : WorldSnapshot}
  {comparison : Option WorldSnapshot}

/-- The findings that are listed: those of the analyzer up to the maximum of the request. -/
def AnalysisService.listed (service : AnalysisService) (request : AnalysisRequest) (snapshot : WorldSnapshot)
    (comparison : Option WorldSnapshot) : List AnalysisFinding :=
  match registered service.registry request.analysisType with
  | .error _ => []
  | .ok analyzer =>
    match analyzer.analyze request snapshot comparison with
    | .error _ => []
    | .ok result => result.findings.take request.maximumFindings

theorem listed_eq {analyzer : Analyzer} {result : AnalyzerResult}
    (hanalyzer : registered service.registry request.analysisType = .ok analyzer)
    (hresult : analyzer.analyze request snapshot comparison = .ok result) :
    service.listed request snapshot comparison = result.findings.take request.maximumFindings := by
  unfold AnalysisService.listed
  rw [hanalyzer]
  dsimp only
  rw [hresult]

/-- Two responses to one request show the verdicts over two cuts of one list. -/
theorem analyze_upTo {m m' : Nat} {response response' : AnalysisResponse}
    (h : service.analyze py (request.upTo m) snapshot comparison = .ok response)
    (h' : service.analyze py (request.upTo m') snapshot comparison = .ok response') :
    ∃ (every : List AnalysisFinding) (status : AnalysisStatus) (fallback fallback' : String),
      service.listed (request.upTo m) snapshot comparison = every.take m ∧
      service.listed (request.upTo m') snapshot comparison = every.take m' ∧
      (every.take m = [] → every.take m' = [] → fallback' = fallback) ∧
      (verdict request snapshot comparison (every.take m)).shown py request snapshot status fallback =
        .ok response.shown ∧
      (verdict request snapshot comparison (every.take m')).shown py request snapshot status fallback' =
        .ok response'.shown := by
  obtain ⟨capability, compared, analyzer, result, retained, hcapability, hcompared, hanalyzer, hresult, hshown⟩ :=
    analyze_ok h
  obtain ⟨capability', compared', analyzer', result', retained', hcapability', hcompared', hanalyzer', hresult',
    hshown'⟩ := analyze_ok h'
  cases hcapability.symm.trans hcapability'
  cases hcompared.symm.trans hcompared'
  cases hanalyzer.symm.trans hanalyzer'
  obtain ⟨hstatus, hlimitations, ⟨every, htake, htake'⟩, hanswer⟩ :=
    analyzer.bounds request snapshot comparison m m' result result' hresult hresult'
  have hone := listed_eq hanalyzer hresult
  have htwo := listed_eq hanalyzer' hresult'
  refine ⟨every, limitedStatus result.status (result.limitations ++
      qualityLimitations snapshot (requiredCoverage capability.analysisType) ++ compared).eraseDups,
    result.answer, result'.answer, hone.trans htake, htwo.trans htake', ?_, ?_, ?_⟩
  · rw [← htake, ← htake']
    exact hanswer
  · rw [← htake, ← shown_retain retained, ← verdict_retain]
    exact hshown
  · dsimp only at hshown'
    rw [hstatus, hlimitations] at hshown'
    rw [← htake', ← shown_retain retained', ← verdict_retain]
    exact hshown'

end

/-! ## The vehicles that are told of -/

section
variable {py : PyFormat} {service : AnalysisService} {request : AnalysisRequest} {snapshot : WorldSnapshot}
  {comparison : Option WorldSnapshot}

theorem makeFinding_code {draft : FindingDraft} {item : Reported} (h : makeFinding py snapshot draft = .ok item) :
    item.1.findingCode = draft.code := by
  obtain ⟨recommendation, -, h⟩ := Except.bind_eq_ok.mp h
  obtain ⟨finding, hfinding, h⟩ := Except.bind_eq_ok.mp h
  cases h
  rw [construct_ok hfinding]

theorem reportedLoss_code {vehicle : Vehicle} {items : List Reported} (h : reportedLoss py snapshot vehicle = .ok items) :
    ∀ item ∈ items, item.1.findingCode ≠ "idle_vehicle" := by
  intro item hitem
  unfold reportedLoss at h
  dsimp only at h
  by_cases hlast : vehicle.profitLastYear < 0
  · rw [if_pos hlast] at h
    obtain ⟨e, -, hmade⟩ := listed_made h item hitem
    rw [makeFinding_code hmade]
    simp
  · rw [if_neg hlast] at h
    obtain ⟨e, -, hmade⟩ := optional_made h item hitem
    rw [makeFinding_code hmade]
    simp

theorem reportedAge_code {vehicle : Vehicle} {items : List Reported} (h : reportedAge py snapshot vehicle = .ok items) :
    ∀ item ∈ items, item.1.findingCode ≠ "idle_vehicle" := by
  intro item hitem
  obtain ⟨e, -, hmade⟩ := optional_made h item hitem
  rw [makeFinding_code hmade]
  simp

theorem reportedRoute_code {vehicle : Vehicle} {items : List Reported}
    (h : reportedRoute py snapshot vehicle = .ok items) : ∀ item ∈ items, item.1.findingCode ≠ "idle_vehicle" := by
  intro item hitem
  obtain ⟨e, -, hmade⟩ := optional_made h item hitem
  rw [makeFinding_code hmade]
  simp

theorem reportedIdle_code {vehicle : Vehicle} {items : List Reported} (h : reportedIdle py snapshot vehicle = .ok items) :
    (∃ item ∈ items, item.1.findingCode = "idle_vehicle") ↔ vehicle.isIdle py = true := by
  unfold reportedIdle at h
  dsimp only at h
  by_cases hidle : vehicle.isIdle py = true
  · rw [if_pos hidle] at h
    obtain ⟨running, -, h⟩ := Except.bind_eq_ok.mp h
    obtain ⟨depot, -, h⟩ := Except.bind_eq_ok.mp h
    obtain ⟨made, hmade, h⟩ := Except.bind_eq_ok.mp h
    cases h
    exact iff_of_true ⟨made, List.mem_singleton_self _, makeFinding_code hmade⟩ hidle
  · rw [if_neg hidle] at h
    cases h
    exact iff_of_false (by simp) hidle

/-- A vehicle is reported as idle exactly when it is. -/
theorem idle_reported {vehicle : Vehicle} {items : List Reported} (h : reported py snapshot vehicle = .ok items) :
    (∃ item ∈ items, item.1.findingCode = "idle_vehicle") ↔ vehicle.isIdle py = true := by
  obtain ⟨loss, hloss, h⟩ := Except.bind_eq_ok.mp h
  obtain ⟨age, hage, h⟩ := Except.bind_eq_ok.mp h
  obtain ⟨idle, hidle, h⟩ := Except.bind_eq_ok.mp h
  obtain ⟨route, hroute, h⟩ := Except.bind_eq_ok.mp h
  cases h
  rw [← reportedIdle_code hidle]
  constructor
  · rintro ⟨item, hitem, hcode⟩
    simp only [List.mem_append] at hitem
    rcases hitem with ((hitem | hitem) | hitem) | hitem
    · exact absurd hcode (reportedLoss_code hloss item hitem)
    · exact absurd hcode (reportedAge_code hage item hitem)
    · exact ⟨item, hitem, hcode⟩
    · exact absurd hcode (reportedRoute_code hroute item hitem)
  · rintro ⟨item, hitem, hcode⟩
    exact ⟨item, by simp [hitem], hcode⟩

/-- The analyzer of the vehicles finds an idle one exactly when one it looks at is. -/
theorem idleListed_vehicleResult {vehicles : List Vehicle} {result : AnalyzerResult}
    (h : vehicleResult py snapshot request vehicles = .ok result) :
    IdleListed result.findings ↔ ∃ vehicle ∈ vehicles, vehicle.isIdle py = true := by
  obtain ⟨results, hresults, h⟩ := Except.bind_eq_ok.mp h
  obtain ⟨company, -, h⟩ := Except.bind_eq_ok.mp h
  obtain ⟨population, -, h⟩ := Except.bind_eq_ok.mp h
  cases h
  unfold IdleListed rankFindings
  simp only [(List.perm_insertionSort _ _).mem_iff, List.mem_map, List.mem_flatten]
  constructor
  · rintro ⟨f, ⟨item, ⟨items, hitems, hitem⟩, rfl⟩, hcode⟩
    obtain ⟨vehicle, hvehicle, hreported⟩ := (Except.mem_mapM hresults items).mp hitems
    exact ⟨vehicle, hvehicle, (idle_reported hreported).mp ⟨item, hitem, hcode⟩⟩
  · rintro ⟨vehicle, hvehicle, hidle⟩
    obtain ⟨items, hreported⟩ : ∃ items, reported py snapshot vehicle = .ok items := Except.exists_of_mapM hresults hvehicle
    obtain ⟨item, hitem, hcode⟩ := (idle_reported hreported).mpr hidle
    exact ⟨item.1, ⟨item, ⟨items, (Except.mem_mapM hresults items).mpr ⟨vehicle, hvehicle, hreported⟩, hitem⟩, rfl⟩, hcode⟩

/-- Where every finding on the vehicles is listed, none idle is passed over. -/
theorem idleFound_of_fits (hanalyzer : registered service.registry request.analysisType = .ok (vehiclePerformance py))
    (hranking : request.ranking = none) (hsubjects : request.subjectIds = []) {result : AnalyzerResult}
    (hresult : analyzeVehicles py snapshot request = .ok result)
    (hfits : result.findings.length ≤ request.maximumFindings) :
    IdleFound py request snapshot comparison (service.listed request snapshot comparison) := by
  rw [listed_eq hanalyzer hresult, List.take_of_length_le hfits]
  intro _ _ hnone company hcompany vehicle hvehicle howner hmatches
  by_contra hidle
  obtain ⟨vehicles, hselected, hresult⟩ := Except.bind_eq_ok.mp hresult
  simp only [hranking] at hresult
  refine hnone ((idleListed_vehicleResult hresult).mpr ⟨vehicle, ?_, by simpa using hidle⟩)
  obtain ⟨observer, hobserver, hselected⟩ := Except.bind_eq_ok.mp hselected
  cases hcompany.symm.trans hobserver
  cases hselected
  rw [(List.perm_insertionSort _ _).mem_iff, List.mem_filter]
  exact ⟨hvehicle, by simp [howner, hmatches, requestedIds, hsubjects]⟩

end

/-! ## A bus in its depot behind one that loses money -/

section Example

/-- Python's texts as far as letters of ASCII go, and the digests of three identifiers. -/
def asciiFormat : PyFormat where
  lower text := String.ofList (text.toList.map Char.toLower)
  casefold text := String.ofList (text.toList.map Char.toLower)
  isSpace c := c = ' '
  title text := String.ofList ((text.toList.take 1).map Char.toUpper ++ text.toList.drop 1)
  sha256 material :=
    if material = "vehicle_performance|snapshot-1|negative_last_year_profit|bus-1" then
      "21179b7ae2fe6c33622fbffb7b4fb917d649098ea172888c5fbba158e50b07e6"
    else if material = "snapshot-1|inspect_unprofitable_vehicle|finding:21179b7ae2fe6c33622fbffb" then
      "e66be8abe636ca20feb37fb4ef2ccf5eb2adb9bd902f52a530b22726a4be75a1"
    else if material = "vehicle_performance|snapshot-1|idle_vehicle|bus-2" then
      "6b0e81a34ccd82bb6c7da9042d7b53dda713277c0680d07d702be1fc5e1b9175"
    else material

def twoBuses : WorldSnapshot where
  metadata :=
    { snapshotId := "snapshot-1", worldId := "world-1", game := "openttd", gameVersion := "15.3", gameDate := 100
      captureStartedGameDate := 100, captureCompletedGameDate := 100, complete := true, capabilityFingerprint := "caps"
      saveGeneration := 0, bridgeSequence := 1, capturedAt := 0, observerCompanyId := some "company-1" }
  coverage := [⟨"vehicles", .available⟩]
  companies := [{ id := "company-1", name := "Transport" }]
  vehicles :=
    [{ id := "bus-1", type := "road", name := "Bus 1", ageDays := 10, profitThisYear := 0, profitLastYear := -500
       runningState := "running", routeId := some "route-1", inDepot := false, ownerId := "company-1" },
      { id := "bus-2", type := "road", name := "Bus 2", ageDays := 10, profitThisYear := 0, profitLastYear := 100
        runningState := "stopped", routeId := some "route-1", inDepot := true, ownerId := "company-1" }]

def idleQuestion : AnalysisRequest where
  analysisType := .vehiclePerformance
  question := "Are any vehicles sitting idle?"
  answerIntent := some
    { concept := .idle, kind := .fact, questionForms := [.existence], requestedMetric := some .runningState
      period := some .currentSnapshot }

def vehicleService : AnalysisService where
  registry := [(.vehiclePerformance, vehiclePerformance asciiFormat)]
  clock := 0

def idleResponse (m : Nat) : Except PyError AnalysisResponse :=
  vehicleService.analyze asciiFormat (idleQuestion.upTo m) twoBuses none

/-- The answers with one finding and with five, and whether the one listed is on the bus in the depot. -/
theorem idleResponse_shown : (idleResponse 1).toOption.map (·.shown) =
      some (.completedWithLimitations, noneIdleText, .confirmedFact) ∧
    (idleResponse 5).toOption.map (·.shown) =
      some (.completedWithLimitations, "At least one idle vehicle was detected: Bus 2 (V-002).", .confirmedFact) :=
  ⟨by decide +kernel, by decide +kernel⟩

theorem exists_idleResponse {m : Nat} {shown : AnalysisStatus × String × AnswerBasis}
    (h : (idleResponse m).toOption.map (·.shown) = some shown) :
    ∃ response, idleResponse m = .ok response ∧ response.shown = shown := by
  cases hr : idleResponse m with
  | error e =>
    rw [hr] at h
    cases h
  | ok response =>
    rw [hr] at h
    exact ⟨response, rfl, Option.some.inj h⟩

end Example

end SimPilot.Analysis
