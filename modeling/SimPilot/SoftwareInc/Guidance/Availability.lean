import SimPilot.SoftwareInc.Guidance.Limits
/-!
# Whether the read guidance service always answers

It does where all texts fit (`alwaysAnswers_iff`): those said of the topic of the question
(`AnswerFits`), the status (`StatusFits`) and the team that something is recommended for (`RecommendFits`).
-/

namespace SimPilot.SoftwareInc.Guidance
open GameBridge
open Workstation.Office (TeamOfficeReadiness)

/-! ## The catalog -/

/-- The claims that are referred to. -/
def claimIds : List String := ["software-inc.contracts.lifecycle", "software-inc.development.current-lifecycle",
  "software-inc.products.current-configuration", "software-inc.products.runway-policy",
  "software-inc.contracts.suitability", "software-inc.training.education-model",
  "software-inc.training.suitability-and-cost", "software-inc.teams.purpose", "software-inc.hiring.programmer",
  "software-inc.hiring.separate-approvals", "software-inc.servers.current-boundary"]

section
variable {catalog : List KnowledgeClaim} {context : ReadContext} {question : String}

/-- A catalog with one claim of this id either applies or does not. -/
theorem applicableClaim_ok (hnodup : (catalog.map (·.claimId)).Nodup) {claimId : String}
    (hmem : claimId ∈ catalog.map (·.claimId)) : ∃ found, applicableClaim catalog claimId context = .ok found := by
  obtain ⟨c, hc, hid⟩ := List.mem_map.mp hmem
  have hkept : c ∈ catalog.filter (·.claimId = claimId) := List.mem_filter.mpr ⟨hc, decide_eq_true hid⟩
  have hsub : ((catalog.filter (·.claimId = claimId)).map (·.claimId)).Nodup :=
    (List.filter_sublist.map _).nodup hnodup
  have hall : ∀ d ∈ catalog.filter (·.claimId = claimId), d.claimId = claimId :=
    fun d hd => of_decide_eq_true (List.mem_filter.mp hd).2
  unfold applicableClaim
  generalize catalog.filter (·.claimId = claimId) = kept at *
  rcases kept with _ | ⟨d, _ | ⟨e, rest⟩⟩
  · cases hkept
  · exact ⟨_, rfl⟩
  · have hd := hall d List.mem_cons_self
    have he := hall e (List.mem_cons_of_mem _ List.mem_cons_self)
    rw [List.map_cons, List.map_cons, hd, he, List.nodup_cons] at hsub
    exact absurd List.mem_cons_self hsub.1

theorem claimOf_fits {q claimId followUp : String} {topic : Topic} (h : claimOf q topic = some (claimId, followUp)) :
    claimId ∈ claimIds ∧ sized 1 1024 followUp = true := by
  cases topic <;> simp only [claimOf, reduceCtorEq, Option.some.injEq, Prod.mk.injEq] at h
  case products =>
    obtain ⟨rfl, rfl⟩ := h
    refine ⟨?_, sized_ofList rfl⟩
    split <;> decide
  case contracts | training =>
    obtain ⟨rfl, rfl⟩ := h
    exact ⟨by decide, sized_append_ofList rfl⟩
  all_goals
    obtain ⟨rfl, rfl⟩ := h
    exact ⟨by decide, sized_ofList rfl⟩

theorem claimAnswer_iff (hquestion : sized 1 4096 question = true)
    (herror : context.snapshotError.all (sized 0 1024) = true)
    (hcatalog : ∀ claimId ∈ claimIds, ∃ found, applicableClaim catalog claimId context = .ok found) (q : String)
    (topic : Topic) (hsome : (claimOf q topic).isSome = true) :
    (∃ r, claimAnswer catalog question context (claimOf q topic) = .ok r) ↔
      ∀ claim ∈ claimOf q topic, ClaimFits catalog context claim.1 := by
  cases hclaim : claimOf q topic with
  | none =>
    rw [hclaim] at hsome
    cases hsome
  | some claim =>
    obtain ⟨claimId, followUp⟩ := claim
    obtain ⟨hid, hfollowUp⟩ := claimOf_fits hclaim
    have hanswer := knowledgeAnswer_iff hquestion herror (hcatalog claimId hid) hfollowUp
    constructor
    · rintro h _ ⟨rfl⟩
      exact hanswer.mp h
    · intro h
      exact hanswer.mpr (h _ rfl)

end

/-! ## Any question -/

section
variable (texts : Texts) (catalog : List KnowledgeClaim) (fold : String → String) (context : ReadContext)

/-- What is said of a topic fits: it is read of the claim, the offices or the view. -/
def TopicFits (q : String) : Topic → Prop
  | .hours => ReadinessFits texts fold context
      (String.ofList ((between "what hours does ".toList " work".toList q.toList).getD [])) .hours
  | .desks => ReadinessFits texts fold context (String.ofList ((desksTeam q.toList).getD [])) .capacity
  | .equipment => ∀ team ∈ singleTeamName context, ReadinessFits texts fold context team .equipment
  | .server => CitedFits catalog context "software-inc.servers.current-boundary"
  | .hiring => ∀ c c', applicableClaim catalog "software-inc.hiring.programmer" context = .ok (some c) →
      applicableClaim catalog "software-inc.hiring.separate-approvals" context = .ok (some c') → c.Cited ∧ c'.Cited
  | .payroll => ∀ state total, context.state = some state → state.recurringPayroll = some total →
      sized 1 4096 (payrollText (money total)) = true
  | .teamList => ∀ state, context.state = some state → state.teamsComplete = true →
      sized 1 4096 (teamListText state.teams) = true ∧ (teamRows state.teams).length ≤ 512
  | .membership => ∀ state, context.state.filter (fun s => s.teamsComplete && s.employeesComplete) = some state →
      sized 1 4096 (membershipText state.teams state.employees) = true
  | .cash => ∀ state cash, context.state = some state → state.cash = some cash → (money cash).length ≤ 512
  | .teamExists => ∀ state, context.state.filter (·.teamsComplete) = some state →
      sized 1 4096 (teamExistsText fold state.teams "Support Alpha") = true
  | .financialHealth => ∀ state cash, context.state = some state → state.cash = some cash →
      (money cash).length ≤ 512 ∧ ((state.recurringPayroll.map money).getD "unavailable").length ≤ 512
  | topic => ∀ claim ∈ claimOf q topic, ClaimFits catalog context claim.1

def AnswerFits (question : String) : Prop :=
  TopicFits texts catalog fold context (normalized fold question) (topicOf fold question)

def StatusFits : Prop :=
  ∀ state, context.state = some state →
    sized 1 4096 (statusText (orElse state.companyName "the observed company") (runningText state)
      ((state.cash.map money).getD "unavailable")
      (if state.teamsComplete then toString state.teams.length else "unknown")
      (if state.employeesComplete then toString state.employees.length else "unknown")) = true

end

section
variable {texts : Texts} {catalog : List KnowledgeClaim} {fold : String → String} {context : ReadContext}
  {question : String} {digest : List GuidedActionCapability → Detection → String} {d : Detection}

theorem equipmentAnswer_iff (hquestion : sized 1 4096 question = true)
    (herror : context.snapshotError.all (sized 0 1024) = true)
    (hstate : ∀ snapshot, context.snapshot = some snapshot → ∃ state, context.state = some state ∧ Sound state) :
    (∃ r, (match singleTeamName context with
        | none => unavailable question context.toGuidanceContext ("Name one exact team because the current company " ++
            "does not resolve a single team.")
        | some team => teamReadinessAnswer texts fold question context team .equipment) = .ok r) ↔
      ∀ team ∈ singleTeamName context, ReadinessFits texts fold context team .equipment := by
  cases singleTeamName context with
  | none => exact iff_of_true (unavailable_ok hquestion herror (by decide)) fun _ h => by cases h
  | some team =>
    have hteam : (∃ r, teamReadinessAnswer texts fold question context team .equipment = .ok r) ↔

          ReadinessFits texts fold context team .equipment :=
      teamReadinessAnswer_iff hquestion herror hstate team .equipment
    constructor
    · rintro h _ ⟨rfl⟩
      exact hteam.mp h
    · intro h
      exact hteam.mpr (h team rfl)

/-- A question is answered exactly when what is to be said of its topic fits. -/
theorem answerAll_iff (hquestion : sized 1 4096 question = true)
    (herror : context.snapshotError.all (sized 0 1024) = true) (hsound : ∀ s, context.state = some s → Sound s)
    (hstate : ∀ snapshot, context.snapshot = some snapshot → ∃ state, context.state = some state)
    (hgroups : serverGroups context.snapshot < 2 ^ 63)
    (hcatalog : ∀ claimId ∈ claimIds, ∃ found, applicableClaim catalog claimId context = .ok found)
    (hcapabilities : context.capabilities = guidedCapabilityView digest d) :
    (∃ r, answerAll texts catalog fold question context = .ok r) ↔ AnswerFits texts catalog fold context question := by
  have hboth : ∀ snapshot, context.snapshot = some snapshot → ∃ state, context.state = some state ∧ Sound state := by
    intro snapshot hsnapshot
    obtain ⟨state, hsome⟩ := hstate snapshot hsnapshot
    exact ⟨state, hsome, hsound state hsome⟩
  unfold answerAll answer AnswerFits
  cases topicOf fold question with
  | hours | desks => exact teamReadinessAnswer_iff hquestion herror hboth _ _
  | equipment => exact equipmentAnswer_iff hquestion herror hboth
  | server => exact serverAnswer_iff hquestion herror (hcatalog _ (by decide)) hgroups
  | hiring => exact hiringAnswer_iff hquestion herror (hcatalog _ (by decide)) (hcatalog _ (by decide))
  | contracts => exact claimAnswer_iff hquestion herror hcatalog _ .contracts rfl
  | products => exact claimAnswer_iff hquestion herror hcatalog _ .products rfl
  | runway => exact claimAnswer_iff hquestion herror hcatalog _ .runway rfl
  | suitability => exact claimAnswer_iff hquestion herror hcatalog _ .suitability rfl
  | training => exact claimAnswer_iff hquestion herror hcatalog _ .training rfl
  | trainee => exact claimAnswer_iff hquestion herror hcatalog _ .trainee rfl
  | teamPurpose => exact claimAnswer_iff hquestion herror hcatalog _ .teamPurpose rfl
  | programmer => exact claimAnswer_iff hquestion herror hcatalog _ .programmer rfl
  | approvals => exact claimAnswer_iff hquestion herror hcatalog _ .approvals rfl
  | notWorking =>
    exact iff_of_true (unavailable_ok hquestion herror (TextLength.append_ofList_le (by decide))) fun _ h => by cases h
  | payroll => exact payrollAnswer_iff hquestion herror hsound
  | capabilities =>
    have hanswer : ∃ r, respond (capabilityResponse question context.capabilities) = .ok r := by
      rw [hcapabilities]
      exact capabilityResponse_always hquestion
    exact iff_of_true hanswer fun _ h => by cases h
  | teamCount => exact iff_of_true (teamCountAnswer_always hquestion herror hsound) fun _ h => by cases h
  | teamList => exact teamListAnswer_iff hquestion herror hsound
  | employeeCount => exact iff_of_true (employeeCountAnswer_always hquestion herror hsound) fun _ h => by cases h
  | membership => exact membershipAnswer_iff hquestion herror hsound
  | cash => exact cashAnswer_iff hquestion herror hsound
  | paused => exact iff_of_true (pausedAnswer_always hquestion herror hsound) fun _ h => by cases h
  | teamExists => exact teamExistsAnswer_iff hquestion herror hsound
  | financialHealth => exact financialHealthAnswer_iff hquestion herror hsound
  | unknown => exact iff_of_true (unknownAnswer_always hquestion) fun _ h => by cases h

end

/-! ## Recommendations -/

section
variable {state : StateView}

theorem explanation_sized {a : Advice} (hrule : sized 1 128 a.ruleId = true) (htitle : sized 1 256 a.title = true)
    (hbenefit : sized 1 1024 a.benefit = true) (hrisk : sized 1 1024 a.risk = true) :
    sized 1 4096 a.explanation = true := by
  have hfront : "Recommended: ".length = 13 := by decide
  have hbehind : ". Rule ".length = 7 := by decide
  have hmatched : " matched the current observed state. Expected benefit: ".length = 55 := by decide
  have hend : " Risk: ".length = 7 := by decide
  have hlength : a.explanation.length = "Recommended: ".length + a.title.length + ". Rule ".length + a.ruleId.length +
      " matched the current observed state. Expected benefit: ".length + a.benefit.length + " Risk: ".length +
      a.risk.length := by
    unfold Advice.explanation
    simp only [String.length_append]
  unfold sized at *
  generalize a.explanation.length = n at *
  generalize a.title.length = title at *
  generalize a.ruleId.length = rule at *
  generalize a.benefit.length = benefit at *
  generalize a.risk.length = risk at *
  rw [Bool.and_eq_true, decide_eq_true_eq, decide_eq_true_eq] at *
  omega

theorem advised_iff {a : Advice} : (∃ r, advised a = .ok r) ↔ a.valid = true := by
  unfold advised
  split
  · rename_i h
    exact iff_of_true ⟨_, rfl⟩ h
  · rename_i h
    exact iff_of_false (fun ⟨_, hr⟩ => nomatch hr) h

/-- What is advised of a state stands with its title, its objective, its benefit and its evidence. -/
theorem advise_iff (hsound : Sound state) {context : ReadContext}
    {ruleId title objective action benefit risk : String} {evidence : List EvidenceReference} {unknowns : List String}
    (hrule : sized 1 128 ruleId = true) (haction : sized 1 128 action = true) (hrisk : sized 1 1024 risk = true) :
    (∃ r, advised (advise context state ruleId title objective action benefit risk evidence unknowns) = .ok r) ↔
      sized 1 256 title = true ∧ sized 1 1024 objective = true ∧ sized 1 1024 benefit = true ∧
        ∀ e ∈ evidence, e.valid = true := by
  have hkept : (advise context state ruleId title objective action benefit risk evidence unknowns).action.all
      (sized 1 128) = true := by
    unfold advise
    dsimp only
    split
    · exact haction
    · rfl
  have hexplained : sized 1 256 title = true → sized 1 1024 benefit = true → sized 1 4096
      (advise context state ruleId title objective action benefit risk evidence unknowns).explanation = true :=
    fun htitle hbenefit => explanation_sized hrule htitle hbenefit hrisk
  rw [advised_iff, Advice.valid, hkept]
  simp only [advise, hrule, hrisk, hsound.session, hsound.save, Bool.and_eq_true, List.all_eq_true, and_true,
    true_and]
  have hid : sized 0 128 state.snapshotId = true := by
    rw [sized, hsound.snapshotId]
    decide
  constructor
  · rintro ⟨⟨⟨⟨⟨htitle, hobjective⟩, hbenefit⟩, hevidence⟩, -⟩, -⟩
    exact ⟨htitle, hobjective, hbenefit, hevidence⟩
  · rintro ⟨htitle, hobjective, hbenefit, hevidence⟩
    exact ⟨⟨⟨⟨⟨htitle, hobjective⟩, hbenefit⟩, hevidence⟩, hid⟩, hexplained htitle hbenefit⟩

/-- The names and the numbers of a shortage are short enough. -/
structure ShortageFits (t : TeamSummary) (r : TeamOfficeReadiness) : Prop where
  name : t.name.length ≤ 218
  room : ∀ room ∈ r.cheaperExistingCapacity.head?, room.length + t.name.length ≤ 999
  benefit : sized 1 1024 r.expectedBenefit = true
  team : t.teamId.length ≤ 209
  capacity : (toString r.currentCapacity ++ "/" ++ toString r.requiredCapacity).length ≤ 512

/-- The name and the id of a team nobody works for are short enough. -/
structure EmptyTeamFits (t : TeamSummary) : Prop where
  name : t.name.length ≤ 236
  team : t.teamId.length ≤ 205

theorem pauseAdvice_always (hsound : Sound state) (context : ReadContext) :
    ∃ r, advised (pauseAdvice context state) = .ok r := by
  rw [pauseAdvice, advise_iff hsound (sized_ofList rfl) (sized_ofList rfl) (sized_ofList rfl),
    List.forall_mem_singleton,
    stateEvidence_valid_iff_length hsound.snapshotId]
  exact ⟨sized_ofList rfl, sized_ofList rfl, sized_ofList rfl, TextLength.ofList_le (by decide), TextLength.ofList_le
    (by decide)⟩

theorem structureAdvice_always (hsound : Sound state) (context : ReadContext) :
    ∃ r, advised (structureAdvice context state) = .ok r := by
  have hteams := Digits.length_toString_le (by decide : 0 < 19) (lt_trans hsound.teams (by norm_num))
  have hemployees := Digits.length_toString_le (by decide : 0 < 19) (lt_trans hsound.employees (by norm_num))
  rw [structureAdvice, advise_iff hsound (sized_ofList rfl) (sized_ofList rfl) (sized_ofList rfl), List.forall_mem_cons,
    List.forall_mem_singleton, stateEvidence_valid_iff_length hsound.snapshotId,
    stateEvidence_valid_iff_length hsound.snapshotId]
  exact ⟨sized_ofList rfl, sized_ofList rfl, sized_ofList rfl, ⟨TextLength.ofList_le (by decide), by omega⟩,
    TextLength.ofList_le (by decide), by omega⟩

theorem shortageAdvice_iff (hsound : Sound state) (context : ReadContext) (t : TeamSummary) (r : TeamOfficeReadiness) :
    (∃ s, advised (shortageAdvice context state t r) = .ok s) ↔ ShortageFits t r := by
  have hfront : "Resolve ".length = 8 := by decide
  have hend : "'s observed workspace shortage".length = 30 := by decide
  have htitle : sized 1 256 ("Resolve " ++ t.name ++ "'s observed workspace shortage") = true ↔
      t.name.length ≤ 218 := by
    simp only [sized, String.length_append, hfront, hend, Bool.and_eq_true, decide_eq_true_eq]
    omega
  have hoffices : "offices.".length = 8 := by decide
  have hcapacity : ".capacity".length = 9 := by decide
  have hfield : ("offices." ++ t.teamId ++ ".capacity").length ≤ 226 ↔ t.teamId.length ≤ 209 := by
    rw [String.length_append, String.length_append, hoffices, hcapacity]
    omega
  unfold shortageAdvice
  dsimp only
  cases hrooms : r.cheaperExistingCapacity with
  | nil =>
    have hreview : "review office capacity for ".length = 27 := by decide
    have hobjective : t.name.length ≤ 218 → sized 1 1024 ("review office capacity for " ++ t.name) = true := by
      intro h
      simp only [sized, String.length_append, hreview, Bool.and_eq_true, decide_eq_true_eq]
      omega
    dsimp only
    rw [advise_iff hsound (sized_ofList rfl) (sized_ofList rfl) (sized_ofList rfl), List.forall_mem_singleton,
      stateEvidence_valid_iff_length hsound.snapshotId, htitle, hfield]
    constructor
    · rintro ⟨hname, -, hbenefit, hteam, hvalue⟩
      refine ⟨hname, ?_, hbenefit, hteam, hvalue⟩
      rw [hrooms]
      exact fun _ h => by cases h
    · rintro ⟨hname, -, hbenefit, hteam, hvalue⟩
      exact ⟨hname, hobjective hname, hbenefit, hteam, hvalue⟩
  | cons room rooms =>
    have hassign : "assign existing room ".length = 21 := by decide
    have hto : " to ".length = 4 := by decide
    have hobjective : sized 1 1024 ("assign existing room " ++ room ++ " to " ++ t.name) = true ↔
        room.length + t.name.length ≤ 999 := by
      simp only [sized, String.length_append, hassign, hto, Bool.and_eq_true, decide_eq_true_eq]
      omega
    dsimp only
    rw [advise_iff hsound (by exact sized_ofList rfl) (by exact sized_ofList rfl) (by exact sized_append_ofList rfl),
      List.forall_mem_singleton,
      stateEvidence_valid_iff_length hsound.snapshotId, htitle, hfield, hobjective]
    constructor
    · rintro ⟨hname, hroom, hbenefit, hteam, hvalue⟩
      refine ⟨hname, ?_, hbenefit, hteam, hvalue⟩
      rw [hrooms]
      rintro _ ⟨rfl⟩
      exact hroom
    · rintro ⟨hname, hroom, hbenefit, hteam, hvalue⟩
      rw [hrooms] at hroom
      exact ⟨hname, hroom room rfl, hbenefit, hteam, hvalue⟩

theorem emptyTeamAdvice_iff (hsound : Sound state) (context : ReadContext) (t : TeamSummary) :
    (∃ r, advised (emptyTeamAdvice context state t) = .ok r) ↔ EmptyTeamFits t := by
  have hfront : "Review staffing for ".length = 20 := by decide
  have htitle : sized 1 256 ("Review staffing for " ++ t.name) = true ↔ t.name.length ≤ 236 := by
    simp only [sized, String.length_append, hfront, Bool.and_eq_true, decide_eq_true_eq]
    omega
  have hinspect : "Lets you inspect why ".length = 21 := by decide
  have hcurrently : " currently has no observed employees.".length = 37 := by decide
  have hbenefit : t.name.length ≤ 236 →
      sized 1 1024 ("Lets you inspect why " ++ t.name ++ " currently has no observed employees.") = true := by
    intro h
    simp only [sized, String.length_append, hinspect, hcurrently, Bool.and_eq_true, decide_eq_true_eq]
    omega
  have hteams : "teams.".length = 6 := by decide
  have hcount : ".employee_count".length = 15 := by decide
  have hfield : ("teams." ++ t.teamId ++ ".employee_count").length ≤ 226 ↔ t.teamId.length ≤ 205 := by
    rw [String.length_append, String.length_append, hteams, hcount]
    omega
  rw [emptyTeamAdvice, advise_iff hsound (sized_ofList rfl) (sized_ofList rfl) (sized_ofList rfl),
    List.forall_mem_singleton,
    stateEvidence_valid_iff_length hsound.snapshotId, htitle, hfield]
  constructor
  · rintro ⟨hname, -, -, hteam, -⟩
    exact ⟨hname, hteam⟩
  · rintro ⟨hname, hteam⟩
    exact ⟨hname, sized_ofList rfl, hbenefit hname, hteam, TextLength.ofList_le (by decide)⟩

/-- In a paused company that is observed completely, the team that is short of workstations fits, or else the first
team nobody works for. -/
def RecommendFits (fold : String → String) (context : ReadContext) : Prop :=
  ∀ state, context.state = some state → state.paused = true → state.teamsComplete = true →
    state.employeesComplete = true →
    match context.snapshot.bind fun snapshot => shortTeam fold snapshot state.teams with
    | some (t, r) => ShortageFits t r
    | none => ∀ t, state.teams.find? (·.employeeCount = 0) = some t → EmptyTeamFits t

theorem withheld_ok {n : NoAdvice} (h : n.valid = true) : ∃ r, withheld n = .ok r := by
  rw [withheld, if_pos h]
  exact ⟨_, rfl⟩

theorem noAdvice_valid {n : NoAdvice} (hrule : sized 1 128 n.ruleId = true)
    (hexplanation : sized 1 4096 n.explanation = true)
    (hsource : (n.source.all fun s => sized 0 128 s.1 && s.2.1.all (sized 0 256) && sized 0 128 s.2.2) = true) :
    n.valid = true := by
  rw [NoAdvice.valid, hrule, hexplanation, hsource]
  rfl

theorem incompleteCoverage_always (hsound : Sound state) : ∃ r, withheld (incompleteCoverage state) = .ok r := by
  have hid : sized 0 128 state.snapshotId = true := by
    rw [sized, hsound.snapshotId]
    decide
  refine withheld_ok (noAdvice_valid (sized_ofList rfl) (sized_ofList rfl) ?_)
  simp only [incompleteCoverage, Option.all_some, hsound.session, hsound.save, hid, Bool.and_true]

theorem recommend_iff {fold : String → String} {context : ReadContext}
    (hsound : ∀ s, context.state = some s → Sound s) :
    (∃ r, recommend fold context = .ok r) ↔ RecommendFits fold context := by
  unfold RecommendFits recommend
  cases hstate : context.state with
  | none =>
    refine iff_of_true (withheld_ok (noAdvice_valid ?_ ?_ rfl)) fun _ h => by cases h
    · exact sized_ofList rfl
    · exact sized_append_ofList rfl
  | some state =>
    have hs := hsound state hstate
    dsimp only
    cases hpaused : state.paused with
    | false =>
      refine iff_of_true (pauseAdvice_always hs context) ?_
      rintro _ ⟨rfl⟩ h
      cases h.symm.trans hpaused
    | true =>
      cases hteams : state.teamsComplete with
      | false =>
        refine iff_of_true (incompleteCoverage_always hs) ?_
        rintro _ ⟨rfl⟩ - h
        cases h.symm.trans hteams
      | true =>
        cases hemployees : state.employeesComplete with
        | false =>
          refine iff_of_true (incompleteCoverage_always hs) ?_
          rintro _ ⟨rfl⟩ - - h
          cases h.symm.trans hemployees
        | true =>
          simp only [Option.some.injEq, forall_eq', hpaused, hteams, hemployees, forall_const, Bool.not_true,
            Bool.or_self,
            Bool.false_eq_true, if_false]
          cases context.snapshot.bind fun snapshot => shortTeam fold snapshot state.teams with
          | some short => exact shortageAdvice_iff hs context short.1 short.2
          | none =>
            dsimp only
            cases state.teams.find? (·.employeeCount = 0) with
            | some t =>
              dsimp only
              rw [emptyTeamAdvice_iff hs]
              constructor
              · rintro h _ ⟨rfl⟩
                exact h
              · intro h
                exact h t rfl
            | none => exact iff_of_true (structureAdvice_always hs context) fun _ h => by cases h

end

/-! ## Always an answer -/

/-- The question is answered, the status told and something recommended, if only nothing; no length is exceeded. -/
structure AlwaysAnswers (texts : Texts) (catalog : List KnowledgeClaim) (fold : String → String)
    (context : ReadContext) (question : String) : Prop where
  answer : ∃ r, answerAll texts catalog fold question context = .ok r
  status : ∃ r, Guidance.status context.toGuidanceContext = .ok r
  recommend : ∃ r, Guidance.recommend fold context = .ok r

theorem question_sized {question : String} (hblank : strip question ≠ "") (hlength : question.length ≤ 4096) :
    sized 1 4096 question = true := by
  have hpos : question.length ≠ 0 := by
    intro hzero
    rw [String.length_eq_zero_iff.mp hzero] at hblank
    exact hblank (by decide)
  rw [sized, Bool.and_eq_true, decide_eq_true_eq, decide_eq_true_eq]
  omega

theorem alwaysAnswers_iff {texts : Texts} {catalog : List KnowledgeClaim} {fold digest : String → String}
    {context : ReadContext} {question : String} {fingerprint : List GuidedActionCapability → Detection → String}
    {d : Detection} (hdigest : ∀ s, (digest s).length = 20) (hloaded : Loaded fold digest context)
    (hcapabilities : context.capabilities = guidedCapabilityView fingerprint d)
    (hnodup : (catalog.map (·.claimId)).Nodup) (hids : ∀ claimId ∈ claimIds, claimId ∈ catalog.map (·.claimId))
    (hblank : strip question ≠ "") (hlength : question.length ≤ 4096) :
    AlwaysAnswers texts catalog fold context question ↔
      AnswerFits texts catalog fold context question ∧ StatusFits context ∧ RecommendFits fold context := by
  have hsound := hloaded.sound hdigest
  have hanswer : (∃ r, answerAll texts catalog fold question context = .ok r) ↔
      AnswerFits texts catalog fold context question :=
    answerAll_iff (question_sized hblank hlength) hloaded.error_sized hsound (fun _ => hloaded.state_of_snapshot)
      hloaded.serverGroups_lt (fun claimId hid => applicableClaim_ok hnodup (hids claimId hid)) hcapabilities
  have hstatus := statusAnswer_iff hloaded.error_sized hsound
  have hrecommend : (∃ r, recommend fold context = .ok r) ↔ RecommendFits fold context := recommend_iff hsound
  constructor
  · rintro ⟨h, hs, hr⟩
    exact ⟨hanswer.mp h, hstatus.mp hs, hrecommend.mp hr⟩
  · rintro ⟨h, hs, hr⟩
    exact ⟨hanswer.mpr h, hstatus.mpr hs, hrecommend.mpr hr⟩

/-! ## A claim too long for a summary -/

section Example
open Workstation (asciiFold)

def wordyClaim (claimId : String) (h : sized 3 128 claimId = true) : KnowledgeClaim where
  claimId := claimId
  supportedVersions := ["1.8.41"]
  supportedBuilds := []
  claim := String.ofList (List.replicate 1025 'a')
  provenanceLocator := "docs/software-inc.md"
  verificationStage := "live_verified"
  limitations := []
  id_sized := h
  claim_sized := by
    rw [sized, String.length_ofList, List.length_replicate]
    decide
  provenance_sized := by decide
  stage_sized := by decide

theorem claimIds_sized : ∀ claimId ∈ claimIds, sized 3 128 claimId = true := by
  intro claimId hmem
  simp only [claimIds, List.mem_cons, List.not_mem_nil, or_false] at hmem
  rcases hmem with rfl | rfl | rfl | rfl | rfl | rfl | rfl | rfl | rfl | rfl | rfl <;> exact sized_ofList rfl

def wordyCatalog : List KnowledgeClaim :=
  claimIds.attach.map fun claimId : { id // id ∈ claimIds } => wordyClaim claimId.1 (claimIds_sized claimId.1 claimId.2)

theorem ids_wordyCatalog : wordyCatalog.map (·.claimId) = claimIds := by
  rw [wordyCatalog, List.map_map]
  exact List.attach_map_subtype_val claimIds

def offline : ReadContext where
  state := none
  snapshotError := none
  snapshot := none
  productVersion := some "1.8.41"
  steamBuildId := none
  capabilities := guidedCapabilityView unread undetected

/-- The company of `surveyed`. -/
def surveyedContext (view : StateView) : ReadContext where
  state := some view
  snapshotError := none
  snapshot := some surveyed
  productVersion := some "1.8.41"
  steamBuildId := none
  capabilities := guidedCapabilityView unread undetected

def plainTexts : Texts := ⟨fun _ => "unreadable", fun _ => "8"⟩

theorem alwaysAnswers_iff_surveyed : ∃ view, projectState asciiFold surveyedDigest surveyed = .ok view ∧
    (AlwaysAnswers plainTexts wordyCatalog asciiFold (surveyedContext view) "What are my teams?" ↔
      AnswerFits plainTexts wordyCatalog asciiFold (surveyedContext view) "What are my teams?" ∧
        StatusFits (surveyedContext view) ∧ RecommendFits asciiFold (surveyedContext view)) := by
  obtain ⟨view, hview⟩ := projectState_surveyed
  refine ⟨view, hview, alwaysAnswers_iff length_surveyedDigest
    (.projected rfl rfl hview (by decide) (by decide) (by decide) rfl) rfl ?_ ?_ (by decide)
      (by exact TextLength.ofList_le (by decide))⟩
  · rw [ids_wordyCatalog]
    decide
  · rw [ids_wordyCatalog]
    exact fun _ h => h

theorem applicableClaim_wordyCatalog : applicableClaim wordyCatalog "software-inc.contracts.lifecycle" offline =
    .ok (some (wordyClaim "software-inc.contracts.lifecycle" (sized_ofList rfl))) := rfl

theorem topicOf_contracts : topicOf asciiFold "What are contracts?" = .contracts := by decide +kernel

theorem not_alwaysAnswers_offline : ¬ ∀ (texts : Texts) (catalog : List KnowledgeClaim) (fold digest : String → String)
    (context : ReadContext) (question : String) (fingerprint : List GuidedActionCapability → Detection → String)
    (d : Detection), (∀ s, (digest s).length = 20) → Loaded fold digest context →
    context.capabilities = guidedCapabilityView fingerprint d → (catalog.map (·.claimId)).Nodup →
    (∀ claimId ∈ claimIds, claimId ∈ catalog.map (·.claimId)) → strip question ≠ "" → question.length ≤ 4096 →
    AlwaysAnswers texts catalog fold context question := by
  intro h
  have hnodup : (wordyCatalog.map (·.claimId)).Nodup := by
    rw [ids_wordyCatalog]
    decide
  have hids : ∀ claimId ∈ claimIds, claimId ∈ wordyCatalog.map (·.claimId) := by
    rw [ids_wordyCatalog]
    exact fun _ h => h
  have hloaded : Loaded asciiFold surveyedDigest offline := .missing rfl rfl rfl
  have hanswers := h plainTexts wordyCatalog asciiFold surveyedDigest offline "What are contracts?" unread undetected
    length_surveyedDigest hloaded rfl hnodup hids (by decide) (TextLength.ofList_le (by decide))
  have hfits : AnswerFits plainTexts wordyCatalog asciiFold offline "What are contracts?" :=
    (answerAll_iff (question_sized (by decide) (TextLength.ofList_le (by decide))) hloaded.error_sized
      (hloaded.sound length_surveyedDigest)
      (fun _ => hloaded.state_of_snapshot) hloaded.serverGroups_lt
      (fun claimId hid => applicableClaim_ok hnodup (hids claimId hid)) rfl).mp hanswers.answer
  rw [AnswerFits, topicOf_contracts] at hfits
  have hcited := (hfits _ rfl _ applicableClaim_wordyCatalog).1.1
  rw [wordyClaim, String.length_ofList, List.length_replicate] at hcited
  exact absurd hcited (by decide)

end Example

end SimPilot.SoftwareInc.Guidance
