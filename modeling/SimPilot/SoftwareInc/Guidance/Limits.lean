import SimPilot.SoftwareInc.Guidance.ReadService
import Mathlib.Algebra.Order.BigOperators.Group.List
/-!
# What the read guidance service can say

Every response is checked for its lengths. An answer is refused exactly when a text in it that is made
of an observation or of a claim is too long: `f_iff` says when `f` responds, `f_always` that it always does.
-/

namespace SimPilot.SoftwareInc.Guidance
open GameBridge
open Workstation.Office (readiness TeamOfficeReadiness projectTeamReadiness)

/-! ## What context there is -/

/-- The snapshot is one that the bridge accepts and the state its projection; or there is neither, and an error. -/
inductive Loaded (fold digest : String → String) (context : ReadContext) : Prop where
  | projected {snapshot : GameSnapshot} {view : StateView} (hsnapshot : context.snapshot = some snapshot)
      (hstate : context.state = some view) (hview : projectState fold digest snapshot = .ok view)
      (hsession : sized 1 128 snapshot.gameSessionId = true)
      (hsave : snapshot.saveIdentity.value.all (sized 1 256) = true)
      (hsizes : ∀ surface ∈ snapshot.surfaces, surface.entities.length < 2 ^ 63) (herror : context.snapshotError = none)
  | missing (hsnapshot : context.snapshot = none) (hstate : context.state = none)
      (herror : context.snapshotError.all (sized 0 1024) = true)

/-- What a state is known to fit. -/
structure Sound (state : StateView) : Prop where
  snapshotId : state.snapshotId.length = 29
  session : sized 0 128 state.gameSessionId = true
  save : state.saveIdentity.all (sized 0 256) = true
  teams : state.teams.length < 2 ^ 63
  employees : state.employees.length < 2 ^ 63

section
variable {fold digest : String → String} {context : ReadContext}

theorem summaries_length_le {α : Type} {f : ObservedEntity → Except UIError (Option α)} {entities : List ObservedEntity}
    {complete : Bool} {found : List (Option α)} (h : (if complete then entities else []).mapM f = .ok found) :
    found.reduceOption.length ≤ entities.length := by
  refine (List.reduceOption_length_le found).trans ?_
  rw [Except.length_mapM h]
  split_ifs
  · exact Nat.le_refl _
  · exact Nat.zero_le _

theorem length_entitiesOf_lt {snapshot : GameSnapshot} {name : String} {n : Nat}
    (h : ∀ surface ∈ snapshot.surfaces, surface.entities.length < 2 ^ n) :
    (entitiesOf (surfaceNamed snapshot name)).length < 2 ^ n := by
  cases hsurface : surfaceNamed snapshot name with
  | none => exact Nat.two_pow_pos n
  | some surface => exact h surface (List.mem_of_mem_filter (List.mem_of_getLast? hsurface))

theorem serverGroups_lt {snapshot : GameSnapshot} {n : Nat}
    (h : ∀ surface ∈ snapshot.surfaces, surface.entities.length < 2 ^ n) : serverGroups (some snapshot) < 2 ^ n := by
  unfold serverGroups
  split
  · rename_i surface hsurface
    have hmem : surface ∈ surfacesNamed snapshot "infrastructure" := by
      have honly : surfacesNamed snapshot "infrastructure" = [surface] := Option.some.inj hsurface
      rw [honly]
      exact List.mem_singleton_self surface
    exact lt_of_le_of_lt (List.length_filter_le _ _) (h surface (List.mem_of_mem_filter hmem))
  · exact Nat.two_pow_pos n

theorem sound_of_projectState {snapshot : GameSnapshot} {view : StateView} (hdigest : ∀ s, (digest s).length = 20)
    (hview : projectState fold digest snapshot = .ok view) (hsession : sized 1 128 snapshot.gameSessionId = true)
    (hsave : snapshot.saveIdentity.value.all (sized 1 256) = true)
    (hsizes : ∀ surface ∈ snapshot.surfaces, surface.entities.length < 2 ^ 63) : Sound view := by
  simp only [projectState] at hview
  obtain ⟨teams, hts, hview⟩ := Except.bind_eq_ok.mp hview
  obtain ⟨employees, hes, hview⟩ := Except.bind_eq_ok.mp hview
  obtain ⟨total, -, hview⟩ := Except.bind_eq_ok.mp hview
  obtain ⟨paused, -, hview⟩ := Except.bind_eq_ok.mp hview
  cases hview
  refine ⟨?_, ?_, ?_, ?_, ?_⟩
  · have hfront : "snapshot:".length = 9 := String.length_ofList
    show ("snapshot:" ++ digest _).length = 29
    rw [String.length_append, hdigest, hfront]
  · simp only [sized, Bool.and_eq_true, decide_eq_true_eq] at hsession ⊢
    exact ⟨Nat.zero_le _, hsession.2⟩
  · show snapshot.saveIdentity.value.all (sized 0 256) = true
    cases hvalue : snapshot.saveIdentity.value with
    | none => rfl
    | some save =>
      rw [hvalue] at hsave
      simp only [Option.all_some, sized, Bool.and_eq_true, decide_eq_true_eq] at hsave ⊢
      exact ⟨Nat.zero_le _, hsave.2⟩
  · show (sortedByName fold (·.name) (·.teamId) teams.reduceOption).length < 2 ^ 63
    rw [sortedByName, (List.perm_insertionSort _ _).length_eq]
    exact lt_of_le_of_lt (summaries_length_le hts) (length_entitiesOf_lt hsizes)
  · show (sortedByName fold (·.name) (·.employeeId) employees.reduceOption).length < 2 ^ 63
    rw [sortedByName, (List.perm_insertionSort _ _).length_eq]
    exact lt_of_le_of_lt (summaries_length_le hes) (length_entitiesOf_lt hsizes)

theorem Loaded.sound (hdigest : ∀ s, (digest s).length = 20) (h : Loaded fold digest context) :
    ∀ state, context.state = some state → Sound state := by
  intro state hsome
  cases h with
  | projected hsnapshot hstate hview hsession hsave hsizes herror =>
    cases hsome.symm.trans hstate
    exact sound_of_projectState hdigest hview hsession hsave hsizes
  | missing hsnapshot hstate herror => cases hsome.symm.trans hstate

theorem Loaded.state_of_snapshot (h : Loaded fold digest context) {snapshot : GameSnapshot}
    (hsome : context.snapshot = some snapshot) : ∃ state, context.state = some state := by
  cases h with
  | projected hsnapshot hstate => exact ⟨_, hstate⟩
  | missing hsnapshot => cases hsome.symm.trans hsnapshot

theorem Loaded.serverGroups_lt (h : Loaded fold digest context) : serverGroups context.snapshot < 2 ^ 63 := by
  cases h with
  | projected hsnapshot hstate hview hsession hsave hsizes herror =>
    rw [hsnapshot]
    exact Guidance.serverGroups_lt hsizes
  | missing hsnapshot hstate herror =>
    rw [hsnapshot]
    decide

theorem Loaded.error_sized (h : Loaded fold digest context) : context.snapshotError.all (sized 0 1024) = true := by
  cases h with
  | projected hsnapshot hstate hview hsession hsave hsizes herror => rw [herror]; rfl
  | missing hsnapshot hstate herror => exact herror

end

/-! ## Responses and their parts -/

section
variable {question : String} {context : GuidanceContext}

theorem respond_iff {r : QuestionResponse} :
    (∃ s, respond r = .ok s) ↔ r.valid = true ∧ ∀ e ∈ r.evidence, e.valid = true := by
  constructor
  · rintro ⟨s, hs⟩
    exact respond_valid hs
  · rintro ⟨hvalid, hevidence⟩
    exact ⟨r, respond_of_valid hevidence hvalid⟩

/-- A response with a fitting question, limitation and follow-up stands with its answer and its evidence. -/
theorem respond_iff_of_sized {r : QuestionResponse} (hquestion : sized 1 4096 r.question = true)
    (hlimitation : r.limitation.all (sized 1 2048) = true) (hfollowUp : r.followUp.all (sized 1 1024) = true) :
    (∃ s, respond r = .ok s) ↔ sized 1 4096 r.answer = true ∧ ∀ e ∈ r.evidence, e.valid = true := by
  rw [respond_iff, QuestionResponse.valid, hquestion, hlimitation, hfollowUp, Bool.true_and, Bool.and_true,
    Bool.and_true]

theorem detail_sized (herror : context.snapshotError.all (sized 0 1024) = true) :
    sized 1 1024 (orElse context.snapshotError "required fields are unavailable") = true := by
  cases h : context.snapshotError with
  | none => decide
  | some error =>
    rw [h] at herror
    by_cases hempty : error = ""
    · subst hempty
      exact sized_ofList rfl
    · have hdetail : orElse (some error) "required fields are unavailable" = error := by
        unfold orElse
        split
        · rename_i hnone
          cases hnone
        · rename_i hsome
          exact absurd (Option.some.inj hsome) hempty
        · rename_i hsome
          exact (Option.some.inj hsome).symm
      rw [hdetail]
      simp only [Option.all_some, sized, Bool.and_eq_true, decide_eq_true_eq] at herror ⊢
      have hpos : error.length ≠ 0 := fun hzero => hempty (String.length_eq_zero_iff.mp hzero)
      omega

theorem evidence_valid {e : EvidenceReference} (hid : sized 1 256 e.evidenceId = true)
    (hsummary : sized 1 1024 e.summary = true) (hsource : sized 1 512 e.source = true)
    (hvalue : e.observedValue.all (sized 0 512) = true) : e.valid = true := by
  rw [EvidenceReference.valid, hid, hsummary, hsource, hvalue]
  rfl

/-- Data is reported as insufficient unless the message is too long. -/
theorem unavailable_iff (hquestion : sized 1 4096 question = true)
    (herror : context.snapshotError.all (sized 0 1024) = true) (message : String) :
    (∃ r, unavailable question context message = .ok r) ↔ message.length ≤ 4077 := by
  have hdetail := detail_sized herror
  have hwide : sized 1 2048 (orElse context.snapshotError "required fields are unavailable") = true :=
    sized_mono hdetail (by decide)
  have hfront : "Insufficient data: ".length = 19 := String.length_ofList
  have hlength := String.length_append (s := "Insufficient data: ") (t := message)
  unfold unavailable
  rw [respond_iff_of_sized (by exact hquestion) (by exact hwide) (by exact all_sized_ofList rfl)]
  have hvalid : EvidenceReference.valid {
      evidenceId := "unavailable:live_state"
      kind := .unavailable
      summary := orElse context.snapshotError "required fields are unavailable"
      source := "SoftwareIncGuidanceContext" } = true :=
    evidence_valid (sized_ofList rfl) hdetail (sized_ofList rfl) rfl
  rw [List.forall_mem_singleton, and_iff_left hvalid]
  dsimp only
  unfold sized
  rw [Bool.and_eq_true, decide_eq_true_eq, decide_eq_true_eq, hlength, hfront]
  omega

theorem unavailable_ok (hquestion : sized 1 4096 question = true)
    (herror : context.snapshotError.all (sized 0 1024) = true) {message : String} (h : message.length ≤ 4077) :
    ∃ r, unavailable question context message = .ok r := (unavailable_iff hquestion herror message).mpr h

/-- Evidence of the state stands with its field and its value. -/
theorem stateEvidence_valid_iff_length {state : StateView} (hid : state.snapshotId.length = 29) {field value : String} :
    (stateEvidence state field value).valid = true ↔ field.length ≤ 226 ∧ value.length ≤ 512 := by
  have hcolon : ":".length = 1 := String.length_ofList
  have hobserved : "Observed ".length = 9 := String.length_ofList
  simp only [EvidenceReference.valid, stateEvidence, sized, Option.all_some, String.length_append, hid, hcolon,
    hobserved, Bool.and_eq_true, decide_eq_true_eq]
  omega

theorem stateEvidence_valid_iff {state : StateView} (hid : state.snapshotId.length = 29) {field value : String}
    (hfield : field.length ≤ 226) : (stateEvidence state field value).valid = true ↔ value.length ≤ 512 := by
  rw [stateEvidence_valid_iff_length hid, and_iff_right hfield]

/-- The texts of a claim that become a summary and a source are short enough. -/
def KnowledgeClaim.Cited (c : KnowledgeClaim) : Prop := c.claim.length ≤ 1024 ∧ c.provenanceLocator.length ≤ 512

theorem claimEvidence_valid_iff {c : KnowledgeClaim} : (claimEvidence c).valid = true ↔ c.Cited := by
  have hfront : "knowledge:".length = 10 := String.length_ofList
  have hid := c.id_sized
  have hclaim := c.claim_sized
  have hprovenance := c.provenance_sized
  have hstage := c.stage_sized
  simp only [sized, Bool.and_eq_true, decide_eq_true_eq] at hid hclaim hprovenance hstage
  simp only [EvidenceReference.valid, claimEvidence, sized, Option.all_some, String.length_append, hfront,
    Bool.and_eq_true, decide_eq_true_eq, KnowledgeClaim.Cited]
  constructor
  · rintro ⟨⟨⟨-, -, hsummary⟩, -, hsource⟩, -⟩
    exact ⟨of_decide_eq_true hsummary, of_decide_eq_true hsource⟩
  · rintro ⟨hsummary, hsource⟩
    refine ⟨⟨⟨?_, decide_eq_true hclaim.1, decide_eq_true hsummary⟩, decide_eq_true hprovenance.1,
      decide_eq_true hsource⟩, ?_⟩ <;> omega

end

/-! ## The answers -/

section
variable {texts : Texts} {catalog : List KnowledgeClaim} {fold : String → String} {context : ReadContext}
  {question : String}

/-- The claim that is applicable, if any, can be cited, and its limitations are short enough together. -/
def ClaimFits (catalog : List KnowledgeClaim) (context : ReadContext) (claimId : String) : Prop :=
  ∀ c, applicableClaim catalog claimId context = .ok (some c) →
    c.Cited ∧ (joinedTexts c.limitations).all (sized 1 2048) = true

/-- What is said of a team's workstations is short enough. -/
structure ReadinessSized (hours : String × String) (r : TeamOfficeReadiness) (mode : ReadinessMode) : Prop where
  answer : sized 1 4096 (readinessText hours r mode ++ capacityText r.cheaperExistingCapacity) = true
  limitation : sized 1 2048 (" ".intercalate r.materialUnknowns) = true
  followUp : sized 1 1024 ("Run `software-inc office readiness " ++ r.teamName ++ "` for full detail.") = true
  summary : sized 1 1024 ("Observed office readiness for " ++ r.teamName) = true
  capacity : (toString r.currentCapacity ++ "/" ++ toString r.requiredCapacity).length ≤ 512

/-- What is said of a team's workstations is short enough, or what is wrong with them. -/
def ReadinessFits (texts : Texts) (fold : String → String) (context : ReadContext) (teamName : String)
    (mode : ReadinessMode) : Prop :=
  ∀ snapshot, context.snapshot = some snapshot →
    (∀ e, projectTeamReadiness fold snapshot teamName = .error e → (texts.error e).length ≤ 4077) ∧
      ∀ r, projectTeamReadiness fold snapshot teamName = .ok r →
        ReadinessSized (hoursTexts texts fold snapshot teamName) r mode

theorem knowledgeAnswer_iff (hquestion : sized 1 4096 question = true)
    (herror : context.snapshotError.all (sized 0 1024) = true) {claimId followUp : String}
    (hcatalog : ∃ c, applicableClaim catalog claimId context = .ok c) (hfollowUp : sized 1 1024 followUp = true) :
    (∃ r, knowledgeAnswer catalog question claimId context followUp = .ok r) ↔ ClaimFits catalog context claimId := by
  obtain ⟨found, hfound⟩ := hcatalog
  unfold ClaimFits
  cases found with
  | none =>
    simp only [knowledgeAnswer, hfound]
    exact iff_of_true (unavailable_ok hquestion herror (TextLength.ofList_le (by decide))) fun c hc => nomatch hc
  | some c =>
    simp only [knowledgeAnswer, hfound]
    have hclaim : sized 1 4096 c.claim = true := sized_mono c.claim_sized (by decide)
    rw [respond_iff]
    constructor
    · rintro ⟨hvalid, hevidence⟩ c' hc'
      cases hc'
      refine ⟨claimEvidence_valid_iff.mp (hevidence _ (List.mem_singleton_self _)), ?_⟩
      obtain ⟨⟨-, hlimitation⟩, -⟩ : ((sized 1 4096 question && sized 1 4096 c.claim) = true ∧
          (joinedTexts c.limitations).all (sized 1 2048) = true) ∧ sized 1 1024 followUp = true := by
        simpa only [QuestionResponse.valid, knowledgeResponse, Option.all_some, Bool.and_eq_true] using hvalid
      exact hlimitation
    · intro h
      obtain ⟨hcited, hlimitation⟩ := h c rfl
      refine ⟨?_, ?_⟩
      · simp only [QuestionResponse.valid, knowledgeResponse, Option.all_some, hquestion, hclaim, hlimitation,
          hfollowUp, Bool.and_self]
      · intro e he
        rw [List.mem_singleton.mp he]
        exact claimEvidence_valid_iff.mpr hcited

theorem readinessResponse_iff (hquestion : sized 1 4096 question = true) {state : StateView}
    (hstate : context.state = some state) (hid : state.snapshotId.length = 29) {snapshot : GameSnapshot}
    {mode : ReadinessMode} {hours : String × String} {r : TeamOfficeReadiness} :
    (∃ s, respond (readinessResponse question context snapshot mode hours r) = .ok s) ↔
      ReadinessSized hours r mode := by
  have hfield : 1 ≤ (readinessField mode).length ∧ (readinessField mode).length ≤ 100 := by
    cases mode <;> decide
  have hcolon : ":".length = 1 := String.length_ofList
  have hevidence : sized 1 256 (state.snapshotId ++ ":" ++ readinessField mode) = true := by
    simp only [sized, String.length_append, hid, hcolon, Bool.and_eq_true, decide_eq_true_eq]
    omega
  have hsource : sized 1 512 state.snapshotId = true := by
    simp only [sized, hid]
    decide
  rw [respond_iff]
  simp only [QuestionResponse.valid, readinessResponse, List.forall_mem_singleton, EvidenceReference.valid, hstate,
    Option.map_some, Option.getD_some, Option.all_some, hquestion, hevidence, hsource, Bool.true_and,
    Bool.and_eq_true]
  constructor
  · rintro ⟨⟨⟨hanswer, hlimitation⟩, hfollowUp⟩, ⟨⟨-, hsummary⟩, -⟩, hcapacity⟩
    simp only [sized, Bool.and_eq_true, decide_eq_true_eq] at hcapacity
    exact ⟨hanswer, hlimitation, hfollowUp, hsummary, hcapacity.2⟩
  · rintro ⟨hanswer, hlimitation, hfollowUp, hsummary, hcapacity⟩
    refine ⟨⟨⟨hanswer, hlimitation⟩, hfollowUp⟩, ⟨⟨trivial, hsummary⟩, trivial⟩, ?_⟩
    simp only [sized, Bool.and_eq_true, decide_eq_true_eq]
    exact ⟨Nat.zero_le _, hcapacity⟩

theorem teamReadinessAnswer_iff (hquestion : sized 1 4096 question = true)
    (herror : context.snapshotError.all (sized 0 1024) = true)
    (hstate : ∀ snapshot, context.snapshot = some snapshot → ∃ state, context.state = some state ∧ Sound state)
    (teamName : String) (mode : ReadinessMode) :
    (∃ r, teamReadinessAnswer texts fold question context teamName mode = .ok r) ↔
      ReadinessFits texts fold context teamName mode := by
  unfold ReadinessFits
  cases hsnapshot : context.snapshot with
  | none =>
    simp only [teamReadinessAnswer, hsnapshot]
    exact iff_of_true (unavailable_ok hquestion herror (TextLength.ofList_le (by decide))) fun _ h => by cases h
  | some snapshot =>
    obtain ⟨state, hsome, hsound⟩ := hstate snapshot hsnapshot
    cases hproject : projectTeamReadiness fold snapshot teamName with
    | error e =>
      simp only [teamReadinessAnswer, hsnapshot, hproject]
      rw [unavailable_iff hquestion herror]
      constructor
      · rintro h _ ⟨rfl⟩
        rw [hproject]
        exact ⟨fun e' he' => Except.error.inj he' ▸ h, fun r hr => nomatch hr⟩
      · intro h
        exact (h snapshot rfl).1 e hproject
    | ok r =>
      simp only [teamReadinessAnswer, hsnapshot, hproject]
      rw [readinessResponse_iff hquestion hsome hsound.snapshotId]
      constructor
      · rintro h _ ⟨rfl⟩
        rw [hproject]
        exact ⟨fun e he => (nomatch he), fun r' hr' => Except.ok.inj hr' ▸ h⟩
      · intro h
        exact (h snapshot rfl).2 r hproject

/-- The claims of the two halves of hiring, and that of the servers, can be cited. -/
def CitedFits (catalog : List KnowledgeClaim) (context : ReadContext) (claimId : String) : Prop :=
  ∀ c, applicableClaim catalog claimId context = .ok (some c) → c.Cited

theorem serverAnswer_iff (hquestion : sized 1 4096 question = true)
    (herror : context.snapshotError.all (sized 0 1024) = true)
    (hcatalog : ∃ c, applicableClaim catalog "software-inc.servers.current-boundary" context = .ok c)
    (hgroups : serverGroups context.snapshot < 2 ^ 63) :
    (∃ r, serverAnswer catalog question context = .ok r) ↔
      CitedFits catalog context "software-inc.servers.current-boundary" := by
  obtain ⟨found, hfound⟩ := hcatalog
  unfold CitedFits
  cases found with
  | none =>
    simp only [serverAnswer, hfound]
    exact iff_of_true (unavailable_ok hquestion herror (TextLength.ofList_le (by decide))) fun c hc => nomatch hc
  | some c =>
    simp only [serverAnswer, hfound]
    rw [respond_iff_of_sized (by exact hquestion) (by exact all_sized_ofList rfl)
      (by exact all_sized_ofList rfl)]
    have hanswer : sized 1 4096 (serverResponse question (serverGroups context.snapshot) c).answer = true := by
      have hdigits := Digits.length_toString_le (by decide : 0 < 19) (lt_trans hgroups (by norm_num))
      have hfront : String.length
          "No universal team source-control-server requirement is verified for 1.8.41. The current save exposes "
          = 101 := String.length_ofList
      have hback : " server group(s); Sim Pilot will only recommend one when a selected workflow proves it is ".length =
          90 := String.length_ofList
      have hend : "required.".length = 9 := String.length_ofList
      have hlength : (serverResponse question (serverGroups context.snapshot) c).answer.length =
          101 + (toString (serverGroups context.snapshot)).length + 90 + 9 := by
        rw [← hfront, ← hback, ← hend]
        simp only [serverResponse, String.length_append]
      unfold sized
      generalize (serverResponse question (serverGroups context.snapshot) c).answer.length = n at *
      rw [Bool.and_eq_true, decide_eq_true_eq, decide_eq_true_eq]
      omega
    rw [hanswer]
    constructor
    · rintro ⟨-, hevidence⟩ c' ⟨⟩
      exact claimEvidence_valid_iff.mp (hevidence _ (List.mem_singleton_self _))
    · intro h
      refine ⟨rfl, fun e he => ?_⟩
      rw [List.mem_singleton.mp he]
      exact claimEvidence_valid_iff.mpr (h c rfl)

theorem hiringAnswer_iff (hquestion : sized 1 4096 question = true)
    (herror : context.snapshotError.all (sized 0 1024) = true)
    (hfirst : ∃ c, applicableClaim catalog "software-inc.hiring.programmer" context = .ok c)
    (hsecond : ∃ c, applicableClaim catalog "software-inc.hiring.separate-approvals" context = .ok c) :
    (∃ r, hiringAnswer catalog question context = .ok r) ↔
      ∀ c c', applicableClaim catalog "software-inc.hiring.programmer" context = .ok (some c) →
        applicableClaim catalog "software-inc.hiring.separate-approvals" context = .ok (some c') →
        c.Cited ∧ c'.Cited := by
  obtain ⟨first, hfirst⟩ := hfirst
  obtain ⟨second, hsecond⟩ := hsecond
  have hmessage : ∃ r, unavailable question context.toGuidanceContext
      "Hiring knowledge is not verified for the detected game identity." = .ok r :=
    unavailable_ok hquestion herror (TextLength.ofList_le (by decide))
  cases first with
  | none =>
    simp only [hiringAnswer, hfirst, hsecond]
    exact iff_of_true hmessage fun c c' hc => nomatch hc
  | some c =>
    cases second with
    | none =>
      simp only [hiringAnswer, hfirst, hsecond]
      exact iff_of_true hmessage fun _ c' _ hc' => nomatch hc'
    | some c' =>
      simp only [hiringAnswer, hfirst, hsecond]
      rw [respond_iff_of_sized (by exact hquestion) (by exact all_sized_ofList rfl)
        (by exact all_sized_ofList rfl)]
      have hanswer : sized 1 4096 (hiringResponse question c c').answer = true := by
        have hfirst : "The bounded workflow observes a paid Programmer applicant search first, ".length = 72 :=
          String.length_ofList
        have hthen : "then selects one eligible applicant under your monthly salary ceiling. ".length = 71 :=
          String.length_ofList
        have hcharge : "The search charge and recurring salary require separate exact approvals.".length = 72 :=
          String.length_ofList
        rw [hiringResponse, sized, String.length_append, String.length_append, hfirst, hthen, hcharge]
        decide
      rw [hanswer]
      constructor
      · rintro ⟨-, hevidence⟩ d d' ⟨⟩ ⟨⟩
        exact ⟨claimEvidence_valid_iff.mp (hevidence _ List.mem_cons_self),
          claimEvidence_valid_iff.mp (hevidence _ (List.mem_cons_of_mem _ List.mem_cons_self))⟩
      · intro h
        obtain ⟨hcited, hcited'⟩ := h c c' rfl rfl
        refine ⟨rfl, fun e he => ?_⟩
        rcases List.mem_cons.mp he with rfl | he
        · exact claimEvidence_valid_iff.mpr hcited
        · rw [List.mem_singleton.mp he]
          exact claimEvidence_valid_iff.mpr hcited'

end

/-! ## The answers about the view -/

section
variable {fold : String → String} {context : GuidanceContext} {question : String}

theorem payrollAnswer_iff (hquestion : sized 1 4096 question = true)
    (herror : context.snapshotError.all (sized 0 1024) = true) (hsound : ∀ s, context.state = some s → Sound s) :
    (∃ r, payrollAnswer question context = .ok r) ↔
      ∀ state total, context.state = some state → state.recurringPayroll = some total →
        sized 1 4096 (payrollText (money total)) = true := by
  cases hstate : context.state with
  | none =>
    simp only [payrollAnswer, hstate, Option.bind_none]
    exact iff_of_true (unavailable_ok hquestion herror (TextLength.ofList_le (by decide))) fun _ _ h => by cases h
  | some state =>
    cases hpayroll : state.recurringPayroll with
    | none =>
      simp only [payrollAnswer, hstate, Option.bind_some, hpayroll, Option.map_none]
      refine iff_of_true (unavailable_ok hquestion herror (TextLength.ofList_le (by decide))) ?_
      rintro _ total ⟨rfl⟩ h
      cases h.symm.trans hpayroll
    | some total =>
      simp only [payrollAnswer, hstate, Option.bind_some, hpayroll, Option.map_some]
      rw [respond_iff_of_sized (by exact hquestion) (by exact all_sized_ofList rfl)
        (by dsimp only [String.reduceAppend]; exact all_sized_ofList rfl),
        List.forall_mem_singleton, and_iff_left
          ((stateEvidence_valid_iff (hsound state hstate).snapshotId (TextLength.ofList_le (by decide))).mpr
            (TextLength.ofList_le (by decide)))]
      constructor
      · rintro h _ total' ⟨rfl⟩ htotal
        cases htotal.symm.trans hpayroll
        exact h
      · intro h
        exact h state total rfl hpayroll

theorem teamListAnswer_iff (hquestion : sized 1 4096 question = true)
    (herror : context.snapshotError.all (sized 0 1024) = true) (hsound : ∀ s, context.state = some s → Sound s) :
    (∃ r, teamListAnswer question context = .ok r) ↔
      ∀ state, context.state = some state → state.teamsComplete = true →
        sized 1 4096 (teamListText state.teams) = true ∧ (teamRows state.teams).length ≤ 512 := by
  cases hstate : context.state with
  | none =>
    simp only [teamListAnswer, hstate, Option.filter_none]
    exact iff_of_true (unavailable_ok hquestion herror (TextLength.ofList_le (by decide))) fun _ h => by cases h
  | some state =>
    cases hcomplete : state.teamsComplete with
    | false =>
      simp only [teamListAnswer, hstate, Option.filter, hcomplete, Bool.false_eq_true, ↓reduceIte]
      refine iff_of_true (unavailable_ok hquestion herror (TextLength.ofList_le (by decide))) ?_
      rintro _ ⟨rfl⟩ h
      cases h.symm.trans hcomplete
    | true =>
      simp only [teamListAnswer, hstate, Option.filter, hcomplete, ↓reduceIte]
      rw [respond_iff_of_sized (by exact hquestion) rfl
        (by dsimp only [String.reduceAppend]; exact all_sized_ofList rfl),
        List.forall_mem_singleton, stateEvidence_valid_iff (hsound state hstate).snapshotId (TextLength.ofList_le
          (by decide))]
      constructor
      · rintro h _ ⟨rfl⟩ -
        exact h
      · intro h
        exact h state rfl hcomplete

theorem teamCountAnswer_always (hquestion : sized 1 4096 question = true)
    (herror : context.snapshotError.all (sized 0 1024) = true) (hsound : ∀ s, context.state = some s → Sound s) :
    ∃ r, teamCountAnswer question context = .ok r := by
  cases hstate : context.state.filter (·.teamsComplete) with
  | none =>
    simp only [teamCountAnswer, hstate]
    exact unavailable_ok hquestion herror (TextLength.ofList_le (by decide))
  | some state =>
    simp only [teamCountAnswer, hstate]
    have hs := hsound state (Option.filter_eq_some_iff.mp hstate).1
    have hdigits := Digits.length_toString_le (by decide : 0 < 19) (lt_trans hs.teams (by norm_num))
    rw [respond_iff_of_sized (by exact hquestion) rfl (by exact all_sized_ofList rfl), List.forall_mem_singleton]
    exact ⟨countText_sized (TextLength.ofList_le (by decide)) hs.teams,
      (stateEvidence_valid_iff hs.snapshotId (TextLength.ofList_le (by decide))).mpr (by omega)⟩

theorem employeeCountAnswer_always (hquestion : sized 1 4096 question = true)
    (herror : context.snapshotError.all (sized 0 1024) = true) (hsound : ∀ s, context.state = some s → Sound s) :
    ∃ r, employeeCountAnswer question context = .ok r := by
  cases hstate : context.state.filter (·.employeesComplete) with
  | none =>
    simp only [employeeCountAnswer, hstate]
    exact unavailable_ok hquestion herror (TextLength.ofList_le (by decide))
  | some state =>
    simp only [employeeCountAnswer, hstate]
    have hs := hsound state (Option.filter_eq_some_iff.mp hstate).1
    have hdigits := Digits.length_toString_le (by decide : 0 < 19) (lt_trans hs.employees (by norm_num))
    rw [respond_iff_of_sized (by exact hquestion) rfl (by exact all_sized_ofList rfl), List.forall_mem_singleton]
    exact ⟨countText_sized (TextLength.ofList_le (by decide)) hs.employees,
      (stateEvidence_valid_iff hs.snapshotId (TextLength.ofList_le (by decide))).mpr (by omega)⟩

theorem membershipAnswer_iff (hquestion : sized 1 4096 question = true)
    (herror : context.snapshotError.all (sized 0 1024) = true) (hsound : ∀ s, context.state = some s → Sound s) :
    (∃ r, membershipAnswer question context = .ok r) ↔
      ∀ state, context.state.filter (fun s => s.teamsComplete && s.employeesComplete) = some state →
        sized 1 4096 (membershipText state.teams state.employees) = true := by
  cases hstate : context.state.filter fun s => s.teamsComplete && s.employeesComplete with
  | none =>
    simp only [membershipAnswer, hstate]
    exact iff_of_true (unavailable_ok hquestion herror (TextLength.ofList_le (by decide))) fun _ h => by cases h
  | some state =>
    simp only [membershipAnswer, hstate]
    have hs := hsound state (Option.filter_eq_some_iff.mp hstate).1
    have hdigits := Digits.length_toString_le (by decide : 0 < 19) (lt_trans hs.employees (by norm_num))
    rw [respond_iff_of_sized (by exact hquestion) (by exact all_sized_ofList rfl) (by exact all_sized_ofList rfl),
      List.forall_mem_singleton,
      and_iff_left ((stateEvidence_valid_iff hs.snapshotId (TextLength.ofList_le (by decide))).mpr (by omega))]
    constructor
    · rintro h _ ⟨rfl⟩
      exact h
    · intro h
      exact h state rfl

theorem cashAnswer_iff (hquestion : sized 1 4096 question = true)
    (herror : context.snapshotError.all (sized 0 1024) = true) (hsound : ∀ s, context.state = some s → Sound s) :
    (∃ r, cashAnswer question context = .ok r) ↔
      ∀ state cash, context.state = some state → state.cash = some cash → (money cash).length ≤ 512 := by
  cases hstate : context.state with
  | none =>
    simp only [cashAnswer, hstate, Option.bind_none]
    exact iff_of_true (unavailable_ok hquestion herror (TextLength.ofList_le (by decide))) fun _ _ h => by cases h
  | some state =>
    cases hcash : state.cash with
    | none =>
      simp only [cashAnswer, hstate, Option.bind_some, hcash, Option.map_none]
      refine iff_of_true (unavailable_ok hquestion herror (TextLength.ofList_le (by decide))) ?_
      rintro _ cash ⟨rfl⟩ h
      cases h.symm.trans hcash
    | some cash =>
      simp only [cashAnswer, hstate, Option.bind_some, hcash, Option.map_some]
      rw [respond_iff_of_sized (by exact hquestion) (by exact all_sized_ofList rfl) (by exact all_sized_ofList rfl),
        List.forall_mem_singleton, stateEvidence_valid_iff (hsound state hstate).snapshotId (TextLength.ofList_le
          (by decide))]
      have hfront : "Observed company cash is ".length = 25 := String.length_ofList
      have hend : ".".length = 1 := String.length_ofList
      have hanswer : (money cash).length ≤ 512 →
          sized 1 4096 ("Observed company cash is " ++ money cash ++ ".") = true := by
        intro h
        simp only [sized, String.length_append, hfront, hend, Bool.and_eq_true, decide_eq_true_eq]
        omega
      constructor
      · rintro ⟨-, h⟩ _ cash' ⟨rfl⟩ hcash'
        cases hcash'.symm.trans hcash
        exact h
      · intro h
        have hshort := h state cash rfl hcash
        exact ⟨hanswer hshort, hshort⟩

theorem pausedAnswer_always (hquestion : sized 1 4096 question = true)
    (herror : context.snapshotError.all (sized 0 1024) = true) (hsound : ∀ s, context.state = some s → Sound s) :
    ∃ r, pausedAnswer question context = .ok r := by
  cases hstate : context.state with
  | none =>
    simp only [pausedAnswer, hstate]
    exact unavailable_ok hquestion herror (TextLength.ofList_le (by decide))
  | some state =>
    simp only [pausedAnswer, hstate, runningText]
    have hid := (hsound state hstate).snapshotId
    cases state.paused with
    | true =>
      rw [respond_iff_of_sized (by exact hquestion) rfl (by dsimp only; decide +kernel), List.forall_mem_singleton]
      exact ⟨by dsimp only; decide +kernel, (stateEvidence_valid_iff hid (TextLength.ofList_le (by decide))).mpr
        (TextLength.ofList_le (by decide))⟩
    | false =>
      rw [respond_iff_of_sized (by exact hquestion) rfl (by dsimp only; decide +kernel), List.forall_mem_singleton]
      exact ⟨by dsimp only; decide +kernel, (stateEvidence_valid_iff hid (TextLength.ofList_le (by decide))).mpr
        (TextLength.ofList_le (by decide))⟩

/-- What is said of the team of this name. -/
def teamExistsText (fold : String → String) (teams : List TeamSummary) (name : String) : String :=
  match teams.filter fun t => fold t.name = fold name with
  | [t] => "Yes. " ++ t.name ++ " is an observed team with " ++ toString t.employeeCount ++ " employees."
  | _ => "No observed team is named " ++ name ++ "."

theorem teamExistsAnswer_iff (hquestion : sized 1 4096 question = true)
    (herror : context.snapshotError.all (sized 0 1024) = true) (hsound : ∀ s, context.state = some s → Sound s) :
    (∃ r, teamExistsAnswer fold question context "Support Alpha" = .ok r) ↔
      ∀ state, context.state.filter (·.teamsComplete) = some state →
        sized 1 4096 (teamExistsText fold state.teams "Support Alpha") = true := by
  cases hstate : context.state.filter (·.teamsComplete) with
  | none =>
    simp only [teamExistsAnswer, hstate]
    exact iff_of_true (unavailable_ok hquestion herror (TextLength.ofList_le (by decide))) fun _ h => by cases h
  | some state =>
    simp only [teamExistsAnswer, hstate]
    have hs := hsound state (Option.filter_eq_some_iff.mp hstate).1
    rw [respond_iff_of_sized (by exact hquestion) rfl
      (by dsimp only [String.reduceAppend]; exact all_sized_ofList rfl), List.forall_mem_singleton,
      and_iff_left ((stateEvidence_valid_iff hs.snapshotId (TextLength.ofList_le (by decide))).mpr (TextLength.ofList_le
        (by decide)))]
    constructor
    · rintro h _ ⟨rfl⟩
      exact h
    · intro h
      exact h state rfl

theorem financialText_sized {cash payroll : String} (hcash : cash.length ≤ 512) (hpayroll : payroll.length ≤ 512) :
    sized 1 4096 (financialText cash payroll) = true := by
  have hfront : "Insufficient data for a complete financial-health verdict. Observed cash is ".length = 76 :=
    String.length_ofList
  have hmiddle : " and recurring employee payroll is ".length = 35 := String.length_ofList
  have hend : " per month.".length = 11 := String.length_ofList
  have hlength : (financialText cash payroll).length =
      "Insufficient data for a complete financial-health verdict. Observed cash is ".length + cash.length +
        " and recurring employee payroll is ".length + payroll.length + " per month.".length := by
    unfold financialText
    simp only [String.length_append]
  unfold sized
  generalize (financialText cash payroll).length = n at *
  rw [Bool.and_eq_true, decide_eq_true_eq, decide_eq_true_eq]
  omega

theorem financialHealthAnswer_iff (hquestion : sized 1 4096 question = true)
    (herror : context.snapshotError.all (sized 0 1024) = true) (hsound : ∀ s, context.state = some s → Sound s) :
    (∃ r, financialHealthAnswer question context = .ok r) ↔
      ∀ state cash, context.state = some state → state.cash = some cash →
        (money cash).length ≤ 512 ∧ ((state.recurringPayroll.map money).getD "unavailable").length ≤ 512 := by
  cases hstate : context.state with
  | none =>
    simp only [financialHealthAnswer, hstate, Option.bind_none]
    exact iff_of_true (unavailable_ok hquestion herror (TextLength.ofList_le (by decide))) fun _ _ h => by cases h
  | some state =>
    cases hcash : state.cash with
    | none =>
      simp only [financialHealthAnswer, hstate, Option.bind_some, hcash, Option.map_none]
      refine iff_of_true (unavailable_ok hquestion herror (TextLength.ofList_le (by decide))) ?_
      rintro _ cash ⟨rfl⟩ h
      cases h.symm.trans hcash
    | some cash =>
      have hid := (hsound state hstate).snapshotId
      simp only [financialHealthAnswer, hstate, Option.bind_some, hcash, Option.map_some]
      rw [respond_iff_of_sized (by exact hquestion)
        (by dsimp only [String.reduceAppend]; exact all_sized_ofList rfl)
        (by dsimp only [String.reduceAppend]; exact all_sized_ofList rfl),
        List.forall_mem_cons, List.forall_mem_singleton, stateEvidence_valid_iff hid (TextLength.ofList_le (by decide)),
        stateEvidence_valid_iff hid (TextLength.ofList_le (by decide))]
      constructor
      · rintro ⟨-, h⟩ _ cash' ⟨rfl⟩ hcash'
        cases hcash'.symm.trans hcash
        exact h
      · intro h
        obtain ⟨hshort, hpayroll⟩ := h state cash rfl hcash
        exact ⟨financialText_sized hshort hpayroll, hshort, hpayroll⟩

theorem unknownAnswer_always (hquestion : sized 1 4096 question = true) : ∃ r, unknownAnswer question = .ok r := by
  unfold unknownAnswer
  rw [respond_iff_of_sized (by exact hquestion) (by exact all_sized_ofList rfl) (by exact all_sized_ofList rfl),
    List.forall_mem_singleton]
  exact ⟨sized_ofList rfl, evidence_valid (sized_ofList rfl) (sized_ofList rfl) (sized_ofList rfl) rfl⟩

theorem statusAnswer_iff (herror : context.snapshotError.all (sized 0 1024) = true)
    (hsound : ∀ s, context.state = some s → Sound s) :
    (∃ r, status context = .ok r) ↔ ∀ state, context.state = some state →
      sized 1 4096 (statusText (orElse state.companyName "the observed company") (runningText state)
        ((state.cash.map money).getD "unavailable")
        (if state.teamsComplete then toString state.teams.length else "unknown")
        (if state.employeesComplete then toString state.employees.length else "unknown")) = true := by
  cases hstate : context.state with
  | none =>
    simp only [status, hstate]
    exact iff_of_true (unavailable_ok (by exact sized_ofList rfl) herror (TextLength.ofList_le
      (by decide))) fun _ h => by cases h
  | some state =>
    have hid := (hsound state hstate).snapshotId
    simp only [status, hstate]
    rw [respond_iff_of_sized (by exact sized_ofList rfl) (by exact all_sized_ofList rfl)
      (by exact all_sized_ofList rfl),
      List.forall_mem_singleton,
      and_iff_left ((stateEvidence_valid_iff hid (TextLength.ofList_le (by decide))).mpr (by omega))]
    constructor
    · rintro h _ ⟨rfl⟩
      exact h
    · intro h
      exact h state rfl

end

/-! ## Capabilities -/

section
variable {digest : List GuidedActionCapability → Detection → String} {d : Detection} {question : String}

theorem length_intercalate_le (s : String) (ss : List String) :
    (s.intercalate ss).length ≤ (ss.map fun t => t.length + s.length).sum := by
  induction ss with
  | nil => rw [String.intercalate_nil, String.length_empty]; exact Nat.zero_le _
  | cons t ss ih =>
    cases ss with
    | nil =>
      rw [String.intercalate_singleton, List.map_singleton, List.sum_singleton]
      exact Nat.le_add_right _ _
    | cons u ss =>
      rw [String.intercalate_cons_cons, String.length_append, String.length_append, List.map_cons, List.sum_cons]
      omega

theorem length_orElse_le (text default : String) :
    (orElse (some text) default).length ≤ text.length + default.length := by
  unfold orElse
  split
  · exact Nat.le_add_left _ _
  · exact Nat.le_add_left _ _
  · rename_i h
    rw [Option.some.inj h]
    exact Nat.le_add_right _ _

/-- However the actions are chosen, their names are no longer than all together. -/
theorem length_actionNames_le (p : GuidedActionCapability → Bool) (actions : List GuidedActionCapability) :
    (actionNames (actions.filter p)).length ≤ (actions.map fun a => a.action.length + 2).sum + 4 := by
  have hnone : "none".length = 4 := String.length_ofList
  have hcomma : ", ".length = 2 := String.length_ofList
  have horElse := length_orElse_le (", ".intercalate ((actions.filter p).map (·.action))) "none"
  have hjoined := length_intercalate_le ", " ((actions.filter p).map (·.action))
  rw [hcomma, List.map_map] at hjoined
  have hkept : ((actions.filter p).map fun a => a.action.length + 2).sum ≤
      (actions.map fun a => a.action.length + 2).sum :=
    (List.filter_sublist.map _).sum_le_sum fun _ _ => Nat.zero_le _
  have hchosen := hjoined.trans hkept
  unfold actionNames
  omega

theorem sum_actions_guidedCapabilityView (digest : List GuidedActionCapability → Detection → String) (d : Detection) :
    ((guidedCapabilityView digest d).actions.map fun a => a.action.length + 2).sum =
      (SoftwareIncUIAction.all.map fun a => a.value.length + 2).sum := by
  unfold guidedCapabilityView
  rw [((List.perm_insertionSort _ _).map _).sum_nat, List.map_map]
  rfl

theorem controlText_sized : sized 1 4096 (controlText (guidedCapabilityView digest d).actions) = true := by
  have hfront : "Live-proven direct UI actions: ".length = 31 := String.length_ofList
  have hbehind : ". Offline-only staffing actions: ".length = 33 := String.length_ofList
  have hend : String.length
      ". The semantic bridge has no gameplay actions, and the generic Software Inc. task runtime is unavailable."
      = 105 := String.length_ofList
  have hnames : (SoftwareIncUIAction.all.map fun a => a.value.length + 2).sum ≤ 1900 := by decide +kernel
  have hsum := sum_actions_guidedCapabilityView digest d
  generalize (guidedCapabilityView digest d).actions = actions at hsum ⊢
  have hlive := length_actionNames_le (fun a => a.directUiAction && a.liveVerified) actions
  have hoffline := length_actionNames_le (fun a => a.directUiAction && !a.liveVerified) actions
  have hlength : (controlText actions).length =
      31 + (actionNames (actions.filter fun a => a.directUiAction && a.liveVerified)).length + 33 +
        (actionNames (actions.filter fun a => a.directUiAction && !a.liveVerified)).length + 105 := by
    rw [← hfront, ← hbehind, ← hend]
    unfold controlText
    simp only [String.length_append]
  unfold sized
  generalize (controlText actions).length = n at *
  rw [Bool.and_eq_true, decide_eq_true_eq, decide_eq_true_eq]
  omega

theorem capabilityResponse_always (hquestion : sized 1 4096 question = true) :
    ∃ r, respond (capabilityResponse question (guidedCapabilityView digest d)) = .ok r := by
  rw [respond_iff_of_sized (by exact hquestion) (by exact all_sized_ofList rfl)
    (by exact all_sized_ofList rfl)]
  constructor
  · unfold capabilityResponse
    dsimp only
    exact controlText_sized
  · intro e he
    rw [List.mem_singleton.mp he]
    have hfront : "capability:".length = 11 := String.length_ofList
    have htake : (String.ofList
      ((guidedCapabilityView digest d).capabilityFingerprint.toList.take 20)).length ≤ 20 := by
      rw [String.length_ofList]
      exact List.length_take_le ..
    have hid : sized 1 256 ("capability:" ++
        String.ofList ((guidedCapabilityView digest d).capabilityFingerprint.toList.take 20)) = true := by
      rw [sized, String.length_append, hfront, Bool.and_eq_true, decide_eq_true_eq, decide_eq_true_eq]
      omega
    exact evidence_valid hid (sized_ofList rfl) (sized_ofList rfl) rfl

end

end SimPilot.SoftwareInc.Guidance
