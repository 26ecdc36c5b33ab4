import SimPilot.SoftwareInc.Contracts.Advice
import Mathlib.Algebra.Order.BigOperators.Group.List
/-!
# How the advice hangs on the spelling of a team (software_inc/contracts/policy.py)

Some reference to the team is spelled as no row is, and finds nothing (`readTeam_unmentioned`).
So all references get the same advice only where none of them finds anything
(`implements_policy_iff`). A reference that is spelled as the rows are is advised by the policy
but for two points (`eligible_iff_of_spelled`).
-/

namespace SimPilot.SoftwareInc.Contracts.Advisor

open GameBridge TextOrder Ranking

variable {fold : String → String} {snapshot : GameSnapshot} {team : ObservedEntity} {teamName other : String}
  {contracts : List ContractObservation} {minimumReward minimumCashReserve : ℚ} {now : Timestamp}

/-! ## A spelling that no row has -/

/-- So many spaces in front of a text. -/
def spaced : Nat → String → String
  | 0, s => s
  | n + 1, s => " " ++ spaced n s

theorem length_spaced (n : Nat) (s : String) : (spaced n s).length = n + s.length := by
  induction n with
  | zero => simp [spaced]
  | succ n ih =>
    have hspace : " ".length = 1 := rfl
    rw [spaced, String.length_append, ih, hspace]
    omega

theorem fold_spaced (hfold : ∀ s, fold (" " ++ s) = " " ++ fold s) (n : Nat) (s : String) :
    fold (spaced n s) = spaced n (fold s) := by
  induction n with
  | zero => rfl
  | succ n ih => rw [spaced, hfold, ih, spaced]

theorem normalizeSpaces_spaced (n : Nat) (s : String) : normalizeSpaces (spaced n s) = normalizeSpaces s := by
  induction n with
  | zero => rfl
  | succ n ih =>
    rw [← ih]
    simp [normalizeSpaces, spaced, List.splitOnP_cons_eq_if_modifyHead, isSpace]

/-- A reference to the same team whose spelling is not among the given ones. -/
theorem exists_unmentioned (hfold : ∀ s, fold (" " ++ s) = " " ++ fold s) (s : String) (xs : List String) :
    ∃ s', normalized fold s' = normalized fold s ∧ fold s' ∉ xs := by
  refine ⟨spaced ((xs.map String.length).sum + 1) s, ?_, fun hmem => ?_⟩
  · rw [normalized, fold_spaced hfold, normalizeSpaces_spaced, normalized]
  · have hle := List.single_le_sum (by simp) _ (List.mem_map_of_mem (f := String.length) hmem)
    rw [fold_spaced hfold, length_spaced] at hle
    omega

/-! ## What is attributed to the team -/

/-- The texts in which rows name teams. -/
def mentioned (snapshot : GameSnapshot) : List String :=
  (entitiesOf snapshot "employees" "employee").map (textAt · "team") ++
    (entitiesOf snapshot "offices" "office_room").flatMap teamsOf ++
    (entitiesOf snapshot "work_items" "work_item").flatMap teamsOf

/-- Under a spelling that no row has nothing is read but the team itself. -/
theorem readTeam_unmentioned {reading : Reading} (h : readTeam fold snapshot teamName = .ok reading)
    (hout : fold teamName ∉ (mentioned snapshot).map fold) :
    reading.observedRoles = [] ∧ reading.active = [] ∧ reading.capacity = none := by
  obtain ⟨-, ⟨employees, roles, hemployees, hroles, hobserved⟩, hactive, -, hcapacity, -⟩ := readTeam_ok.mp h
  simp only [mentioned, List.map_append, List.mem_append, not_or, List.mem_map, List.mem_flatMap, not_exists,
    not_and] at hout
  obtain ⟨⟨hemployee, hoffice⟩, hwork⟩ := hout
  have hnone : employees = [] := by
    cases hemployees.symm.trans (teamEmployees_eq hemployees teamName)
    rw [List.filter_eq_nil_iff]
    intro e he
    simp [hemployee _ ⟨e, he, rfl⟩]
  refine ⟨?_, ?_, ?_⟩
  · subst hnone
    cases hroles
    rw [hobserved]
    rfl
  · obtain ⟨work, hread, hfor⟩ := activeWork_eq hactive
    rw [Except.ok.inj (hactive.symm.trans (hfor teamName)), workFor_eq_nil hread]
    intro e he _ hnamed
    obtain ⟨name, hname, heq⟩ := List.mem_map.mp hnamed
    exact absurd heq (hwork name ⟨e, he, hname⟩)
  · rw [workspaceCapacity_ok hcapacity]
    have hcounted : (entitiesOf snapshot "offices" "office_room").filterMap (countedFor fold teamName) = [] := by
      rw [List.filterMap_eq_nil_iff]
      intro e he
      refine if_neg fun hnamed => ?_
      obtain ⟨name, hname, heq⟩ := List.mem_map.mp hnamed
      exact hoffice name ⟨e, he, hname⟩ heq
    simp [hcounted]

theorem names_of_fold_eq {name : String} (hother : Names fold team other) (h : fold name = fold other) :
    Names fold team name := by
  rw [Names, normalized, h]
  exact hother

section
variable {r : ContractRecommendation}

/-- The advice on a market that is not empty comes of one reading of the team. -/
theorem advice_of_reading (hcontracts : availableContracts snapshot = .ok contracts) (hne : contracts ≠ [])
    (h : recommendContracts fold snapshot teamName minimumReward minimumCashReserve now = .ok r) :
    ∃ reading amount, readTeam fold snapshot teamName = .ok reading ∧ cash snapshot = .ok amount ∧
      (∀ contract ∈ contracts, (assessmentOf fold contract reading).valid = true) ∧
      r.candidates = (contracts.map fun contract =>
        candidateOf fold contract reading amount minimumReward minimumCashReserve) ∧
      r.advice = contracts.map (judgement fold reading amount minimumReward minimumCashReserve) := by
  obtain ⟨-, -, contracts', candidates, hcontracts', hcandidates, rfl⟩ := recommendContracts_ok.mp h
  cases hcontracts.symm.trans hcontracts'
  obtain ⟨reading, amount, hreading, hamount, hvalid, rfl⟩ := (judged_alike hne).mp hcandidates
  exact ⟨reading, amount, hreading, hamount, hvalid, rfl, advice_recommendationOf⟩

/-- Two readings of one team differ in what is attributed alone. -/
theorem readings_agree {reading reading' : Reading} (h : readTeam fold snapshot teamName = .ok reading)
    (h' : readTeam fold snapshot other = .ok reading') (hteam : uniqueNamedTeam fold snapshot teamName = .ok team)
    (hother : uniqueNamedTeam fold snapshot other = .ok team) :
    reading'.employeeCount = reading.employeeCount ∧ reading'.daysPerMonth = reading.daysPerMonth := by
  obtain ⟨hread, -, -, hcount, -, hdays⟩ := readTeam_ok.mp h
  obtain ⟨hread', -, -, hcount', -, hdays'⟩ := readTeam_ok.mp h'
  have hsame := Except.ok.inj (hread.symm.trans hteam)
  have hsame' := Except.ok.inj (hread'.symm.trans hother)
  rw [hsame] at hcount
  rw [hsame'] at hcount'
  exact ⟨Except.ok.inj (hcount'.symm.trans hcount), Except.ok.inj (hdays'.symm.trans hdays)⟩

/-- Where all references get one advice, each finds nothing: one of them is in no row. -/
theorem nothing_found (hfold : ∀ s, fold (" " ++ s) = " " ++ fold s)
    (hcontracts : availableContracts snapshot = .ok contracts) (hne : contracts ≠ [])
    (hteam : uniqueNamedTeam fold snapshot teamName = .ok team)
    (hspelling : ∀ other, uniqueNamedTeam fold snapshot other = .ok team →
      ∃ r', recommendContracts fold snapshot other minimumReward minimumCashReserve now = .ok r' ∧
        r'.advice = r.advice)
    (hother : uniqueNamedTeam fold snapshot other = .ok team) :
    ∃ reading, readTeam fold snapshot other = .ok reading ∧ reading.active = [] ∧ reading.capacity = none ∧
      ∀ contract ∈ contracts, ∀ role ∈ requiredRoles contract, fold role ∉ reading.observedRoles.map fold := by
  obtain ⟨blank, hblank, hout⟩ := exists_unmentioned hfold teamName ((mentioned snapshot).map fold)
  have hresolves : uniqueNamedTeam fold snapshot blank = .ok team :=
    uniqueNamedTeam_of_names hteam (hblank.trans (names_of_uniqueNamedTeam hteam))
  obtain ⟨rb, hrb, hadviceb⟩ := hspelling blank hresolves
  obtain ⟨rb', hrb', hadvice'⟩ := hspelling other hother
  obtain ⟨nothing, amount, hnothing, hamount, -, -, hjudged⟩ := advice_of_reading hcontracts hne hrb
  obtain ⟨reading, amount', hreading, hamount', -, -, hjudged'⟩ := advice_of_reading hcontracts hne hrb'
  cases hamount.symm.trans hamount'
  obtain ⟨hcount, hdays⟩ := readings_agree hnothing hreading hresolves hother
  obtain ⟨hroles, hactive, hcapacity⟩ := readTeam_unmentioned hnothing hout
  have hsame := hjudged'.symm.trans (hadvice'.trans (hadviceb.symm.trans hjudged))
  have hshown : ∀ contract ∈ contracts, missingRoles fold contract reading.observedRoles = requiredRoles contract ∧
      reading.active = [] ∧ reading.capacity = none := by
    intro contract hcontract
    have hblankReasons : attributedReasons fold contract nothing = unattributedReasons contract := by
      refine attributedReasons_eq_iff.mpr ⟨?_, hactive, hcapacity⟩
      rw [missingRoles_eq_iff, hroles]
      simp
    rw [← attributedReasons_eq_iff, ← hblankReasons]
    exact (judgement_eq_iff hcount hdays).mp (List.map_inj_left.mp hsame contract hcontract)
  obtain ⟨first, hfirst⟩ := List.exists_mem_of_ne_nil contracts hne
  obtain ⟨-, hactive', hcapacity'⟩ := hshown first hfirst
  exact ⟨reading, hreading, hactive', hcapacity', fun contract hcontract =>
    missingRoles_eq_iff.mp (hshown contract hcontract).1⟩

/-- A row that names the team is found under its own spelling. -/
theorem unattributed_of_spelling (hcontracts : availableContracts snapshot = .ok contracts)
    (hteam : uniqueNamedTeam fold snapshot teamName = .ok team)
    (hfound : ∀ other, uniqueNamedTeam fold snapshot other = .ok team →
      ∃ reading, readTeam fold snapshot other = .ok reading ∧ reading.active = [] ∧ reading.capacity = none ∧
        ∀ contract ∈ contracts, ∀ role ∈ requiredRoles contract, fold role ∉ reading.observedRoles.map fold) :
    Unattributed fold snapshot team := by
  constructor
  · intro e he
    obtain ⟨hrow, hmember⟩ := List.mem_filter.mp he
    obtain ⟨hnames, hdismissed⟩ := of_decide_eq_true hmember
    obtain ⟨reading, hreading, -, -, hroles⟩ := hfound _ (uniqueNamedTeam_of_names hteam hnames)
    obtain ⟨-, ⟨employees, roles, hemployees, hread, hobserved⟩, -⟩ := readTeam_ok.mp hreading
    have hmem : e ∈ employees := by
      cases hemployees.symm.trans (teamEmployees_eq hemployees (textAt e "team"))
      simp [hrow, hdismissed]
    obtain ⟨observed, hok⟩ := Except.exists_of_mapM hread hmem
    refine ⟨observed, hok, fun contracts' hcontracts' contract hcontract role hrole hin => ?_⟩
    cases hcontracts.symm.trans hcontracts'
    refine hroles contract hcontract role hrole ?_
    obtain ⟨seen, hseen, heq⟩ := List.mem_map.mp hin
    refine List.mem_map.mpr ⟨seen, ?_, heq⟩
    rw [hobserved, sortedSet, List.mem_insertionSort, List.mem_dedup, List.mem_flatten]
    exact ⟨observed, (Except.mem_mapM hread observed).mpr ⟨e, hmem, hok⟩, hseen⟩
  · intro e he hcontract
    obtain ⟨hrow, hunfinished⟩ := List.mem_filter.mp he
    obtain ⟨⟨name, hname, hnames⟩, hdone⟩ := of_decide_eq_true hunfinished
    obtain ⟨reading, hreading, hactive, -, -⟩ := hfound _ (uniqueNamedTeam_of_names hteam hnames)
    obtain ⟨-, -, hread, -⟩ := readTeam_ok.mp hreading
    obtain ⟨work, hwork, hfor⟩ := activeWork_eq hread
    rw [hactive] at hread
    have hnil := Except.ok.inj ((hfor name).symm.trans hread)
    exact hdone ((workFor_eq_nil hwork).mp hnil e hrow hcontract (List.mem_map_of_mem hname))
  · rw [officesOf, List.filter_eq_nil_iff]
    intro e hrow hassigned
    obtain ⟨name, hname, hnames⟩ := of_decide_eq_true hassigned
    obtain ⟨reading, hreading, -, hcapacity, -⟩ := hfound _ (uniqueNamedTeam_of_names hteam hnames)
    obtain ⟨-, -, -, -, hread, -⟩ := readTeam_ok.mp hreading
    have hcounted := workspaceCapacity_ok hread
    rw [hcapacity] at hcounted
    dsimp only at hcounted
    split_ifs at hcounted with hnil
    rw [List.filterMap_eq_nil_iff] at hnil
    have hskipped := hnil e hrow
    rw [countedFor, if_pos (List.mem_map_of_mem hname)] at hskipped
    cases hskipped

end

/-! ## The advice and the policy -/

/-- What a team without offices, contract work and required roles is told of a contract. -/
theorem readTeam_of_unattributed {reading : Reading} (hunattributed : Unattributed fold snapshot team)
    (hteam : uniqueNamedTeam fold snapshot teamName = .ok team) (h : readTeam fold snapshot teamName = .ok reading)
    (hcontracts : availableContracts snapshot = .ok contracts)
    (hother : uniqueNamedTeam fold snapshot other = .ok team) :
    ∃ reading', readTeam fold snapshot other = .ok reading' ∧ reading'.active = [] ∧ reading'.capacity = none ∧
      ∀ contract ∈ contracts, ∀ role ∈ requiredRoles contract, fold role ∉ reading'.observedRoles.map fold := by
  obtain ⟨hread, ⟨employees, roles, hemployees, -, -⟩, hactive, hcount, hcapacity, hdays⟩ := readTeam_ok.mp h
  have hnames := names_of_uniqueNamedTeam hother
  have hfound := teamEmployees_eq hemployees other
  have hmember : ∀ e ∈ (entitiesOf snapshot "employees" "employee").filter (fun e =>
      fold (textAt e "team") = fold other && flagAt e.values "dismissed" = some false),
      e ∈ members fold snapshot team := by
    intro e he
    obtain ⟨hrow, hselected⟩ := List.mem_filter.mp he
    rw [Bool.and_eq_true, decide_eq_true_eq, decide_eq_true_eq] at hselected
    exact List.mem_filter.mpr ⟨hrow, decide_eq_true ⟨names_of_fold_eq hnames hselected.1, hselected.2⟩⟩
  obtain ⟨roles', hroles'⟩ := Except.mapM_ok_of_forall fun e he => by
    obtain ⟨observed, hobserved, -⟩ := hunattributed.members e (hmember e he)
    show (observedRoles fold e).isOk = true
    rw [hobserved]
    rfl
  obtain ⟨work, hwork, hfor⟩ := activeWork_eq hactive
  have hidle : workFor fold other work = [] := by
    rw [workFor_eq_nil hwork]
    intro e hrow hcontract hnamed
    obtain ⟨name, hname, heq⟩ := List.mem_map.mp hnamed
    by_contra hdone
    refine hunattributed.work e (List.mem_filter.mpr ⟨hrow, decide_eq_true ⟨⟨name, hname, ?_⟩, hdone⟩⟩) hcontract
    exact names_of_fold_eq hnames heq
  have hoffices : ∀ e ∈ entitiesOf snapshot "offices" "office_room", fold other ∉ (teamsOf e).map fold := by
    intro e hrow hnamed
    obtain ⟨name, hname, heq⟩ := List.mem_map.mp hnamed
    have hmem : e ∈ officesOf fold snapshot team :=
      List.mem_filter.mpr ⟨hrow, decide_eq_true ⟨name, hname, names_of_fold_eq hnames heq⟩⟩
    rw [hunattributed.offices] at hmem
    cases hmem
  have hsame : reading.team = team := Except.ok.inj (hread.symm.trans hteam)
  refine ⟨{ team, observedRoles := sortedSet roles'.flatten, active := [], employeeCount := reading.employeeCount,
            capacity := none, daysPerMonth := reading.daysPerMonth }, ?_, rfl, rfl, ?_⟩
  · exact readTeam_ok.mpr ⟨hother, ⟨_, roles', hfound, hroles', rfl⟩, hidle ▸ hfor other, hsame ▸ hcount,
      workspaceCapacity_none hcapacity hoffices, hdays⟩
  · intro contract hcontract role hrole hin
    obtain ⟨seen, hseen, heq⟩ := List.mem_map.mp hin
    rw [sortedSet, List.mem_insertionSort, List.mem_dedup, List.mem_flatten] at hseen
    obtain ⟨observed, hobserved, hseen⟩ := hseen
    obtain ⟨e, he, hok⟩ := (Except.mem_mapM hroles' observed).mp hobserved
    obtain ⟨observed', hok', hnone⟩ := hunattributed.members e (hmember e he)
    cases hok.symm.trans hok'
    exact hnone contracts hcontracts contract hcontract role hrole (List.mem_map.mpr ⟨seen, hseen, heq⟩)

theorem nodup_contractIds (h : availableContracts snapshot = .ok contracts) :
    (contracts.map (·.contractId)).Nodup := by
  obtain ⟨market, -, h⟩ := Except.bind_eq_ok.mp h
  obtain ⟨read, -, h⟩ := Except.bind_eq_ok.mp h
  split_ifs at h with hnodup
  cases h
  exact ((List.perm_insertionSort _ read).map _).nodup_iff.mpr hnodup

section
variable {r : ContractRecommendation}

/-- Every contract on the market is judged. -/
theorem judged_of_recommended
    (h : recommendContracts fold snapshot teamName minimumReward minimumCashReserve now = .ok r) :
    availableContracts snapshot = .ok (r.candidates.map (·.contract)) := by
  obtain ⟨-, -, contracts, candidates, hcontracts, hcandidates, rfl⟩ := recommendContracts_ok.mp h
  show _ = Except.ok (candidates.map (·.contract))
  rw [hcontracts]
  have hmap := Except.map_of_mapM (g := fun a : ContractCandidate => a.contract) (k := id) (fun contract a ha => by
    obtain ⟨reading, amount, -, -, -, rfl⟩ := assessContract_ok.mp ha
    rfl) hcandidates
  rw [hmap, List.map_id]

/-- The listed candidates are always the first three eligible ones. -/
theorem first_of_recommended
    (h : recommendContracts fold snapshot teamName minimumReward minimumCashReserve now = .ok r) :
    FirstThree r.candidates r.listed := by
  have hids := nodup_contractIds (judged_of_recommended h)
  rw [List.map_map] at hids
  obtain ⟨-, -, contracts, candidates, -, -, rfl⟩ := recommendContracts_ok.mp h
  exact firstThree hids

theorem implements_of_empty (h : recommendContracts fold snapshot teamName minimumReward minimumCashReserve now = .ok r)
    (hempty : availableContracts snapshot = .ok []) :
    ImplementsPolicy fold snapshot teamName minimumReward minimumCashReserve now r := by
  have hjudged := judged_of_recommended h
  have hnil : r.candidates = [] := List.map_eq_nil_iff.mp (Except.ok.inj (hjudged.symm.trans hempty))
  obtain ⟨hpos, hsequence, -⟩ := recommendContracts_ok.mp h
  refine ⟨hjudged, fun _ _ a ha => ?_, first_of_recommended h, fun _ other _ _ => ?_⟩
  · rw [hnil] at ha
    cases ha
  · refine ⟨_, recommendContracts_ok.mpr ⟨hpos, hsequence, [], [], hempty, rfl, rfl⟩, ?_⟩
    rw [ContractRecommendation.advice, ContractRecommendation.advice, hnil]
    rfl

/-- A reading in which nothing is found. -/
theorem attributedReasons_of_nothing {reading : Reading} {contract : ContractObservation}
    (hactive : reading.active = []) (hcapacity : reading.capacity = none)
    (hroles : ∀ role ∈ requiredRoles contract, fold role ∉ reading.observedRoles.map fold) :
    attributedReasons fold contract reading = unattributedReasons contract :=
  attributedReasons_eq_iff.mpr ⟨missingRoles_eq_iff.mpr hroles, hactive, hcapacity⟩

theorem implements_of_unattributed
    (h : recommendContracts fold snapshot teamName minimumReward minimumCashReserve now = .ok r)
    (hteam : uniqueNamedTeam fold snapshot teamName = .ok team) (hunattributed : Unattributed fold snapshot team)
    (hne : r.candidates.map (·.contract) ≠ []) :
    ImplementsPolicy fold snapshot teamName minimumReward minimumCashReserve now r := by
  have hjudged := judged_of_recommended h
  obtain ⟨hpos, hsequence, -⟩ := recommendContracts_ok.mp h
  obtain ⟨reading, amount, hreading, hamount, hvalid, hcandidates, hadvice⟩ := advice_of_reading hjudged hne h
  have hnothing : ∀ other, uniqueNamedTeam fold snapshot other = .ok team →
      ∃ reading', readTeam fold snapshot other = .ok reading' ∧ reading'.capacity = none ∧
        ∀ contract ∈ r.candidates.map (·.contract),
          attributedReasons fold contract reading' = unattributedReasons contract := by
    intro other hother
    obtain ⟨reading', hreading', hactive, hcapacity, hroles⟩ :=
      readTeam_of_unattributed hunattributed hteam hreading hjudged hother
    exact ⟨reading', hreading', hcapacity, fun contract hcontract =>
      attributedReasons_of_nothing hactive hcapacity (hroles contract hcontract)⟩
  have hown : ∀ contract ∈ r.candidates.map (·.contract),
      attributedReasons fold contract reading = unattributedReasons contract := by
    obtain ⟨reading', hreading', -, hreasons⟩ := hnothing teamName hteam
    cases hreading.symm.trans hreading'
    exact hreasons
  refine ⟨hjudged, fun team' hteam' a ha => ?_, first_of_recommended h, fun team' other hteam' hother => ?_⟩
  · cases hteam.symm.trans hteam'
    constructor
    · intro heligible
      have hin := ha
      rw [hcandidates] at hin
      obtain ⟨contract, hcontract, rfl⟩ := List.mem_map.mp hin
      have hnil := (eligible_candidateOf.mp heligible).2.1
      rw [hown contract hcontract] at hnil
      cases hnil
    · intro hmeets
      have hpeople := hmeets.people
      have hworkspace := hmeets.workspace
      rw [hunattributed.offices, List.map_nil, List.sum_nil] at hworkspace
      omega
  · cases hteam.symm.trans hteam'
    obtain ⟨reading', hreading', hcapacity, hreasons⟩ := hnothing other hother
    obtain ⟨hcount, hdays⟩ := readings_agree hreading hreading' hteam hother
    have hvalid' : ∀ contract ∈ r.candidates.map (·.contract), (assessmentOf fold contract reading').valid = true := by
      intro contract hcontract
      obtain ⟨hpositive, -, hrequired⟩ := valid_assessmentOf.mp (hvalid contract hcontract)
      rw [valid_assessmentOf, hcount, hdays, hcapacity]
      exact ⟨hpositive, by simp, hrequired⟩
    refine ⟨_, recommendContracts_ok.mpr ⟨hpos, hsequence, _, _, hjudged,
      (judged_alike hne).mpr ⟨reading', amount, hreading', hamount, hvalid', rfl⟩, rfl⟩, ?_⟩
    rw [advice_recommendationOf, hadvice]
    refine List.map_congr_left fun contract hcontract => (judgement_eq_iff hcount hdays).mpr ?_
    rw [hreasons contract hcontract, hown contract hcontract]

end

/-! ## A reference spelled as the rows are -/

/-- The rows that name the team spell it as the reference does, up to case. -/
def Spelled (fold : String → String) (snapshot : GameSnapshot) (team : ObservedEntity) (teamName : String) : Prop :=
  ∀ name ∈ mentioned snapshot, Names fold team name → fold name = fold teamName

section
variable {reading : Reading}

theorem names_iff (hspelled : Spelled fold snapshot team teamName)
    (hteam : uniqueNamedTeam fold snapshot teamName = .ok team) {name : String} (hname : name ∈ mentioned snapshot) :
    Names fold team name ↔ fold name = fold teamName :=
  ⟨hspelled name hname, names_of_fold_eq (names_of_uniqueNamedTeam hteam)⟩

theorem assigned_iff (hspelled : Spelled fold snapshot team teamName)
    (hteam : uniqueNamedTeam fold snapshot teamName = .ok team) {e : ObservedEntity}
    (he : ∀ name ∈ teamsOf e, name ∈ mentioned snapshot) :
    (∃ name ∈ teamsOf e, Names fold team name) ↔ fold teamName ∈ (teamsOf e).map fold := by
  rw [List.mem_map]
  constructor
  · rintro ⟨name, hname, hnames⟩
    exact ⟨name, hname, (names_iff hspelled hteam (he name hname)).mp hnames⟩
  · rintro ⟨name, hname, heq⟩
    exact ⟨name, hname, (names_iff hspelled hteam (he name hname)).mpr heq⟩

theorem missingRoles_eq_nil_iff (hspelled : Spelled fold snapshot team teamName)
    (hteam : uniqueNamedTeam fold snapshot teamName = .ok team) (h : readTeam fold snapshot teamName = .ok reading)
    (contract : ContractObservation) :
    missingRoles fold contract reading.observedRoles = [] ↔ ∀ role ∈ requiredRoles contract,
      ∃ e ∈ members fold snapshot team, ∃ observed, observedRoles fold e = .ok observed ∧
        fold role ∈ observed.map fold := by
  obtain ⟨-, ⟨employees, roles, hemployees, hroles, hobserved⟩, -⟩ := readTeam_ok.mp h
  have hmembers : employees = members fold snapshot team := by
    rw [Except.ok.inj (hemployees.symm.trans (teamEmployees_eq hemployees teamName)), members]
    refine List.filter_congr fun e he => ?_
    have hname : textAt e "team" ∈ mentioned snapshot := by
      simp only [mentioned, List.mem_append, List.mem_map]
      exact .inl (.inl ⟨e, he, rfl⟩)
    simp [names_iff hspelled hteam hname]
  rw [missingRoles, List.filter_eq_nil_iff]
  refine forall₂_congr fun role _ => ?_
  rw [decide_eq_true_eq, not_not, hobserved, ← hmembers]
  simp only [sortedSet, List.mem_map, List.mem_insertionSort, List.mem_dedup, List.mem_flatten]
  constructor
  · rintro ⟨seen, ⟨observed, hin, hseen⟩, heq⟩
    obtain ⟨e, he, hok⟩ := (Except.mem_mapM hroles observed).mp hin
    exact ⟨e, he, observed, hok, seen, hseen, heq⟩
  · rintro ⟨e, he, observed, hok, seen, hseen, heq⟩
    exact ⟨seen, ⟨observed, (Except.mem_mapM hroles observed).mpr ⟨e, he, hok⟩, hseen⟩, heq⟩

/-- Contract work alone is looked at. -/
theorem active_eq_nil_iff (hspelled : Spelled fold snapshot team teamName)
    (hteam : uniqueNamedTeam fold snapshot teamName = .ok team) (h : readTeam fold snapshot teamName = .ok reading) :
    (reading.active = [] ∧ ∀ e ∈ unfinishedWork fold snapshot team, flagAt e.values "is_contract" = some true) ↔
      unfinishedWork fold snapshot team = [] := by
  obtain ⟨-, -, hread, -⟩ := readTeam_ok.mp h
  obtain ⟨work, hwork, hfor⟩ := activeWork_eq hread
  have hassigned : ∀ e ∈ entitiesOf snapshot "work_items" "work_item",
      ((∃ name ∈ teamsOf e, Names fold team name) ↔ fold teamName ∈ (teamsOf e).map fold) := by
    intro e he
    refine assigned_iff hspelled hteam fun name hname => ?_
    simp only [mentioned, List.mem_append, List.mem_flatMap]
    exact .inr ⟨e, he, hname⟩
  rw [Except.ok.inj (hread.symm.trans (hfor teamName)), workFor_eq_nil hwork]
  constructor
  · rintro ⟨hdone, hcontracts⟩
    rw [List.eq_nil_iff_forall_not_mem]
    intro e he
    obtain ⟨hrow, hunfinished⟩ := List.mem_filter.mp he
    obtain ⟨hnamed, hopen⟩ := of_decide_eq_true hunfinished
    exact hopen (hdone e hrow (hcontracts e he) ((hassigned e hrow).mp hnamed))
  · intro hnone
    rw [hnone]
    refine ⟨fun e hrow _ hnamed => ?_, by simp⟩
    by_contra hopen
    have hmem : e ∈ unfinishedWork fold snapshot team :=
      List.mem_filter.mpr ⟨hrow, decide_eq_true ⟨(hassigned e hrow).mpr hnamed, hopen⟩⟩
    rw [hnone] at hmem
    cases hmem

theorem workspaceReasons_eq_nil_iff (hspelled : Spelled fold snapshot team teamName)
    (hteam : uniqueNamedTeam fold snapshot teamName = .ok team) (h : readTeam fold snapshot teamName = .ok reading)
    (hcount : 1 ≤ reading.employeeCount) :
    workspaceReasons reading.capacity reading.employeeCount = [] ↔
      reading.employeeCount ≤ ((officesOf fold snapshot team).map validWorkstations).sum := by
  obtain ⟨-, -, -, -, hread, -⟩ := readTeam_ok.mp h
  have hcounted : ∀ es : List ObservedEntity, (∀ e ∈ es, e ∈ entitiesOf snapshot "offices" "office_room") →
      es.filterMap (countedFor fold teamName) =
        (es.filter fun e => ∃ name ∈ teamsOf e, Names fold team name).map validWorkstations := by
    intro es hes
    induction es with
    | nil => rfl
    | cons e es ih =>
      have hassigned := assigned_iff hspelled hteam (e := e) fun name hname => by
        simp only [mentioned, List.mem_append, List.mem_flatMap]
        exact .inl (.inr ⟨e, hes e (by simp), hname⟩)
      rw [List.filterMap_cons, List.filter_cons, countedFor, ih fun x hx => hes x (by simp [hx])]
      by_cases hnamed : fold teamName ∈ (teamsOf e).map fold
      · simp [hnamed, hassigned]
      · simp [hnamed, hassigned]
  have hcapacity := workspaceCapacity_ok hread
  rw [hcounted _ fun _ he => he] at hcapacity
  change _ = (if (officesOf fold snapshot team).map validWorkstations = [] then none else _) at hcapacity
  rw [hcapacity]
  split_ifs with hnil
  · rw [hnil, List.sum_nil]
    constructor
    · intro h
      cases h
    · omega
  · simp [workspaceReasons]
    rfl

/-- **What the advisor makes of a reference spelled as the rows are.** Besides the policy it
asks for a window of at least one day, and it does not ask about work that is no contract's. -/
theorem eligible_iff_of_spelled {r : ContractRecommendation}
    (h : recommendContracts fold snapshot teamName minimumReward minimumCashReserve now = .ok r)
    (hteam : uniqueNamedTeam fold snapshot teamName = .ok team) (hspelled : Spelled fold snapshot team teamName)
    {a : ContractCandidate} (ha : a ∈ r.candidates) :
    (a.eligible = true ∧ ∀ e ∈ unfinishedWork fold snapshot team, flagAt e.values "is_contract" = some true) ↔
      MeetsPolicy fold snapshot team a.contract minimumReward minimumCashReserve ∧ 0 < a.contract.daysRemaining := by
  have hjudged := judged_of_recommended h
  have hne : r.candidates.map (·.contract) ≠ [] := by
    intro hnil
    rw [List.map_eq_nil_iff.mp hnil] at ha
    cases ha
  obtain ⟨reading, amount, hreading, hamount, -, hcandidates, -⟩ := advice_of_reading hjudged hne h
  rw [hcandidates] at ha
  obtain ⟨contract, -, rfl⟩ := List.mem_map.mp ha
  obtain ⟨hread, -, -, hcount, -, hdays⟩ := readTeam_ok.mp hreading
  have hemployees : employeeCount team = reading.employeeCount := by
    rw [Except.ok.inj (hread.symm.trans hteam)] at hcount
    rw [employeeCount, integer_eq_ok hcount]
    rfl
  have hroles := missingRoles_eq_nil_iff hspelled hteam hreading contract
  have hactive := active_eq_nil_iff hspelled hteam hreading
  have hattributed : attributedReasons fold contract reading = [] ↔
      missingRoles fold contract reading.observedRoles = [] ∧ reading.active = [] ∧
        workspaceReasons reading.capacity reading.employeeCount = [] := by
    simp only [attributedReasons, List.append_eq_nil_iff, reasonIf_eq_nil, not_not, and_assoc]
  rw [eligible_candidateOf, hattributed]
  show _ ↔ MeetsPolicy fold snapshot team contract _ _ ∧ 0 < contract.daysRemaining
  constructor
  · rintro ⟨⟨hpeople, ⟨hmissing, hidle, hworkspace⟩, hbuffer, hreward, hreserve, hwindow⟩, hcontracts⟩
    refine ⟨⟨by omega, hroles.mp hmissing, ?_, hactive.mp ⟨hidle, hcontracts⟩, hreward, ⟨amount, hamount, hreserve⟩,
      ⟨_, hdays, sub_nonneg.mp hbuffer⟩⟩, hwindow⟩
    rw [hemployees]
    exact (workspaceReasons_eq_nil_iff hspelled hteam hreading hpeople).mp hworkspace
  · rintro ⟨hmeets, hwindow⟩
    have hpeople : 1 ≤ reading.employeeCount := hemployees ▸ hmeets.people
    obtain ⟨hidle, hcontracts⟩ := hactive.mpr hmeets.free
    obtain ⟨amount', hamount', hreserve⟩ := hmeets.reserve
    cases hamount.symm.trans hamount'
    obtain ⟨days, hdays', hlong⟩ := hmeets.window
    cases hdays.symm.trans hdays'
    have hworkspace := hmeets.workspace
    rw [hemployees] at hworkspace
    exact ⟨⟨hpeople, ⟨hroles.mpr hmeets.roles, hidle,
      (workspaceReasons_eq_nil_iff hspelled hteam hreading hpeople).mpr hworkspace⟩, sub_nonneg.mpr hlong,
      hmeets.reward, hreserve, hwindow⟩, hcontracts⟩

end

/-! ## A trailing space -/

section Example

open Workstation (asciiFold observed gameShowing)

theorem asciiFold_space (s : String) : asciiFold (" " ++ s) = " " ++ asciiFold s := by
  apply String.toList_injective
  have hspace : Char.toLower ' ' = ' ' := by decide
  simp [asciiFold, hspace]

/-- A contract for a designer and an artist. -/
def utility : ObservedEntity where
  entityType := "available_contract"
  entityId := "Acme|Utility Software|0-2026"
  values :=
    [("display_index", .integer 0), ("name", .string "Utility Software"), ("client", .string "Acme"),
      ("software_type", .string "Utility Software"), ("software_category", .string "Business"),
      ("features", .string "Networking|UI"), ("months", .integer 2), ("dev_time", .integer 1),
      ("difficulty", .integer 0), ("art_ratio", .integer 1), ("minimum_progress", .integer 1),
      ("quality_target", .integer 0), ("reward", .integer 12000), ("penalty", .integer 2000),
      ("per_bug_penalty", .integer 100), ("status", .string "Available")]

/-- One employee, in one office, of one team. -/
def studio : GameSnapshot :=
  { gameShowing
      [observed "contract_market" [utility],
        observed "employees" [⟨"employee", "1", [("dismissed", .boolean false), ("role", .string "Designer, Artist"),
          ("team", .string "Core")]⟩],
        observed "finances" [⟨"company_finances", "company", [("cash", .integer 100000)]⟩],
        observed "offices" [⟨"office_room", "room-1", [("assigned_teams", .string "Core"),
          ("valid_workstations", .integer 1)]⟩],
        observed "teams" [⟨"team", "core", [("name", .string "Core"), ("employee_count", .integer 1)]⟩],
        observed "work_items" []] with
    gameState := [("days_per_month", .integer 20)] }

theorem studio_core : (recommendContracts asciiFold studio "Core" 10000 50000 0).toOption.map
    (fun r => r.advice.map (·.2.1)) = some [true] := by decide +kernel

theorem studio_spaced : (recommendContracts asciiFold studio "Core " 10000 50000 0).toOption.map
    (fun r => r.advice.map (·.2.1)) = some [false] := by decide +kernel

theorem studio_recommended : ∃ r, recommendContracts asciiFold studio "Core" 10000 50000 0 = .ok r :=
  Except.exists_ok (by decide +kernel)

end Example

end SimPilot.SoftwareInc.Contracts.Advisor
