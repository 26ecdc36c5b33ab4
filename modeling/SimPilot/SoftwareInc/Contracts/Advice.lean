import SimPilot.SoftwareInc.Contracts.Policy
import Mathlib.Data.List.Sublists
/-!
# What a contract is judged by (software_inc/contracts/policy.py)

What the rows of a complete surface give under a reference, the one reading of the team that
all contracts are judged by, the reasons in which that reading shows (`attributedReasons_eq_iff`),
and the first three of the eligible contracts (`firstThree`).
-/

namespace SimPilot.SoftwareInc.Contracts.Advisor

open GameBridge TextOrder Ranking
open Workstation (listing)

variable {fold : String → String} {snapshot : GameSnapshot} {team : ObservedEntity} {teamName other : String}

/-! ## Rows -/

theorem text_eq_ok {e : ObservedEntity} {field s : String} {empty : Bool} (h : text e field empty = .ok s) :
    textAt e field = s := by
  unfold text at h
  cases hread : textOf e.values field empty with
  | none =>
    rw [hread] at h
    cases h
  | some t =>
    rw [hread] at h
    cases h
    simp only [textOf, Option.bind_eq_bind, Option.bind_eq_some_iff] at hread
    obtain ⟨v, hv, t', ht', hguard⟩ := hread
    obtain ⟨-, -, ht⟩ := hguard
    cases ht
    simp [textAt, stringAt, hv, ht']

theorem integer_eq_ok {e : ObservedEntity} {field : String} {i : Int} (h : integer e field = .ok i) :
    integerAt e.values field = some i := by
  unfold integer at h
  split at h
  · next j hj =>
    cases h
    exact hj
  · cases h

theorem boolean_eq_ok {e : ObservedEntity} {field : String} {b : Bool} (h : boolean e field = .ok b) :
    flagAt e.values field = some b := by
  unfold boolean at h
  split at h
  · next c hc =>
    cases h
    exact hc
  · cases h

/-- A listing by a text, where all the texts can be read. -/
theorem listing_text {es : List ObservedEntity} {field : String} {empty : Bool} {p : ObservedEntity → String → Bool}
    (hread : ∀ e ∈ es, (text e field empty).isOk = true) :
    listing (fun e => do return p e (← text e field empty)) es = .ok (es.filter fun e => p e (textAt e field)) := by
  have hmap : (es.mapM fun e => do
      let b ← (do return p e (← text e field empty) : Except UIError Bool)
      return (e, b)) = .ok (es.map fun e => (e, p e (textAt e field))) := by
    refine Except.mapM_eq_map fun e he => ?_
    obtain ⟨s, hs⟩ := Except.exists_ok (hread e he)
    rw [hs, text_eq_ok hs]
    rfl
  unfold listing
  rw [hmap]
  show Except.ok _ = Except.ok _
  congr 1
  induction es with
  | nil => rfl
  | cons e es ih =>
    have htail := ih (fun x hx => hread x (by simp [hx])) (Except.mapM_eq_map fun x hx => by
      obtain ⟨s, hs⟩ := Except.exists_ok (hread x (by simp [hx]))
      rw [hs, text_eq_ok hs]
      rfl)
    by_cases hp : p e (textAt e field) = true
    · simp [hp] at htail ⊢
      exact htail
    · simp [hp] at htail ⊢
      exact htail

theorem text_isOk_of_listing {es found : List ObservedEntity} {field : String} {empty : Bool}
    {p : ObservedEntity → String → Bool} (h : listing (fun e => do return p e (← text e field empty)) es = .ok found)
    {e : ObservedEntity} (he : e ∈ es) : (text e field empty).isOk = true := by
  obtain ⟨judged, hjudged, -⟩ := Except.bind_eq_ok.mp h
  obtain ⟨y, hy⟩ := Except.exists_of_mapM hjudged he
  obtain ⟨b, hb, -⟩ := Except.bind_eq_ok.mp hy
  obtain ⟨s, hs, -⟩ := Except.bind_eq_ok.mp hb
  rw [hs]
  rfl

theorem requireCompleteSurface_ok {name : String} {surface : ObservationSurface}
    (h : requireCompleteSurface snapshot name = .ok surface) : surfacesNamed snapshot name = [surface] := by
  unfold requireCompleteSurface at h
  split at h
  · next s hs =>
    split_ifs at h
    cases h
    exact hs
  · cases h

theorem entitiesOf_eq {name : String} {surface : ObservationSurface}
    (h : requireCompleteSurface snapshot name = .ok surface) (type : String) :
    entitiesOf snapshot name type = surface.entities.filter (·.entityType = type) := by
  simp [entitiesOf, requireCompleteSurface_ok h]

/-! ## The team -/

/-- A reference resolves to a team that it names. -/
theorem names_of_uniqueNamedTeam (h : uniqueNamedTeam fold snapshot teamName = .ok team) : Names fold team teamName := by
  obtain ⟨surface, -, h⟩ := Except.bind_eq_ok.mp h
  obtain ⟨found, hfound, h⟩ := Except.bind_eq_ok.mp h
  split at h
  · next e =>
    cases h
    have hmem := (Workstation.mem_listing hfound team).mp (by simp)
    obtain ⟨s, hs, heq⟩ := Except.bind_eq_ok.mp hmem.2
    have hnames : decide (normalized fold s = normalized fold teamName) = true := Except.ok.inj heq
    rw [Names, text_eq_ok hs, of_decide_eq_true hnames]
  · cases h

/-- Every reference that names the team resolves to it, when one does. -/
theorem uniqueNamedTeam_of_names (h : uniqueNamedTeam fold snapshot teamName = .ok team) (hother : Names fold team other) :
    uniqueNamedTeam fold snapshot other = .ok team := by
  have hsame : normalized fold other = normalized fold teamName :=
    hother.trans (names_of_uniqueNamedTeam h).symm
  unfold uniqueNamedTeam at h ⊢
  obtain ⟨surface, hsurface, h⟩ := Except.bind_eq_ok.mp h
  obtain ⟨found, hfound, h⟩ := Except.bind_eq_ok.mp h
  rw [hsurface]
  show (listing _ _ >>= _) = _
  rw [hsame, hfound]
  split at h
  · exact h
  · cases h

/-! ## What is read under another reference -/

theorem teamEmployees_eq {found : List ObservedEntity} (h : teamEmployees fold snapshot teamName = .ok found)
    (other : String) :
    teamEmployees fold snapshot other = .ok ((entitiesOf snapshot "employees" "employee").filter fun e =>
      fold (textAt e "team") = fold other && flagAt e.values "dismissed" = some false) := by
  obtain ⟨surface, hsurface, h⟩ := Except.bind_eq_ok.mp h
  unfold teamEmployees
  rw [hsurface, entitiesOf_eq hsurface]
  exact listing_text (p := fun e s => decide (fold s = fold other) && decide (flagAt e.values "dismissed" = some false))
    fun e he => text_isOk_of_listing (p := fun e s => decide (fold s = fold teamName) &&
      decide (flagAt e.values "dismissed" = some false)) h he

/-- What a room counts for under a reference. -/
def countedFor (fold : String → String) (teamName : String) (room : ObservedEntity) : Option Int :=
  if fold teamName ∈ (teamsOf room).map fold then some (validWorkstations room) else none

theorem roomCapacity_ok {room : ObservedEntity} {c : Option Int} (h : roomCapacity fold teamName room = .ok c) :
    (text room "assigned_teams" true).isOk = true ∧ c = countedFor fold teamName room := by
  obtain ⟨s, hs, h⟩ := Except.bind_eq_ok.mp h
  have hteams : teamsOf room = splitParts '|' s := by rw [teamsOf, text_eq_ok hs]
  refine ⟨by rw [hs]; rfl, ?_⟩
  change (if fold teamName ∈ (splitParts '|' s).map fold then _ else _) = _ at h
  rw [countedFor, hteams]
  by_cases hmem : fold teamName ∈ (splitParts '|' s).map fold
  · rw [if_pos hmem] at h ⊢
    obtain ⟨i, hi, h⟩ := Except.bind_eq_ok.mp h
    cases h
    rw [validWorkstations, integer_eq_ok hi]
    rfl
  · rw [if_neg hmem] at h ⊢
    cases h
    rfl

theorem workspaceCapacity_ok {capacity : Option Int} (h : workspaceCapacity fold snapshot teamName = .ok capacity) :
    capacity = (let matched := (entitiesOf snapshot "offices" "office_room").filterMap (countedFor fold teamName)
      if matched = [] then none else some matched.sum) := by
  obtain ⟨surface, hsurface, h⟩ := Except.bind_eq_ok.mp h
  obtain ⟨rooms, hrooms, h⟩ := Except.bind_eq_ok.mp h
  have hmap := Except.map_of_mapM (g := id) (fun x y hxy => (roomCapacity_ok hxy).2) hrooms
  rw [List.map_id] at hmap
  cases h
  rw [entitiesOf_eq hsurface, hmap, List.reduceOption, List.filterMap_map]
  rfl

/-- Under a reference that no office names, nothing is found to be attributed. -/
theorem workspaceCapacity_none {capacity : Option Int} (h : workspaceCapacity fold snapshot teamName = .ok capacity)
    (hnone : ∀ e ∈ entitiesOf snapshot "offices" "office_room", fold other ∉ (teamsOf e).map fold) :
    workspaceCapacity fold snapshot other = .ok none := by
  obtain ⟨surface, hsurface, h⟩ := Except.bind_eq_ok.mp h
  obtain ⟨rooms, hrooms, -⟩ := Except.bind_eq_ok.mp h
  rw [entitiesOf_eq hsurface] at hnone
  have hmap : (surface.entities.filter (·.entityType = "office_room")).mapM (roomCapacity fold other) =
      .ok ((surface.entities.filter (·.entityType = "office_room")).map fun _ => none) := by
    refine Except.mapM_eq_map fun e he => ?_
    obtain ⟨c, hc⟩ := Except.exists_of_mapM hrooms he
    obtain ⟨s, hs⟩ := Except.exists_ok (roomCapacity_ok hc).1
    have hmem := hnone e he
    rw [teamsOf, text_eq_ok hs] at hmem
    unfold roomCapacity
    rw [hs]
    exact if_neg hmem
  unfold workspaceCapacity
  rw [hsurface]
  show ((surface.entities.filter (·.entityType = "office_room")).mapM (roomCapacity fold other) >>= _) = _
  rw [hmap]
  show Except.ok _ = Except.ok _
  simp [List.reduceOption, List.filterMap_map]

/-! ## The work -/

theorem workOf_some {e : ObservedEntity} {w : ContractWorkObservation} (h : workOf e = .ok (some w)) :
    e.entityType = "work_item" ∧ flagAt e.values "is_contract" = some true ∧ w.assignedTeams = teamsOf e ∧
      flagAt e.values "done" = some w.done := by
  unfold workOf at h
  by_cases hskip : e.entityType ≠ "work_item" ∨ flagAt e.values "is_contract" ≠ some true
  · rw [if_pos hskip] at h
    cases h
  · rw [if_neg hskip] at h
    rw [not_or, not_ne_iff, not_ne_iff] at hskip
    simp only [Except.bind_eq_ok] at h
    obtain ⟨_, -, _, -, _, -, _, -, _, -, _, -, _, -, _, -, _, -, _, -, _, -, _, -, _, -, teams, hteams, _, -, _, -,
      done, hdone, _, -, _, -, _, -, _, -, _, -, _, -, _, -, h⟩ := h
    split_ifs at h
    cases h
    refine ⟨hskip.1, hskip.2, ?_, boolean_eq_ok hdone⟩
    show splitParts '|' teams = _
    rw [teamsOf, text_eq_ok hteams]

theorem workOf_none {e : ObservedEntity} (h : workOf e = .ok none) :
    e.entityType ≠ "work_item" ∨ flagAt e.values "is_contract" ≠ some true := by
  unfold workOf at h
  by_contra hskip
  rw [if_neg hskip] at h
  simp only [Except.bind_eq_ok] at h
  obtain ⟨_, -, _, -, _, -, _, -, _, -, _, -, _, -, _, -, _, -, _, -, _, -, _, -, _, -, _, -, _, -, _, -,
    _, -, _, -, _, -, _, -, _, -, _, -, _, -, _, -, h⟩ := h
  split_ifs at h
  cases h

/-- The unfinished contract work that a reference finds. -/
def workFor (fold : String → String) (teamName : String) (work : List ContractWorkObservation) : List String :=
  (work.filter fun item => fold teamName ∈ item.assignedTeams.map fold && !item.done).map (·.contractName)

theorem activeWork_eq {active : List String} (h : activeWork fold snapshot teamName = .ok active) :
    ∃ work, activeContractWork snapshot = .ok work ∧
      ∀ other, activeWork fold snapshot other = .ok (workFor fold other work) := by
  obtain ⟨work, hwork, -⟩ := Except.bind_eq_ok.mp h
  refine ⟨work, hwork, fun other => ?_⟩
  unfold activeWork
  rw [hwork]
  rfl

/-- A reference finds no work when all contract work under its spelling is done. -/
theorem workFor_eq_nil {work : List ContractWorkObservation} (h : activeContractWork snapshot = .ok work) :
    workFor fold teamName work = [] ↔ ∀ e ∈ entitiesOf snapshot "work_items" "work_item",
      flagAt e.values "is_contract" = some true → fold teamName ∈ (teamsOf e).map fold →
        flagAt e.values "done" = some true := by
  obtain ⟨surface, hsurface, h⟩ := Except.bind_eq_ok.mp h
  obtain ⟨found, hfound, h⟩ := Except.bind_eq_ok.mp h
  cases h
  have hmem := Except.mem_mapM hfound
  rw [entitiesOf_eq hsurface, workFor, List.map_eq_nil_iff, List.filter_eq_nil_iff]
  simp only [List.mem_insertionSort, List.mem_filterMap, id_eq, exists_eq_right, Bool.and_eq_true, decide_eq_true_eq,
    Bool.not_eq_true', List.mem_filter]
  constructor
  · rintro hnone e ⟨he, htype⟩ hcontract hnamed
    obtain ⟨y, hy⟩ := Except.exists_of_mapM hfound he
    cases y with
    | none =>
      rcases workOf_none hy with hother | hother
      · exact absurd htype hother
      · exact absurd hcontract hother
    | some w =>
      obtain ⟨-, -, hteams, hdone⟩ := workOf_some hy
      have hw := hnone w ((hmem _).mpr ⟨e, he, hy⟩)
      rw [hteams] at hw
      rw [hdone]
      by_contra hne
      exact hw ⟨hnamed, by simpa using hne⟩
  · rintro hdone w hw ⟨hnamed, hopen⟩
    obtain ⟨e, he, hy⟩ := (hmem _).mp hw
    obtain ⟨htype, hcontract, hteams, hflag⟩ := workOf_some hy
    rw [hteams] at hnamed
    have := hdone e ⟨he, htype⟩ hcontract hnamed
    rw [hflag, hopen] at this
    cases this

/-! ## A reading -/

theorem readTeam_ok {reading : Reading} :
    readTeam fold snapshot teamName = .ok reading ↔
      uniqueNamedTeam fold snapshot teamName = .ok reading.team ∧
        (∃ employees roles, teamEmployees fold snapshot teamName = .ok employees ∧
          employees.mapM (observedRoles fold) = .ok roles ∧ reading.observedRoles = sortedSet roles.flatten) ∧
        activeWork fold snapshot teamName = .ok reading.active ∧
        integer reading.team "employee_count" = .ok reading.employeeCount ∧
        workspaceCapacity fold snapshot teamName = .ok reading.capacity ∧
        daysPerMonth snapshot = .ok reading.daysPerMonth := by
  simp only [readTeam, Except.bind_eq_ok]
  constructor
  · rintro ⟨team, hteam, employees, hemployees, roles, hroles, active, hactive, count, hcount, capacity, hcapacity, days,
      hdays, h⟩
    cases h
    exact ⟨hteam, ⟨employees, roles, hemployees, hroles, rfl⟩, hactive, hcount, hcapacity, hdays⟩
  · rintro ⟨hteam, ⟨employees, roles, hemployees, hroles, heq⟩, hactive, hcount, hcapacity, hdays⟩
    refine ⟨_, hteam, employees, hemployees, roles, hroles, _, hactive, _, hcount, _, hcapacity, _, hdays, ?_⟩
    rw [← heq]
    rfl

variable {contracts : List ContractObservation} {minimumReward minimumCashReserve : ℚ} {now : Timestamp}

theorem assessContract_ok {contract : ContractObservation} {a : ContractCandidate} :
    assessContract fold snapshot contract teamName minimumReward minimumCashReserve = .ok a ↔
      ∃ reading amount, readTeam fold snapshot teamName = .ok reading ∧ cash snapshot = .ok amount ∧
        (assessmentOf fold contract reading).valid = true ∧
        a = candidateOf fold contract reading amount minimumReward minimumCashReserve := by
  unfold assessContract
  rw [Except.bind_eq_ok]
  constructor
  · rintro ⟨reading, hreading, h⟩
    split_ifs at h with hvalid
    obtain ⟨amount, hamount, h⟩ := Except.bind_eq_ok.mp h
    cases h
    exact ⟨reading, amount, hreading, hamount, hvalid, rfl⟩
  · rintro ⟨reading, amount, hreading, hamount, hvalid, rfl⟩
    refine ⟨reading, hreading, ?_⟩
    rw [if_pos hvalid, hamount]
    rfl

/-- All contracts are judged by one reading of the team. -/
theorem judged_alike {candidates : List ContractCandidate} (hne : contracts ≠ []) :
    (contracts.mapM fun contract => assessContract fold snapshot contract teamName minimumReward minimumCashReserve) =
        .ok candidates ↔
      ∃ reading amount, readTeam fold snapshot teamName = .ok reading ∧ cash snapshot = .ok amount ∧
        (∀ contract ∈ contracts, (assessmentOf fold contract reading).valid = true) ∧
        candidates = contracts.map fun contract =>
          candidateOf fold contract reading amount minimumReward minimumCashReserve := by
  constructor
  · intro h
    obtain ⟨first, hfirst⟩ := List.exists_mem_of_ne_nil contracts hne
    obtain ⟨a, ha⟩ := Except.exists_of_mapM h hfirst
    obtain ⟨reading, amount, hreading, hamount, -⟩ := assessContract_ok.mp ha
    have hall : ∀ contract ∈ contracts, (assessmentOf fold contract reading).valid = true := by
      intro contract hcontract
      obtain ⟨b, hb⟩ := Except.exists_of_mapM h hcontract
      obtain ⟨reading', -, hreading', -, hvalid, -⟩ := assessContract_ok.mp hb
      cases hreading.symm.trans hreading'
      exact hvalid
    refine ⟨reading, amount, hreading, hamount, hall, Except.ok.inj (h.symm.trans (Except.mapM_eq_map ?_))⟩
    intro contract hcontract
    exact assessContract_ok.mpr ⟨reading, amount, hreading, hamount, hall contract hcontract, rfl⟩
  · rintro ⟨reading, amount, hreading, hamount, hvalid, rfl⟩
    exact Except.mapM_eq_map fun contract hcontract =>
      assessContract_ok.mpr ⟨reading, amount, hreading, hamount, hvalid contract hcontract, rfl⟩

theorem mem_eligibleOf {candidates : List ContractCandidate} {a : ContractCandidate} :
    a ∈ eligibleOf candidates ↔ a ∈ candidates ∧ a.eligible = true := by
  simp [eligibleOf]

/-- Of the fields of a recommendation only the sequence may be out of range. -/
theorem valid_recommendationOf {candidates : List ContractCandidate} :
    (recommendationOf snapshot candidates teamName minimumReward minimumCashReserve now).valid = true ↔
      1 ≤ snapshot.bridgeSequence := by
  have hhead : (eligibleOf candidates).head?.all (·.eligible) = true := by
    rw [Option.all_eq_true]
    intro a ha
    exact (mem_eligibleOf.mp (List.mem_of_mem_head? ha)).2
  have hlength : (((eligibleOf candidates).drop 1).take 2).length ≤ 2 := List.length_take_le ..
  simp [ContractRecommendation.valid, recommendationOf, hhead, recommendationTtl]

theorem recommendContracts_ok {r : ContractRecommendation} :
    recommendContracts fold snapshot teamName minimumReward minimumCashReserve now = .ok r ↔
      (0 ≤ minimumReward ∧ 0 ≤ minimumCashReserve) ∧ 1 ≤ snapshot.bridgeSequence ∧
        ∃ contracts candidates, availableContracts snapshot = .ok contracts ∧
          (contracts.mapM fun contract =>
            assessContract fold snapshot contract teamName minimumReward minimumCashReserve) = .ok candidates ∧
          r = recommendationOf snapshot candidates teamName minimumReward minimumCashReserve now := by
  unfold recommendContracts
  by_cases hneg : minimumReward < 0 ∨ minimumCashReserve < 0
  · rw [if_pos hneg]
    constructor
    · intro h
      cases h
    · rintro ⟨hpos, -⟩
      rcases hneg with hneg | hneg
      · exact absurd hpos.1 (not_le.mpr hneg)
      · exact absurd hpos.2 (not_le.mpr hneg)
  · rw [if_neg hneg]
    rw [not_or, not_lt, not_lt] at hneg
    simp only [Except.bind_eq_ok]
    constructor
    · rintro ⟨contracts, hcontracts, candidates, hcandidates, h⟩
      split_ifs at h with hvalid
      cases h
      exact ⟨hneg, valid_recommendationOf.mp hvalid, contracts, candidates, hcontracts, hcandidates, rfl⟩
    · rintro ⟨-, hsequence, contracts, candidates, hcontracts, hcandidates, rfl⟩
      refine ⟨contracts, hcontracts, candidates, hcandidates, ?_⟩
      rw [if_pos (valid_recommendationOf.mpr hsequence)]
      rfl

/-! ## Reasons -/

theorem reasonIf_neg {p : Prop} [Decidable p] {reason : String} (h : ¬ p) : reasonIf p reason = [] := if_neg h

theorem reasonIf_pos {p : Prop} [Decidable p] {reason : String} (h : p) : reasonIf p reason = [reason] := if_pos h

@[simp] theorem reasonIf_eq_nil {p : Prop} [Decidable p] {reason : String} : reasonIf p reason = [] ↔ ¬ p := by
  unfold reasonIf
  split_ifs with h <;> simp [h]

/-- The roles are listed in one text, from which they can be told. -/
theorem rolesMissing_inj {contract : ContractObservation} {observed : List String}
    (h : rolesMissing (missingRoles fold contract observed) = rolesMissing (requiredRoles contract)) :
    missingRoles fold contract observed = requiredRoles contract := by
  have hcases : ∀ required ∈ [["Designer"], ["Designer", "Programmer"], ["Designer", "Artist"],
      ["Designer", "Programmer", "Artist"]], ∀ some ∈ required.sublists,
      rolesMissing some = rolesMissing required → some = required := by decide +kernel
  refine hcases _ ?_ _ (List.mem_sublists.mpr List.filter_sublist) h
  unfold requiredRoles
  split_ifs <;> simp

theorem head_toString (i : Int) : ∃ c cs, (toString i).toList = c :: cs ∧ (c = '-' ∨ c.isDigit = true) := by
  have hnat : ∀ n : Nat, ∃ c cs, (toString n).toList = c :: cs ∧ c.isDigit = true := by
    intro n
    have hdigits : (toString n).toList = Nat.toDigits 10 n := by simp
    cases hcs : Nat.toDigits 10 n with
    | nil => exact absurd hcs Nat.toDigits_ne_nil
    | cons c cs =>
      have hmem : c ∈ Nat.toDigits 10 n := by simp [hcs]
      exact ⟨c, cs, by rw [hdigits, hcs], Nat.isDigit_of_mem_toDigits (by decide) (by decide) hmem⟩
  cases i with
  | ofNat n =>
    obtain ⟨c, cs, hcs, hc⟩ := hnat n
    exact ⟨c, cs, hcs, .inr hc⟩
  | negSucc n =>
    obtain ⟨c, cs, hcs, -⟩ := hnat (n + 1)
    refine ⟨'-', (toString (n + 1)).toList, ?_, .inl rfl⟩
    show ("-" ++ toString (n + 1)).toList = _
    simp

theorem head_append {s t : String} {c : Char} (h : s.toList.head? = some c) : (s ++ t).toList.head? = some c := by
  simp [String.toList_append, List.head?_append, h]

theorem head_workDisplaced (active : List String) : (workDisplaced active).toList.head? = some 'h' := head_append rfl

theorem head_rolesMissing (missing : List String) : (rolesMissing missing).toList.head? = some 'm' := head_append rfl

theorem notAttributable_eq :
    notAttributable = "workspace capacity " ++ "is not completely attributable to the team" := by
  simp [notAttributable]

theorem append_cancel {p x y z w : String} (h : p ++ x ++ y ++ z = p ++ w) : x ++ (y ++ z) = w := by
  rw [String.append_assoc, String.append_assoc] at h
  exact (String.append_right_inj p).mp h

theorem head_notAttributable : "is not completely attributable to the team".toList.head? = some 'i' := rfl

theorem capacityBelow_ne (c n : Int) : capacityBelow c n ≠ notAttributable := by
  intro h
  obtain ⟨d, ds, hd, hkind⟩ := head_toString c
  have hrest : toString c ++ (" is below employee count " ++ toString n) =
      "is not completely attributable to the team" := append_cancel (h.trans notAttributable_eq)
  have hfirst : (toString c).toList.head? = some d := by rw [hd, List.head?_cons]
  have hhead : some d = some 'i' :=
    (head_append hfirst).symm.trans ((congrArg (fun s => s.toList.head?) hrest).trans head_notAttributable)
  obtain rfl := Option.some.inj hhead
  revert hkind
  decide

theorem workDisplaced_ne_rolesMissing (active missing : List String) : workDisplaced active ≠ rolesMissing missing := by
  intro h
  have hhead := head_workDisplaced active
  rw [h, head_rolesMissing] at hhead
  simp at hhead

theorem workDisplaced_ne_notAttributable (active : List String) : workDisplaced active ≠ notAttributable := by
  intro h
  have hhead := head_workDisplaced active
  rw [h] at hhead
  simp [notAttributable] at hhead

/-- The reasons of a contract for a team to which nothing is attributed. -/
def unattributedReasons (contract : ContractObservation) : List String :=
  [rolesMissing (requiredRoles contract), notAttributable]

theorem requiredRoles_ne_nil (contract : ContractObservation) : requiredRoles contract ≠ [] := by
  simp [requiredRoles]

/-- From the reasons it shows whether anything is attributed to the team. -/
theorem attributedReasons_eq_iff {contract : ContractObservation} {reading : Reading} :
    attributedReasons fold contract reading = unattributedReasons contract ↔
      missingRoles fold contract reading.observedRoles = requiredRoles contract ∧ reading.active = [] ∧
        reading.capacity = none := by
  constructor
  · intro h
    unfold attributedReasons unattributedReasons at h
    by_cases hmissing : missingRoles fold contract reading.observedRoles = []
    · rw [reasonIf_neg (not_not.mpr hmissing), List.nil_append] at h
      by_cases hactive : reading.active = []
      · rw [reasonIf_neg (not_not.mpr hactive), List.nil_append] at h
        have hlength := congrArg List.length h
        cases hcapacity : reading.capacity with
        | none => simp [hcapacity, workspaceReasons] at hlength
        | some c =>
          rw [hcapacity] at hlength
          dsimp only [workspaceReasons, reasonIf] at hlength
          split_ifs at hlength
          simp at hlength
      · rw [reasonIf_pos hactive, List.singleton_append] at h
        exact absurd (List.cons.inj h).1 (workDisplaced_ne_rolesMissing _ _)
    · rw [reasonIf_pos hmissing, List.append_assoc, List.singleton_append] at h
      obtain ⟨hroles, hrest⟩ := List.cons.inj h
      refine ⟨rolesMissing_inj hroles, ?_⟩
      by_cases hactive : reading.active = []
      · rw [reasonIf_neg (not_not.mpr hactive), List.nil_append] at hrest
        refine ⟨hactive, ?_⟩
        cases hcapacity : reading.capacity with
        | none => rfl
        | some c =>
          rw [hcapacity] at hrest
          dsimp only [workspaceReasons, reasonIf] at hrest
          split_ifs at hrest
          · exact absurd (List.cons.inj hrest).1 (capacityBelow_ne _ _)
      · rw [reasonIf_pos hactive, List.singleton_append] at hrest
        exact absurd (List.cons.inj hrest).1 (workDisplaced_ne_notAttributable _)
  · rintro ⟨hmissing, hactive, hcapacity⟩
    unfold attributedReasons unattributedReasons
    simp only [hmissing, hactive, hcapacity]
    rw [reasonIf_pos (requiredRoles_ne_nil contract), reasonIf_neg (by simp)]
    rfl

theorem missingRoles_eq_iff {contract : ContractObservation} {observed : List String} :
    missingRoles fold contract observed = requiredRoles contract ↔
      ∀ role ∈ requiredRoles contract, fold role ∉ observed.map fold := by
  rw [missingRoles, List.filter_eq_self]
  simp

/-! ## Candidates -/

/-- What a contract is told to be under a reading. -/
def judgement (fold : String → String) (reading : Reading) (amount minimumReward minimumCashReserve : ℚ)
    (contract : ContractObservation) : ContractObservation × Bool × List String :=
  let a := candidateOf fold contract reading amount minimumReward minimumCashReserve
  (a.contract, a.eligible, a.reasons)

theorem advice_recommendationOf {reading : Reading} {amount : ℚ} :
    (recommendationOf snapshot (contracts.map fun contract =>
      candidateOf fold contract reading amount minimumReward minimumCashReserve) teamName minimumReward
        minimumCashReserve now).advice =
      contracts.map (judgement fold reading amount minimumReward minimumCashReserve) := by
  rw [ContractRecommendation.advice, ContractRecommendation.candidates, recommendationOf, List.map_map]
  rfl

/-- Two readings that differ in what is attributed alone give one judgement when their
attributed reasons agree. -/
theorem judgement_eq_iff {reading reading' : Reading} {amount : ℚ} {contract : ContractObservation}
    (hcount : reading'.employeeCount = reading.employeeCount) (hdays : reading'.daysPerMonth = reading.daysPerMonth) :
    judgement fold reading' amount minimumReward minimumCashReserve contract =
        judgement fold reading amount minimumReward minimumCashReserve contract ↔
      attributedReasons fold contract reading' = attributedReasons fold contract reading := by
  have hreasons : ∀ x : Reading,
      (judgement fold x amount minimumReward minimumCashReserve contract).2.2 =
        teamReasons fold contract x ++ contractReasons contract amount minimumReward minimumCashReserve := fun _ => rfl
  constructor
  · intro h
    have hsame := congrArg (fun j => j.2.2) h
    rw [hreasons, hreasons, List.append_cancel_right_eq, teamReasons, teamReasons, hcount, hdays,
      List.append_cancel_right_eq, List.append_cancel_left_eq] at hsame
    exact hsame
  · intro h
    have hsame : teamReasons fold contract reading' = teamReasons fold contract reading := by
      rw [teamReasons, teamReasons, h, hcount, hdays]
    unfold judgement candidateOf
    simp only [hsame]

theorem valid_assessmentOf {reading : Reading} {contract : ContractObservation} :
    (assessmentOf fold contract reading).valid = true ↔ 0 ≤ reading.employeeCount ∧
      (∀ capacity ∈ reading.capacity, 0 ≤ capacity) ∧
      0 ≤ conservativeRequiredDays contract reading.daysPerMonth := by
  simp only [TeamContractAssessment.valid, assessmentOf, Bool.and_eq_true, Option.all_eq_true]
  constructor
  · rintro ⟨⟨⟨hcount, hcapacity⟩, -⟩, hdays⟩
    exact ⟨of_decide_eq_true hcount, fun c hc => of_decide_eq_true (hcapacity c hc), of_decide_eq_true hdays⟩
  · rintro ⟨hcount, hcapacity, hdays⟩
    exact ⟨⟨⟨decide_eq_true hcount, fun c hc => decide_eq_true (hcapacity c hc)⟩, decide_eq_true hcount⟩,
      decide_eq_true hdays⟩

theorem eligible_candidateOf {reading : Reading} {amount : ℚ} {contract : ContractObservation} :
    (candidateOf fold contract reading amount minimumReward minimumCashReserve).eligible = true ↔
      1 ≤ reading.employeeCount ∧ attributedReasons fold contract reading = [] ∧
        0 ≤ deadlineBuffer contract reading.daysPerMonth ∧ minimumReward ≤ contract.reward ∧
        minimumCashReserve ≤ amount - contract.penalty ∧ 0 < contract.daysRemaining := by
  simp only [candidateOf, teamReasons, contractReasons, decide_eq_true_eq, List.append_eq_nil_iff, reasonIf_eq_nil,
    not_lt, not_le]
  constructor
  · rintro ⟨⟨⟨hcount, hattributed⟩, hbuffer⟩, ⟨hreward, hreserve⟩, hwindow⟩
    exact ⟨by omega, hattributed, hbuffer, hreward, hreserve, hwindow⟩
  · rintro ⟨hcount, hattributed, hbuffer, hreward, hreserve, hwindow⟩
    exact ⟨⟨⟨by omega, hattributed⟩, hbuffer⟩, ⟨hreward, hreserve⟩, hwindow⟩

/-! ## The first three -/

theorem rank_lt_iff {a b : ContractCandidate} : a.rank < b.rank ↔ Before a b := by
  simp only [ContractCandidate.rank, Prod.Lex.toLex_lt_toLex, neg_lt_neg_iff, neg_inj, Before]

/-- The listed candidates are the first of the eligible ones, whose identities differ. -/
theorem firstThree {candidates : List ContractCandidate} (hids : (candidates.map (·.contract.contractId)).Nodup) :
    FirstThree candidates
      (recommendationOf snapshot candidates teamName minimumReward minimumCashReserve now).listed := by
  have hlisted : (recommendationOf snapshot candidates teamName minimumReward minimumCashReserve now).listed =
      (eligibleOf candidates).take 3 := by
    show (eligibleOf candidates).head?.toList ++ ((eligibleOf candidates).drop 1).take 2 = _
    cases eligibleOf candidates with
    | nil => rfl
    | cons a as => rfl
  have hkeys : ((candidates.filter (·.eligible)).map ContractCandidate.rank).Nodup := by
    refine List.Nodup.of_map (fun k => (ofLex (ofLex (ofLex k).2).2).2) ?_
    rw [List.map_map]
    exact hids.sublist (List.filter_sublist.map _)
  rw [hlisted]
  constructor
  · intro a ha
    exact mem_eligibleOf.mp (List.mem_of_mem_take ha)
  · rw [List.length_take, eligibleOf, length_ranked]
  · exact (pairwise_take _ hkeys 3).imp fun h => rank_lt_iff.mp h
  · intro a ha heligible hout b hb
    refine rank_lt_iff.mp (lt_of_not_mem_take _ hkeys ?_ hout hb)
    exact List.mem_filter.mpr ⟨ha, heligible⟩

end SimPilot.SoftwareInc.Contracts.Advisor
