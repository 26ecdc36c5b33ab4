import SimPilot.SoftwareInc.Guidance.Answers
import SimPilot.SoftwareInc.Workstation.Catalog
/-!
# Whether guidance answers for all teams and all employees

With complete surfaces the answers count, list and sum what the view kept of them. They speak of the
whole surfaces exactly when no entity was dropped and the sum of the salaries lost no cent.
-/

namespace SimPilot.SoftwareInc.Guidance
open GameBridge Contracts

/-- The data is said to be insufficient. -/
def Insufficient (response : QuestionResponse) : Prop :=
  response.status = .insufficientData ∧ ∃ message, response.answer = "Insufficient data: " ++ message

/-- The identity and the name of every team of the surface, in some order. -/
def ListsAll (listed : List TeamSummary) (entities : List ObservedEntity) : Prop :=
  (listed.map fun t => (t.teamId, some t.name)).Perm (entities.map fun e => (e.entityId, stringAt e.values "name"))

/-- The salaries of the entities that have one. -/
def salaries (entities : List ObservedEntity) : List ℚ := entities.filterMap fun e => decimal e.values "salary"

section
variable (fold : String → String) (elsewhere : Topic → String → GuidanceContext → Except UIError QuestionResponse)

/-- What is said of the teams, the employees and the payroll is said of all there are. -/
structure SpeaksForAll (teams employees : List ObservedEntity) (context : GuidanceContext) : Prop where
  teamCount : ∀ question response, topicOf fold question = .teamCount →
    answer fold elsewhere question context = .ok response →
    response.answer = teamCountText teams.length ∨ Insufficient response
  teamList : ∀ question response, topicOf fold question = .teamList →
    answer fold elsewhere question context = .ok response →
    (∃ listed, ListsAll listed teams ∧ response.answer = teamListText listed) ∨ Insufficient response
  employeeCount : ∀ question response, topicOf fold question = .employeeCount →
    answer fold elsewhere question context = .ok response →
    response.answer = employeeCountText employees.length ∨ Insufficient response
  membership : ∀ question response, topicOf fold question = .membership →
    answer fold elsewhere question context = .ok response →
    (∃ listed members, ListsAll listed teams ∧ response.answer = membershipText listed members) ∨
      Insufficient response
  payroll : ∀ question response, topicOf fold question = .payroll →
    answer fold elsewhere question context = .ok response →
    response.answer = payrollText (money (salaries employees).sum) ∨ Insufficient response
  financialHealth : ∀ question response, topicOf fold question = .financialHealth →
    answer fold elsewhere question context = .ok response →
    (∃ cash amount, response.answer = financialText cash amount ∧
      (amount = money (salaries employees).sum ∨ amount = "unavailable")) ∨ Insufficient response
  status : ∀ response, Guidance.status context = .ok response →
    (∃ company paused cash, response.answer =
      statusText company paused cash (toString teams.length) (toString employees.length)) ∨ Insufficient response

end

/-- No entity is dropped, and no cent of salaries whose total can be told. -/
structure KeepsAll (teamEntities employeeEntities : List ObservedEntity) : Prop where
  teams : ∀ e ∈ teamEntities, ReadableTeam e
  employees : ∀ e ∈ employeeEntities, ReadableEmployee e
  cents : ∀ total, sumDecimal (salaries employeeEntities) = .ok total →
    (payrollText (money total)).length ≤ 4096 → money total = money (salaries employeeEntities).sum

/-! ## What the view keeps -/

section
variable {fold digest : String → String} {snapshot : GameSnapshot} {view : StateView}

theorem projectState_ok (h : projectState fold digest snapshot = .ok view)
    (hteams : completes (surfaceNamed snapshot "teams") = true)
    (hemployees : completes (surfaceNamed snapshot "employees") = true) :
    ∃ teams employees, (entitiesOf (surfaceNamed snapshot "teams")).mapM teamSummary = .ok teams ∧
      (entitiesOf (surfaceNamed snapshot "employees")).mapM employeeSummary = .ok employees ∧
      payroll true employees.reduceOption (entitiesOf (surfaceNamed snapshot "employees")) = .ok view.recurringPayroll ∧
      view.teamsComplete = true ∧ view.employeesComplete = true ∧
      view.teams.Perm teams.reduceOption ∧ view.employees.Perm employees.reduceOption ∧
      ∃ identity, view.snapshotId = "snapshot:" ++ digest identity := by
  simp only [projectState, hteams, hemployees, ↓reduceIte] at h
  obtain ⟨teams, hts, h⟩ := Except.bind_eq_ok.mp h
  obtain ⟨employees, hes, h⟩ := Except.bind_eq_ok.mp h
  obtain ⟨total, htotal, h⟩ := Except.bind_eq_ok.mp h
  obtain ⟨paused, -, h⟩ := Except.bind_eq_ok.mp h
  cases h
  exact ⟨teams, employees, hts, hes, htotal, rfl, rfl, List.perm_insertionSort _ _, List.perm_insertionSort _ _,
    _, rfl⟩

/-- All teams are kept when each can be read, and then in the order of their names. -/
theorem teams_kept {entities : List ObservedEntity} {teams : List (Option TeamSummary)}
    (h : entities.mapM teamSummary = .ok teams) :
    (teams.reduceOption.length = entities.length ↔ ∀ e ∈ entities, ReadableTeam e) ∧
      ((∀ e ∈ entities, ReadableTeam e) → ListsAll teams.reduceOption entities) := by
  refine ⟨Except.length_reduceOption_mapM h fun e _ t ht => teamSummary_isSome ht, fun hall => ?_⟩
  have hkept : teams.reduceOption.map (fun t => (t.teamId, some t.name)) =
      entities.filterMap fun e => some (e.entityId, stringAt e.values "name") := by
    refine Except.map_reduceOption_mapM h fun e he t ht => ?_
    obtain ⟨s, rfl⟩ := Option.isSome_iff_exists.mp ((teamSummary_isSome ht).mpr (hall e he))
    obtain ⟨hid, hname⟩ := teamSummary_some ht
    rw [Option.map_some, hid, hname]
  rw [List.filterMap_eq_map'] at hkept
  exact List.Perm.of_eq hkept

theorem employees_kept {entities : List ObservedEntity} {employees : List (Option EmployeeSummary)}
    (h : entities.mapM employeeSummary = .ok employees) :
    (employees.reduceOption.length = entities.length ↔ ∀ e ∈ entities, ReadableEmployee e) ∧
      ((∀ e ∈ entities, ReadableEmployee e) →
        employees.reduceOption.map (·.monthlySalary) = salaries entities) := by
  refine ⟨Except.length_reduceOption_mapM h fun e _ t ht => employeeSummary_isSome ht, fun hall => ?_⟩
  refine Except.map_reduceOption_mapM h fun e he t ht => ?_
  obtain ⟨s, rfl⟩ := Option.isSome_iff_exists.mp ((employeeSummary_isSome ht).mpr (hall e he))
  exact (employeeSummary_some ht).symm

/-! ## What is answered of it -/

theorem respond_ok {r s : QuestionResponse} (h : respond r = .ok s) : s = r := by
  unfold respond at h
  split_ifs at h
  cases h
  rfl

theorem respond_valid {r s : QuestionResponse} (h : respond r = .ok s) :
    r.valid = true ∧ ∀ e ∈ r.evidence, e.valid = true := by
  unfold respond at h
  split_ifs at h with hvalid
  obtain ⟨hevidence, hr⟩ := Bool.and_eq_true_iff.mp hvalid
  exact ⟨hr, List.all_eq_true.mp hevidence⟩

theorem answer_le_of_valid {r : QuestionResponse} (h : r.valid = true) : r.answer.length ≤ 4096 := by
  simp only [QuestionResponse.valid, sized, Bool.and_eq_true, decide_eq_true_eq] at h
  exact h.1.1.2.2

theorem observedValue_le_of_valid {e : EvidenceReference} (h : e.valid = true) {value : String}
    (hvalue : e.observedValue = some value) : value.length ≤ 512 := by
  simp only [EvidenceReference.valid, hvalue, sized, Option.all_some, Bool.and_eq_true, decide_eq_true_eq] at h
  exact h.2.2

theorem insufficient_of_unavailable {question message : String} {context : GuidanceContext} {r : QuestionResponse}
    (h : unavailable question context message = .ok r) : Insufficient r := by
  rw [respond_ok h]
  exact ⟨rfl, message, rfl⟩

end

section
variable {fold digest : String → String} {snapshot : GameSnapshot} {view : StateView}
  {elsewhere : Topic → String → GuidanceContext → Except UIError QuestionResponse}
  {error : Option String}

theorem answer_financialHealth {question : String} {cash : ℚ} {r : QuestionResponse} (hcash : view.cash = some cash)
    (h : financialHealthAnswer question ⟨some view, error⟩ = .ok r) :
    r.answer = financialText (money cash) ((view.recurringPayroll.map money).getD "unavailable") := by
  simp only [financialHealthAnswer, Option.bind_some, hcash, Option.map_some] at h
  rw [respond_ok h]

theorem money_le_of_financialHealth {question : String} {cash total : ℚ} {r : QuestionResponse}
    (hcash : view.cash = some cash) (htotal : view.recurringPayroll = some total)
    (h : financialHealthAnswer question ⟨some view, error⟩ = .ok r) : (money total).length ≤ 512 := by
  simp only [financialHealthAnswer, Option.bind_some, hcash, htotal, Option.map_some, Option.getD_some] at h
  obtain ⟨-, hevidence⟩ := respond_valid h
  have hvalid : (stateEvidence view "employees.salary" (money total)).valid = true :=
    hevidence _ (List.mem_cons_of_mem _ List.mem_cons_self)
  exact observedValue_le_of_valid hvalid rfl

theorem length_payrollText (amount : String) : (payrollText amount).length = amount.length + 50 := by
  have hprefix : "Observed recurring employee payroll is ".length = 39 := String.length_ofList
  have hsuffix : " per month.".length = 11 := String.length_ofList
  have hlength : (payrollText amount).length =
      "Observed recurring employee payroll is ".length + amount.length + " per month.".length := by
    unfold payrollText
    simp only [String.length_append]
  generalize (payrollText amount).length = n at *
  omega

theorem payrollText_le {amount : String} (h : amount.length ≤ 512) : (payrollText amount).length ≤ 4096 := by
  have hlength := length_payrollText amount
  generalize (payrollText amount).length = n at *
  omega

/-- A view that keeps all speaks for all. -/
theorem speaksForAll_of_keepsAll (h : projectState fold digest snapshot = .ok view)
    (hteams : completes (surfaceNamed snapshot "teams") = true)
    (hemployees : completes (surfaceNamed snapshot "employees") = true)
    (hall : KeepsAll (entitiesOf (surfaceNamed snapshot "teams")) (entitiesOf (surfaceNamed snapshot "employees"))) :
    SpeaksForAll fold elsewhere (entitiesOf (surfaceNamed snapshot "teams"))
      (entitiesOf (surfaceNamed snapshot "employees")) ⟨some view, error⟩ := by
  obtain ⟨teams, employees, hts, hes, htotal, htc, hec, hteamsPerm, hemployeesPerm, -⟩ :=
    projectState_ok h hteams hemployees
  obtain ⟨htlength, htlisted⟩ := teams_kept hts
  obtain ⟨helength, hesalaries⟩ := employees_kept hes
  have hteamCount := hteamsPerm.length_eq.trans (htlength.mpr hall.teams)
  have hemployeeCount := hemployeesPerm.length_eq.trans (helength.mpr hall.employees)
  have hlisted : ListsAll view.teams (entitiesOf (surfaceNamed snapshot "teams")) :=
    (hteamsPerm.map _).trans (htlisted hall.teams)
  have hpayroll : ∀ total, view.recurringPayroll = some total → (payrollText (money total)).length ≤ 4096 →
      money total = money (salaries (entitiesOf (surfaceNamed snapshot "employees"))).sum := by
    intro total hsome hfits
    obtain ⟨total', hsome', hsum⟩ := payroll_ok (helength.mpr hall.employees) htotal
    cases hsome.symm.trans hsome'
    rw [hesalaries hall.employees] at hsum
    exact hall.cents total hsum hfits
  constructor
  · intro question r htopic hr
    simp only [answer, htopic, teamCountAnswer, Option.filter, htc, ↓reduceIte] at hr
    rw [respond_ok hr, hteamCount]
    exact .inl rfl
  · intro question r htopic hr
    simp only [answer, htopic, teamListAnswer, Option.filter, htc, ↓reduceIte] at hr
    rw [respond_ok hr]
    exact .inl ⟨_, hlisted, rfl⟩
  · intro question r htopic hr
    simp only [answer, htopic, employeeCountAnswer, Option.filter, hec, ↓reduceIte] at hr
    rw [respond_ok hr, hemployeeCount]
    exact .inl rfl
  · intro question r htopic hr
    simp only [answer, htopic, membershipAnswer, Option.filter, htc, hec, Bool.and_self, ↓reduceIte] at hr
    rw [respond_ok hr]
    exact .inl ⟨_, _, hlisted, rfl⟩
  · intro question r htopic hr
    simp only [answer, htopic, payrollAnswer, Option.bind_some] at hr
    cases hsome : view.recurringPayroll with
    | none =>
      rw [hsome] at hr
      exact .inr (insufficient_of_unavailable hr)
    | some total =>
      rw [hsome] at hr
      have hvalid := (respond_valid hr).1
      have hshort := answer_le_of_valid hvalid
      rw [respond_ok hr, ← hpayroll total hsome hshort]
      exact .inl rfl
  · intro question r htopic hr
    simp only [answer, htopic] at hr
    cases hcash : view.cash with
    | none =>
      simp only [financialHealthAnswer, Option.bind_some, hcash, Option.map_none] at hr
      exact .inr (insufficient_of_unavailable hr)
    | some cash =>
      rw [answer_financialHealth hcash hr]
      refine .inl ⟨_, _, rfl, ?_⟩
      cases hsome : view.recurringPayroll with
      | none => exact .inr rfl
      | some total =>
        have hshort := money_le_of_financialHealth hcash hsome hr
        exact .inl (hpayroll total hsome (payrollText_le hshort))
  · intro r hr
    simp only [status, htc, hec, ↓reduceIte] at hr
    rw [respond_ok hr, hteamCount, hemployeeCount]
    exact .inl ⟨_, _, _, rfl⟩

/-! ## What speaks for all keeps all -/

theorem countText_inj {kind : String} {m n : Nat} (h : countText kind m = countText kind n) : m = n := by
  have hlist := congrArg String.toList h
  simp only [countText, String.toList_append, List.append_assoc, List.append_cancel_left_eq] at hlist
  exact Digits.toString_append_inj (by decide) hlist

theorem payrollText_inj {a b : String} (h : payrollText a = payrollText b) : a = b :=
  (String.append_right_inj _).mp ((String.append_left_inj _).mp h)

theorem not_insufficient {r : QuestionResponse} (h : r.status = .answered) : ¬ Insufficient r := by
  rintro ⟨hstatus, -⟩
  cases h.symm.trans hstatus

theorem respond_of_valid {r : QuestionResponse} (hevidence : ∀ e ∈ r.evidence, e.valid = true) (h : r.valid = true) :
    respond r = .ok r := by
  rw [respond, List.all_eq_true.mpr hevidence, h]
  rfl

theorem stateEvidence_valid {field value : String} (hid : view.snapshotId.length = 29) (hfield : 1 ≤ field.length)
    (hshort : field.length ≤ 100) (hvalue : value.length ≤ 512) : (stateEvidence view field value).valid = true := by
  have hcolon : ":".length = 1 := String.length_ofList
  have hobserved : "Observed ".length = 9 := String.length_ofList
  simp only [EvidenceReference.valid, stateEvidence, sized, Option.all_some, String.length_append, hid, hcolon,
    hobserved, Bool.and_eq_true, decide_eq_true_eq]
  omega

theorem countText_sized {kind : String} {n : Nat} (hkind : kind.length ≤ 100) (hn : n < 2 ^ 63) :
    sized 1 4096 (countText kind n) = true := by
  have hdigits := Digits.length_toString_le (by decide : 0 < 19) (lt_trans hn (by norm_num))
  have hplural : (plural n).length ≤ 1 := by unfold plural; split_ifs <;> decide
  have hfront : "You have ".length = 9 := String.length_ofList
  have hobserved : " observed ".length = 10 := String.length_ofList
  have hend : ".".length = 1 := String.length_ofList
  simp only [sized, countText, String.length_append, hfront, hobserved, hend, Bool.and_eq_true, decide_eq_true_eq]
  omega

theorem teamCountAnswer_ok (error : Option String) (hid : view.snapshotId.length = 29)
    (hcomplete : view.teamsComplete = true)
    (hsize : view.teams.length < 2 ^ 63) : ∃ r, teamCountAnswer "how many teams" ⟨some view, error⟩ = .ok r ∧
      r.status = .answered ∧ r.answer = teamCountText view.teams.length := by
  simp only [teamCountAnswer, Option.filter, hcomplete, ↓reduceIte]
  refine ⟨_, respond_of_valid ?_ ?_, rfl, rfl⟩
  · rw [List.forall_mem_singleton]
    have hdigits := Digits.length_toString_le (by decide : 0 < 19) (lt_trans hsize (by norm_num))
    exact stateEvidence_valid hid (by decide) (by decide) (by omega)
  · have hsized : sized 1 4096 (teamCountText view.teams.length) = true := countText_sized (by decide) hsize
    simp only [QuestionResponse.valid, hsized, Option.all_none, Option.all_some, Bool.and_true]
    decide

theorem employeeCountAnswer_ok (error : Option String) (hid : view.snapshotId.length = 29)
    (hcomplete : view.employeesComplete = true)
    (hsize : view.employees.length < 2 ^ 63) :
    ∃ r, employeeCountAnswer "how many employees" ⟨some view, error⟩ = .ok r ∧
      r.status = .answered ∧ r.answer = employeeCountText view.employees.length := by
  simp only [employeeCountAnswer, Option.filter, hcomplete, ↓reduceIte]
  refine ⟨_, respond_of_valid ?_ ?_, rfl, rfl⟩
  · rw [List.forall_mem_singleton]
    have hdigits := Digits.length_toString_le (by decide : 0 < 19) (lt_trans hsize (by norm_num))
    exact stateEvidence_valid hid (by decide) (by decide) (by omega)
  · have hsized : sized 1 4096 (employeeCountText view.employees.length) = true :=
      countText_sized (by decide) hsize
    simp only [QuestionResponse.valid, hsized, Option.all_none, Option.all_some, Bool.and_true]
    decide

theorem payrollAnswer_ok (error : Option String) {total : ℚ} (hid : view.snapshotId.length = 29)
    (htotal : view.recurringPayroll = some total)
    (hfits : (payrollText (money total)).length ≤ 4096) :
    ∃ r, payrollAnswer "recurring payroll" ⟨some view, error⟩ = .ok r ∧
      r.status = .answered ∧ r.answer = payrollText (money total) := by
  simp only [payrollAnswer, Option.bind_some, htotal, Option.map_some]
  refine ⟨_, respond_of_valid ?_ ?_, rfl, rfl⟩
  · rw [List.forall_mem_singleton]
    exact stateEvidence_valid hid (by decide) (by decide) (by decide)
  · have hsized : sized 1 4096 (payrollText (money total)) = true := by
      have hlength := length_payrollText (money total)
      refine Bool.and_eq_true_iff.mpr ⟨decide_eq_true ?_, decide_eq_true hfits⟩
      generalize (payrollText (money total)).length = n at *
      omega
    have hquestion : sized 1 4096 "recurring payroll" = true := sized_ofList rfl
    have hlimitation : (some "This excludes unobserved rent and other expense categories.").all (sized 1 2048) = true :=
      all_sized_ofList rfl
    have hfollowUp : (some "Ask “Am I in financial trouble?” for the bounded health view.").all (sized 1 1024) = true :=
      all_sized_ofList rfl
    simp only [QuestionResponse.valid, hsized, hquestion, hlimitation, hfollowUp, Bool.and_self]

/-- `str.casefold` leaves small ASCII letters and blanks as they are. -/
structure FoldsSmall (fold : String → String) : Prop where
  small : ∀ s : String, (∀ c ∈ s.toList, c.isLower = true ∨ c = ' ') → fold s = s

/-- The topic of a question of small letters is that of its own words. -/
theorem topicOf_small (hfold : FoldsSmall fold) {question : String} (hstrip : strip question = question)
    (hsmall : question.toList.all (fun c => c.isLower || c = ' ') = true) :
    topicOf fold question = topicOf id question := by
  have hfixed : fold question = question := hfold.small _ fun c hc => by
    simpa using List.all_eq_true.mp hsmall c hc
  rw [topicOf, topicOf, normalized, normalized, hstrip, hfixed]
  rfl

theorem keepsAll_of_speaksForAll (hfold : FoldsSmall fold) (hdigest : ∀ s, (digest s).length = 20)
    (h : projectState fold digest snapshot = .ok view)
    (hteams : completes (surfaceNamed snapshot "teams") = true)
    (hemployees : completes (surfaceNamed snapshot "employees") = true)
    (hts : (entitiesOf (surfaceNamed snapshot "teams")).length < 2 ^ 63)
    (hes : (entitiesOf (surfaceNamed snapshot "employees")).length < 2 ^ 63)
    (hall : SpeaksForAll fold elsewhere (entitiesOf (surfaceNamed snapshot "teams"))
      (entitiesOf (surfaceNamed snapshot "employees")) ⟨some view, error⟩) :
    KeepsAll (entitiesOf (surfaceNamed snapshot "teams")) (entitiesOf (surfaceNamed snapshot "employees")) := by
  obtain ⟨teams, employees, hteamsRead, hemployeesRead, hamount, htc, hec, hteamsPerm, hemployeesPerm,
    identity, hidentity⟩ := projectState_ok h hteams hemployees
  have hid : view.snapshotId.length = 29 := by
    have hfront : "snapshot:".length = 9 := String.length_ofList
    rw [hidentity, String.length_append, hdigest, hfront]
  obtain ⟨htlength, -⟩ := teams_kept hteamsRead
  obtain ⟨helength, hesalaries⟩ := employees_kept hemployeesRead
  have hteamsFew : view.teams.length < 2 ^ 63 := by
    have hle := List.reduceOption_length_le teams
    rw [hteamsPerm.length_eq]
    rw [Except.length_mapM hteamsRead] at hle
    omega
  have hemployeesFew : view.employees.length < 2 ^ 63 := by
    have hle := List.reduceOption_length_le employees
    rw [hemployeesPerm.length_eq]
    rw [Except.length_mapM hemployeesRead] at hle
    omega
  -- each of the two questions is answered with the number of what was kept
  have hteamsAll : ∀ e ∈ entitiesOf (surfaceNamed snapshot "teams"), ReadableTeam e := by
    have htopic : topicOf fold "how many teams" = .teamCount :=
      (topicOf_small hfold (by decide) (by decide)).trans (by decide +kernel)
    obtain ⟨r, hr, hanswered, htext⟩ := teamCountAnswer_ok error hid htc hteamsFew
    rw [← htlength, ← hteamsPerm.length_eq]
    rcases hall.teamCount _ r htopic (by rw [answer, htopic]; exact hr) with hsaid | hinsufficient
    · exact countText_inj (htext.symm.trans hsaid)
    · exact absurd hinsufficient (not_insufficient hanswered)
  have hemployeesAll : ∀ e ∈ entitiesOf (surfaceNamed snapshot "employees"), ReadableEmployee e := by
    have htopic : topicOf fold "how many employees" = .employeeCount :=
      (topicOf_small hfold (by decide) (by decide)).trans (by decide +kernel)
    obtain ⟨r, hr, hanswered, htext⟩ := employeeCountAnswer_ok error hid hec hemployeesFew
    rw [← helength, ← hemployeesPerm.length_eq]
    rcases hall.employeeCount _ r htopic (by rw [answer, htopic]; exact hr) with hsaid | hinsufficient
    · exact countText_inj (htext.symm.trans hsaid)
    · exact absurd hinsufficient (not_insufficient hanswered)
  refine ⟨hteamsAll, hemployeesAll, fun total hsum hfits => ?_⟩
  obtain ⟨total', htotal, hsum'⟩ := payroll_ok (helength.mpr hemployeesAll) hamount
  rw [hesalaries hemployeesAll] at hsum'
  cases hsum.symm.trans hsum'
  have htopic : topicOf fold "recurring payroll" = .payroll :=
    (topicOf_small hfold (by decide) (by decide)).trans (by decide +kernel)
  obtain ⟨r, hr, hanswered, htext⟩ := payrollAnswer_ok error hid htotal hfits
  rcases hall.payroll _ r htopic (by rw [answer, htopic]; exact hr) with hsaid | hinsufficient
  · exact payrollText_inj (htext.symm.trans hsaid)
  · exact absurd hinsufficient (not_insufficient hanswered)

/-- Guidance speaks for all of two complete surfaces exactly when the view keeps all of them. A list of
entities has fewer than `2 ^ 63`. -/
theorem speaksForAll_iff (hfold : FoldsSmall fold) (hdigest : ∀ s, (digest s).length = 20)
    (h : projectState fold digest snapshot = .ok view)
    (hteams : completes (surfaceNamed snapshot "teams") = true)
    (hemployees : completes (surfaceNamed snapshot "employees") = true)
    (hts : (entitiesOf (surfaceNamed snapshot "teams")).length < 2 ^ 63)
    (hes : (entitiesOf (surfaceNamed snapshot "employees")).length < 2 ^ 63) :
    SpeaksForAll fold elsewhere (entitiesOf (surfaceNamed snapshot "teams"))
        (entitiesOf (surfaceNamed snapshot "employees")) ⟨some view, error⟩ ↔
      KeepsAll (entitiesOf (surfaceNamed snapshot "teams")) (entitiesOf (surfaceNamed snapshot "employees")) :=
  ⟨keepsAll_of_speaksForAll hfold hdigest h hteams hemployees hts hes,
    speaksForAll_of_keepsAll h hteams hemployees⟩

end

/-! ## A team without its employee count -/

section Example
open Workstation

theorem toLower_of_isLower {c : Char} (h : c.isLower = true) : c.toLower = c := by
  unfold Char.toLower
  unfold Char.isLower at h
  grind

theorem foldsSmall_asciiFold : FoldsSmall asciiFold := by
  constructor
  intro s hs
  have hmap : s.toList.map Char.toLower = s.toList.map id := by
    refine List.map_congr_left fun c hc => ?_
    rcases hs c hc with hlower | rfl
    · rw [toLower_of_isLower hlower, id]
    · decide
  rw [asciiFold, hmap, List.map_id, String.ofList_toList]

/-- Two teams, of which one does not tell how many work for it. -/
def surveyed : GameSnapshot := gameShowing
  [observed "teams" [⟨"team", "core", [("name", .string "Core"), ("employee_count", .integer 0)]⟩,
    ⟨"team", "support", [("name", .string "Support")]⟩],
  observed "employees" []]

/-- The digest of `surveyed`, whatever the text. -/
def surveyedDigest (_ : String) : String := "656b4c15e8f135de076c"

theorem length_surveyedDigest (text : String) : (surveyedDigest text).length = 20 := by
  rw [surveyedDigest]
  decide

def notHere (_ : Topic) (question : String) (context : GuidanceContext) : Except UIError QuestionResponse :=
  unavailable question context "Live office state is unavailable."

theorem projectState_surveyed : ∃ view, projectState asciiFold surveyedDigest surveyed = .ok view := ⟨_, rfl⟩

theorem speaksForAll_iff_surveyed : ∃ view, projectState asciiFold surveyedDigest surveyed = .ok view ∧
    (SpeaksForAll asciiFold notHere (entitiesOf (surfaceNamed surveyed "teams"))
        (entitiesOf (surfaceNamed surveyed "employees")) ⟨some view, none⟩ ↔
      KeepsAll (entitiesOf (surfaceNamed surveyed "teams")) (entitiesOf (surfaceNamed surveyed "employees"))) := by
  obtain ⟨view, hview⟩ := projectState_surveyed
  exact ⟨view, hview, speaksForAll_iff foldsSmall_asciiFold length_surveyedDigest hview (by decide) (by decide)
    (by decide) (by decide)⟩

theorem not_speaksForAll_surveyed : ¬ ∀ (fold digest : String → String)
    (elsewhere : Topic → String → GuidanceContext → Except UIError QuestionResponse) (snapshot : GameSnapshot)
    (view : StateView), FoldsSmall fold → (∀ s, (digest s).length = 20) →
    projectState fold digest snapshot = .ok view → completes (surfaceNamed snapshot "teams") = true →
    completes (surfaceNamed snapshot "employees") = true →
    SpeaksForAll fold elsewhere (entitiesOf (surfaceNamed snapshot "teams"))
      (entitiesOf (surfaceNamed snapshot "employees")) ⟨some view, none⟩ := by
  intro h
  obtain ⟨view, hview⟩ := projectState_surveyed
  have hkeeps := keepsAll_of_speaksForAll foldsSmall_asciiFold length_surveyedDigest hview (by decide) (by decide)
    (by decide) (by decide) (h asciiFold surveyedDigest notHere surveyed view foldsSmall_asciiFold
      length_surveyedDigest hview (by decide) (by decide))
  have hreadable : ReadableTeam ⟨"team", "support", [("name", .string "Support")]⟩ :=
    hkeeps.teams _ (List.mem_cons_of_mem _ List.mem_cons_self)
  exact absurd hreadable (by unfold ReadableTeam; decide)

end Example

end SimPilot.SoftwareInc.Guidance
