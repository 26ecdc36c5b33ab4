import SimPilot.SoftwareInc.Store
import SimPilot.SoftwareInc.Training.Accounting
/-!
# Who owns a save, for an education

An open workflow is closed by a denial and by its last course only: an employee who is
recommended while another one's is open is refused.
-/

namespace SimPilot.SoftwareInc.Training

open GameBridge Effect Py StoreKind

/-- `TrainingWorkflowStore` -/
def educationStore : StoreKind WorkflowId TrainingWorkflow where
  workflowId := (·.workflowId)
  gameSessionId := (·.gameSessionId)
  saveIdentity := (·.saveIdentity)
  isOpen w := decide (w.status ≠ .completed ∧ w.status ≠ .blocked)
  owned := .validation "another open education workflow already owns the current save"
  commitment := "commit_education"

/-- The world of the education operator. -/
def classroom : Semantics (Call WorkflowId TrainingWorkflow TrainingApproval TrainingCycleEvent) Reply
    (Shelf TrainingWorkflow) := educationStore.stored

/-- Another employee has an open workflow for the session and the save. -/
def OwnedByOther (gameSessionId saveIdentity employeeId : String) (rows : List TrainingWorkflow) : Prop :=
  ∃ v ∈ rows, educationStore.ownedBy gameSessionId saveIdentity v = true ∧ v.employeeId ≠ employeeId

/-- The call was refused its save, or shown an open workflow of another employee. -/
def Rejected (employeeId : String) (s : Shelf TrainingWorkflow) : Prop :=
  s.refused = true ∨ ∃ v ∈ s.shown, v.employeeId ≠ employeeId

/-- Nothing was refused after this answer. -/
structure Settled (shown : Option TrainingWorkflow) (s : Shelf TrainingWorkflow) : Prop where
  refused : s.refused = false
  shown : s.shown = shown

section
variable {w w' : TrainingWorkflow} {shown : Option TrainingWorkflow} {s s' : Shelf TrainingWorkflow} {st : Cleanup}
  {provided dryRun : Bool} {gestures : Nat} {er : UIError → Cleanup → Shelf TrainingWorkflow → Prop}

theorem settled (h : educationStore.Owns w shown s) : Settled shown s := ⟨h.refused, h.shown⟩

/-- An employee's state leaves whose workflow it is. -/
theorem same_of_applyEmployee {snapshot : GameSnapshot} {employee : EmployeeTrainingObservation} {n : Nat}
    (h : applyEmployee w snapshot employee n = .ok w') : educationStore.SameOwner w w' := by
  unfold applyEmployee at h
  dsimp only at h
  split at h
  · cases h
    exact ⟨rfl, rfl, rfl⟩
  split at h
  · cases h
    exact ⟨rfl, rfl, rfl⟩
  split at h
  · cases h
  split at h
  · cases h
    exact ⟨rfl, rfl, rfl⟩
  · obtain ⟨_, -, h⟩ := Except.bind_eq_ok.mp h
    obtain ⟨_, -, h⟩ := Except.bind_eq_ok.mp h
    cases h
    exact ⟨rfl, rfl, rfl⟩

theorem own_appendEvent {x : TrainingWorkflow} {eventType action detail : String} {sequence : Int}
    {ok : TrainingCycleEvent → Cleanup → Shelf TrainingWorkflow → Prop} (h : educationStore.Owns w shown s)
    (ho : ∀ e s', educationStore.Owns w shown s' → ok e st s') (he : ∀ e s', educationStore.Owns w shown s' → er e st s') :
    Py.Ends classroom (Training.appendEvent x eventType sequence action detail) st s ok er := by
  unfold Training.appendEvent
  refine .bind (ends_uuid4 (calm (L := educationStore.Owns w shown)).toQuiet h fun _ s₁ h₁ => ?_)
  refine .bind (ends_events (calm (L := educationStore.Owns w shown)).toQuiet h₁ (fun _ s₂ h₂ => ?_) he)
  exact .bind (ends_appendEvent (calm (L := educationStore.Owns w shown)).toQuiet h₂ (fun s₃ h₃ => .pure (ho _ s₃ h₃)) he)

theorem own_click {before : Observation} {t : VisualTarget} {effect : String}
    {ok : Observation → Cleanup → Shelf TrainingWorkflow → Prop} (h : educationStore.Owns w shown s)
    (ho : ∀ o s', educationStore.Owns w shown s' → ok o st s') (he : ∀ e s', educationStore.Owns w shown s' → er e st s') :
    Py.Ends classroom (click education before t effect : Op Observation) st s ok er :=
  ends_click education (calm (L := educationStore.Owns w shown)) (fun _ _ _ _ hs => h.execute hs)
    (fun o _ s' _ _ h' => ho o s' h') (fun e => he e s h) he

theorem own_target {o : Observation} {targetId : String} {ok : VisualTarget → Cleanup → Shelf TrainingWorkflow → Prop}
    (h : educationStore.Owns w shown s) (ho : ∀ t s', educationStore.Owns w shown s' → ok t st s')
    (he : ∀ e s', educationStore.Owns w shown s' → er e st s') :
    Py.Ends classroom (target education o targetId : Op VisualTarget) st s ok er :=
  ends_target education (calm (L := educationStore.Owns w shown)).toQuiet h (fun t s' _ h' => ho t s' h') he

theorem own_askApproval {approval : TrainingApproval} (h : educationStore.Owns w shown s) :
    Py.Ends classroom (askApproval w approval provided dryRun gestures) st s
      (fun a _ s' => match a with
        | .inl _ => Settled shown s'
        | .inr resolved => educationStore.SameOwner w resolved ∧ educationStore.Owns w shown s')
      (fun _ _ s' => Settled shown s') := by
  unfold askApproval
  refine .ite (fun _ => .pure (settled h)) fun _ => ?_
  refine .ite (fun _ => .pure ⟨.refl, h⟩) fun _ => ?_
  refine .ite (fun _ => .pure (settled h)) fun _ => ?_
  refine .bind (ends_approve (fun yes s₁ h₁ => ?_) fun e s₁ h₁ => ?_)
  · cases h₁
    refine .bind (.lift (fun resolved hresolved => ?_) fun _ _ => settled h)
    obtain ⟨p, -, -, rfl⟩ := resolveTrainingApproval_eq_ok hresolved
    refine .bind (ends_save_own h ⟨rfl, rfl, rfl⟩ (fun s₁ _ h₁ => ?_) fun _ => settled h)
    exact .ite (fun _ => .pure (settled h₁)) fun _ => .pure ⟨⟨rfl, rfl, rfl⟩, h₁⟩
  · cases h₁
    exact settled h

theorem own_sendCommitment {approval : TrainingApproval} {resolved : TrainingWorkflow} {refreshed : Observation}
    (hsame : educationStore.SameOwner w resolved) (h : educationStore.Owns w shown s) :
    Py.Ends classroom (sendCommitment resolved approval refreshed gestures) st s (fun _ _ s' => Settled shown s')
      (fun _ _ s' => Settled shown s') := by
  unfold sendCommitment
  refine .bind (.lift (fun _ _ => ?_) fun _ _ => settled h)
  refine .bind (own_target h (fun t s₁ h₁ => ?_) fun _ _ h => settled h)
  refine .bind (own_click h₁ (fun after s₂ h₂ => ?_) fun _ _ h => settled h)
  refine .bind (.lift (fun _ _ => ?_) fun _ _ => settled h₂)
  refine .bind (.lift (fun _ _ => ?_) fun _ _ => settled h₂)
  refine .bind (ends_require (fun _ => ?_) (settled h₂))
  refine .bind (ends_uuid4 (calm (L := educationStore.Owns w shown)).toQuiet h₂ fun n s₃ h₃ => ?_)
  refine .bind (.lift (fun started hstarted => ?_) fun _ _ => settled h₃)
  obtain ⟨_, -, happly⟩ := synchronizeTraining_eq_ok hstarted
  have hstarted := same_of_applyEmployee happly
  refine .bind (ends_save_own h₃ (hsame.trans ⟨hstarted.id, hstarted.session, hstarted.save⟩) (fun s₄ _ h₄ => ?_)
    fun _ => settled h₃)
  exact .bind (own_appendEvent h₄ (fun _ _ h₅ => .pure (settled h₅)) fun _ _ h => settled h)

theorem own_commitEducation {o : Observation} (h : educationStore.Owns w shown s) :
    Py.Ends classroom (commitEducation w o provided dryRun gestures) st s (fun _ _ s' => Settled shown s')
      (fun _ _ s' => Settled shown s') := by
  unfold commitEducation
  refine .bind (.lift (fun _ _ => ?_) fun _ _ => settled h)
  refine .bind (.lift (fun _ _ => ?_) fun _ _ => settled h)
  split
  · exact .raise (settled h)
  · refine .bind (ends_require (fun _ => ?_) (settled h))
    refine .seq (own_askApproval h) (fun answer st' s₁ h₁ => ?_) fun _ _ _ h => h
    rcases answer with r | resolved
    · exact .pure h₁
    obtain ⟨hsame, h₁⟩ := h₁
    refine .bind (ends_observe (fun refreshed s₂ h₂ => ?_) fun e s₂ h₂ => ?_)
    · cases h₂
      refine .bind (.lift (fun _ _ => ?_) fun _ _ => settled h₁)
      refine .bind (.lift (fun _ _ => ?_) fun _ _ => settled h₁)
      refine .bind (.lift (fun _ _ => ?_) fun _ _ => settled h₁)
      exact .bind (ends_require (fun _ => own_sendCommitment hsame h₁) (settled h₁))
    · cases h₂
      exact settled h₁

theorem own_configure : ∀ {cycles : Nat} {current : Observation} {gestures : Nat} {selecting : Option Selecting}
    {st : Cleanup} {s : Shelf TrainingWorkflow}, educationStore.Owns w shown s →
    Py.Ends classroom (configure w provided dryRun cycles current gestures selecting) st s
      (fun _ _ s' => Settled shown s') (fun _ _ s' => Settled shown s')
  | 0, _, _, _, _, _, h => .raise (settled h)
  | cycles + 1, current, gestures, selecting, st, s, h => by
    unfold configure
    refine .bind (.lift (fun _ _ => ?_) fun _ _ => settled h)
    refine .bind (.lift (fun input _ => ?_) fun _ _ => settled h)
    rcases input with _ | ⟨targetId, effect, selecting'⟩
    · exact own_commitEducation h
    refine .bind (own_target h (fun t s₁ h₁ => ?_) fun _ _ h => settled h)
    refine .ite (fun _ => .pure (settled h₁)) fun _ => ?_
    refine .bind (own_click h₁ (fun o s₂ h₂ => ?_) fun _ _ h => settled h)
    exact own_configure h₂

end

/-! ## One call -/

section
variable {s : Shelf TrainingWorkflow} {r : TrainingRecommendation} {candidate : TrainingCandidate}
  {provided dryRun : Bool} {st : Cleanup}

theorem createTrainingWorkflow_session {snapshot : GameSnapshot} {n : Nat} {w : TrainingWorkflow}
    (h : createTrainingWorkflow snapshot candidate n = .ok w) :
    w.gameSessionId = snapshot.gameSessionId ∧ w.saveIdentity = saveIdentityText snapshot.saveIdentity := by
  unfold createTrainingWorkflow at h
  split at h
  · cases h
  · obtain ⟨_, -, h⟩ := Except.bind_eq_ok.mp h
    cases h
    exact ⟨rfl, rfl⟩

/-- What a call leaves: a rejection exactly where the save is another's. -/
def Started (r : TrainingRecommendation) (candidate : TrainingCandidate) (rows : List TrainingWorkflow)
    (s' : Shelf TrainingWorkflow) : Prop :=
  s'.answered = true → (Rejected candidate.employee.employeeId s' ↔
    OwnedByOther r.gameSessionId r.saveIdentity candidate.employee.employeeId rows)

/-- The rejection of an employee while another one's workflow is open. -/
def rejection : UIError := .validation "another education workflow already owns this save"

theorem Settled.started {shown : Option TrainingWorkflow} {s' : Shelf TrainingWorkflow} (h : Settled shown s')
    (hshown : ∀ v ∈ shown, v.employeeId = candidate.employee.employeeId)
    (hother : ¬ OwnedByOther r.gameSessionId r.saveIdentity candidate.employee.employeeId s.rows) :
    Started r candidate s.rows s' ∧ ¬ Rejected candidate.employee.employeeId s' := by
  have hnot : ¬ Rejected candidate.employee.employeeId s' := by
    rintro (hrefused | ⟨v, hv, hne⟩)
    · rw [h.refused] at hrefused
      cases hrefused
    · rw [h.shown] at hv
      exact hne (hshown v hv)
  exact ⟨fun _ => iff_of_false hnot hother, hnot⟩

/-- The workflow of a recommendation, and what was shown of the store. -/
theorem own_openWorkflow {current : Observation} (hsole : educationStore.Sole s.rows) :
    Py.Ends classroom (openWorkflow r candidate current) st s.begin
      (fun w _ s' => ∃ shown, educationStore.Owns w shown s' ∧
        (∀ v ∈ shown, v.employeeId = candidate.employee.employeeId) ∧
        ¬ OwnedByOther r.gameSessionId r.saveIdentity candidate.employee.employeeId s.rows)
      (fun e _ s' => Started r candidate s.rows s' ∧ (Rejected candidate.employee.employeeId s' → e = rejection)) := by
  have herror : ∀ e, Started r candidate s.rows s.begin ∧
      (Rejected candidate.employee.employeeId s.begin → e = rejection) := by
    refine fun e => ⟨fun h => ?_, fun h => ?_⟩
    · cases h
    · rcases h with h | ⟨v, hv, -⟩
      · cases h
      · cases hv
  unfold openWorkflow
  refine .bind (ends_now (calm (L := (· = s.begin))).toQuiet rfl fun now s₁ h₁ => ?_)
  cases h₁
  refine .bind (.lift (fun _ hcurrent => ?_) fun e _ => herror e)
  refine .bind (.lift (fun _ _ => ?_) fun e _ => herror e)
  refine .bind (.lift (fun _ _ => ?_) fun e _ => herror e)
  refine .bind (ends_require (fun _ => ?_) (herror _))
  have hfresh : r.gameSessionId = current.semanticAfter.gameSessionId ∧
      r.saveIdentity = saveIdentityText current.semanticAfter.saveIdentity := by
    unfold requireRecommendationCurrent at hcurrent
    dsimp only at hcurrent
    split at hcurrent
    · cases hcurrent
    split at hcurrent
    · cases hcurrent
    · rename_i h
      simpa [not_or] using h
  refine .bind (ends_current (fun existing s₁ h₁ => ?_) fun e s₁ h₁ => ?_)
  swap
  · cases h₁
    exact herror e
  rcases existing with _ | existing
  -- no open workflow: a new one
  · obtain ⟨hnone, rfl⟩ := h₁
    have hother : ¬ OwnedByOther r.gameSessionId r.saveIdentity candidate.employee.employeeId s.rows := by
      rintro ⟨v, hv, howned, -⟩
      have hnone : educationStore.ownedBy r.gameSessionId r.saveIdentity v = false := hnone v hv
      rw [howned] at hnone
      cases hnone
    have hsettled : Settled none { s.begin with answered := true } := ⟨rfl, rfl⟩
    have hshown : ∀ v ∈ (none : Option TrainingWorkflow), v.employeeId = candidate.employee.employeeId := by simp
    have hstarted := hsettled.started hshown hother
    have hfail : ∀ e, Started r candidate s.rows { s.begin with answered := true } ∧
        (Rejected candidate.employee.employeeId { s.begin with answered := true } → e = rejection) :=
      fun e => ⟨hstarted.1, fun h => (hstarted.2 h).elim⟩
    refine .bind (ends_uuid4 (calm (L := (· = { s.begin with answered := true }))).toQuiet rfl fun n s₁ h₁ => ?_)
    cases h₁
    refine .bind (.lift (fun created hcreated => ?_) fun e _ => hfail e)
    obtain ⟨hsession, hsave⟩ := createTrainingWorkflow_session hcreated
    have howns : educationStore.Owns created none { s.begin with answered := true } := by
      refine ⟨rfl, rfl, rfl, fun v hv howned => ?_⟩
      have hv' : educationStore.ownedBy r.gameSessionId r.saveIdentity v = false := hnone v hv
      have howned : educationStore.ownedBy created.gameSessionId created.saveIdentity v = true := howned
      rw [hsession, hsave, ← hfresh.1, ← hfresh.2, hv'] at howned
      cases howned
    exact .bind (ends_save_own howns .refl (fun s₂ _ h₂ => .pure ⟨none, h₂, by simp, hother⟩) fun e => hfail e)
  -- the open one of the save
  · obtain ⟨hmem, howned, rfl⟩ := h₁
    by_cases hemployee : existing.employeeId = candidate.employee.employeeId
    · have hother : ¬ OwnedByOther r.gameSessionId r.saveIdentity candidate.employee.employeeId s.rows := by
        rintro ⟨v, hv, hvowned, hne⟩
        have hopen : educationStore.isOpen existing = true := by
          have := howned
          simp only [StoreKind.ownedBy, Bool.and_eq_true] at this
          exact this.1.1
        have hid : educationStore.workflowId existing = educationStore.workflowId v := by
          refine hsole.owners existing hmem v hv hopen ?_
          simp only [StoreKind.ownedBy, Bool.and_eq_true, decide_eq_true_eq] at howned hvowned ⊢
          exact ⟨⟨hvowned.1.1, hvowned.1.2.trans howned.1.2.symm⟩, hvowned.2.trans howned.2.symm⟩
        rw [← hsole.ids existing hmem v hv hid] at hne
        exact hne hemployee
      have hshown : ∀ v ∈ some existing, v.employeeId = candidate.employee.employeeId := by simpa using hemployee
      have hsettled : Settled (some existing) { s.begin with answered := true, shown := some existing } := ⟨rfl, rfl⟩
      have hstarted := hsettled.started hshown hother
      have hfail : ∀ e, Started r candidate s.rows { s.begin with answered := true, shown := some existing } ∧
          (Rejected candidate.employee.employeeId { s.begin with answered := true, shown := some existing } →
            e = rejection) := fun e => ⟨hstarted.1, fun h => (hstarted.2 h).elim⟩
      refine .bind (ends_require (fun _ => ?_) (hfail _))
      refine .bind (ends_uuid4
        (calm (L := (· = { s.begin with answered := true, shown := some existing }))).toQuiet rfl fun n s₁ h₁ => ?_)
      cases h₁
      refine .bind (.lift (fun _ _ => ?_) fun e _ => hfail e)
      refine .bind (ends_require (fun _ => .pure ⟨some existing, ⟨rfl, rfl, rfl, ?_⟩, hshown, hother⟩) (hfail _))
      intro v hv hvowned
      have hopen : educationStore.isOpen existing = true := by
        simp only [StoreKind.ownedBy, Bool.and_eq_true] at howned
        exact howned.1.1
      exact (hsole.owners existing hmem v hv hopen hvowned).symm
    · refine .bind (ends_require (fun h => (hemployee h).elim) ?_)
      have hrejected : Rejected candidate.employee.employeeId
          { s.begin with answered := true, shown := some existing } := .inr ⟨existing, rfl, hemployee⟩
      exact ⟨fun _ => iff_of_true hrejected ⟨existing, hmem, howned, hemployee⟩, fun _ => rfl⟩

theorem own_startTraining (hsole : educationStore.Sole s.rows) {h : r.recommended = some candidate} :
    Py.Ends classroom (startTraining (.recommendation r candidate h) provided dryRun) st s.begin
      (fun _ _ s' => Started r candidate s.rows s' ∧ ¬ Rejected candidate.employee.employeeId s')
      (fun e _ s' => Started r candidate s.rows s' ∧ (Rejected candidate.employee.employeeId s' → e = rejection)) := by
  have herror : ∀ e, Started r candidate s.rows s.begin ∧
      (Rejected candidate.employee.employeeId s.begin → e = rejection) := by
    refine fun e => ⟨fun h => ?_, fun h => ?_⟩
    · cases h
    · rcases h with h | ⟨v, hv, -⟩
      · cases h
      · cases hv
  unfold startTraining
  refine .bind (ends_observe (fun current s₁ h₁ => ?_) fun e s₁ h₁ => ?_)
  swap
  · cases h₁
    exact herror e
  cases h₁
  refine .bind (.lift (fun _ _ => ?_) fun e _ => herror e)
  refine .seq (own_openWorkflow hsole) (fun w st' s₁ h₁ => ?_) fun _ _ _ h => h
  obtain ⟨shown, howns, hshown, hother⟩ := h₁
  have hdone : ∀ s', Settled shown s' → Started r candidate s.rows s' ∧ ¬ Rejected candidate.employee.employeeId s' :=
    fun s' h' => h'.started hshown hother
  have hfail : ∀ e s', Settled shown s' → Started r candidate s.rows s' ∧
      (Rejected candidate.employee.employeeId s' → e = rejection) :=
    fun e s' h' => ⟨(hdone s' h').1, fun h => ((hdone s' h').2 h).elim⟩
  refine .bind (.lift (fun _ _ => ?_) fun e _ => hfail e s₁ (settled howns))
  refine .ite (fun _ => .pure (hdone s₁ (settled howns))) fun _ => ?_
  exact .weaken _ _ (own_configure howns) (fun _ _ s' h' => hdone s' h') fun e _ s' h' => hfail e s' h'

end

end SimPilot.SoftwareInc.Training
