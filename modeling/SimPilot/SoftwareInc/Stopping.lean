import SimPilot.SoftwareInc.Contracts.Progress
import SimPilot.SoftwareInc.Pausing
import SimPilot.SoftwareInc.Products.Operator
import SimPilot.SoftwareInc.Training.Accounting
/-!
# The game after a bounded progression

The educations and the product wait in a `try` whose `finally` pauses; the settling of the
resume click stands before it. The contracts have no cleanup at all: whatever fails between the
resume gesture and the second observation leaves the game running.

| operator | until the second observation |
|---|---|
| `advance_contract` | every reply, the store's too, and one active work item |
| `advance_training` | the resume click alone |
| `advance_product` | the resume click, and one work item of the product |
-/

namespace SimPilot.SoftwareInc

open GameBridge Effect Py

/-- No target of a work item is the resume button. -/
theorem workItem_ne_resume (a b : String) : "work-item-" ++ a ++ b ≠ "resume_button" := by
  intro h
  have hhead := congrArg (fun s => s.toList.head?) h
  simp at hhead

/-! ## Education -/

namespace Training.Progression

/-- `advance_training` -/
def course : Course where
  goesOn _ _ := True
  readable o := requireActionable education o = .ok ()
  gone _ _ := True
  goesOn_of_gone h := h
  later _ h := h

section
variable {s : Watch} {st : Cleanup} {before : Observation} {w : TrainingWorkflow} {runSeconds : ℚ} {gestures : Nat}

theorem ends_runBoundedEducation (h : s.At before) :
    Py.Ends timed (runBoundedEducation w before runSeconds gestures) st s
      (fun _ _ s' => Decided education course s') (fun _ _ s' => Decided education course s') := by
  refine .bind (Watch.ends_target h (fun t s₁ ht h₁ => ?_) fun _ _ h => decided_of_none h.since)
  refine .bind ((ends_resume h₁ ht).mono (fun o _ s₂ h₂ => ?_) fun _ _ _ h => h)
  obtain ⟨hs, hcontinuous⟩ := h₂
  refine .bind (.ite (fun hrunning => .pure ?_) fun hpaused => .raise ?_)
  · refine .bind ((ends_boundedInterval_running (Since.resumed_running hcontinuous hrunning) hs trivial
      (fun _ => Iff.rfl) (by decide)).mono (fun _ _ s₃ hsafe => ?_) fun _ _ _ h => h)
    exact (hsafe.ends _).mono (fun _ _ _ h => h.decided) fun _ _ _ h => h.decided
  · exact (Since.resumed_safe hs (by simpa using hpaused)).decided

theorem ends_closeManagement {dryRun : Bool} (h : s.At before) :
    Py.Ends timed (closeManagement before dryRun) st s (fun p _ s' => s'.Before ∧ ∀ o ∈ p.1, s'.At o)
      (fun _ _ s' => Decided education course s') := by
  refine .ite (fun _ => .pure ⟨h.toBefore, fun o ho => by cases ho; exact h⟩) fun _ => ?_
  refine .ite (fun _ => .raise h.decided) fun _ => ?_
  refine .ite (fun _ => .pure ⟨h.toBefore, fun o ho => by cases ho⟩) fun _ => ?_
  refine .bind (Watch.ends_key h (by decide) (fun o s₁ h₁ => .pure ⟨h₁.toBefore, fun o' ho => ?_⟩)
    fun _ _ h => decided_of_none h.since)
  cases ho
  exact h₁

theorem ends_advanceTraining {dryRun : Bool} (h : s.Before) :
    Py.Ends timed (advanceTraining w runSeconds dryRun) st s (fun _ _ s' => Decided education course s')
      (fun _ _ s' => Decided education course s') := by
  have hnone : ∀ {s : Watch}, s.Before → Decided education course s := fun h => decided_of_none h.since
  refine .bind (ends_require (fun _ => ?_) (hnone h))
  refine .bind (Watch.ends_observe h (fun before s₁ h₁ => ?_) fun _ _ h => hnone h)
  refine .bind (.lift (fun _ _ => ?_) fun _ _ => h₁.decided)
  refine .bind (ends_uuid4 Watch.At.quiet h₁ fun n s₂ h₂ => ?_)
  refine .bind (.lift (fun current _ => ?_) fun _ _ => h₂.decided)
  have hsaved : ∀ {s : Watch} {r : Except UIError Unit}, s.At before →
      (s.note (.save current : Call WorkflowId TrainingWorkflow TrainingApproval TrainingCycleEvent) r).Before :=
    fun h => h.toBefore.note rfl
  refine .ite (fun _ => ?_) fun _ => ?_
  · refine .bind (ends_save (fun s₃ h₃ => .pure ?_) fun _ s₃ h₃ => ?_)
    · exact hnone (h₃ ▸ hsaved h₂)
    · exact hnone (h₃ ▸ hsaved h₂)
  refine .ite (fun _ => ?_) fun _ => ?_
  · refine .bind (ends_save (fun s₃ h₃ => ?_) fun _ s₃ h₃ => hnone (h₃ ▸ hsaved h₂))
    have h₃ : s₃.Before := h₃ ▸ hsaved h₂
    exact .bind (ends_assertSome (fun _ _ => .pure (hnone h₃)) (hnone h₃))
  refine .bind (.lift (fun employee _ => ?_) fun _ _ => h₂.decided)
  refine .bind (ends_require (fun _ => ?_) h₂.decided)
  refine .seq (ends_closeManagement h₂) (fun p _ s₃ h₃ => ?_) fun _ _ _ h => h
  obtain ⟨closed, gestures⟩ := p
  cases closed with
  | none => exact .pure (hnone h₃.1)
  | some before =>
    have hat := h₃.2 before rfl
    refine .bind (ends_require (fun _ => ?_) hat.decided)
    exact .ite (fun _ => .pure hat.decided) fun _ => ends_runBoundedEducation hat

end

end Training.Progression

/-! ## Products -/

namespace Products.Progression

/-- `advance_product` for a product of this name. -/
def course (productName : String) : Course where
  goesOn o _ := ∃ found, productWork o.semanticAfter productName = .ok found
  readable o := requireActionable atlas o = .ok ()
  gone o _ := ∃ found, productWork o.semanticAfter productName = .ok found
  goesOn_of_gone h := h
  later _ h := h

section
variable {s : Watch} {st : Cleanup} {before : Observation} {w w' : ProductWorkflow} {runSeconds : ℚ} {gestures : Nat}
  {dryRun : Bool} {name : String}

theorem productName_of_synchronizeWorkflow {snapshot : GameSnapshot} (h : synchronizeWorkflow w snapshot = .ok w') :
    w'.productName = w.productName := by
  unfold synchronizeWorkflow at h
  split at h
  · cases h
  split at h
  · cases h
  obtain ⟨found, -, hw⟩ := Except.bind_eq_ok.mp h
  cases found with
  | none =>
    cases hw
    rfl
  | some work =>
    obtain ⟨stage, -, hw⟩ := Except.bind_eq_ok.mp hw
    split at hw
    · cases hw
    · cases hw
    · cases hw
    · cases hw
      rfl

theorem ends_runBoundedWork (h : s.At before) :
    Py.Ends timed (runBoundedWork w before runSeconds gestures) st s
      (fun _ _ s' => Decided atlas (course w.productName) s') (fun _ _ s' => Decided atlas (course w.productName) s') := by
  refine .bind (Watch.ends_target h (fun t s₁ ht h₁ => ?_) fun _ _ h => decided_of_none h.since)
  refine .bind ((ends_resume h₁ ht).mono (fun o _ s₂ h₂ => ?_) fun _ _ _ h => h)
  obtain ⟨hs, hcontinuous⟩ := h₂
  refine .bind (.ite (fun hrunning => .pure ?_) fun hpaused => .raise ?_)
  · have hresumed := Since.resumed_running hcontinuous hrunning
    refine .bind (.lift (fun found hfound => ?_) fun e he => ?_)
    · refine .bind ((ends_boundedInterval_running (c := course w.productName) hresumed hs ⟨found, hfound⟩
        (fun _ => Iff.rfl) (by decide)).mono (fun _ _ s₃ hsafe => ?_) fun _ _ _ h => h)
      exact (hsafe.ends _).mono (fun _ _ _ h => h.decided) fun _ _ _ h => h.decided
    · refine hresumed.decided hs ?_
      rintro ⟨found, hfound⟩
      rw [he] at hfound
      cases hfound
  · exact (Since.resumed_safe hs (by simpa using hpaused)).decided

theorem ends_optionalTarget {targetId : String} (h : s.At before) :
    Py.Ends timed (optionalTarget before targetId) st s (fun _ _ s' => s'.At before) (fun _ _ s' => s'.Before) := by
  unfold optionalTarget
  split
  · exact .pure h
  · exact .map (Watch.ends_target h (fun _ _ _ h => h) fun _ _ h => h)
  · exact .raise h.toBefore

theorem ends_ensureTarget {targetId : String} (h : s.At before) :
    Py.Ends timed (ensureTarget before targetId dryRun) st s (fun p _ s' => s'.At p.1) (fun _ _ s' => s'.Before) := by
  refine .seq (ends_optionalTarget h) (fun found _ s₁ h₁ => ?_) fun _ _ _ h => h
  refine .ite (fun _ => .pure h₁) fun _ => ?_
  refine .bind (Watch.ends_target h₁ (fun card s₂ hcard h₂ => ?_) fun _ _ h => h)
  refine .ite (fun _ => .pure h₂) fun _ => ?_
  have hne : card.targetId ≠ "resume_button" := by
    rw [hcard]
    exact workItem_ne_resume _ _
  refine .bind (Watch.ends_click h₂ hne (fun opened s₃ h₃ => ?_) fun _ _ h => h)
  refine .seq (ends_optionalTarget h₃) (fun found _ s₄ h₄ => ?_) fun _ _ _ h => h
  exact .ite (fun _ => .pure h₄) fun _ => .raise h₄.toBefore

theorem ends_resumeHeldWork (h : s.At before) (hname : w.productName = name) :
    Py.Ends timed (resumeHeldWork w before dryRun gestures) st s
      (fun p _ s' => s'.Before ∧ ∀ q ∈ p.1, s'.At q.2 ∧ q.1.productName = name)
      (fun _ _ s' => s'.Before) := by
  refine .ite (fun _ => .pure ⟨h.toBefore, fun q hq => by cases hq; exact ⟨h, hname⟩⟩) fun _ => ?_
  refine .bind (ends_assertSome (fun workItemId _ => ?_) h.toBefore)
  refine .seq (ends_ensureTarget h) (fun p _ s₁ h₁ => ?_) fun _ _ _ h => h
  refine .ite (fun _ => .pure ⟨h₁.toBefore, fun q hq => by cases hq⟩) fun _ => ?_
  refine .bind (Watch.ends_target h₁ (fun t s₂ ht h₂ => ?_) fun _ _ h => h)
  have hne : t.targetId ≠ "resume_button" := by
    rw [ht]
    exact workItem_ne_resume _ _
  refine .bind (Watch.ends_click h₂ hne (fun after s₃ h₃ => ?_) fun _ _ h => h)
  refine .bind (.lift (fun current hcurrent => ?_) fun _ _ => h₃.toBefore)
  refine .bind (ends_require (fun _ => ?_) h₃.toBefore)
  refine .bind (ends_save (fun s₄ h₄ => .pure ?_) fun _ s₄ h₄ => h₄ ▸ h₃.toBefore.note rfl)
  have h₄ : s₄.At after := h₄ ▸ h₃.note rfl rfl
  refine ⟨h₄.toBefore, fun q hq => ?_⟩
  cases hq
  exact ⟨h₄, (productName_of_synchronizeWorkflow hcurrent).trans hname⟩

theorem ends_closeProductUI (h : s.At before) :
    Py.Ends timed (closeProductUI before dryRun gestures) st s (fun p _ s' => s'.Before ∧ ∀ o ∈ p.1, s'.At o)
      (fun _ _ s' => s'.Before) := by
  refine .ite (fun _ => .pure ⟨h.toBefore, fun o ho => by cases ho; exact h⟩) fun _ => ?_
  refine .ite (fun _ => .pure ⟨h.toBefore, fun o ho => by cases ho⟩) fun _ => ?_
  refine .bind (Watch.ends_key h (by decide) (fun o s₁ h₁ => .pure ⟨h₁.toBefore, fun o' ho => ?_⟩) fun _ _ h => h)
  cases ho
  exact h₁

theorem ends_advanceProduct (h : s.Before) :
    Py.Ends timed (advanceProduct w runSeconds dryRun) st s (fun _ _ s' => Decided atlas (course w.productName) s')
      (fun _ _ s' => Decided atlas (course w.productName) s') := by
  have hnone : ∀ {s : Watch}, s.Before → Decided atlas (course w.productName) s := fun h => decided_of_none h.since
  refine .bind (ends_require (fun _ => ?_) (hnone h))
  refine .bind (Watch.ends_observe h (fun before s₁ h₁ => ?_) fun _ _ h => hnone h)
  refine .bind (.lift (fun _ _ => ?_) fun _ _ => h₁.decided)
  refine .bind (ends_require (fun _ => ?_) h₁.decided)
  refine .bind (.lift (fun current hcurrent => ?_) fun _ _ => h₁.decided)
  have hname := productName_of_synchronizeWorkflow hcurrent
  refine .ite (fun _ => ?_) fun _ => ?_
  · refine .bind (ends_save (fun s₂ h₂ => .pure ?_) fun _ s₂ h₂ => ?_)
    · exact hnone (h₂ ▸ h₁.toBefore.note rfl)
    · exact hnone (h₂ ▸ h₁.toBefore.note rfl)
  refine .bind (.lift (fun _ _ => ?_) fun _ _ => h₁.decided)
  refine .bind (.lift (fun review _ => ?_) fun _ _ => h₁.decided)
  cases review with
  | some review =>
    refine .seq (ends_ensureTarget h₁) (fun p _ s₂ h₂ => ?_) fun _ _ _ h => hnone h
    refine .ite (fun _ => .pure h₂.decided) fun _ => ?_
    refine .bind (Watch.ends_target h₂ (fun t s₃ ht h₃ => ?_) fun _ _ h => hnone h)
    have hne : t.targetId ≠ "resume_button" := by
      rw [ht]
      exact workItem_ne_resume _ _
    exact .bind (Watch.ends_click h₃ hne (fun _ _ h => .pure h.decided) fun _ _ h => hnone h)
  | none =>
    refine .seq (ends_resumeHeldWork h₁ hname) (fun p _ s₂ h₂ => ?_) fun _ _ _ h => hnone h
    obtain ⟨resumed, gestures⟩ := p
    rcases resumed with _ | ⟨current, before⟩
    · exact .pure (hnone h₂.1)
    obtain ⟨hat, hname⟩ := h₂.2 _ rfl
    refine .seq (ends_closeProductUI hat) (fun p _ s₃ h₃ => ?_) fun _ _ _ h => hnone h
    obtain ⟨closed, gestures⟩ := p
    rcases closed with _ | before
    · exact .pure (hnone h₃.1)
    have hat := h₃.2 _ rfl
    refine .bind (ends_require (fun _ => ?_) hat.decided)
    refine .ite (fun _ => .pure hat.decided) fun _ => ?_
    have hname : current.productName = w.productName := hname
    rw [← hname]
    exact ends_runBoundedWork hat

end

end Products.Progression

/-! ## Contracts -/

namespace Contracts.Progression

/-- `advance_contract` for the contract of a workflow. -/
def course (w : ContractWorkflow) : Course where
  goesOn o x := (∃ found, matchingWork o.semanticAfter w = .ok found) ∧ (∀ r ∈ x.saves.head?, r = .ok ()) ∧
    (∀ r ∈ x.counts.head?, ∃ n, r = .ok n) ∧ (∀ r ∈ x.events.head?, r = .ok ()) ∧
    (∀ r ∈ x.foregrounds.head?, r = .ok ()) ∧ ∀ r ∈ x.sleeps[1]?, r = .ok ()
  readable o := ∃ found, matchingWork o.semanticAfter w = .ok found
  gone o x := (∃ found, matchingWork o.semanticAfter w = .ok found) ∧ x.saves.head? = some (.ok ()) ∧
    (∃ n, x.counts.head? = some (.ok n)) ∧ x.events.head? = some (.ok ()) ∧
    x.foregrounds.head? = some (.ok ()) ∧ x.sleeps[1]? = some (.ok ())
  goesOn_of_gone := by
    rintro o x ⟨hfound, hsaved, ⟨n, hcounted⟩, happended, hforeground, hslept⟩
    simp [hfound, hsaved, hcounted, happended, hforeground, hslept]
  later := by
    rintro o x x' h ⟨hfound, hsaved, ⟨n, hcounted⟩, happended, hforeground, hslept⟩
    exact ⟨hfound, head_of_extends h.saves hsaved, ⟨n, head_of_extends h.counts hcounted⟩,
      head_of_extends h.events happended, head_of_extends h.foregrounds hforeground, getElem_of_extends h.sleeps hslept⟩

/-- The workflow is that of a contract, synchronized with an observation. -/
structure InStep (w : ContractWorkflow) (current : ContractWorkflow) (o : Observation) : Prop where
  matching : ∀ snapshot, matchingWork snapshot current = matchingWork snapshot w
  session : current.gameSessionId = o.semanticAfter.gameSessionId
  save : current.saveIdentity = saveIdentityText o.semanticAfter.saveIdentity
  sequence : current.lastBridgeSequence = o.semanticAfter.bridgeSequence

section
variable {s : Watch} {st : Unit} {before o : Observation} {w current updated : ContractWorkflow} {p : Standing}
  {runSeconds : ℚ} {gestures : Nat} {dryRun provided : Bool}

theorem inStep_of_synchronizeWorkflow (h : synchronizeWorkflow current o.semanticAfter = .ok updated)
    (hmatching : ∀ snapshot, matchingWork snapshot current = matchingWork snapshot w) : InStep w updated o := by
  unfold synchronizeWorkflow at h
  split at h
  · cases h
  rename_i hsame
  simp only [ne_eq, not_or, not_not] at hsame
  split at h
  · cases h
  obtain ⟨found, -, hw⟩ := Except.bind_eq_ok.mp h
  cases found with
  | none =>
    cases hw
    exact ⟨hmatching, hsame.1, hsame.2, rfl⟩
  | some item =>
    cases hw
    exact ⟨hmatching, hsame.1, hsame.2, rfl⟩

/-- A continued observation synchronizes exactly where the work of the contract is one item at most. -/
theorem InStep.synchronizes (h : InStep w current before) (hcontinuous : requireContinuity contracts before o = .ok ()) :
    (∃ updated, synchronizeWorkflow current o.semanticAfter = .ok updated) ↔
      ∃ found, matchingWork o.semanticAfter w = .ok found := by
  unfold requireContinuity at hcontinuous
  dsimp only at hcontinuous
  split at hcontinuous
  · cases hcontinuous
  rename_i hkept
  simp only [ne_eq, not_or, not_not, not_le] at hkept
  obtain ⟨-, hsession, hsave, hsequence, -⟩ := hkept
  unfold synchronizeWorkflow
  rw [if_neg (by simp [h.session, h.save, hsession, hsave]), if_neg (by rw [h.sequence]; omega), h.matching]
  cases matchingWork o.semanticAfter w with
  | error e => exact iff_of_false (fun ⟨_, h⟩ => nomatch h) fun ⟨_, h⟩ => nomatch h
  | ok found =>
    cases found with
    | none => exact iff_of_true ⟨_, rfl⟩ ⟨_, rfl⟩
    | some item => exact iff_of_true ⟨_, rfl⟩ ⟨_, rfl⟩

/-! ### Before the interval -/

/-- Where a step before the interval leads: an answer, or the next standing. -/
def Leads (w : ContractWorkflow) (r : ContractOperationResult ⊕ Standing) (s : Watch) : Prop :=
  s.Before ∧ ∀ p, r = .inr p → s.At p.before ∧ InStep w p.workflow p.before

theorem Leads.inl (h : s.Before) (r : ContractOperationResult) : Leads w (.inl r) s := ⟨h, fun _ h => by cases h⟩

theorem Leads.inr (h : s.At p.before) (hstep : InStep w p.workflow p.before) : Leads w (.inr p) s :=
  ⟨h.toBefore, fun _ h' => by cases h'; exact ⟨h, hstep⟩⟩

theorem ends_appendCycleEvent {eventType detail : String} {sequence : Int} {stageBefore stageAfter : ContractStage}
    {action : Option String} {inputSent verified : Bool} (h : s.At o) :
    Py.Ends timed (appendCycleEvent current eventType sequence stageBefore stageAfter action inputSent verified detail) st s
      (fun _ _ s' => s'.At o) (fun _ _ s' => s'.Before) := by
  refine .bind (ends_uuid4 Watch.At.quiet h fun _ s₁ h₁ => ?_)
  refine .bind (SoftwareInc.ends_events Watch.At.quiet h₁ (fun n s₂ h₂ => ?_) fun _ _ h => h.toBefore)
  refine .bind (ends_require (fun _ => ?_) h₂.toBefore)
  exact SoftwareInc.ends_appendEvent Watch.At.quiet h₂ (fun _ h => h) fun _ _ h => h.toBefore

theorem clearance_ne_resume {scene : Scene} {targetId effect : String} (h : clearance scene = some (targetId, effect)) :
    targetId ≠ "resume_button" := by
  unfold clearance at h
  split at h
  · cases h
    decide
  · cases h
    decide
  · cases h
    decide
  · cases h

theorem ends_preflight : ∀ {steps : Nat} {p : Standing} {s : Watch} {st : Unit}, s.At p.before →
    InStep w p.workflow p.before →
    Py.Ends timed (preflight dryRun steps p) st s (fun r _ s' => Leads w r s') (fun _ _ s' => s'.Before)
  | steps, p, s, st, h, hstep => by
    unfold preflight
    split
    · exact .pure (.inr h hstep)
    · exact .raise h.toBefore
    · next targetId effect steps hclear =>
      refine .ite (fun _ => .pure (.inl h.toBefore _)) fun _ => ?_
      refine .bind (Watch.ends_target h (fun t s₁ ht h₁ => ?_) fun _ _ h => h)
      refine .bind (Watch.ends_click h₁ (ht ▸ clearance_ne_resume hclear) (fun closed s₂ h₂ => ?_) fun _ _ h => h)
      refine .bind (ends_require (fun _ => ?_) h₂.toBefore)
      refine .bind (.lift (fun current hcurrent => ?_) fun _ _ => h₂.toBefore)
      refine .bind (.lift (fun found _ => ?_) fun _ _ => h₂.toBefore)
      refine .bind (.lift (fun item _ => ?_) fun _ _ => h₂.toBefore)
      exact ends_preflight (p := ⟨current, closed, item, p.gestures + 1⟩) h₂
        (inStep_of_synchronizeWorkflow hcurrent hstep.matching)

theorem ends_finishReview {review : ObservedEntity} (h : s.At p.before) :
    Py.Ends timed (finishReview p review dryRun) st s (fun _ _ s' => s'.Before) (fun _ _ s' => s'.Before) := by
  refine .bind (Watch.ends_target h (fun t s₁ ht h₁ => ?_) fun _ _ h => h)
  refine .ite (fun _ => .pure h₁.toBefore) fun _ => ?_
  have hne : t.targetId ≠ "resume_button" := by
    rw [ht]
    exact workItem_ne_resume _ _
  refine .bind (Watch.ends_click h₁ hne (fun after s₂ h₂ => ?_) fun _ _ h => h)
  refine .bind (.lift (fun updated _ => ?_) fun _ _ => h₂.toBefore)
  refine .bind (.lift (fun found _ => ?_) fun _ _ => h₂.toBefore)
  refine .bind (.lift (fun reviewAfter _ => ?_) fun _ _ => h₂.toBefore)
  refine .bind (ends_require (fun _ => ?_) h₂.toBefore)
  refine .bind (ends_save (fun s₃ h₃ => ?_) fun _ s₃ h₃ => h₃ ▸ h₂.toBefore.note rfl)
  have h₃ : s₃.At after := h₃ ▸ h₂.note rfl rfl
  exact .seq (ends_appendCycleEvent h₃) (fun _ _ _ h => .pure h.toBefore) fun _ _ _ h => h

theorem ends_approveDeadline (h : s.At p.before) (hstep : InStep w p.workflow p.before) :
    Py.Ends timed (approveDeadline p provided) st s (fun r _ s' => Leads w r s') (fun _ _ s' => s'.Before) := by
  refine .ite (fun _ => .pure (.inr h hstep)) fun _ => ?_
  refine .bind (ends_uuid4 Watch.At.quiet h fun _ s₁ h₁ => ?_)
  refine .bind (.lift (fun pending _ => ?_) fun _ _ => h₁.toBefore)
  refine .bind (ends_save (fun s₂ h₂ => ?_) fun _ s₂ h₂ => h₂ ▸ h₁.toBefore.note rfl)
  have h₂ : s₂.At p.before := h₂ ▸ h₁.note rfl rfl
  refine .ite (fun _ => .pure (.inl h₂.toBefore _)) fun _ => ?_
  refine .bind (ends_approve (fun approved s₃ h₃ => ?_) fun _ s₃ h₃ => h₃ ▸ h₂.toBefore.note rfl)
  have h₃ : s₃.At p.before := h₃ ▸ h₂.note rfl rfl
  refine .bind (.lift (fun resolved hresolved => ?_) fun _ _ => h₃.toBefore)
  have hmatching : ∀ snapshot, matchingWork snapshot resolved = matchingWork snapshot w := by
    unfold resolveApproval at hresolved
    dsimp only at hresolved
    split at hresolved
    · cases hresolved
    · cases hresolved
      exact hstep.matching
  refine .bind (ends_save (fun s₄ h₄ => ?_) fun _ s₄ h₄ => h₄ ▸ h₃.toBefore.note rfl)
  have h₄ : s₄.At p.before := h₄ ▸ h₃.note rfl rfl
  refine .ite (fun _ => .pure (.inl h₄.toBefore _)) fun _ => ?_
  refine .bind (Watch.ends_observe h₄.toBefore (fun refreshed s₅ h₅ => ?_) fun _ _ h => h)
  refine .bind (.lift (fun _ _ => ?_) fun _ _ => h₅.toBefore)
  refine .bind (.lift (fun _ _ => ?_) fun _ _ => h₅.toBefore)
  refine .bind (ends_require (fun _ => ?_) h₅.toBefore)
  refine .bind (.lift (fun current hcurrent => ?_) fun _ _ => h₅.toBefore)
  refine .bind (.lift (fun found _ => ?_) fun _ _ => h₅.toBefore)
  refine .bind (.lift (fun item _ => ?_) fun _ _ => h₅.toBefore)
  exact .pure (.inr h₅ (inStep_of_synchronizeWorkflow hcurrent hmatching))

theorem ends_activateWork (h : s.At p.before) (hstep : InStep w p.workflow p.before) :
    Py.Ends timed (activateWork p dryRun) st s (fun r _ s' => Leads w r s') (fun _ _ s' => s'.Before) := by
  refine .ite (fun _ => .pure (.inr h hstep)) fun _ => ?_
  refine .ite (fun _ => .pure (.inl h.toBefore _)) fun _ => ?_
  refine .bind (Watch.ends_target h (fun t s₁ ht h₁ => ?_) fun _ _ h => h)
  have hne : t.targetId ≠ "resume_button" := by
    rw [ht]
    exact workItem_ne_resume _ _
  refine .bind (Watch.ends_click h₁ hne (fun activated s₂ h₂ => ?_) fun _ _ h => h)
  refine .bind (.lift (fun current hcurrent => ?_) fun _ _ => h₂.toBefore)
  refine .bind (.lift (fun found _ => ?_) fun _ _ => h₂.toBefore)
  refine .bind (.lift (fun item _ => ?_) fun _ _ => h₂.toBefore)
  refine .bind (ends_require (fun _ => ?_) h₂.toBefore)
  refine .bind (ends_save (fun s₃ h₃ => ?_) fun _ s₃ h₃ => h₃ ▸ h₂.toBefore.note rfl)
  have h₃ : s₃.At activated := h₃ ▸ h₂.note rfl rfl
  refine .seq (ends_appendCycleEvent h₃) (fun _ _ s₄ h₄ => .pure ?_) fun _ _ _ h => h
  exact .inr h₄ (inStep_of_synchronizeWorkflow hcurrent hstep.matching)

/-! ### The interval -/

/-- The replies once the resumed workflow is saved and its event is kept. -/
def noted (before o : Observation) (n : Nat) : Since where
  before := some before
  sleeps := [.ok ()]
  observations := [.ok o]
  saves := [.ok ()]
  counts := [.ok n]
  events := [.ok ()]

/-- The game was resumed, and the workflow is in step with what was seen then. -/
structure Resumed (w : ContractWorkflow) (before : Observation) (current : ContractWorkflow) (s : Watch) : Prop where
  resumed : ∃ o n, s.since = some (noted before o n) ∧ Running contracts o (noted before o n) ∧ InStep w current o ∧
    ∃ found, matchingWork o.semanticAfter w = .ok found

/-- The game was never resumed, is stopped, or runs. -/
def Interval (w : ContractWorkflow) (before : Observation) (current : ContractWorkflow) (s : Watch) : Prop :=
  s.Before ∨ Safe contracts (course w) s ∨ Resumed w before current s

/-- The event of the resume gesture. -/
theorem ends_eventAfterResume {eventType detail : String} {sequence : Int} {stageBefore stageAfter : ContractStage}
    {action : Option String} {inputSent verified : Bool} {x : Since} {ok : Unit → Unit → Watch → Prop}
    {er : UIError → Unit → Watch → Prop} (hs : s.since = some x) (hrunning : Running contracts o x) (hx : x.counts = [])
    (hx' : x.events = []) (hdetail : sized 1 2048 detail = true)
    (ho : ∀ n s', s'.since = some { x with counts := [.ok n], events := [.ok ()] } → ok () st s')
    (he : ∀ e s', Decided contracts (course w) s' → er e st s') :
    Py.Ends timed (appendCycleEvent current eventType sequence stageBefore stageAfter action inputSent verified detail) st s
      ok er := by
  refine .bind (.perform fun u s₁ h₁ => ?_)
  have hs₁ : s₁.since = some x := by
    subst h₁
    exact Watch.since_note hs _ _
  refine .bind (Watch.ends_events (fun n => ?_) fun e => ?_)
  swap
  · refine he e _ (Running.decided (hrunning.note rfl rfl rfl) (Watch.since_note hs₁ _ _) fun hgoes => ?_)
    obtain ⟨n, hn⟩ := hgoes.2.2.1 (.error e) (by simp [Since.note, hx])
    cases hn
  refine .bind (.ite (fun _ => .pure ?_) fun h => absurd hdetail h)
  have hs₂ := Watch.since_note hs₁ (.events current.workflowId : Call WorkflowId ContractWorkflow ContractApproval ContractCycleEvent)
    (.ok n)
  refine Watch.ends_appendEvent (ho n _ ?_) fun e => he e _ ?_
  · rw [Watch.since_note hs₂]
    simp [Since.note, hx, hx']
  · have hrunning₂ : Running contracts o { x with counts := x.counts ++ [.ok n] } :=
      hrunning.frame rfl rfl rfl (List.prefix_refl _) rfl
    refine Running.decided (hrunning₂.note rfl rfl rfl) (Watch.since_note hs₂ _ _) fun hgoes => ?_
    cases hgoes.2.2.2.1 (.error e) (by simp [Since.note, hx'])

theorem ends_resumeWork (h : s.At p.before) (hstep : InStep w p.workflow p.before) :
    Py.Ends timed (resumeWork p) st s (fun q _ s' => Interval w p.before q.1 s')
      (fun _ _ s' => Decided contracts (course w) s') := by
  refine .ite (fun _ => .pure (.inl h.toBefore)) fun _ => ?_
  refine .bind (Watch.ends_target h (fun t s₁ ht h₁ => ?_) fun _ _ h => decided_of_none h.since)
  refine .bind ((ends_resume h₁ ht).mono (fun o _ s₂ h₂ => ?_) fun _ _ _ h => h)
  obtain ⟨hs, hcontinuous⟩ := h₂
  cases hpaused : o.paused with
  | true =>
    refine ((Since.resumed_safe hs hpaused).ends _).mono (fun q _ s' hsafe => .inr (.inl hsafe)) fun _ _ _ h => h.decided
  | false =>
    have hrunning := Since.resumed_running hcontinuous hpaused
    have hsynchronizes := hstep.synchronizes hcontinuous
    refine .bind (.lift (fun resumed hresumed => ?_) fun e he => ?_)
    swap
    · refine hrunning.decided hs fun hgoes => ?_
      obtain ⟨updated, hupdated⟩ := hsynchronizes.mpr hgoes.1
      rw [he] at hupdated
      cases hupdated
    have hfound := hsynchronizes.mp ⟨resumed, hresumed⟩
    refine .bind (ends_save (fun s₃ h₃ => ?_) fun e s₃ h₃ => ?_)
    swap
    · subst h₃
      refine Running.decided (hrunning.note rfl rfl rfl) (Watch.since_note hs _ _) fun hgoes => ?_
      cases hgoes.2.1 (.error e) rfl
    have hs₃ : s₃.since = some { Since.resumed p.before o with saves := [.ok ()] } := by
      subst h₃
      exact Watch.since_note hs _ _
    have hrunning₃ : Running contracts o { Since.resumed p.before o with saves := [.ok ()] } :=
      hrunning.frame rfl rfl rfl (List.prefix_refl _) rfl
    refine .bind (ends_eventAfterResume hs₃ hrunning₃ rfl rfl (by decide) (fun n s₄ h₄ => ?_) fun _ _ h => h)
    have hrunning₄ : Running contracts o (noted p.before o n) :=
      hrunning.frame rfl rfl rfl (List.prefix_refl _) rfl
    exact .pure (.inr (.inr ⟨o, n, h₄, hrunning₄, inStep_of_synchronizeWorkflow hresumed hstep.matching, hfound⟩))

/-- From the second observation on, the pause. -/
theorem ends_pauseWork_running {x : Since} (hs : s.since = some x) (hrunning : Running contracts o x)
    (hgone : (course w).gone o x) (hmatching : ∀ snapshot, matchingWork snapshot current = matchingWork snapshot w) :
    Py.Ends timed (pauseWork current gestures) st s (fun _ _ s' => Safe contracts (course w) s')
      (fun _ _ s' => Decided contracts (course w) s') := by
  refine ends_secondObservation hrunning hs hgone (fun o' s' _ hsafe => ?_) fun o' x' s' hp h' htimes hs' hgone' => ?_
  · exact (hsafe.ends _).mono (fun _ _ _ h => h) fun _ _ _ h => h.decided
  · refine .ite (fun hpaused => ?_) fun _ => ?_
    · rw [hp] at hpaused
      cases hpaused
    refine .bind (.lift (fun found hfound => ?_) fun e he => ?_)
    · rw [hmatching] at hfound
      exact ends_pauseClick h' hs' htimes hgone' ⟨found, hfound⟩ (by decide)
    · refine h'.decided hs' ?_
      rintro ⟨⟨found, hfound⟩, -⟩
      rw [← hmatching, he] at hfound
      cases hfound

/-- Where the game was never resumed, the pause resumes nothing. -/
theorem ends_pauseWork_before (h : s.Before) :
    Py.Ends timed (pauseWork current gestures) st s (fun _ _ s' => s'.Before) (fun _ _ s' => s'.Before) := by
  refine .bind (Watch.ends_observe h (fun o s₁ h₁ => ?_) fun _ _ h => h)
  refine .ite (fun _ => .pure h₁.toBefore) fun _ => ?_
  refine .bind (.lift (fun found _ => ?_) fun _ _ => h₁.toBefore)
  refine .bind (Watch.ends_target h₁ (fun t s₂ ht h₂ => ?_) fun _ _ h => h)
  refine .bind (Watch.ends_click h₂ (by rw [ht]; decide) (fun paused s₃ h₃ => ?_) fun _ _ h => h)
  refine .bind (.lift (fun pausedWorkflow _ => ?_) fun _ _ => h₃.toBefore)
  refine .bind (ends_save (fun s₄ h₄ => ?_) fun _ s₄ h₄ => h₄ ▸ h₃.toBefore.note rfl)
  have h₄ : s₄.At paused := h₄ ▸ h₃.note rfl rfl
  exact .seq (ends_appendCycleEvent h₄) (fun _ _ _ h => .pure h.toBefore) fun _ _ _ h => h

/-- After the interval and the pause; what follows is of no matter where the game was resumed. -/
theorem ends_waitAndPause {α : Type} {m : ContractWorkflow × Observation × Nat → Op α} (h : Interval w before current s)
    (hm : ∀ q s', s'.Before → Py.Ends timed (m q) st s' (fun _ _ s' => s'.Before) (fun _ _ s' => s'.Before)) :
    Py.Ends timed (do
        Operation.keepGameForeground
        Operation.sleep runSeconds
        let q ← pauseWork current gestures
        m q) st s
      (fun _ _ s' => Decided contracts (course w) s') (fun _ _ s' => Decided contracts (course w) s') := by
  have hnone : ∀ {s : Watch}, s.Before → Decided contracts (course w) s := fun h => decided_of_none h.since
  rcases h with h | h | h
  · refine .bind (ends_keepGameForeground (fun s₁ h₁ => ?_) fun _ s₁ h₁ => hnone (h₁ ▸ h.note rfl))
    have h₁ : s₁.Before := h₁ ▸ h.note rfl
    refine .bind (ends_sleep (fun s₂ h₂ => ?_) fun _ s₂ h₂ => hnone (h₂ ▸ h₁.note rfl))
    have h₂ : s₂.Before := h₂ ▸ h₁.note rfl
    refine .seq (ends_pauseWork_before h₂) (fun q _ s₃ h₃ => ?_) fun _ _ _ h => hnone h
    exact (hm q s₃ h₃).mono (fun _ _ _ h => hnone h) fun _ _ _ h => hnone h
  · exact (h.ends _).mono (fun _ _ _ h => h.decided) fun _ _ _ h => h.decided
  · obtain ⟨o, n, hs, hrunning, hstep, hfound⟩ := h.resumed
    refine .bind (ends_keepGameForeground (fun s₁ h₁ => ?_) fun e s₁ h₁ => ?_)
    swap
    · subst h₁
      refine Running.decided (hrunning.note rfl rfl rfl) (Watch.since_note hs _ _) fun hgoes => ?_
      cases hgoes.2.2.2.2.1 (.error e) rfl
    have hs₁ : s₁.since = some { noted before o n with foregrounds := [.ok ()] } := by
      subst h₁
      exact Watch.since_note hs _ _
    have hrunning₁ : Running contracts o { noted before o n with foregrounds := [.ok ()] } :=
      hrunning.frame rfl rfl rfl (List.prefix_refl _) rfl
    refine .bind (ends_sleep (fun s₂ h₂ => ?_) fun e s₂ h₂ => ?_)
    swap
    · subst h₂
      refine Running.decided (hrunning₁.note rfl rfl rfl) (Watch.since_note hs₁ _ _) fun hgoes => ?_
      cases hgoes.2.2.2.2.2 (.error e) rfl
    have hs₂ : s₂.since = some { noted before o n with foregrounds := [.ok ()], sleeps := [.ok (), .ok ()] } := by
      subst h₂
      exact Watch.since_note hs₁ _ _
    have hrunning₂ : Running contracts o
        { noted before o n with foregrounds := [.ok ()], sleeps := [.ok (), .ok ()] } :=
      hrunning.frame rfl rfl rfl ⟨[.ok ()], rfl⟩ rfl
    refine .seq (ends_pauseWork_running hs₂ hrunning₂ ⟨hfound, rfl, ⟨n, rfl⟩, rfl, rfl, rfl⟩ hstep.matching)
      (fun q _ s₃ h₃ => ?_) fun _ _ _ h => h
    exact (h₃.ends _).mono (fun _ _ _ h => h.decided) fun _ _ _ h => h.decided

theorem Before.ends_appendCycleEvent {eventType detail : String} {sequence : Int} {stageBefore stageAfter : ContractStage}
    {action : Option String} {inputSent verified : Bool} (h : s.Before) :
    Py.Ends timed (appendCycleEvent current eventType sequence stageBefore stageAfter action inputSent verified detail) st s
      (fun _ _ s' => s'.Before) (fun _ _ s' => s'.Before) := by
  have hquiet := (Watch.before_calm (I := WorkflowId) (W := ContractWorkflow) (A := ContractApproval)
    (E := ContractCycleEvent)).toQuiet
  refine .bind (ends_uuid4 hquiet h fun _ s₁ h₁ => ?_)
  refine .bind (SoftwareInc.ends_events hquiet h₁ (fun n s₂ h₂ => ?_) fun _ _ h => h)
  refine .bind (ends_require (fun _ => ?_) h₂)
  exact SoftwareInc.ends_appendEvent hquiet h₂ (fun _ h => h) fun _ _ h => h

theorem ends_runBoundedContract (h : s.At p.before) (hstep : InStep w p.workflow p.before) :
    Py.Ends timed (runBoundedContract p runSeconds) st s (fun _ _ s' => Decided contracts (course w) s')
      (fun _ _ s' => Decided contracts (course w) s') := by
  refine .seq (ends_resumeWork h hstep) (fun q _ s₁ h₁ => ?_) fun _ _ _ h => h
  refine ends_waitAndPause h₁ fun q s₂ h₂ => ?_
  refine .bind (.lift (fun updated _ => ?_) fun _ _ => h₂)
  refine .bind (.lift (fun found _ => ?_) fun _ _ => h₂)
  cases found with
  | none => exact .raise h₂
  | some item =>
    refine .bind (ends_require (fun _ => ?_) h₂)
    refine .bind (ends_save (fun s₃ h₃ => ?_) fun _ s₃ h₃ => h₃ ▸ h₂.note rfl)
    have h₃ : s₃.Before := h₃ ▸ h₂.note rfl
    exact .seq (Before.ends_appendCycleEvent h₃) (fun _ _ _ h => .pure h) fun _ _ _ h => h

theorem ends_advanceContract (h : s.Before) :
    Py.Ends timed (advanceContract w runSeconds provided dryRun) st s (fun _ _ s' => Decided contracts (course w) s')
      (fun _ _ s' => Decided contracts (course w) s') := by
  have hnone : ∀ {s : Watch}, s.Before → Decided contracts (course w) s := fun h => decided_of_none h.since
  refine .bind (ends_require (fun _ => ?_) (hnone h))
  refine .bind (Watch.ends_observe h (fun before s₁ h₁ => ?_) fun _ _ h => hnone h)
  refine .bind (.lift (fun current hcurrent => ?_) fun _ _ => h₁.decided)
  have hstep : InStep w current before := inStep_of_synchronizeWorkflow hcurrent fun _ => rfl
  refine .bind (.lift (fun found _ => ?_) fun _ _ => h₁.decided)
  rcases found with _ | item
  · exact .raise h₁.decided
  refine .seq (ends_preflight (p := ⟨current, before, item, 0⟩) h₁ hstep) (fun r _ s₂ h₂ => ?_) fun _ _ _ h => hnone h
  rcases r with answered | p
  · exact .pure (hnone h₂.1)
  obtain ⟨hat, hstep⟩ := h₂.2 p rfl
  refine .bind (ends_require (fun _ => ?_) hat.decided)
  refine .bind (.lift (fun review _ => ?_) fun _ _ => hat.decided)
  rcases review with _ | review
  swap
  · exact (ends_finishReview hat).mono (fun _ _ _ h => hnone h) fun _ _ _ h => hnone h
  refine .seq (ends_approveDeadline hat hstep) (fun r _ s₃ h₃ => ?_) fun _ _ _ h => hnone h
  rcases r with answered | p
  · exact .pure (hnone h₃.1)
  obtain ⟨hat, hstep⟩ := h₃.2 p rfl
  refine .seq (ends_activateWork hat hstep) (fun r _ s₄ h₄ => ?_) fun _ _ _ h => hnone h
  rcases r with answered | p
  · exact .pure (hnone h₄.1)
  obtain ⟨hat, hstep⟩ := h₄.2 p rfl
  exact .ite (fun _ => .pure hat.decided) fun _ => ends_runBoundedContract hat hstep

end

end Contracts.Progression

/-! ## When a progression leaves the game stopped -/

/-- **However a bounded progression ends, the game that it resumed is stopped exactly where the
replies do not stand in the way.** -/
theorem stopped_iff (runSeconds : ℚ) (dryRun : Bool) :
    (∀ (w : Contracts.ContractWorkflow) provided result s',
      (Contracts.advanceContract w runSeconds provided dryRun ()).Run timed {} (result, ()) s' →
        ∀ x ∈ s'.since, x.Stopped ↔ (Contracts.Progression.course w).Stops Contracts.contracts x) ∧
    (∀ (w : Training.TrainingWorkflow) st result st' s',
      (Training.advanceTraining w runSeconds dryRun st).Run timed {} (result, st') s' →
        ∀ x ∈ s'.since, x.Stopped ↔ Training.Progression.course.Stops Training.education x) ∧
    (∀ (w : Products.ProductWorkflow) st result st' s',
      (Products.advanceProduct w runSeconds dryRun st).Run timed {} (result, st') s' →
        ∀ x ∈ s'.since, x.Stopped ↔ (Products.Progression.course w.productName).Stops Products.atlas x) := by
  refine ⟨fun w provided result s' hrun => ?_, fun w st result st' s' hrun => ?_, fun w st result st' s' hrun => ?_⟩
  · cases result with
    | ok r => exact (Contracts.Progression.ends_advanceContract ⟨rfl⟩).returns hrun
    | error e => exact (Contracts.Progression.ends_advanceContract ⟨rfl⟩).raises hrun
  · cases result with
    | ok r => exact (Training.Progression.ends_advanceTraining ⟨rfl⟩).returns hrun
    | error e => exact (Training.Progression.ends_advanceTraining ⟨rfl⟩).raises hrun
  · cases result with
    | ok r => exact (Products.Progression.ends_advanceProduct ⟨rfl⟩).returns hrun
    | error e => exact (Products.Progression.ends_advanceProduct ⟨rfl⟩).raises hrun

/-! ## A game that is left running -/

namespace Training

section Example

/-- Ada in her course, in a paused game with its resume button. -/
def adaPaused : Observation where
  semanticAfter := { adaShown "Designer:System" 3 with gameState := [("force_pause", .boolean true)] }
  frame := ⟨"frame", 1, "window"⟩
  scene := .gameplayPaused
  modalState := .none
  projectionId := "projection"
  targets := [⟨"resume_button", "frame", true, 1, 10⟩]

/-- Everything succeeds but the wait. -/
def cancelled (o : Call WorkflowId TrainingWorkflow TrainingApproval TrainingCycleEvent) (s : Watch) :
    Option (Reply o × Watch) :=
  let reply : Reply o := match o with
    | .observe => .ok adaPaused
    | .sleep _ => .error .external
    | .execute _ | .keepGameForeground | .save _ | .appendEvent _ => .ok ()
    | .approve _ => .ok true
    | .get _ | .current _ _ => .ok none
    | .events _ => .ok 0
    | .uuid4 => (0 : Nat)
    | .now => (1 : Nat)
  some (reply, s.note o reply)

/-- An advance for ten seconds whose wait is cancelled: whether it was resumed, and what was sent and seen then. -/
def cancelledAdvance : Option (Nat × List String) := do
  let created ← (createTrainingWorkflow (adaShown "" 1) adaEligible 1).toOption
  let w ← (synchronizeTraining created (adaShown "Designer:System" 2) 2).toOption
  let (_, s) ← (advanceTraining w 10 false none).play cancelled {}
  let x ← s.since
  return (x.observations.length, x.gestures)

set_option maxRecDepth 8000 in
theorem cancelledAdvance_eq : cancelledAdvance = some (0, []) := by
  simp only [cancelledAdvance, createTrainingWorkflow, checkedApproval, TrainingApproval.valid, sized_eq_countP]
  decide +kernel

theorem exists_cancelledAdvance : ∃ w result st s x,
    (advanceTraining w 10 false none).Run timed {} (result, st) s ∧ x ∈ s.since ∧ ¬ x.Stopped := by
  have h := cancelledAdvance_eq
  simp only [cancelledAdvance, Option.bind_eq_bind, Option.bind_eq_some_iff, Option.pure_def, Option.some.injEq,
    Prod.mk.injEq] at h
  obtain ⟨created, -, w, -, ⟨⟨result, st⟩, s⟩, hplay, x, hx, hseen, hsent⟩ := h
  refine ⟨w, result, st, s, x, Prog.run_of_play (fun o s r s' hs => ?_) hplay, hx, ?_⟩
  · simp only [cancelled, Option.some.injEq, Prod.mk.injEq] at hs
    obtain ⟨rfl, rfl⟩ := hs
    rfl
  · rintro (⟨o, ho, -⟩ | hpause)
    · rw [List.length_eq_zero_iff.mp hseen] at ho
      cases ho
    · rw [hsent] at hpause
      cases hpause

/-- A wait that is cancelled while the resume click settles leaves the game running. -/
theorem left_running :
    ¬ ∀ (w : TrainingWorkflow) runSeconds dryRun st result st' s',
      (advanceTraining w runSeconds dryRun st).Run timed {} (result, st') s' → ∀ x ∈ s'.since, x.Stopped := by
  intro h
  obtain ⟨w, result, st, s, x, hrun, hx, hrunning⟩ := exists_cancelledAdvance
  exact hrunning (h _ _ _ _ _ _ _ hrun x hx)

theorem stopped_iff_cancelled : ∃ x : Since, ¬ Progression.course.Stops education x := by
  obtain ⟨w, result, st, s, x, hrun, hx, hrunning⟩ := exists_cancelledAdvance
  exact ⟨x, fun h => hrunning (((stopped_iff _ _).2.1 _ _ _ _ _ hrun x hx).mpr h)⟩

end Example

end Training

end SimPilot.SoftwareInc
