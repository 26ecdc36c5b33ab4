import SimPilot.SoftwareInc.Store
import SimPilot.SoftwareInc.Contracts.Operator
/-!
# Who owns a save

A call that gets as far as proposing a workflow saves it as an open one, and nothing that a
later call does closes it: the acceptance of another contract in the same save is refused from
then on.
-/

namespace SimPilot.SoftwareInc.Contracts

open GameBridge Effect Py StoreKind

/-- `ContractWorkflowStore` -/
def contractStore : StoreKind WorkflowId ContractWorkflow where
  workflowId := (·.workflowId)
  gameSessionId := (·.gameSessionId)
  saveIdentity := (·.saveIdentity)
  isOpen w := decide (w.status ≠ .completed ∧ w.status ≠ .failed)
  owned := .validation "another open contract workflow already owns the current save"
  commitment := "commit_contract"

/-- The world of the contract operator. -/
def market : Semantics (Call WorkflowId ContractWorkflow ContractApproval ContractCycleEvent) Reply
    (Shelf ContractWorkflow) := contractStore.stored

/-- The plan of a request. -/
def AcceptRequest.plan (q : AcceptRequest) : WorkflowId where
  contractId := q.candidate.contract.contractId
  gameSessionId := q.recommendation.gameSessionId
  saveIdentity := q.recommendation.saveIdentity
  team := q.candidate.teamName
  minimumReward := q.candidate.minimumReward
  minimumCashReserve := q.candidate.minimumCashReserve

/-- A workflow is open, and so is every row. -/
structure Open (rows : List ContractWorkflow) : Prop where
  rows : ∀ v ∈ rows, contractStore.isOpen v = true

/-- An open workflow owns its save, among open ones. -/
structure Mine (w : ContractWorkflow) (s : Shelf ContractWorkflow) : Prop where
  owns : contractStore.Owns w none s
  isOpen : contractStore.isOpen w = true
  rows : Open s.rows

/-- The store refused nothing and its rows are open. -/
structure Unrefused (s : Shelf ContractWorkflow) : Prop where
  refused : s.refused = false
  rows : Open s.rows

section
variable {w w' : ContractWorkflow} {s s' : Shelf ContractWorkflow} {st : Unit} {provided dryRun : Bool}
  {gestures sequence : Nat} {er : UIError → Unit → Shelf ContractWorkflow → Prop}

theorem Mine.unrefused (h : Mine w s) : Unrefused s := ⟨h.owns.refused, h.rows⟩

theorem Open.upsert {rows : List ContractWorkflow} (h : Open rows) (hw : contractStore.isOpen w = true) :
    Open (contractStore.upsert rows w) := by
  refine ⟨fun v hv => ?_⟩
  rcases contractStore.mem_upsert.mp hv with rfl | ⟨hv, -⟩
  · exact hw
  · exact h.rows v hv

theorem Mine.execute {g : InputGesture} {r : Except UIError Unit} (h : Mine w s) (hs : market (.execute g) s r s') :
    Mine w s' := by
  have hrows : s'.rows = s.rows := by
    have hs : s' = _ := hs
    rw [hs]
  exact ⟨h.owns.execute hs, h.isOpen, hrows ▸ h.rows⟩

theorem ends_save_mine {ok : Unit → Unit → Shelf ContractWorkflow → Prop} (h : Mine w s)
    (hsame : contractStore.SameOwner w w') (hopen : contractStore.isOpen w' = true)
    (ho : ∀ s', Mine w' s' → ok () st s') (he : ∀ e, er e st s) :
    Py.Ends market (Operation.save w' : Op Unit) st s ok er := by
  refine ends_save_own h.owns hsame (fun s' hrows howns => ho s' ⟨howns.of_same hsame, hopen, ?_⟩) he
  rw [hrows]
  exact h.rows.upsert hopen

theorem ends_askAcceptance (h : Mine w s) :
    Py.Ends market (askAcceptance w provided dryRun gestures) st s
      (fun r _ s' => match r with
        | .inl _ => Unrefused s'
        | .inr approved => Mine approved s') (fun _ _ s' => Unrefused s') := by
  unfold askAcceptance
  refine .bind (ends_uuid4 (calm (L := Mine w)).toQuiet h fun n s₁ h₁ => ?_)
  refine .bind (.lift (fun pending _ => ?_) fun _ _ => h₁.unrefused)
  refine .bind (ends_save_mine h₁ ⟨rfl, rfl, rfl⟩ rfl (fun s₂ h₂ => ?_) fun _ => h₁.unrefused)
  refine .ite (fun _ => .pure h₂.unrefused) fun _ => ?_
  refine .ite (fun _ => .pure h₂.unrefused) fun _ => ?_
  refine .bind (ends_approve (fun yes s₃ h₃ => ?_) fun e s₃ h₃ => ?_)
  · cases h₃
    refine .bind (.lift (fun resolved hresolved => ?_) fun _ _ => h₂.unrefused)
    have hopen : contractStore.isOpen resolved = true ∧ contractStore.SameOwner w resolved := by
      unfold resolveApproval at hresolved
      dsimp only at hresolved
      split at hresolved
      · cases hresolved
      · cases hresolved
        cases yes with
        | true => exact ⟨rfl, rfl, rfl, rfl⟩
        | false => exact ⟨rfl, rfl, rfl, rfl⟩
    refine .bind (ends_save_mine h₂ ⟨hopen.2.id, hopen.2.session, hopen.2.save⟩ hopen.1 (fun s₃ h₃ => ?_)
      fun _ => h₂.unrefused)
    exact .ite (fun _ => .pure h₃.unrefused) fun _ => .pure h₃
  · cases h₃
    exact h₂.unrefused

theorem ends_approveAcceptance (h : Mine w s) :
    Py.Ends market (approveAcceptance w provided dryRun gestures) st s
      (fun r _ s' => match r with
        | .inl _ => Unrefused s'
        | .inr approved => Mine approved s') (fun _ _ s' => Unrefused s') := by
  unfold approveAcceptance
  refine .ite (fun _ => ?_) fun _ => ends_askAcceptance h
  exact .ite (fun _ => .pure h.unrefused) fun _ => .pure h

theorem ends_prepareCommitment {o : Observation} (h : Mine w s) :
    Py.Ends market (prepareCommitment w o provided dryRun gestures) st s
      (fun r _ s' => match r with
        | .inl _ => Unrefused s'
        | .inr (approved, _) => Mine approved s') (fun _ _ s' => Unrefused s') := by
  unfold prepareCommitment
  refine .seq (ends_approveAcceptance h) (fun r st' s₁ h₁ => ?_) fun _ _ _ h => h
  rcases r with answered | approved
  · exact .pure h₁
  · have h₁ : Mine approved s₁ := h₁
    refine .bind (ends_observe (fun refreshed s₂ h₂ => ?_) fun e s₂ h₂ => ?_)
    · cases h₂
      refine .bind (.lift (fun _ _ => ?_) fun _ _ => h₁.unrefused)
      refine .bind (.lift (fun _ _ => ?_) fun _ _ => h₁.unrefused)
      refine .bind (.lift (fun _ _ => ?_) fun _ _ => h₁.unrefused)
      exact .pure h₁
    · cases h₂
      exact h₁.unrefused

theorem ends_clickVerified {before : Observation} {t : VisualTarget} {effect : String} (h : Mine w s) :
    Py.Ends market (clickVerified w before t effect sequence) st s (fun p _ s' => Mine p.1 s')
      (fun _ _ s' => Unrefused s') := by
  unfold clickVerified
  refine .bind (ends_click contracts (calm (L := Mine w)) (fun g r s' _ hs => h.execute hs)
    (fun after _ s₁ _ _ h₁ => ?_) (fun _ => h.unrefused) fun _ _ h => h.unrefused)
  refine .bind (.lift (fun _ _ => ?_) fun _ _ => h₁.unrefused)
  refine .bind (ends_save_mine h₁ ⟨rfl, rfl, rfl⟩ h₁.isOpen (fun s₂ h₂ => ?_) fun _ => h₁.unrefused)
  refine .bind (ends_uuid4 (calm (L := Mine _)).toQuiet h₂ fun _ s₃ h₃ => ?_)
  exact .bind (ends_appendEvent (calm (L := Mine _)).toQuiet h₃ (fun s₄ h₄ => .pure h₄) fun _ _ h => h.unrefused)

theorem ends_acceptCycles : ∀ {cycles : Nat} {w : ContractWorkflow} {current : Observation} {gestures sequence : Nat}
    {configuring : Option Configuring} {st : Unit} {s : Shelf ContractWorkflow}, Mine w s →
    Py.Ends market (acceptCycles provided dryRun cycles w current gestures sequence configuring) st s
      (fun _ _ s' => Unrefused s') (fun _ _ s' => Unrefused s')
  | 0, _, _, _, _, _, _, _, h => .raise h.unrefused
  | cycles + 1, w, current, gestures, sequence, configuring, st, s, h => by
    unfold acceptCycles
    refine .bind (.lift (fun _ _ => ?_) fun _ _ => h.unrefused)
    refine .bind (.lift (fun item _ => ?_) fun _ _ => h.unrefused)
    rcases item with _ | item
    swap
    · exact .bind (ends_save_mine h ⟨rfl, rfl, rfl⟩ rfl (fun s₁ h₁ => .pure h₁.unrefused) fun _ => h.unrefused)
    refine .bind (.lift (fun input _ => ?_) fun _ _ => h.unrefused)
    rcases input with _ | ⟨targetId, effect, configuring'⟩
    · refine .seq (ends_prepareCommitment h) (fun r st' s₁ h₁ => ?_) fun _ _ _ h => h
      rcases r with answered | ⟨approved, refreshed⟩
      · exact .pure h₁
      have h₁ : Mine approved s₁ := h₁
      refine .bind (ends_target contracts (calm (L := Mine approved)).toQuiet h₁ (fun t s₂ _ h₂ => ?_)
        fun _ _ h => h.unrefused)
      refine .seq (ends_clickVerified h₂) (fun p st' s₃ h₃ => ?_) fun _ _ _ h => h
      exact ends_acceptCycles h₃
    · refine .bind (ends_target contracts (calm (L := Mine w)).toQuiet h (fun t s₁ _ h₁ => ?_) fun _ _ h => h.unrefused)
      refine .ite (fun _ => .pure h₁.unrefused) fun _ => ?_
      refine .seq (ends_clickVerified h₁) (fun p st' s₂ h₂ => ?_) fun _ _ _ h => h
      exact ends_acceptCycles h₂

end

/-! ## One call -/

/-- Another contract than the plan's has an open workflow for the session and the save. -/
def OwnedByOther (plan : WorkflowId) (rows : List ContractWorkflow) : Prop :=
  ∃ v ∈ rows, v.gameSessionId = plan.gameSessionId ∧ v.saveIdentity = plan.saveIdentity ∧ v.workflowId ≠ plan

/-- What a call leaves: open rows, and a refusal exactly where the save is another's. -/
structure Accepted (plan : WorkflowId) (rows : List ContractWorkflow) (s' : Shelf ContractWorkflow) : Prop where
  openRows : Open s'.rows
  refused : s'.answered = true → (s'.refused = true ↔ OwnedByOther plan rows)

section
variable {s : Shelf ContractWorkflow} {q : AcceptRequest} {provided dryRun : Bool} {w : ContractWorkflow}

/-- A workflow of the plan that is saved first. -/
theorem createWorkflow_eq_ok {snapshot : GameSnapshot} {candidate : ContractCandidate} {n : Nat}
    (h : createWorkflow snapshot candidate n = .ok w) :
    w.workflowId = materialOf snapshot candidate ∧ w.planFingerprint = w.workflowId ∧
      w.gameSessionId = snapshot.gameSessionId ∧ w.saveIdentity = saveIdentityText snapshot.saveIdentity ∧
      w.status = .waitingForApproval := by
  unfold createWorkflow at h
  split at h
  · cases h
  · obtain ⟨approval, -, hw⟩ := Except.bind_eq_ok.mp h
    cases hw
    exact ⟨rfl, rfl, rfl, rfl, rfl⟩

theorem conflict_iff {rows : List ContractWorkflow} (hrows : Open rows) (hopen : contractStore.isOpen w = true)
    {plan : WorkflowId} (hid : w.workflowId = plan) (hsession : w.gameSessionId = plan.gameSessionId)
    (hsave : w.saveIdentity = plan.saveIdentity) :
    contractStore.conflict rows w = true ↔ OwnedByOther plan rows := by
  have hkind : contractStore.workflowId w = plan ∧ contractStore.gameSessionId w = plan.gameSessionId ∧
      contractStore.saveIdentity w = plan.saveIdentity := ⟨hid, hsession, hsave⟩
  obtain ⟨hkid, hksession, hksave⟩ := hkind
  unfold StoreKind.conflict OwnedByOther
  rw [hopen, Bool.true_and, List.any_eq_true, hkid, hksession, hksave]
  refine exists_congr fun v => and_congr_right fun hv => ?_
  have hv := hrows.rows v hv
  simp only [StoreKind.ownedBy, hv, Bool.true_and, Bool.and_eq_true, decide_eq_true_eq]
  exact and_assoc

theorem ends_acceptRecommendedContract {st : Unit} (hrows : Open s.rows) :
    Py.Ends market (acceptRecommendedContract q provided dryRun) st s.begin
      (fun _ _ s' => Accepted q.plan s.rows s' ∧ s'.refused = false)
      (fun e _ s' => Accepted q.plan s.rows s' ∧ (s'.refused = true → e = contractStore.owned)) := by
  -- nothing was answered yet
  have hnone : Accepted q.plan s.rows s.begin ∧ ∀ e, s.begin.refused = true → e = contractStore.owned := by
    refine ⟨⟨hrows, ?_⟩, ?_⟩
    · intro h
      cases h
    · intro e h
      cases h
  have herror : ∀ e, Accepted q.plan s.rows s.begin ∧ (s.begin.refused = true → e = contractStore.owned) :=
    fun e => ⟨hnone.1, hnone.2 e⟩
  unfold acceptRecommendedContract
  refine .bind (ends_observe (fun current s₁ h₁ => ?_) fun e s₁ h₁ => ?_)
  swap
  · cases h₁
    exact herror e
  cases h₁
  refine .bind (ends_now (calm (L := (· = s.begin))).toQuiet rfl fun now s₁ h₁ => ?_)
  cases h₁
  refine .bind (.lift (fun _ hcurrent => ?_) fun e _ => herror e)
  refine .bind (ends_uuid4 (calm (L := (· = s.begin))).toQuiet rfl fun n s₁ h₁ => ?_)
  cases h₁
  refine .bind (.lift (fun proposed hproposed => ?_) fun e _ => herror e)
  obtain ⟨hid, hplan, hsession, hsave, hstatus⟩ := createWorkflow_eq_ok hproposed
  have hsame : proposed.workflowId = q.plan ∧ proposed.gameSessionId = q.plan.gameSessionId ∧
      proposed.saveIdentity = q.plan.saveIdentity := by
    unfold ensureRecommendationCurrent at hcurrent
    split at hcurrent
    · cases hcurrent
    · rename_i hfresh
      simp only [not_or, not_not] at hfresh
      obtain ⟨-, hs, hi, -⟩ := hfresh
      refine ⟨?_, ?_, ?_⟩
      · rw [hid, materialOf, AcceptRequest.plan, hs, hi]
      · rw [hsession, AcceptRequest.plan, hs]
      · rw [hsave, AcceptRequest.plan, hi]
  -- the workflow is the proposed one or its persisted state
  have hworkflow : Py.Ends market (acceptanceWorkflow proposed) st s.begin
      (fun w _ s' => s' = s.begin ∧ contractStore.isOpen w = true ∧ w.workflowId = q.plan ∧
        w.gameSessionId = q.plan.gameSessionId ∧ w.saveIdentity = q.plan.saveIdentity)
      (fun _ _ s' => s' = s.begin) := by
    unfold acceptanceWorkflow
    refine .bind (ends_get (fun found s₁ h₁ => ?_) fun e s₁ h₁ => h₁)
    obtain ⟨hfound, rfl⟩ := h₁
    rcases found with _ | persisted
    · refine .pure ⟨rfl, ?_, hsame⟩
      have hopen : contractStore.isOpen proposed = true := by
        show decide (proposed.status ≠ .completed ∧ proposed.status ≠ .failed) = true
        rw [hstatus]
        decide
      exact hopen
    · have hmem := List.mem_of_find?_eq_some hfound.symm
      have hpersisted : contractStore.workflowId persisted = proposed.workflowId := by
        simpa using List.find?_some hfound.symm
      refine .bind (.lift (fun _ hsameplan => .pure ⟨rfl, hrows.rows _ hmem, ?_⟩) fun _ _ => rfl)
      unfold requireSameAcceptanceWorkflow at hsameplan
      split at hsameplan
      · cases hsameplan
      · rename_i hequal
        simp only [not_or, not_not] at hequal
        exact ⟨hpersisted.trans hsame.1, hequal.2.1.trans hsame.2.1, hequal.2.2.1.trans hsame.2.2⟩
  refine .seq hworkflow (fun w st' s₁ h₁ => ?_) fun e _ s₁ h₁ => h₁ ▸ herror e
  obtain ⟨rfl, hopen, hwid, hwsession, hwsave⟩ := h₁
  have hconflict := conflict_iff hrows hopen hwid hwsession hwsave
  refine .bind (ends_save (fun s₁ h₁ => ?_) fun e s₁ h₁ => ?_)
  · obtain ⟨hfree, rfl⟩ := h₁
    have hother : ¬ OwnedByOther q.plan s.rows := by
      intro h
      have htrue := hconflict.mpr h
      rw [show s.rows = s.begin.rows from rfl, hfree] at htrue
      cases htrue
    have hdone : ∀ s' : Shelf ContractWorkflow, Unrefused s' →
        Accepted q.plan s.rows s' ∧ s'.refused = false := by
      intro s' h'
      refine ⟨⟨h'.rows, fun _ => ?_⟩, h'.refused⟩
      rw [h'.refused]
      exact iff_of_false (by simp) hother
    have hmine : Mine w { s.begin with rows := contractStore.upsert s.begin.rows w, answered := true } := by
      refine ⟨⟨rfl, rfl, rfl, ?_⟩, hopen, Open.upsert hrows hopen⟩
      intro v hv howned
      rcases contractStore.mem_upsert.mp hv with rfl | ⟨hv, -⟩
      · rfl
      · exact contractStore.conflict_eq_false hopen hfree hv howned
    refine .bind (ends_events (calm (L := Mine w)).toQuiet hmine (fun events s₂ h₂ => ?_) fun e s₂ h₂ => ?_)
    · refine .weaken _ _ (ends_acceptCycles h₂) (fun _ _ s' h' => hdone s' h') fun e _ s' h' => ?_
      exact ⟨(hdone s' h').1, fun h => by rw [h'.refused] at h; cases h⟩
    · exact ⟨(hdone s₂ h₂.unrefused).1, fun h => by rw [h₂.unrefused.refused] at h; cases h⟩
  · rcases h₁ with ⟨htrue, rfl, rfl⟩ | rfl
    · exact ⟨⟨hrows, fun _ => iff_of_true rfl (hconflict.mp htrue)⟩, fun _ => rfl⟩
    · exact herror e

end

end SimPilot.SoftwareInc.Contracts
