import SimPilot.SoftwareInc.OperatorRules
import SimPilot.SoftwareInc.Products.Operator
import Mathlib.Algebra.Order.Ring.Rat
import Mathlib.Tactic.Linarith
import Mathlib.Logic.Relation
/-!
# The reserve of Atlas

What is left of the approved budget is not stored: `_require_reserve` takes it for initial
cash less the last projection. A promotion, a review and an iteration each store a projection
from the cash they saw (`Charged`), so the budget survives one exactly when that cash, less
the cost of a review, is the initial cash again (`Anchored`).
-/

namespace SimPilot.SoftwareInc.Products

open GameBridge Effect Py Relation

/-! ## The budget -/

namespace CashTerms
variable (t : CashTerms)

theorem remainingBudget_nonneg : 0 ≤ t.remainingBudget := le_max_left _ _

/-- The terms after a step of a cost at a cash. -/
def charged (cash cost : ℚ) : CashTerms := { t with projectedCashAfter := cash - t.remainingBudget - cost }

/-- The cash after a step is the one the budget is counted from. -/
def Anchored (cash : ℚ) : Prop :=
  if 0 < t.remainingBudget then cash = t.initialCash else t.initialCash ≤ cash

theorem remainingBudget_charged (cash cost : ℚ) :
    (t.charged cash cost).remainingBudget = t.remainingBudget ↔ t.Anchored (cash - cost) := by
  have hR := t.remainingBudget_nonneg
  have hcharged : (t.charged cash cost).remainingBudget =
      max 0 (t.initialCash - (cash - t.remainingBudget - cost)) := rfl
  rw [hcharged]
  unfold Anchored
  split
  · next hpos =>
    constructor
    · intro h
      rcases max_choice 0 (t.initialCash - (cash - t.remainingBudget - cost)) with hm | hm
      · rw [hm] at h
        linarith
      · rw [hm] at h
        linarith
    · intro h
      rw [max_eq_right]
      · linarith
      · linarith
  · next hpos =>
    have hzero : t.remainingBudget = 0 := le_antisymm (not_lt.mp hpos) hR
    rw [hzero]
    constructor
    · intro h
      have := le_max_right (0 : ℚ) (t.initialCash - (cash - 0 - cost))
      linarith
    · intro h
      rw [max_eq_left]
      linarith

theorem requireReserve_eq_ok {snapshot : GameSnapshot} {projected : ℚ} :
    t.requireReserve snapshot = .ok projected ↔
      ∃ cash, currentCash snapshot = .ok cash ∧ projected = cash - t.remainingBudget ∧
        t.minimumCashReserve ≤ projected := by
  simp only [requireReserve, Except.bind_eq_ok]
  constructor
  · rintro ⟨cash, hcash, h⟩
    split at h
    · cases h
    · next hle =>
      cases h
      exact ⟨cash, hcash, rfl, not_lt.mp hle⟩
  · rintro ⟨cash, hcash, rfl, hle⟩
    refine ⟨cash, hcash, ?_⟩
    rw [if_neg (not_lt.mpr hle)]
    rfl

/-- The accounting reads of the terms only the budget and the reserve. -/
theorem requireReserve_congr {t' : CashTerms} (hb : t'.remainingBudget = t.remainingBudget)
    (hm : t'.minimumCashReserve = t.minimumCashReserve) (snapshot : GameSnapshot) :
    t'.requireReserve snapshot = t.requireReserve snapshot := by
  simp only [requireReserve, hb, hm]

end CashTerms

/-! ## What one operation leaves -/

/-- The operations that store a projection. -/
inductive Irreversible where
  | promote | review | iterate
  deriving DecidableEq, Repr

namespace Irreversible

def run : Irreversible → ProductWorkflow → Bool → Bool → Op ProductOperationResult
  | promote => promoteProduct
  | review => reviewProduct
  | iterate => iterateProduct

/-- What the operation spends, as it is shown. -/
def cost : Irreversible → GameSnapshot → Except UIError ℚ
  | review => reviewCost
  | promote | iterate => fun _ => .ok 0

/-- `w'` holds the projection that was approved on `o`. -/
def Charged (op : Irreversible) (w : ProductWorkflow) (o : Observation) (w' : ProductWorkflow) : Prop :=
  ∃ cash cost, currentCash o.semanticAfter = .ok cash ∧ op.cost o.semanticAfter = .ok cost ∧
    requireReserve w o.semanticAfter = .ok (cash - w.cashTerms.remainingBudget) ∧
    w.minimumCashReserve ≤ cash - w.cashTerms.remainingBudget - cost ∧ w'.cashTerms = w.cashTerms.charged cash cost

/-- The cash terms are as they were, or were charged on the observation that was approved. -/
def Outcome (op : Irreversible) (w : ProductWorkflow) (j : Journal ProductWorkflow) (w' : ProductWorkflow) : Prop :=
  w'.cashTerms = w.cashTerms ∨ ∃ o, j.grantedOn = some o ∧ op.Charged w o w'

end Irreversible

/-- No approval was granted, or it was granted on `o`, and every saved workflow has the cash terms of `w`. -/
structure Unspent (w : ProductWorkflow) (granted : Option Observation) (j : Journal ProductWorkflow) : Prop where
  granted : j.grantedOn = granted
  saved : ∀ x ∈ j.saved, x.cashTerms = w.cashTerms

variable {op : Irreversible} {w w' : ProductWorkflow} {j : Journal ProductWorkflow} {o : Observation}
  {granted : Option Observation} {st : Cleanup}

theorem Unspent.observe (j : Journal ProductWorkflow) (o : Observation) (h : Unspent w granted j) :
    Unspent w granted { j with lastSeen := some o } := ⟨h.granted, h.saved⟩

theorem Unspent.save (h : Unspent w granted j) (hw : w'.cashTerms = w.cashTerms) :
    Unspent w granted { j with saved := j.saved ++ [w'] } := by
  refine ⟨h.granted, fun x hx => ?_⟩
  rcases List.mem_append.mp hx with hx | hx
  · exact h.saved x hx
  · rw [List.mem_singleton.mp hx, hw]

theorem Unspent.grant (h : Unspent w granted j) (ho : j.lastSeen = some o) :
    Unspent w (some o) { j with grantedOn := j.lastSeen } := ⟨ho, h.saved⟩

theorem Unspent.outcome (op : Irreversible) (h : Unspent w granted j) : ∀ x ∈ j.saved, op.Outcome w j x :=
  fun x hx => .inl (h.saved x hx)

theorem Unspent.empty (w : ProductWorkflow) : Unspent w none Journal.empty := ⟨rfl, by simp [Journal.empty]⟩

/-- An operation that was not granted, or was granted on the observation it was asked on. -/
def Answered (w : ProductWorkflow) (o : Observation) (answer : ProductOperationResult ⊕ ProductWorkflow)
    (j : Journal ProductWorkflow) : Prop :=
  match answer with
  | .inl r => Unspent w none j ∧ r.workflow.cashTerms = w.cashTerms ∧ r.verified = false
  | .inr granted => Unspent w (some o) j ∧ granted.cashTerms = w.cashTerms

theorem ends_askApproval {current : ProductWorkflow} {pending : ProductApproval} {dryRun provided : Bool} {n : Nat}
    {denied : String} (hc : current.cashTerms = w.cashTerms) (hj : Unspent w none j) (ho : j.lastSeen = some o) :
    Py.Ends anyWorld (askApproval current pending dryRun provided n denied) st j (fun a _ j' => Answered w o a j')
      (fun _ _ j' => ∀ x ∈ j'.saved, op.Outcome w j' x) := by
  have hfail : ∀ {j'} {g}, Unspent w g j' → ∀ x ∈ j'.saved, op.Outcome w j' x := fun h => h.outcome op
  unfold askApproval
  refine .ite (fun _ => .pure ⟨hj, hc, rfl⟩) fun _ => ?_
  let waiting := { current with pendingApproval := some pending, status := .waitingForApproval }
  have hj₁ := hj.save (show waiting.cashTerms = w.cashTerms from hc)
  refine .bind (Journal.ends_save ?_ fun _ => hfail hj)
  refine .ite (fun _ => .pure ⟨hj₁, hc, rfl⟩) fun _ => ?_
  refine .bind (Journal.ends_approve ?_ ?_ fun _ => hfail hj₁)
  -- granted on what was seen last, or denied
  · have hg := hj₁.grant ho
    refine .bind (.lift (fun resolved hr => ?_) fun _ _ => hfail hg)
    have hsame : resolved.cashTerms = w.cashTerms := (cashTerms_of_resolveApproval hr).trans hc
    refine .bind (Journal.ends_save ?_ fun _ => hfail hg)
    refine .ite (fun hb => ?_) fun _ => .pure ⟨hg.save hsame, hsame⟩
    simp [resolveApproval] at hr
    split at hr
    · cases hr
    · cases hr
      cases hb
  · refine .bind (.lift (fun resolved hr => ?_) fun _ _ => hfail hj₁)
    have hsame : resolved.cashTerms = w.cashTerms := (cashTerms_of_resolveApproval hr).trans hc
    refine .bind (Journal.ends_save ?_ fun _ => hfail hj₁)
    refine .ite (fun hb => .pure ⟨hj₁.save hsame, hsame, rfl⟩) fun hb => ?_
    simp [resolveApproval] at hr
    split at hr
    · cases hr
    · cases hr
      exact absurd rfl hb

section
variable {er : UIError → Cleanup → Journal ProductWorkflow → Prop} {L : Journal ProductWorkflow → Prop}

theorem ends_event {x : ProductWorkflow} {eventType : String} {stageBefore : ProductStage} {action detail : String}
    {ok : ProductCycleEvent → Cleanup → Journal ProductWorkflow → Prop}
    (ho : ∀ event, ok event st j) (he : ∀ e, er e st j) :
    Py.Ends anyWorld (appendEvent x eventType stageBefore action detail) st j ok er := by
  refine .bind (Journal.ends_uuid4 fun _ => ?_)
  refine .bind (Journal.ends_events (fun _ => ?_) he)
  exact .bind (Journal.ends_appendEvent (.pure (ho _)) he)

theorem ends_optionalTarget {targetId : String}
    {ok : Option VisualTarget → Cleanup → Journal ProductWorkflow → Prop}
    (ho : ∀ t, ok t st j) (he : ∀ e, er e st j) : Py.Ends anyWorld (optionalTarget o targetId) st j ok er := by
  unfold optionalTarget
  split
  · exact .pure (ho _)
  · exact .map (Journal.ends_target atlas (fun t => ho (some t)) he)
  · exact .raise (he _)

variable (hL : ∀ j o, L j → L { j with lastSeen := some o }) (hj : L j)
include hL hj

theorem ends_ensureTarget {current : Observation} {targetId : String} {dryRun : Bool}
    {ok : Observation × Nat → Cleanup → Journal ProductWorkflow → Prop}
    (ho : ∀ p j', L j' → ok p st j') (he : ∀ e j', L j' → er e st j') :
    Py.Ends anyWorld (ensureTarget current targetId dryRun) st j ok er := by
  refine .bind (ends_optionalTarget (fun _ => ?_) fun _ => he _ _ hj)
  refine .ite (fun _ => .pure (ho _ _ hj)) fun _ => ?_
  refine .bind (Journal.ends_target atlas (fun _ => ?_) fun _ => he _ _ hj)
  refine .ite (fun _ => .pure (ho _ _ hj)) fun _ => ?_
  refine .bind (Journal.ends_click atlas hL hj (fun _ j' hj' _ => ?_) he)
  refine .bind (ends_optionalTarget (fun _ => ?_) fun _ => he _ _ hj')
  exact .ite (fun _ => .pure (ho _ _ hj')) fun _ => .raise (he _ _ hj')

theorem ends_openReviewSetup {before : Observation} {targetId : String} {dryRun : Bool}
    {ok : Option Observation × Nat → Cleanup → Journal ProductWorkflow → Prop}
    (hseen : j.lastSeen = some before)
    (ho : ∀ p j', L j' → (∀ setup ∈ p.1, j'.lastSeen = some setup) → ok p st j')
    (he : ∀ e j', L j' → er e st j') : Py.Ends anyWorld (openReviewSetup before targetId dryRun) st j ok er := by
  refine .ite (fun _ => .pure (ho _ _ hj fun _ h => by cases h; exact hseen)) fun _ => ?_
  refine .bind (ends_ensureTarget hL hj (fun p j' hj' => ?_) he)
  refine .ite (fun _ => .pure (ho _ _ hj' fun _ h => by cases h)) fun _ => ?_
  refine .bind (Journal.ends_target atlas (fun _ => ?_) fun _ => he _ _ hj')
  refine .bind (Journal.ends_click atlas hL hj' (fun setup j'' hj'' h => ?_) he)
  exact .pure (ho _ _ hj'' fun _ hs => by cases hs; exact h)

theorem ends_promotionTarget {refreshed : Observation} {targetId : String}
    {ok : Observation × VisualTarget × Nat → Cleanup → Journal ProductWorkflow → Prop}
    (ho : ∀ p j', L j' → ok p st j') (he : ∀ e j', L j' → er e st j') :
    Py.Ends anyWorld (promotionTarget refreshed targetId) st j ok er := by
  refine .bind (ends_optionalTarget (fun t => ?_) fun _ => he _ _ hj)
  split
  · exact .pure (ho _ _ hj)
  · refine .bind (ends_optionalTarget (fun t => ?_) fun _ => he _ _ hj)
    split
    · exact .pure (ho _ _ hj)
    · refine .bind (ends_ensureTarget hL hj (fun p j' hj' => ?_) he)
      exact .bind (Journal.ends_target atlas (fun _ => .pure (ho _ _ hj')) fun _ => he _ _ hj')

theorem ends_sendPromotion {refreshed : Observation} {t : VisualTarget} {effect : String}
    {ok : Observation × Nat → Cleanup → Journal ProductWorkflow → Prop}
    (ho : ∀ p j', L j' → ok p st j') (he : ∀ e j', L j' → er e st j') :
    Py.Ends anyWorld (sendPromotion refreshed t effect) st j ok er := by
  refine .bind (Journal.ends_click atlas hL hj (fun after j' hj' _ => ?_) he)
  refine .ite (fun _ => .pure (ho _ _ hj')) fun _ => ?_
  refine .bind (Journal.ends_target atlas (fun _ => ?_) fun _ => he _ _ hj')
  exact .bind (Journal.ends_click atlas hL hj' (fun _ _ hj'' _ => .pure (ho _ _ hj'')) he)

end

/-- What a run of an operation leaves in its result and in the store. -/
def Accounted (op : Irreversible) (w : ProductWorkflow) (r : ProductOperationResult) (j : Journal ProductWorkflow) :
    Prop :=
  (∀ x ∈ j.saved, op.Outcome w j x) ∧ op.Outcome w j r.workflow ∧
    (r.verified = true → j.grantedOn = none ∧ r.workflow.cashTerms = w.cashTerms ∨
      ∃ o, j.grantedOn = some o ∧ op.Charged w o r.workflow)

theorem accounted_of_unspent {r : ProductOperationResult} (hj : Unspent w none j)
    (hr : r.workflow.cashTerms = w.cashTerms) : Accounted op w r j :=
  ⟨hj.outcome op, .inl hr, fun _ => .inl ⟨hj.granted, hr⟩⟩

/-- The workflow is charged, saved and returned. -/
theorem accounted_of_charged {r : ProductOperationResult} (hj : Unspent w (some o) j) (hr : op.Charged w o r.workflow) :
    Accounted op w r { j with saved := j.saved ++ [r.workflow] } := by
  refine ⟨fun x hx => ?_, .inr ⟨o, hj.granted, hr⟩, fun _ => .inr ⟨o, hj.granted, hr⟩⟩
  rcases List.mem_append.mp hx with hx | hx
  · exact .inl (hj.saved x hx)
  · rw [List.mem_singleton.mp hx]
    exact .inr ⟨o, hj.granted, hr⟩

theorem requireReserve_congr (h : w'.cashTerms = w.cashTerms) (snapshot : GameSnapshot) :
    requireReserve w' snapshot = requireReserve w snapshot := by
  unfold requireReserve
  rw [h]

/-- A step whose checks passed charges its cost. -/
theorem charged_of_reserve {reserve cost : ℚ} (hcost : op.cost o.semanticAfter = .ok cost)
    (hreserve : requireReserve w o.semanticAfter = .ok reserve) (hmin : w.minimumCashReserve ≤ reserve - cost)
    (hsame : w'.cashTerms = w.cashTerms) : op.Charged w o (w'.charge (reserve - cost)) := by
  obtain ⟨cash, hcash, rfl, -⟩ := w.cashTerms.requireReserve_eq_ok.mp hreserve
  refine ⟨cash, cost, hcash, hcost, hreserve, hmin, ?_⟩
  simp only [ProductWorkflow.cashTerms, CashTerms.mk.injEq] at hsame
  simp [ProductWorkflow.charge, ProductWorkflow.cashTerms, CashTerms.charged, hsame]

theorem charged_of_free {reserve : ℚ} (hcost : op.cost o.semanticAfter = .ok 0)
    (hreserve : requireReserve w o.semanticAfter = .ok reserve) (hsame : w'.cashTerms = w.cashTerms) :
    op.Charged w o (w'.charge reserve) := by
  obtain ⟨_, -, -, hmin⟩ := w.cashTerms.requireReserve_eq_ok.mp hreserve
  rw [← sub_zero reserve]
  refine charged_of_reserve hcost hreserve ?_ hsame
  rw [sub_zero]
  exact hmin

theorem ends_promoteProduct (provided dryRun : Bool) :
    Py.Ends anyWorld (promoteProduct w provided dryRun) st Journal.empty (fun r _ j => Accounted .promote w r j)
      (fun _ _ j => ∀ x ∈ j.saved, Irreversible.promote.Outcome w j x) := by
  have hfail : ∀ {j} {g}, Unspent w g j → ∀ x ∈ j.saved, Irreversible.promote.Outcome w j x :=
    fun h => h.outcome _
  unfold promoteProduct
  refine .bind (Journal.ends_observe (fun before => ?_) fun _ => hfail (.empty w))
  have h₁ := Unspent.observe _ before (.empty w)
  refine .bind (.lift (fun _ _ => ?_) fun _ _ => hfail h₁)
  refine .bind (ends_require (fun _ => ?_) (hfail h₁))
  refine .bind (.lift (fun current hcurrent => ?_) fun _ _ => hfail h₁)
  have hsame := (frame_of_synchronizeWorkflow hcurrent).1
  refine .ite (fun _ => .pure (accounted_of_unspent h₁ hsame)) fun _ => ?_
  refine .bind (.lift (fun projected hprojected => ?_) fun _ _ => hfail h₁)
  refine .bind (.lift (fun cash hcash => ?_) fun _ _ => hfail h₁)
  have hreserve : requireReserve w before.semanticAfter = .ok projected :=
    (requireReserve_congr hsame _).symm.trans hprojected
  refine .bind (Journal.ends_uuid4 fun _ => ?_)
  refine .bind (.lift (fun pending _ => ?_) fun _ _ => hfail h₁)
  refine .seq (ends_askApproval hsame h₁ rfl) (fun answer st' j' hanswer => ?_) fun _ _ _ h => h
  rcases answer with r | granted
  · exact .pure (accounted_of_unspent hanswer.1 hanswer.2.1)
  obtain ⟨h₂, hgranted⟩ := hanswer
  refine .bind (Journal.ends_observe (fun refreshed => ?_) fun _ => hfail h₂)
  have h₃ := h₂.observe _ refreshed
  refine .bind (.lift (fun _ _ => ?_) fun _ _ => hfail h₃)
  refine .bind (.lift (fun _ _ => ?_) fun _ _ => hfail h₃)
  refine .bind (.lift (fun synchronized hsync => ?_) fun _ _ => hfail h₃)
  have hsynced := (frame_of_synchronizeWorkflow hsync).1
  refine .bind (.lift (fun _ _ => ?_) fun _ _ => hfail h₃)
  refine .bind (ends_require (fun _ => ?_) (hfail h₃))
  refine .bind (ends_assertSome (fun _ _ => ?_) (hfail h₃))
  refine .bind (ends_promotionTarget Unspent.observe h₃ (fun p j₄ h₄ => ?_) fun _ _ h => hfail h)
  refine .bind (ends_sendPromotion Unspent.observe h₄ (fun q j₅ h₅ => ?_) fun _ _ h => hfail h)
  refine .bind (.lift (fun updated hupdated => ?_) fun _ _ => hfail h₅)
  refine .bind (ends_require (fun _ => ?_) (hfail h₅))
  have hcharged : Irreversible.promote.Charged w before (updated.charge projected) :=
    charged_of_free rfl hreserve ((frame_of_synchronizeWorkflow hupdated).1.trans (hsynced.trans hgranted))
  refine .bind (Journal.ends_save ?_ fun _ => hfail h₅)
  refine .bind (ends_event (fun event => ?_) fun _ => ?_)
  · exact .pure (accounted_of_charged h₅ hcharged)
  · exact (accounted_of_charged (r := ⟨updated.charge projected, 0, true, false, "", none⟩) h₅ hcharged).1

theorem ends_reviewProduct (provided dryRun : Bool) :
    Py.Ends anyWorld (reviewProduct w provided dryRun) st Journal.empty (fun r _ j => Accounted .review w r j)
      (fun _ _ j => ∀ x ∈ j.saved, Irreversible.review.Outcome w j x) := by
  have hfail : ∀ {j} {g}, Unspent w g j → ∀ x ∈ j.saved, Irreversible.review.Outcome w j x :=
    fun h => h.outcome _
  unfold reviewProduct
  refine .bind (Journal.ends_observe (fun before => ?_) fun _ => hfail (.empty w))
  have h₁ := Unspent.observe _ before (.empty w)
  refine .bind (.lift (fun _ _ => ?_) fun _ _ => hfail h₁)
  refine .bind (ends_require (fun _ => ?_) (hfail h₁))
  refine .bind (.lift (fun current hcurrent => ?_) fun _ _ => hfail h₁)
  have hsame := (frame_of_synchronizeWorkflow hcurrent).1
  refine .bind (ends_assertSome (fun workItemId _ => ?_) (hfail h₁))
  refine .bind (ends_openReviewSetup Unspent.observe h₁ rfl (fun p j₂ h₂ hseen => ?_) fun _ _ h => hfail h)
  obtain ⟨_ | setup, gestures⟩ := p
  · exact .pure (accounted_of_unspent h₂ hsame)
  have hsetup : j₂.lastSeen = some setup := hseen setup rfl
  refine .bind (ends_require (fun _ => ?_) (hfail h₂))
  refine .bind (.lift (fun cost hcost => ?_) fun _ _ => hfail h₂)
  refine .bind (.lift (fun cash hcash => ?_) fun _ _ => hfail h₂)
  refine .bind (.lift (fun reserve hprojected => ?_) fun _ _ => hfail h₂)
  have hreserve : requireReserve w setup.semanticAfter = .ok reserve :=
    (requireReserve_congr hsame _).symm.trans hprojected
  refine .bind (ends_require (fun hmin => ?_) (hfail h₂))
  have hle : w.minimumCashReserve ≤ reserve - cost := (CashTerms.mk.inj hsame).2.2 ▸ hmin
  refine .bind (Journal.ends_uuid4 fun _ => ?_)
  refine .bind (.lift (fun pending _ => ?_) fun _ _ => hfail h₂)
  refine .seq (ends_askApproval hsame h₂ hsetup) (fun answer st' j' hanswer => ?_) fun _ _ _ h => h
  rcases answer with r | granted
  · exact .pure (accounted_of_unspent hanswer.1 hanswer.2.1)
  obtain ⟨h₃, hgranted⟩ := hanswer
  refine .bind (Journal.ends_observe (fun refreshed => ?_) fun _ => hfail h₃)
  have h₄ := h₃.observe _ refreshed
  refine .bind (.lift (fun _ _ => ?_) fun _ _ => hfail h₄)
  refine .bind (.lift (fun _ _ => ?_) fun _ _ => hfail h₄)
  refine .bind (ends_require (fun _ => ?_) (hfail h₄))
  refine .bind (Journal.ends_target atlas (fun _ => ?_) fun _ => hfail h₄)
  refine .bind (Journal.ends_click atlas Unspent.observe h₄ (fun after j₅ h₅ _ => ?_) fun _ _ h => hfail h)
  refine .bind (.lift (fun _ _ => ?_) fun _ _ => hfail h₅)
  refine .bind (ends_require (fun _ => ?_) (hfail h₅))
  refine .bind (.lift (fun _ _ => ?_) fun _ _ => hfail h₅)
  refine .bind (ends_require (fun _ => ?_) (hfail h₅))
  refine .bind (.lift (fun updated hupdated => ?_) fun _ _ => hfail h₅)
  have hcharged : Irreversible.review.Charged w setup (updated.charge (reserve - cost)) :=
    charged_of_reserve hcost hreserve hle ((frame_of_synchronizeWorkflow hupdated).1.trans hgranted)
  refine .bind (Journal.ends_save ?_ fun _ => hfail h₅)
  refine .bind (ends_event (fun event => ?_) fun _ => ?_)
  · exact .pure (accounted_of_charged h₅ hcharged)
  · exact (accounted_of_charged (r := ⟨updated.charge (reserve - cost), 0, true, true, "", none⟩) h₅ hcharged).1

theorem ends_iterateProduct (provided dryRun : Bool) :
    Py.Ends anyWorld (iterateProduct w provided dryRun) st Journal.empty (fun r _ j => Accounted .iterate w r j)
      (fun _ _ j => ∀ x ∈ j.saved, Irreversible.iterate.Outcome w j x) := by
  have hfail : ∀ {j} {g}, Unspent w g j → ∀ x ∈ j.saved, Irreversible.iterate.Outcome w j x :=
    fun h => h.outcome _
  unfold iterateProduct
  refine .bind (Journal.ends_observe (fun before => ?_) fun _ => hfail (.empty w))
  have h₁ := Unspent.observe _ before (.empty w)
  refine .bind (.lift (fun _ _ => ?_) fun _ _ => hfail h₁)
  refine .bind (ends_require (fun _ => ?_) (hfail h₁))
  refine .bind (.lift (fun current hcurrent => ?_) fun _ _ => hfail h₁)
  have hsame := (frame_of_synchronizeWorkflow hcurrent).1
  refine .bind (.lift (fun projected hprojected => ?_) fun _ _ => hfail h₁)
  have hreserve : requireReserve w before.semanticAfter = .ok projected :=
    (requireReserve_congr hsame _).symm.trans hprojected
  refine .bind (.lift (fun cash hcash => ?_) fun _ _ => hfail h₁)
  refine .bind (Journal.ends_uuid4 fun _ => ?_)
  refine .bind (.lift (fun pending _ => ?_) fun _ _ => hfail h₁)
  refine .seq (ends_askApproval hsame h₁ rfl) (fun answer st' j' hanswer => ?_) fun _ _ _ h => h
  rcases answer with r | granted
  · exact .pure (accounted_of_unspent hanswer.1 hanswer.2.1)
  obtain ⟨h₂, hgranted⟩ := hanswer
  refine .bind (Journal.ends_observe (fun refreshed => ?_) fun _ => hfail h₂)
  have h₃ := h₂.observe _ refreshed
  refine .bind (.lift (fun _ _ => ?_) fun _ _ => hfail h₃)
  refine .bind (.lift (fun _ _ => ?_) fun _ _ => hfail h₃)
  refine .bind (ends_require (fun _ => ?_) (hfail h₃))
  refine .bind (Journal.ends_target atlas (fun _ => ?_) fun _ => hfail h₃)
  refine .bind (Journal.ends_click atlas Unspent.observe h₃ (fun after j₄ h₄ _ => ?_) fun _ _ h => hfail h)
  refine .bind (.lift (fun updated hupdated => ?_) fun _ _ => hfail h₄)
  refine .bind (ends_require (fun _ => ?_) (hfail h₄))
  have hcharged : Irreversible.iterate.Charged w before (updated.charge projected) :=
    charged_of_free rfl hreserve ((frame_of_synchronizeWorkflow hupdated).1.trans hgranted)
  refine .bind (Journal.ends_save ?_ fun _ => hfail h₄)
  refine .bind (ends_event (fun event => ?_) fun _ => ?_)
  · exact .pure (accounted_of_charged h₄ hcharged)
  · exact (accounted_of_charged (r := ⟨updated.charge projected, 0, true, false, "", none⟩) h₄ hcharged).1

theorem ends_irreversible (op : Irreversible) (provided dryRun : Bool) :
    Py.Ends anyWorld (op.run w provided dryRun) st Journal.empty (fun r _ j => Accounted op w r j)
      (fun _ _ j => ∀ x ∈ j.saved, op.Outcome w j x) := by
  cases op with
  | promote => exact ends_promoteProduct provided dryRun
  | review => exact ends_reviewProduct provided dryRun
  | iterate => exact ends_iterateProduct provided dryRun

/-! ## The other operations -/

theorem ends_setProductHold (held dryRun : Bool) :
    Py.Ends anyWorld (setProductHold w held dryRun) st Journal.empty
      (fun r _ j => Unspent w none j ∧ r.workflow.cashTerms = w.cashTerms) (fun _ _ j => Unspent w none j) := by
  unfold setProductHold
  refine .bind (Journal.ends_observe (fun before => ?_) fun _ => .empty w)
  have h₁ := Unspent.observe _ before (.empty w)
  refine .bind (.lift (fun _ _ => ?_) fun _ _ => h₁)
  refine .bind (ends_require (fun _ => ?_) h₁)
  refine .bind (.lift (fun current hcurrent => ?_) fun _ _ => h₁)
  have hsame := (frame_of_synchronizeWorkflow hcurrent).1
  refine .ite (fun _ => .bind (Journal.ends_save (.pure ⟨h₁.save hsame, hsame⟩) fun _ => h₁)) fun _ => ?_
  refine .bind (ends_assertSome (fun _ _ => ?_) h₁)
  refine .bind (ends_ensureTarget Unspent.observe h₁ (fun p j₂ h₂ => ?_) fun _ _ h => h)
  refine .ite (fun _ => .pure ⟨h₂, hsame⟩) fun _ => ?_
  refine .bind (Journal.ends_target atlas (fun _ => ?_) fun _ => h₂)
  refine .bind (Journal.ends_click atlas Unspent.observe h₂ (fun after j₃ h₃ _ => ?_) fun _ _ h => h)
  refine .bind (.lift (fun updated hupdated => ?_) fun _ _ => h₃)
  have hupd : updated.cashTerms = w.cashTerms := (frame_of_synchronizeWorkflow hupdated).1.trans hsame
  refine .bind (ends_require (fun _ => ?_) h₃)
  refine .bind (Journal.ends_save ?_ fun _ => h₃)
  exact .bind (ends_event (fun _ => .pure ⟨h₃.save hupd, hupd⟩) fun _ => h₃.save hupd)

theorem ends_runBoundedWork {current : ProductWorkflow} {before : Observation} {runSeconds : ℚ} {gestures : Nat}
    (hsame : current.cashTerms = w.cashTerms) (hj : Unspent w none j) :
    Py.Ends anyWorld (runBoundedWork current before runSeconds gestures) st j
      (fun r _ j => Unspent w none j ∧ r.workflow.cashTerms = w.cashTerms) (fun _ _ j => Unspent w none j) := by
  refine .bind (Journal.ends_target atlas (fun _ => ?_) fun _ => hj)
  refine .bind (Journal.ends_click atlas Unspent.observe hj (fun running j₁ h₁ _ => ?_) fun _ _ h => h)
  refine .bind (ends_require (fun _ => ?_) h₁)
  refine .bind (.lift (fun _ _ => ?_) fun _ _ => h₁)
  refine .bind (Journal.ends_boundedInterval atlas Unspent.observe h₁ (fun p st' j₂ h₂ => ?_) fun _ _ _ h => h)
  refine .bind (.lift (fun updated hupdated => ?_) fun _ _ => h₂)
  have hupd : updated.cashTerms = w.cashTerms := (frame_of_synchronizeWorkflow hupdated).1.trans hsame
  refine .bind (Journal.ends_save ?_ fun _ => h₂)
  have h₃ := h₂.save hupd
  refine .bind (.lift (fun _ _ => ?_) fun _ _ => h₃)
  refine .bind (.lift (fun _ _ => ?_) fun _ _ => h₃)
  exact .bind (ends_event (fun _ => .pure ⟨h₃, hupd⟩) fun _ => h₃)

theorem ends_resumeHeldWork {current : ProductWorkflow} {before : Observation} {dryRun : Bool} {gestures : Nat}
    (hsame : current.cashTerms = w.cashTerms) (hj : Unspent w none j) :
    Py.Ends anyWorld (resumeHeldWork current before dryRun gestures) st j
      (fun p _ j => Unspent w none j ∧ ∀ q ∈ p.1, q.1.cashTerms = w.cashTerms) (fun _ _ j => Unspent w none j) := by
  refine .ite (fun _ => .pure ⟨hj, fun q hq => by cases hq; exact hsame⟩) fun _ => ?_
  refine .bind (ends_assertSome (fun _ _ => ?_) hj)
  refine .bind (ends_ensureTarget Unspent.observe hj (fun p j₁ h₁ => ?_) fun _ _ h => h)
  refine .ite (fun _ => .pure ⟨h₁, fun q hq => by cases hq⟩) fun _ => ?_
  refine .bind (Journal.ends_target atlas (fun _ => ?_) fun _ => h₁)
  refine .bind (Journal.ends_click atlas Unspent.observe h₁ (fun after j₂ h₂ _ => ?_) fun _ _ h => h)
  refine .bind (.lift (fun updated hupdated => ?_) fun _ _ => h₂)
  have hupd : updated.cashTerms = w.cashTerms := (frame_of_synchronizeWorkflow hupdated).1.trans hsame
  refine .bind (ends_require (fun _ => ?_) h₂)
  exact .bind (Journal.ends_save (.pure ⟨h₂.save hupd, fun q hq => by cases hq; exact hupd⟩) fun _ => h₂)

theorem ends_advanceProduct (runSeconds : ℚ) (dryRun : Bool) :
    Py.Ends anyWorld (advanceProduct w runSeconds dryRun) st Journal.empty
      (fun r _ j => Unspent w none j ∧ r.workflow.cashTerms = w.cashTerms) (fun _ _ j => Unspent w none j) := by
  unfold advanceProduct
  refine .bind (ends_require (fun _ => ?_) (.empty w))
  refine .bind (Journal.ends_observe (fun before => ?_) fun _ => .empty w)
  have h₁ := Unspent.observe _ before (.empty w)
  refine .bind (.lift (fun _ _ => ?_) fun _ _ => h₁)
  refine .bind (ends_require (fun _ => ?_) h₁)
  refine .bind (.lift (fun current hcurrent => ?_) fun _ _ => h₁)
  have hsame := (frame_of_synchronizeWorkflow hcurrent).1
  refine .ite (fun _ => .bind (Journal.ends_save (.pure ⟨h₁.save hsame, hsame⟩) fun _ => h₁)) fun _ => ?_
  refine .bind (.lift (fun _ _ => ?_) fun _ _ => h₁)
  refine .bind (.lift (fun finished _ => ?_) fun _ _ => h₁)
  rcases finished with _ | finished
  · refine .seq (ends_resumeHeldWork hsame h₁) (fun p st' j₂ h₂ => ?_) fun _ _ _ h => h
    obtain ⟨_ | ⟨current', before'⟩, gestures⟩ := p
    · exact .pure ⟨h₂.1, hsame⟩
    have hsame' : current'.cashTerms = w.cashTerms := h₂.2 _ rfl
    have hclose : Py.Ends anyWorld (closeProductUI before' dryRun gestures) st' j₂ (fun _ _ j => Unspent w none j)
        (fun _ _ j => Unspent w none j) := by
      refine .ite (fun _ => .pure h₂.1) fun _ => .ite (fun _ => .pure h₂.1) fun _ => ?_
      exact .bind (Journal.ends_send atlas Unspent.observe h₂.1 (fun _ _ h _ => .pure h) fun _ _ h => h)
    refine .seq hclose (fun q st'' j₃ h₃ => ?_) fun _ _ _ h => h
    obtain ⟨_ | closed, gestures'⟩ := q
    · exact .pure ⟨h₃, hsame'⟩
    refine .bind (ends_require (fun _ => ?_) h₃)
    exact .ite (fun _ => .pure ⟨h₃, hsame'⟩) fun _ => ends_runBoundedWork hsame' h₃
  · refine .bind (ends_ensureTarget Unspent.observe h₁ (fun p j₂ h₂ => ?_) fun _ _ h => h)
    refine .ite (fun _ => .pure ⟨h₂, hsame⟩) fun _ => ?_
    refine .bind (Journal.ends_target atlas (fun _ => ?_) fun _ => h₂)
    exact .bind (Journal.ends_click atlas Unspent.observe h₂ (fun _ _ h _ => .pure ⟨h, hsame⟩) fun _ _ h => h)

/-- An operation that charges nothing leaves workflows of the same cash terms. -/
theorem leaves_of_ends {m : Op ProductOperationResult}
    (h : Py.Ends anyWorld m st Journal.empty (fun r _ j => Unspent w none j ∧ r.workflow.cashTerms = w.cashTerms)
      (fun _ _ j => Unspent w none j))
    {result : Except UIError ProductOperationResult} {st' : Cleanup}
    (hrun : (m st).Run anyWorld Journal.empty (result, st') j)
    (hw' : w' ∈ j.saved ∨ ∃ r, result = .ok r ∧ r.workflow = w') : w'.cashTerms = w.cashTerms := by
  cases result with
  | ok r =>
    obtain ⟨hj, hr⟩ := h.returns hrun
    rcases hw' with hw' | ⟨r', hr', rfl⟩
    · exact hj.saved w' hw'
    · cases hr'
      exact hr
  | error e =>
    rcases hw' with hw' | ⟨r', hr', rfl⟩
    · exact (h.raises hrun).saved w' hw'
    · cases hr'

/-! ## Runs -/

/-- An operation of the Atlas operator on a workflow, with its arguments. -/
inductive Operator where
  | irreversible (op : Irreversible) (provided dryRun : Bool)
  | hold (held dryRun : Bool)
  | advance (runSeconds : ℚ) (dryRun : Bool)

def Operator.run : Operator → ProductWorkflow → Op ProductOperationResult
  | irreversible op provided dryRun, w => op.run w provided dryRun
  | hold held dryRun, w => setProductHold w held dryRun
  | advance runSeconds dryRun, w => advanceProduct w runSeconds dryRun

/-- `j` is what some run of an operation on `w` noted, and `w'` was saved or returned by it. -/
def Leaves (operator : Operator) (w : ProductWorkflow) (j : Journal ProductWorkflow) (w' : ProductWorkflow) : Prop :=
  ∃ result st', (operator.run w none).Run anyWorld Journal.empty (result, st') j ∧
    (w' ∈ j.saved ∨ ∃ r, result = .ok r ∧ r.workflow = w')

namespace Irreversible

/-- The condition on the observation an approval was granted on: its cash, less what the step
spends, is the cash the remaining budget is counted from. -/
def Anchored (op : Irreversible) (w : ProductWorkflow) (granted : Option Observation) : Prop :=
  ∀ o ∈ granted, ∀ cash cost, currentCash o.semanticAfter = .ok cash → op.cost o.semanticAfter = .ok cost →
    w.cashTerms.Anchored (cash - cost)

/-- A verified promotion or iteration leaves the accounting as it was on every later snapshot;
after a verified review of a cost at a cash it gives at what is left of the cash what it gave
at the cash, less the cost. -/
def Neutral (op : Irreversible) (w w' : ProductWorkflow) (granted : Option Observation) : Prop :=
  match op with
  | promote | iterate => ∀ snapshot, requireReserve w' snapshot = requireReserve w snapshot
  | review => ∀ o ∈ granted, ∀ cash cost, currentCash o.semanticAfter = .ok cash →
      reviewCost o.semanticAfter = .ok cost → ∀ snapshot, currentCash snapshot = .ok (cash - cost) →
        requireReserve w' snapshot = (requireReserve w o.semanticAfter).map (· - cost)

end Irreversible

/-- What may follow a workflow: the transitions `start_atlas` makes, and an operation. -/
inductive Follows : ProductWorkflow → ProductWorkflow → Prop
  | resolve {w w' : ProductWorkflow} {approved : Bool} (h : resolveApproval w approved = .ok w') : Follows w w'
  | synchronize {w w' : ProductWorkflow} {snapshot : GameSnapshot} (h : synchronizeWorkflow w snapshot = .ok w') :
      Follows w w'
  | fail (w : ProductWorkflow) : Follows w { w with status := .failed }
  | operate {operator : Operator} {w w' : ProductWorkflow} {j : Journal ProductWorkflow} (h : Leaves operator w j w')
      (hanchored : ∀ op provided dryRun, operator = .irreversible op provided dryRun → op.Anchored w j.grantedOn) :
      Follows w w'

/-- The snapshot with nothing but this cash. -/
def withCash (snapshot : GameSnapshot) (cash : ℚ) : GameSnapshot :=
  { snapshot with
    surfaces := [⟨⟨"finances", .observedComplete, ["cash"], none⟩, [⟨"finance", "current", [("cash", .number cash)]⟩]⟩] }

theorem currentCash_withCash (snapshot : GameSnapshot) (cash : ℚ) :
    currentCash (withCash snapshot cash) = .ok cash := rfl

/-- The projection at a cash tells the budget it was made with. -/
theorem budget_of_requireReserve {t t' : CashTerms} {snapshot : GameSnapshot} {cash projected : ℚ}
    (hcash : currentCash snapshot = .ok cash) (h : t'.requireReserve snapshot = .ok projected)
    (hp : projected = cash - t.remainingBudget) : t'.remainingBudget = t.remainingBudget := by
  obtain ⟨cash', hcash', hprojected, -⟩ := t'.requireReserve_eq_ok.mp h
  rw [hcash] at hcash'
  cases hcash'
  linarith

theorem neutral_iff_of_charged (hg : granted = some o) (h : op.Charged w o w') :
    op.Neutral w w' granted ↔ op.Anchored w granted := by
  subst hg
  obtain ⟨cash, cost, hcash, hcost, hreserve, hmin, hterms⟩ := h
  have hiff := w.cashTerms.remainingBudget_charged cash cost
  rw [← hterms] at hiff
  have hanchored : op.Anchored w (some o) ↔ w.cashTerms.Anchored (cash - cost) := by
    constructor
    · exact fun h => h o rfl cash cost hcash hcost
    · intro h o' ho' cash' cost' hcash' hcost'
      cases ho'
      rw [hcash] at hcash'
      rw [hcost] at hcost'
      cases hcash'
      cases hcost'
      exact h
  have hmins : w'.cashTerms.minimumCashReserve = w.cashTerms.minimumCashReserve := by
    rw [hterms]
    rfl
  rw [hanchored, ← hiff]
  have hfree : (∀ snapshot, requireReserve w' snapshot = requireReserve w snapshot) ↔
      w'.cashTerms.remainingBudget = w.cashTerms.remainingBudget := by
    constructor
    · intro h
      exact budget_of_requireReserve hcash ((h o.semanticAfter).trans hreserve) rfl
    · exact fun h snapshot => w.cashTerms.requireReserve_congr h hmins snapshot
  cases op with
  | promote => exact hfree
  | iterate => exact hfree
  | review =>
    constructor
    · intro h
      have := h o rfl cash cost hcash hcost (withCash o.semanticAfter (cash - cost)) (currentCash_withCash _ _)
      rw [hreserve] at this
      exact budget_of_requireReserve (currentCash_withCash _ _) this (by ring)
    · intro h o' ho' cash' cost' hcash' hcost' snapshot hsnapshot
      cases ho'
      rw [hcash] at hcash'
      cases hcash'
      have hcost : reviewCost o.semanticAfter = .ok cost := hcost
      rw [hcost] at hcost'
      cases hcost'
      rw [hreserve]
      refine w'.cashTerms.requireReserve_eq_ok.mpr ⟨_, hsnapshot, ?_, ?_⟩
      · rw [h]
        ring
      · rw [hmins]
        exact hmin

theorem budget_of_outcome (h : op.Outcome w j w') (hanchored : op.Anchored w j.grantedOn) :
    w'.cashTerms.remainingBudget = w.cashTerms.remainingBudget := by
  rcases h with h | ⟨o, ho, cash, cost, hcash, hcost, -, -, hterms⟩
  · rw [h]
  · rw [hterms]
    exact (w.cashTerms.remainingBudget_charged cash cost).mpr (hanchored o ho cash cost hcash hcost)

theorem budget_of_leaves {operator : Operator} (h : Leaves operator w j w')
    (hanchored : ∀ op provided dryRun, operator = .irreversible op provided dryRun → op.Anchored w j.grantedOn) :
    w'.cashTerms.remainingBudget = w.cashTerms.remainingBudget := by
  obtain ⟨result, st', hrun, hw'⟩ := h
  cases operator with
  | irreversible op provided dryRun =>
    have hbudget := fun hout : op.Outcome w j w' => budget_of_outcome hout (hanchored op provided dryRun rfl)
    refine hbudget ?_
    cases result with
    | ok r =>
      obtain ⟨hsaved, hr, -⟩ := (ends_irreversible op provided dryRun).returns hrun
      rcases hw' with hw' | ⟨r', hr', rfl⟩
      · exact hsaved w' hw'
      · cases hr'
        exact hr
    | error e =>
      have hsaved := (ends_irreversible op provided dryRun).raises hrun
      rcases hw' with hw' | ⟨r', hr', rfl⟩
      · exact hsaved w' hw'
      · cases hr'
  | hold held dryRun =>
    exact congrArg _ (leaves_of_ends (ends_setProductHold held dryRun) hrun hw')
  | advance runSeconds dryRun =>
    exact congrArg _ (leaves_of_ends (ends_advanceProduct runSeconds dryRun) hrun hw')

theorem budget_of_follows (h : Follows w w') : w'.cashTerms.remainingBudget = w.cashTerms.remainingBudget := by
  cases h with
  | resolve h => rw [cashTerms_of_resolveApproval h]
  | synchronize h => rw [(frame_of_synchronizeWorkflow h).1]
  | fail => rfl
  | operate h hanchored => exact budget_of_leaves h hanchored

/-- A verified operation keeps the accounting exactly when the cash it was approved at, less
its cost, is what the budget is counted from; and where every step meets that condition, the
budget in every state is the one approved at creation. -/
theorem reserve_charged_once_iff (w : ProductWorkflow) :
    (∀ (op : Irreversible) (provided dryRun : Bool) (r : ProductOperationResult)
      (st : Cleanup) (j : Journal ProductWorkflow),
      (op.run w provided dryRun none).Run anyWorld Journal.empty (.ok r, st) j → r.verified = true →
        (op.Neutral w r.workflow j.grantedOn ↔ op.Anchored w j.grantedOn)) ∧
    ∀ (snapshot : GameSnapshot) (recommendation : ProductRecommendation) (n : Nat) (w₀ : ProductWorkflow),
      createWorkflow snapshot recommendation n = .ok w₀ → ReflTransGen Follows w₀ w →
        w.cashTerms.remainingBudget = max 0 (recommendation.observedCash - recommendation.projectedCashAfter) := by
  constructor
  · intro op provided dryRun r st j hrun hverified
    obtain ⟨-, -, hr⟩ := (ends_irreversible op provided dryRun).returns hrun
    rcases hr hverified with ⟨hg, hsame⟩ | ⟨o, hg, hcharged⟩
    · have hanchored : op.Anchored w j.grantedOn := by
        rw [hg]
        intro o ho
        cases ho
      refine iff_of_true ?_ hanchored
      cases op with
      | promote => exact fun snapshot => requireReserve_congr hsame snapshot
      | iterate => exact fun snapshot => requireReserve_congr hsame snapshot
      | review =>
        rw [hg]
        intro o ho
        cases ho
    · exact neutral_iff_of_charged hg hcharged
  · intro snapshot recommendation n w₀ hcreate hrun
    induction hrun with
    | refl =>
      rw [cashTerms_of_createWorkflow hcreate]
      rfl
    | tail _ hstep ih => rw [budget_of_follows hstep, ih]

/-! ## A promotion after a payroll -/

section Example

/-- Atlas on the game screen, paused, at a cash and in a kind of work. -/
def atlasShown (cash : ℚ) (workType : String) (sequence : Int) : Observation where
  semanticAfter :=
    { captureTimestamp := "", captureStartedMarker := "a", captureCompletedMarker := "b"
      bridgeSequence := sequence
      bridgeInstanceId := "bridge", gameSessionId := "session", gameId := "software-inc"
      gameVersion := "1.8.41", adapterVersion := "10"
      platform := .macos, architecture := .x86_64
      mapIdentity := ⟨.unavailable, none, none, none⟩
      saveIdentity := ⟨.observed, some "save", none, none⟩
      gameState := [("simulation_speed", .string "0")]
      surfaces :=
        [⟨⟨"finances", .observedComplete, [], none⟩, [⟨"finance", "current", [("cash", .number cash)]⟩]⟩,
          ⟨⟨"work_items", .observedComplete, [], none⟩,
            [⟨"work_item", "701", [("is_contract", .boolean false), ("name", .string "Atlas"),
              ("work_type", .string workType), ("paused", .boolean true), ("progress", .number 1)]⟩]⟩]
      warnings := [], limitations := [] }
  frame := ⟨"frame", 1, "window"⟩
  scene := .gameplayPaused
  modalState := .none
  projectionId := "projection"
  targets := [⟨"work-item-701-promote", "frame", true, 1, 100⟩]

/-- Cash of $100,000, of which $52,000 is left in the projection. -/
def atlasRecommended : ProductRecommendation where
  saveIdentity := saveIdentityText ⟨.observed, some "save", none, none⟩
  capabilityFingerprint := "0"
  name := "Atlas"
  productType := "2D Editor"
  category := "Default"
  features := ["Core"]
  operatingSystems := ["OS"]
  price := 10
  teamName := "Core"
  observedCash := 100000
  minimumCashReserve := 10000
  projectedCashAfter := 52000
  recommended := true
  reserve_nonneg := by decide
  price_nonneg := by decide

/-- The workflow of the recommendation, approved and synchronized on the design work. -/
def atlasApproved (cash : ℚ) : Except UIError ProductWorkflow := do
  let created ← createWorkflow (atlasShown 100000 "DesignDocument" 1).semanticAfter atlasRecommended 0
  synchronizeWorkflow (← resolveApproval created true) (atlasShown cash "DesignDocument" 2).semanticAfter

/-- Every call succeeds and the approval is given; from the fifth observation on the work is in alpha. -/
def promoting (cash : ℚ) (j : Journal ProductWorkflow) :
    (o : Call WorkflowId ProductWorkflow ProductApproval ProductCycleEvent) → Reply o
  | .observe =>
    let sequence := ((j.lastSeen.map (·.semanticAfter.bridgeSequence)).getD 2) + 1
    .ok (atlasShown cash (if sequence < 5 then "DesignDocument" else "SoftwareAlpha") sequence)
  | .execute _ | .sleep _ | .keepGameForeground | .save _ | .appendEvent _ => .ok ()
  | .approve _ => .ok true
  | .get _ | .current _ _ => .ok none
  | .events _ => .ok 0
  | .uuid4 => 0
  | .now => (0 : Nat)

/-- The promotion of the approved workflow at a cash: whether it verified, the budget before and after it,
and the cash it was granted at. -/
def promotedAt (cash : ℚ) : Option (Bool × ℚ × ℚ × Option ℚ) := do
  let w ← (atlasApproved cash).toOption
  let ((result, _), j) ← (promoteProduct w true false none).play (replying (promoting cash)) Journal.empty
  let r ← result.toOption
  return (r.verified, w.cashTerms.remainingBudget, r.workflow.cashTerms.remainingBudget,
    j.grantedOn.bind fun o => (currentCash o.semanticAfter).toOption)

theorem exists_of_promotedAt {cash before after granted : ℚ}
    (h : promotedAt cash = some (true, before, after, some granted)) :
    ∃ w₀ w r st j o, createWorkflow (atlasShown 100000 "DesignDocument" 1).semanticAfter atlasRecommended 0 = .ok w₀ ∧
      ReflTransGen Follows w₀ w ∧ (promoteProduct w true false none).Run anyWorld Journal.empty (.ok r, st) j ∧
      r.verified = true ∧ w.cashTerms.remainingBudget = before ∧ r.workflow.cashTerms.remainingBudget = after ∧
      j.grantedOn = some o ∧ currentCash o.semanticAfter = .ok granted := by
  simp only [promotedAt, Option.bind_eq_bind, Option.bind_eq_some_iff, Option.pure_def, Option.some.injEq,
    Prod.mk.injEq] at h
  obtain ⟨w, hw, ⟨⟨result, st⟩, j⟩, hplay, r, hr, hverified, hbefore, hafter, o, ho, hcash⟩ := h
  have hr := eq_ok_of_toOption hr
  subst hr
  obtain ⟨w₀, hcreated, hrest⟩ := Except.bind_eq_ok.mp (eq_ok_of_toOption hw)
  obtain ⟨resolved, hresolved, hsync⟩ := Except.bind_eq_ok.mp hrest
  exact ⟨w₀, w, r, st, j, o, hcreated, (ReflTransGen.single (.resolve hresolved)).tail (.synchronize hsync),
    run_of_replying hplay, hverified, hbefore, hafter, ho, eq_ok_of_toOption hcash⟩

theorem promotedAt_payroll : promotedAt 90000 = some (true, 48000, 58000, some 90000) := by
  simp only [promotedAt, atlasApproved, createWorkflow, promoteProduct, approvalFor, sized_eq_countP]
  decide +kernel

/-- After a payroll of $10,000 the promotion is approved with the budget taken from what is
left, and the next step reserves the payroll once more: $58,000 where $48,000 were approved. -/
theorem payroll_reserved_again :
    ∃ w₀ w r st j, createWorkflow (atlasShown 100000 "DesignDocument" 1).semanticAfter atlasRecommended 0 = .ok w₀ ∧
      ReflTransGen Follows w₀ w ∧ (promoteProduct w true false none).Run anyWorld Journal.empty (.ok r, st) j ∧
      r.verified = true ∧ w.cashTerms.remainingBudget = 48000 ∧ r.workflow.cashTerms.remainingBudget = 58000 ∧
      ∃ snapshot, requireReserve r.workflow snapshot ≠ requireReserve w snapshot := by
  obtain ⟨w₀, w, r, st, j, o, hcreated, hfollows, hplay, hverified, hbefore, hafter, ho, hcash⟩ :=
    exists_of_promotedAt promotedAt_payroll
  refine ⟨w₀, w, r, st, j, hcreated, hfollows, hplay, hverified, hbefore, hafter, o.semanticAfter, fun h => ?_⟩
  obtain ⟨-, -, hr⟩ := (ends_promoteProduct true false).returns hplay
  rcases hr hverified with ⟨hnone, -⟩ | ⟨o', ho', cash, cost, hcash', hcost, hreserve, -, -⟩
  · rw [ho] at hnone
    cases hnone
  · rw [ho] at ho'
    cases ho'
    have hbudget := budget_of_requireReserve hcash' (h.trans hreserve) rfl
    rw [hbefore, hafter] at hbudget
    norm_num at hbudget

/-- The budget approved with the recommendation, and the promotion after the payroll. -/
theorem reserve_charged_once_iff_payroll :
    ∃ w r st j, (promoteProduct w true false none).Run anyWorld Journal.empty (.ok r, st) j ∧ r.verified = true ∧
      (Irreversible.promote.Neutral w r.workflow j.grantedOn ↔ Irreversible.promote.Anchored w j.grantedOn) ∧
      w.cashTerms.remainingBudget = max 0 (100000 - 52000) := by
  obtain ⟨w₀, w, r, st, j, -, hcreated, hfollows, hplay, hverified, -⟩ := exists_of_promotedAt promotedAt_payroll
  exact ⟨w, r, st, j, hplay, hverified, (reserve_charged_once_iff w).1 .promote true false r st j hplay hverified,
    (reserve_charged_once_iff w).2 _ atlasRecommended 0 w₀ hcreated hfollows⟩

end Example

end SimPilot.SoftwareInc.Products
