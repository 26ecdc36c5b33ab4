import SimPilot.SoftwareInc.Contracts.Ownership
import SimPilot.SoftwareInc.Training.Ownership
/-!
# Abandoned workflows keep their save

Calls of the contract operator, and of the education operator, one after another on one store.
A call is rejected for the owner of the save exactly where an earlier one left the workflow of
another contract there, or an open workflow of another employee; of a contract every workflow
stays open, also that of a dry run.
-/

namespace SimPilot.SoftwareInc

open GameBridge Effect Relation

namespace Contracts

/-- One call of `accept_recommended_contract`, whatever comes of it. -/
def Accepts (s s' : Shelf ContractWorkflow) : Prop :=
  ∃ (q : AcceptRequest) (provided dryRun : Bool) (result : Except UIError ContractOperationResult),
    (acceptRecommendedContract q provided dryRun ()).Run market s.begin (result, ()) s'

theorem Accepts.openRows {s s' : Shelf ContractWorkflow} (h : Accepts s s') (hs : Open s.rows) : Open s'.rows := by
  obtain ⟨q, provided, dryRun, result, hrun⟩ := h
  cases result with
  | ok r => exact ((ends_acceptRecommendedContract hs).returns hrun).1.openRows
  | error e => exact ((ends_acceptRecommendedContract hs).raises hrun).1.openRows

/-- No path of the operator closes a workflow. -/
theorem openRows_of_accepts {s : Shelf ContractWorkflow} (h : ReflTransGen Accepts { rows := [] } s) : Open s.rows := by
  induction h with
  | refl => exact ⟨by simp⟩
  | tail _ hstep ih => exact hstep.openRows ih

end Contracts

namespace Training

/-- One call of `start_training`, whatever comes of it. -/
def Starts (s s' : Shelf TrainingWorkflow) : Prop :=
  ∃ (request : StartRequest) (provided dryRun : Bool) (st st' : Cleanup)
    (result : Except UIError TrainingOperationResult),
    (startTraining request provided dryRun st).Run classroom s.begin (result, st') s'

theorem sole_of_starts {s : Shelf TrainingWorkflow} (h : ReflTransGen Starts { rows := [] } s) :
    educationStore.Sole s.rows := by
  induction h with
  | refl => exact ⟨by simp, by simp⟩
  | @tail s s' _ hstep ih =>
    obtain ⟨_, _, _, _, _, _, hrun⟩ := hstep
    exact StoreKind.Sole.run educationStore (s := s.begin) ih hrun

end Training

open Contracts Training in
/-- **A later call that the store answers is not rejected for the owner of the save exactly
where no earlier call left another contract's workflow there, or another employee's open one.** -/
theorem save_owned_exactly (provided dryRun : Bool) :
    (∀ s, ReflTransGen Accepts { rows := [] } s → ∀ q result s',
      (acceptRecommendedContract q provided dryRun ()).Run market s.begin (result, ()) s' → s'.answered = true →
        (¬ s'.refused = true ↔ ¬ Contracts.OwnedByOther q.plan s.rows) ∧
        (s'.refused = true → result = .error contractStore.owned)) ∧
    (∀ s, ReflTransGen Starts { rows := [] } s → ∀ r candidate h st result st' s',
      (startTraining (.recommendation r candidate h) provided dryRun st).Run classroom s.begin (result, st') s' →
      s'.answered = true →
        (¬ Rejected candidate.employee.employeeId s' ↔
          ¬ Training.OwnedByOther r.gameSessionId r.saveIdentity candidate.employee.employeeId s.rows) ∧
        (Rejected candidate.employee.employeeId s' → result = .error rejection)) := by
  constructor
  · intro s hs q result s' hrun hanswered
    cases result with
    | ok r =>
      obtain ⟨haccepted, hnone⟩ := (ends_acceptRecommendedContract (openRows_of_accepts hs)).returns hrun
      exact ⟨not_congr (haccepted.refused hanswered), fun h => by simp [hnone] at h⟩
    | error e =>
      obtain ⟨haccepted, howned⟩ := (ends_acceptRecommendedContract (openRows_of_accepts hs)).raises hrun
      exact ⟨not_congr (haccepted.refused hanswered), fun h => congrArg _ (howned h)⟩
  · intro s hs r candidate h st result st' s' hrun hanswered
    cases result with
    | ok r =>
      obtain ⟨howned, hnone⟩ := (own_startTraining (sole_of_starts hs)).returns hrun
      exact ⟨not_congr (howned hanswered), fun h => (hnone h).elim⟩
    | error e =>
      obtain ⟨howned, hrejection⟩ := (own_startTraining (sole_of_starts hs)).raises hrun
      exact ⟨not_congr (howned hanswered), fun h => congrArg _ (hrejection h)⟩

/-! ## A dry run that owns a save -/

namespace Contracts

section Example

/-- A paused game with no work in progress. -/
def idleGame : GameSnapshot where
  captureTimestamp := ""
  captureStartedMarker := "a"
  captureCompletedMarker := "b"
  bridgeSequence := 5
  bridgeInstanceId := "bridge"
  gameSessionId := "session"
  gameId := "software-inc"
  gameVersion := "1.8.41"
  adapterVersion := "9"
  platform := .macos
  architecture := .x86_64
  mapIdentity := ⟨.unavailable, none, none, none⟩
  saveIdentity := ⟨.observed, some "save", none, none⟩
  gameState := [("force_pause", .boolean true)]
  surfaces := [⟨⟨"work_items", .observedComplete, [], none⟩, []⟩]
  warnings := []
  limitations := []

def idleSeen : Observation where
  semanticAfter := idleGame
  frame := ⟨"frame", 1, "window"⟩
  scene := .gameplayPaused
  modalState := .none
  projectionId := "projection"
  targets := [⟨"open_contracts", "frame", true, 1, 10⟩]

/-- The recommendation of the contract with this id. -/
def contractRequest (contractId : String) : AcceptRequest where
  candidate :=
    { contract :=
        { contractId, displayIndex := 0, name := "Ledger", client := "Northwind", softwareType := "Office Software"
          softwareCategory := "", features := [], months := 2, developmentTime := 1, difficulty := 1, artRatio := 0
          minimumProgress := 0, qualityTarget := 0, reward := 0, penalty := 0, perBugPenalty := 0
          deadline := "2 in-game months", daysRemaining := 2, gameStatus := "" }
      teamName := "Core", minimumReward := 0, minimumCashReserve := 0, eligible := true }
  recommendation :=
    { gameSessionId := "session", saveIdentity := saveIdentityText idleGame.saveIdentity, sourceBridgeSequence := 1
      recommended := some
        { contract :=
            { contractId, displayIndex := 0, name := "Ledger", client := "Northwind", softwareType := "Office Software"
              softwareCategory := "", features := [], months := 2, developmentTime := 1, difficulty := 1, artRatio := 0
              minimumProgress := 0, qualityTarget := 0, reward := 0, penalty := 0, perBugPenalty := 0
              deadline := "2 in-game months", daysRemaining := 2, gameStatus := "" }
          teamName := "Core", minimumReward := 0, minimumCashReserve := 0, eligible := true }
      expiresAt := 10 }
  recommended := rfl

/-- The idle game over a store that does not fail. -/
def idleAnswer : (o : Call WorkflowId ContractWorkflow ContractApproval ContractCycleEvent) →
    Shelf ContractWorkflow → Option (Reply o × Shelf ContractWorkflow)
  | .observe, s => some (.ok idleSeen, s)
  | .save w, s =>
    if contractStore.conflict s.rows w then some (.error contractStore.owned, { s with answered := true, refused := true })
    else some (.ok (), { s with rows := contractStore.upsert s.rows w, answered := true })
  | .get i, s => some (.ok (s.rows.find? (contractStore.workflowId · = i)), s)
  | .events _, s => some (.ok 0, s)
  | .uuid4, s => some (0, s)
  | .now, s => some (1, s)
  | _, _ => none

theorem market_of_idleAnswer (o : Call WorkflowId ContractWorkflow ContractApproval ContractCycleEvent)
    (s : Shelf ContractWorkflow) (r : Reply o) (s' : Shelf ContractWorkflow) (h : idleAnswer o s = some (r, s')) :
    market o s r s' := by
  unfold idleAnswer at h
  split at h
  · cases h
    rfl
  · rename_i w
    split at h
    · cases h
      exact .inl ⟨‹_›, rfl, rfl⟩
    · rename_i hfree
      cases h
      exact ⟨Bool.eq_false_iff.mpr hfree, rfl⟩
  · cases h
    exact ⟨rfl, rfl⟩
  · cases h
    rfl
  · cases h
    rfl
  · cases h
    rfl
  · cases h

/-- A dry run from this store. -/
def dryRun (contractId : String) (s : Shelf ContractWorkflow) :
    Option ((Except UIError ContractOperationResult × Unit) × Shelf ContractWorkflow) :=
  (acceptRecommendedContract (contractRequest contractId) false true ()).play idleAnswer s.begin

/-- A dry run for one contract, and then one for another: what the store is left with. -/
def twoDryRuns : Option (Shelf ContractWorkflow × Shelf ContractWorkflow) := do
  let (_, s) ← dryRun "a" { rows := [] }
  let (_, s') ← dryRun "b" s
  return (s, s')

set_option maxRecDepth 8000 in
theorem twoDryRuns_eq : twoDryRuns.map (fun (s, s') => (s.commitments, s'.answered, s'.refused)) = some (0, true, true) := by
  decide +kernel

theorem exists_twoDryRuns : ∃ s result s', Accepts { rows := [] } s ∧ s.commitments = 0 ∧
    (acceptRecommendedContract (contractRequest "b") false true ()).Run market s.begin (result, ()) s' ∧
    s'.answered = true ∧ s'.refused = true := by
  have h := twoDryRuns_eq
  unfold twoDryRuns at h
  cases hfirst : dryRun "a" { rows := [] } with
  | none => simp [hfirst] at h
  | some first =>
    obtain ⟨⟨result, u⟩, s⟩ := first
    cases hsecond : dryRun "b" s with
    | none => simp [hfirst, hsecond] at h
    | some second =>
      obtain ⟨⟨result', u'⟩, s'⟩ := second
      simp only [hfirst, hsecond, Option.bind_eq_bind, Option.bind_some, Option.pure_def, Option.map_some,
        Option.some.injEq, Prod.mk.injEq] at h
      exact ⟨s, result', s', ⟨_, _, _, _, Prog.run_of_play market_of_idleAnswer hfirst⟩, h.1,
        Prog.run_of_play market_of_idleAnswer hsecond, h.2⟩

/-- A dry run for one contract locks the save against another. -/
theorem dryRun_owns_save :
    ¬ ∀ s, ReflTransGen Accepts { rows := [] } s → s.commitments = 0 → ∀ q provided dryRun result s',
      (acceptRecommendedContract q provided dryRun ()).Run market s.begin (result, ()) s' → s'.refused = false := by
  intro h
  obtain ⟨s, result, s', hstep, hnone, hrun, -, hrefused⟩ := exists_twoDryRuns
  rw [h s (.single hstep) hnone _ _ _ _ _ hrun] at hrefused
  cases hrefused

theorem save_owned_exactly_dryRuns : ∃ s : Shelf ContractWorkflow, OwnedByOther (contractRequest "b").plan s.rows := by
  obtain ⟨s, result, s', hstep, -, hrun, hanswered, hrefused⟩ := exists_twoDryRuns
  have h := ((save_owned_exactly _ _).1 s (.single hstep) _ _ s' hrun hanswered).1
  exact ⟨s, by_contra fun hfree => h.mpr hfree hrefused⟩

end Example

end Contracts

end SimPilot.SoftwareInc
