import SimPilot.SoftwareInc.OperatorRules
import SimPilot.SoftwareInc.Training.Operator
import Mathlib.Logic.Relation
/-!
# The accounting of an education

The books of a workflow hold, beside it, the approvals that were granted and the ones whose
course was committed. They stay `Sound` in every run in which the game shows a course active
only after it was committed, and no commitment fails to be verified.
-/

namespace SimPilot.SoftwareInc.Training

open GameBridge Effect Py Relation

/-- A workflow, the approvals granted for it and those its courses were started on, in their
order; and how many commitments were sent at all. -/
structure Books where
  workflow : Option TrainingWorkflow
  approved : List TrainingApproval
  started : List TrainingApproval
  commits : Nat

/-- The game shows the course of a workflow only when it was committed, and a finished
employee stays at its level. -/
def Fair (b : Books) (snapshot : GameSnapshot) : Prop :=
  ∀ w ∈ b.workflow, ∀ employee, exactEmployeeTraining snapshot w.employeeId = .ok employee →
    (employee.courseActive = true → (b.started.length : Int) = w.completedCourses + 1) ∧
    (w.status = .completed → employee.level = w.currentLevel)

/-- The books where the commitment of the pending approval is sent. -/
def Books.commit (b : Books) : Books :=
  { b with started := b.started ++ (b.workflow.bind (·.pendingApproval)).toList, commits := b.commits + 1 }

/-- What the calls of the education operator do to the books. Where the store holds no open
workflow the books of a new one begin. -/
def world : Semantics (Call WorkflowId TrainingWorkflow TrainingApproval TrainingCycleEvent) Reply Books
  | .observe, b, .ok o, b' => b' = b ∧ Fair b o.semanticAfter
  | .save w, b, .ok (), b' => b' = { b with workflow := some w }
  | .approve a, b, .ok true, b' => b' = { b with approved := b.approved ++ [a] }
  | .execute g, b, .ok (), b' => b' = if g.targetId = "commit_education" then b.commit else b
  | .current _ _, b, .ok none, b' => b' = { b with workflow := none, approved := [], started := [] }
  | .current _ _, b, .ok (some w), b' => b' = b ∧ b.workflow = some w ∧ w.status ≠ .completed ∧ w.status ≠ .blocked
  | _, b, _, b' => b' = b

/-! ## Sound books -/

/-- What the status of a workflow says about its pending approval. -/
def PendingFits (w : TrainingWorkflow) : Prop :=
  match w.status with
  | .waitingForApproval => ∃ p, w.pendingApproval = some p ∧ p.approved = none
  | .planned | .active => ∃ p, w.pendingApproval = some p ∧ p.approved = some true
  | .blocked => ∃ p, w.pendingApproval = some p ∧ p.approved = some false
  | .completed => w.pendingApproval = none

/-- The approval as it was when it was asked for. -/
def TrainingApproval.asked (a : TrainingApproval) : TrainingApproval := { a with approved := none }

structure Sound (w : TrainingWorkflow) (approved started : List TrainingApproval) : Prop where
  initial : w.initialLevel = 0
  courses : (started.length : Int) = w.completedCourses + if w.status = .active then 1 else 0
  stages : ∀ i (h : i < started.length), started[i].stageNumber = i + 1
  granted : ∀ a ∈ started, a.approved = some true ∧ a.asked ∈ approved
  cost : w.actualDirectCost = (started.map (·.directCost)).sum
  stage : ∀ p ∈ w.pendingApproval, p.stageNumber = w.completedCourses + 1
  pending : ∀ p ∈ w.pendingApproval, p.approved = some true → p.asked ∈ approved
  fits : PendingFits w
  remaining : w.status ≠ .completed → w.completedCourses < 3
  finished : w.status = .completed → w.completedCourses = 3 ∧ w.currentLevel = 3

def Books.Sound (b : Books) : Prop :=
  match b.workflow with
  | none => b.approved = [] ∧ b.started = []
  | some w => Training.Sound w b.approved b.started

variable {w w' : TrainingWorkflow} {b b' : Books} {snapshot : GameSnapshot} {approved started : List TrainingApproval}
  {n : Nat}

theorem checkedApproval_eq_ok {a a' : TrainingApproval} (h : checkedApproval a = .ok a') : a' = a := by
  unfold checkedApproval at h
  split at h
  · cases h
    rfl
  · cases h

theorem sound_of_createTrainingWorkflow {candidate : TrainingCandidate}
    (h : createTrainingWorkflow snapshot candidate n = .ok w) (hlevel : candidate.employee.level = 0) :
    Sound w [] [] := by
  unfold createTrainingWorkflow at h
  split at h
  · cases h
  · obtain ⟨approval, happroval, hw⟩ := Except.bind_eq_ok.mp h
    have happroval := checkedApproval_eq_ok happroval
    cases hw
    subst happroval
    exact
      { initial := hlevel
        courses := by simp
        stages := by simp
        granted := by simp
        cost := by simp
        stage := by simp
        pending := by simp
        fits := ⟨_, rfl, rfl⟩
        remaining := by simp
        finished := by simp }

/-- An approval that can be resolved belongs to a workflow that waits for it. -/
theorem waiting_of_unresolved {p : TrainingApproval} (h : PendingFits w) (hp : w.pendingApproval = some p)
    (hnone : p.approved = none) : w.status = .waitingForApproval := by
  unfold PendingFits at h
  split at h
  · assumption
  · obtain ⟨q, hq, hq'⟩ := h
    rw [hp] at hq
    cases hq
    rw [hnone] at hq'
    cases hq'
  · obtain ⟨q, hq, hq'⟩ := h
    rw [hp] at hq
    cases hq
    rw [hnone] at hq'
    cases hq'
  · obtain ⟨q, hq, hq'⟩ := h
    rw [hp] at hq
    cases hq
    rw [hnone] at hq'
    cases hq'
  · rw [hp] at h
    cases h

theorem resolveTrainingApproval_eq_ok {yes : Bool} (h : resolveTrainingApproval w yes = .ok w') :
    ∃ p, w.pendingApproval = some p ∧ p.approved = none ∧
      w' = { w with pendingApproval := some { p with approved := some yes }, status := if yes then .planned else .blocked } := by
  unfold resolveTrainingApproval at h
  split at h
  · next p hp =>
    split at h
    · cases h
    · next hnone =>
      cases h
      exact ⟨p, hp, by simpa using hnone, rfl⟩
  · cases h

theorem Sound.resolve {yes : Bool} {p : TrainingApproval} (h : Sound w approved started)
    (hp : w.pendingApproval = some p) (hnone : p.approved = none) :
    Sound { w with pendingApproval := some { p with approved := some yes }, status := if yes then .planned else .blocked }
      (if yes then approved ++ [p] else approved) started := by
  have hwaiting := waiting_of_unresolved h.fits hp hnone
  have hcourses := h.courses
  have hremaining := h.remaining (by rw [hwaiting]; decide)
  have hstage := h.stage p hp
  have hasked : p.asked = p := by
    unfold TrainingApproval.asked
    rw [← hnone]
  rw [hwaiting] at hcourses
  cases yes
  · exact
      { h with
        courses := by simpa using hcourses
        stage := by simpa using hstage
        pending := by simp
        fits := ⟨_, rfl, rfl⟩
        remaining := fun _ => hremaining
        finished := by simp }
  · exact
      { h with
        courses := by simpa using hcourses
        granted := fun a ha => ⟨(h.granted a ha).1, List.mem_append_left _ (h.granted a ha).2⟩
        stage := by simpa using hstage
        pending := by
          intro q hq _
          cases hq
          exact List.mem_append_right _ (List.mem_singleton.mpr hasked)
        fits := ⟨_, rfl, rfl⟩
        remaining := fun _ => hremaining
        finished := by simp }

theorem synchronizeTraining_eq_ok (h : synchronizeTraining w snapshot n = .ok w') :
    ∃ employee, exactEmployeeTraining snapshot w.employeeId = .ok employee ∧ applyEmployee w snapshot employee n = .ok w' := by
  unfold synchronizeTraining at h
  split at h
  · cases h
  · split at h
    · cases h
    · exact Except.bind_eq_ok.mp h

theorem nextStageApproval_eq_ok {level stage : Int} {cost cash : ℚ} {a : TrainingApproval}
    (h : nextStageApproval w level cost cash stage n = .ok a) : a.stageNumber = stage ∧ a.approved = none := by
  unfold nextStageApproval at h
  dsimp only at h
  split at h
  · cases h
  · have ha := checkedApproval_eq_ok h
    subst ha
    exact ⟨rfl, rfl⟩

/-- A course that is shown for the first time after its commitment. -/
theorem Sound.commit {p : TrainingApproval} {employee : EmployeeTrainingObservation} (h : Sound w approved started)
    (hidle : w.status ≠ .active) (hp : w.pendingApproval = some p) (hgranted : p.approved = some true)
    (hactive : employee.courseActive = true)
    (hs : applyEmployee { w with actualDirectCost := w.actualDirectCost + p.directCost } snapshot employee n = .ok w') :
    Sound w' approved (started ++ [p]) := by
  have hcourses := h.courses
  have hstage := h.stage p hp
  have hremaining : w.completedCourses < 3 := by
    refine h.remaining fun hdone => ?_
    have hfits := h.fits
    unfold PendingFits at hfits
    rw [hdone] at hfits
    simp [hp] at hfits
  rw [if_neg hidle] at hcourses
  unfold applyEmployee at hs
  dsimp only at hs
  rw [if_pos hactive] at hs
  cases hs
  exact
    { initial := h.initial
      courses := by simpa [TrainingWorkflow.observed] using hcourses
      stages := by
        intro i hi
        rcases Nat.lt_or_ge i started.length with hlt | hge
        · rw [List.getElem_append_left hlt]
          exact h.stages i hlt
        · have hlast : i = started.length := by
            rw [List.length_append, List.length_singleton] at hi
            omega
          subst hlast
          rw [List.getElem_append_right (le_refl _)]
          simp only [Nat.sub_self, List.getElem_cons_zero]
          omega
      granted := by
        intro a ha
        rcases List.mem_append.mp ha with ha | ha
        · exact h.granted a ha
        · rw [List.mem_singleton.mp ha]
          exact ⟨hgranted, h.pending p hp hgranted⟩
      cost := by
        have hcost := h.cost
        simp [TrainingWorkflow.observed, hcost]
      stage := h.stage
      pending := h.pending
      fits := ⟨p, hp, hgranted⟩
      remaining := fun _ => hremaining
      finished := by simp }

theorem Sound.apply {employee : EmployeeTrainingObservation} (h : Sound w approved started)
    (hs : applyEmployee w snapshot employee n = .ok w')
    (hcourse : employee.courseActive = true → (started.length : Int) = w.completedCourses + 1)
    (hlevel : w.status = .completed → employee.level = w.currentLevel) : Sound w' approved started := by
  have hcourses := h.courses
  unfold applyEmployee at hs
  dsimp only at hs
  split at hs
  -- the course is shown, so it was committed and the workflow is active
  · next hactive =>
    have hstatus : w.status = .active := by
      by_contra hidle
      rw [if_neg hidle, hcourse hactive] at hcourses
      omega
    rw [if_pos hstatus] at hcourses
    have hfits := h.fits
    unfold PendingFits at hfits
    rw [hstatus] at hfits
    have hremaining := h.remaining (by rw [hstatus]; decide)
    cases hs
    exact
      { h with
        courses := by simpa [TrainingWorkflow.observed] using hcourses
        fits := hfits
        remaining := fun _ => hremaining
        finished := by simp }
  · split at hs
    · cases hs
      exact { h with finished := fun hdone => ⟨(h.finished hdone).1, (hlevel hdone).trans (h.finished hdone).2⟩ }
    -- the course of an active workflow is over
    · next hstatus =>
      have hstatus : w.status = .active := not_not.mp hstatus
      rw [if_pos hstatus] at hcourses
      have hremaining := h.remaining (by rw [hstatus]; decide)
      have hinitial := h.initial
      split at hs
      · cases hs
      · next hgain =>
        have hgain := not_not.mp hgain
        split at hs
        · next htarget =>
          unfold targetLevel at htarget
          have hdone : w.completedCourses = 2 := by omega
          cases hs
          exact
            { h with
              courses := by
                rw [hcourses]
                simp
              stage := by simp
              pending := by simp
              fits := rfl
              remaining := fun hne => absurd rfl hne
              finished := fun _ => by
                simp only [TrainingWorkflow.observed]
                omega }
        · next htarget =>
          unfold targetLevel at htarget
          obtain ⟨cash, -, hs⟩ := Except.bind_eq_ok.mp hs
          obtain ⟨approval, happroval, hs⟩ := Except.bind_eq_ok.mp hs
          obtain ⟨hstage, hnone⟩ := nextStageApproval_eq_ok happroval
          cases hs
          exact
            { h with
              courses := by
                rw [hcourses]
                simp
              stage := by
                intro p hp
                cases hp
                exact hstage
              pending := by
                intro p hp hyes
                cases hp
                rw [hnone] at hyes
                cases hyes
              fits := ⟨_, rfl, hnone⟩
              remaining := fun _ => by
                simp only
                omega
              finished := by simp }

theorem employeeId_of_applyEmployee {employee : EmployeeTrainingObservation}
    (h : applyEmployee w snapshot employee n = .ok w') : w'.employeeId = w.employeeId := by
  unfold applyEmployee at h
  dsimp only at h
  split at h
  · cases h
    rfl
  · split at h
    · cases h
      rfl
    · split at h
      · cases h
      · split at h
        · cases h
          rfl
        · obtain ⟨_, -, h⟩ := Except.bind_eq_ok.mp h
          obtain ⟨_, -, h⟩ := Except.bind_eq_ok.mp h
          cases h
          rfl

/-- Synchronizing on a snapshot that is fair to sound books leaves them sound. -/
theorem Books.Sound.synchronize (h : b.Sound) (hw : b.workflow = some w) (hfair : Fair b snapshot)
    (hs : synchronizeTraining w snapshot n = .ok w') : ({ b with workflow := some w' } : Books).Sound := by
  obtain ⟨employee, hemployee, happly⟩ := synchronizeTraining_eq_ok hs
  obtain ⟨hcourse, hlevel⟩ := hfair w hw employee hemployee
  have hsound : Training.Sound w b.approved b.started := by
    unfold Books.Sound at h
    rw [hw] at h
    exact h
  exact hsound.apply happly hcourse hlevel

/-! ## What the operators do to the books -/

namespace Books
variable {st : Cleanup} {er : UIError → Cleanup → Books → Prop}

theorem quiet (L : Books → Prop) : Quiet world L where
  sleep := by rintro _ _ _ _ hb rfl; exact hb
  keepGameForeground := by rintro _ _ _ hb rfl; exact hb
  events := by rintro _ _ _ _ hb rfl; exact hb
  appendEvent := by rintro _ _ _ _ hb rfl; exact hb
  uuid4 := by rintro _ _ _ hb rfl; exact hb
  now := by rintro _ _ _ hb rfl; exact hb

theorem calm (L : Books → Prop) : Calm world L where
  toQuiet := quiet L
  observe := by
    rintro b (e | o) b' hb h
    · cases h
      exact hb
    · cases h.1
      exact hb

theorem ends_observe {ok : Observation → Cleanup → Books → Prop} (ho : ∀ o, Fair b o.semanticAfter → ok o st b)
    (he : ∀ e, er e st b) : Py.Ends world (Operation.observe : Op Observation) st b ok er :=
  SoftwareInc.ends_observe (fun o _ h => h.1 ▸ ho o h.2) fun e _ h => h ▸ he e

theorem ends_save {ok : Unit → Cleanup → Books → Prop} (ho : ok () st { b with workflow := some w })
    (he : ∀ e, er e st b) : Py.Ends world (Operation.save w : Op Unit) st b ok er :=
  SoftwareInc.ends_save (fun _ h => h ▸ ho) fun e _ h => h ▸ he e

theorem ends_uuid4 {ok : Nat → Cleanup → Books → Prop} (ho : ∀ n, ok n st b) :
    Py.Ends world (Operation.uuid4 : Op Nat) st b ok er :=
  SoftwareInc.ends_uuid4 (quiet (· = b)) rfl fun n _ h => h ▸ ho n

theorem ends_target {o : Observation} {targetId : String} {ok : VisualTarget → Cleanup → Books → Prop}
    (ho : ∀ t : VisualTarget, t.targetId = targetId → ok t st b) (he : ∀ e, er e st b) :
    Py.Ends world (target education o targetId : Op VisualTarget) st b ok er :=
  SoftwareInc.ends_target education (quiet (· = b)) rfl (fun t _ ht h => h ▸ ho t ht) fun e _ h => h ▸ he e

theorem ends_event {x : TrainingWorkflow} {eventType action detail : String} {sequence : Int}
    {ok : TrainingCycleEvent → Cleanup → Books → Prop} (ho : ∀ event, ok event st b) (he : ∀ e, er e st b) :
    Py.Ends world (appendEvent x eventType sequence action detail) st b ok er := by
  refine .bind (ends_uuid4 fun _ => ?_)
  refine .bind (ends_events (quiet (· = b)) rfl (fun _ _ h => ?_) fun e _ h => h ▸ he e)
  refine .bind (ends_appendEvent (quiet (· = b)) h (fun _ h => ?_) fun e _ h => h ▸ he e)
  exact .pure (h ▸ ho _)

/-- A gesture that commits nothing. -/
theorem ends_send {before : Observation} {kind : GestureKind} {targetId effect : String}
    {ok : Observation → Cleanup → Books → Prop} (htarget : targetId ≠ "commit_education")
    (ho : ∀ o, Fair b o.semanticAfter → ok o st b) (he : ∀ e, er e st b) :
    Py.Ends world (send education before kind targetId effect : Op Observation) st b ok er := by
  refine SoftwareInc.ends_send education (calm (· = b)) ?_ ?_ (he _) fun e _ h => h ▸ he e
  · rintro g (e | u) b' hg h
    · exact h
    · exact h.trans (if_neg (hg ▸ htarget))
  · rintro o b₁ b' rfl h -
    exact h.1 ▸ ho o h.2

theorem ends_click {before : Observation} {t : VisualTarget} {effect : String}
    {ok : Observation → Cleanup → Books → Prop} (htarget : t.targetId ≠ "commit_education")
    (ho : ∀ o, Fair b o.semanticAfter → ok o st b) (he : ∀ e, er e st b) :
    Py.Ends world (click education before t effect : Op Observation) st b ok er :=
  .ite (fun _ => .raise (he _)) fun _ => ends_send htarget ho he

/-- The commitment: it may not be sent at all. -/
theorem ends_commit {before : Observation} {t : VisualTarget} {effect : String}
    {ok : Observation → Cleanup → Books → Prop} (htarget : t.targetId = "commit_education")
    (ho : ∀ o, Fair b.commit o.semanticAfter → ok o st b.commit) (hunsent : ∀ e, er e st b)
    (he : ∀ e, er e st b.commit) : Py.Ends world (click education before t effect : Op Observation) st b ok er := by
  unfold click
  refine .ite (fun _ => .raise (hunsent _)) fun _ => ?_
  unfold send
  refine .bind (ends_require (fun _ => ?_) (hunsent _))
  refine .bind (ends_execute (fun b₁ h₁ => ?_) fun e b' h => ?_)
  · have h₁ : b₁ = b.commit := h₁.trans (if_pos htarget)
    subst h₁
    refine .bind (ends_sleep (fun b₂ h₂ => ?_) fun e b₂ h₂ => ?_)
    · cases h₂
      refine .bind (ends_observe (fun o ho' => ?_) he)
      exact .bind (.lift (fun _ _ => .pure (ho o ho')) fun e _ => he e)
    · cases h₂
      exact he e
  · cases h
    exact hunsent e

end Books

theorem Sound.more (h : Sound w approved started) (a : TrainingApproval) : Sound w (approved ++ [a]) started :=
  { h with
    granted := fun x hx => ⟨(h.granted x hx).1, List.mem_append_left _ (h.granted x hx).2⟩
    pending := fun p hp hyes => List.mem_append_left _ (h.pending p hp hyes) }

theorem Books.sound_of_workflow (hw : b.workflow = some w) : b.Sound ↔ Training.Sound w b.approved b.started := by
  unfold Books.Sound
  rw [hw]

/-- The books are sound, of this workflow, and nothing was committed since `c`. -/
structure Kept (c : Nat) (w : TrainingWorkflow) (b : Books) : Prop where
  workflow : b.workflow = some w
  sound : Sound w b.approved b.started
  commits : b.commits = c

theorem Kept.books {c : Nat} (h : Kept c w b) : b.Sound := (Books.sound_of_workflow h.workflow).mpr h.sound

/-- The workflow to commit with holds an approval that was granted. -/
def Granted (c : Nat) (w : TrainingWorkflow) (approval : TrainingApproval) (resolved : TrainingWorkflow) (b : Books) : Prop :=
  Kept c resolved b ∧ (resolved.status = .active → w.status = .active) ∧
    ∃ p, resolved.pendingApproval = some p ∧ p.approved = some true ∧ p.directCost = approval.directCost

variable {st : Cleanup} {c : Nat}

theorem ends_askApproval {approval : TrainingApproval} {provided dryRun : Bool} {gestures : Nat} (hb : Kept c w b)
    (hp : w.pendingApproval = some approval) :
    Py.Ends world (askApproval w approval provided dryRun gestures) st b
      (fun a _ b' => match a with
        | .inl r => Kept c r.workflow b'
        | .inr resolved => Granted c w approval resolved b')
      (fun _ _ b' => b'.Sound) := by
  unfold askApproval
  refine .ite (fun _ => .pure hb) fun _ => ?_
  refine .ite (fun hyes => .pure ⟨hb, id, approval, hp, hyes, rfl⟩) fun _ => ?_
  refine .ite (fun _ => .pure hb) fun _ => ?_
  refine .bind (ends_approve (fun yes b₁ h₁ => ?_) fun e b₁ h₁ => ?_)
  · have hb₁ : Kept c w b₁ ∧ b₁.approved = (if yes then b.approved ++ [approval] else b.approved) ∧
        b₁.started = b.started := by
      cases yes <;> cases h₁
      · exact ⟨hb, rfl, rfl⟩
      · exact ⟨⟨hb.workflow, hb.sound.more approval, hb.commits⟩, rfl, rfl⟩
    obtain ⟨hkept, hgranted, hstarted⟩ := hb₁
    refine .bind (.lift (fun resolved hr => ?_) fun _ _ => hkept.books)
    obtain ⟨p, hp', hnone, rfl⟩ := resolveTrainingApproval_eq_ok hr
    rw [hp] at hp'
    cases hp'
    refine .bind (Books.ends_save ?_ fun _ => hkept.books)
    have hsaved := @Sound.resolve _ _ _ yes _ hb.sound hp hnone
    rw [← hgranted, ← hstarted] at hsaved
    refine .ite (fun _ => .pure ⟨rfl, hsaved, hkept.commits⟩) fun hunblocked => ?_
    cases yes with
    | false => exact absurd rfl hunblocked
    | true =>
      refine .pure ⟨⟨rfl, hsaved, hkept.commits⟩, fun h => ?_, _, rfl, rfl, rfl⟩
      simp at h
  · cases h₁
    exact hb.books

theorem ends_sendCommitment {approval : TrainingApproval} {resolved : TrainingWorkflow} {refreshed : Observation}
    {gestures : Nat} (hb : Granted c w approval resolved b) :
    Py.Ends world (sendCommitment resolved approval refreshed gestures) st b
      (fun r _ b' => w.status ≠ .active ∨ b'.commits = c → b'.workflow = some r.workflow ∧ b'.Sound)
      (fun _ _ b' => b'.commits = c → b'.Sound) := by
  obtain ⟨hkept, hidle, p, hp, hgranted, hcost⟩ := hb
  have hcommits : b.commit.commits ≠ c := by
    have := hkept.commits
    simp only [Books.commit]
    omega
  unfold sendCommitment
  refine .bind (.lift (fun _ _ => ?_) fun _ _ _ => hkept.books)
  refine .bind (Books.ends_target (fun t ht => ?_) fun _ _ => hkept.books)
  refine .bind (Books.ends_commit ht (fun after hfair => ?_) (fun _ _ => hkept.books) fun _ h => absurd h hcommits)
  refine .bind (.lift (fun trained htrained => ?_) fun _ _ h => absurd h hcommits)
  refine .bind (.lift (fun _ _ => ?_) fun _ _ h => absurd h hcommits)
  refine .bind (ends_require (fun hcheck => ?_) fun h => absurd h hcommits)
  refine .bind (Books.ends_uuid4 fun n => ?_)
  refine .bind (.lift (fun started hstarted => ?_) fun _ _ h => absurd h hcommits)
  obtain ⟨employee, hemployee, happly⟩ := synchronizeTraining_eq_ok hstarted
  have hsame : employee = trained := by
    have := hemployee.symm.trans htrained
    cases this
    rfl
  refine .bind (Books.ends_save ?_ fun _ h => absurd h hcommits)
  refine .bind (Books.ends_event (fun _ => ?_) fun _ h => absurd h hcommits)
  refine .pure fun hcond => ⟨rfl, ?_⟩
  have hstatus : resolved.status ≠ .active := by
    intro hactive
    rcases hcond with h | h
    · exact h (hidle hactive)
    · exact hcommits h
  have hcommitted : b.commit.started = b.started ++ [p] := by
    simp [Books.commit, hkept.workflow, hp]
  rw [← hcost] at happly
  have hsound := hkept.sound.commit hstatus hp hgranted (hsame ▸ hcheck.1) happly
  rw [← hcommitted] at hsound
  exact hsound

theorem ends_commitEducation {o : Observation} {provided dryRun : Bool} {gestures : Nat} (hb : Kept c w b) :
    Py.Ends world (commitEducation w o provided dryRun gestures) st b
      (fun r _ b' => w.status ≠ .active ∨ b'.commits = c → b'.workflow = some r.workflow ∧ b'.Sound)
      (fun _ _ b' => b'.commits = c → b'.Sound) := by
  unfold commitEducation
  refine .bind (.lift (fun _ _ => ?_) fun _ _ _ => hb.books)
  refine .bind (.lift (fun _ _ => ?_) fun _ _ _ => hb.books)
  split
  · exact .raise fun _ => hb.books
  · next approval hp =>
    refine .bind (ends_require (fun _ => ?_) fun _ => hb.books)
    refine .seq (ends_askApproval hb hp) (fun answer st' b₁ h₁ => ?_) fun _ _ _ h _ => h
    rcases answer with r | resolved
    · exact .pure fun _ => ⟨h₁.workflow, h₁.books⟩
    refine .bind (Books.ends_observe (fun refreshed _ => ?_) fun _ _ => h₁.1.books)
    refine .bind (.lift (fun _ _ => ?_) fun _ _ _ => h₁.1.books)
    refine .bind (.lift (fun _ _ => ?_) fun _ _ _ => h₁.1.books)
    refine .bind (.lift (fun _ _ => ?_) fun _ _ _ => h₁.1.books)
    refine .bind (ends_require (fun _ => ?_) fun _ => h₁.1.books)
    exact ends_sendCommitment h₁

/-- No configuration input is the commitment. -/
theorem nextInput_ne_commit {o : Observation} {selecting selecting' : Option Selecting} {targetId effect : String}
    (h : nextInput o w selecting = .ok (some (targetId, effect, selecting'))) : targetId ≠ "commit_education" := by
  have happend : ∀ (s t : String), s.toList.head? ≠ some 'c' → s.toList ≠ [] → s ++ t ≠ "commit_education" := by
    intro s t hhead hne heq
    have hlist := congrArg (fun x => x.toList.head?) heq
    rw [String.toList_append, List.head?_append_of_ne_nil _ hne] at hlist
    exact hhead hlist
  unfold nextInput at h
  split at h
  · cases h
    decide
  · cases h
    decide
  · obtain ⟨selected, -, h⟩ := Except.bind_eq_ok.mp h
    split at h
    · cases h
      exact happend _ _ (by decide) (by decide)
    · cases h
      decide
  · obtain ⟨selected, -, h⟩ := Except.bind_eq_ok.mp h
    obtain ⟨role, -, h⟩ := Except.bind_eq_ok.mp h
    obtain ⟨spec, -, h⟩ := Except.bind_eq_ok.mp h
    dsimp only at h
    split at h
    · cases h
      exact happend _ _ (by decide) (by decide)
    · split at h
      · cases h
        decide
      · split at h
        · cases h
          decide
        · split at h
          · cases h
            decide
          · split at h
            · cases h
              decide
            · cases h
  · cases h

theorem ends_configure {provided dryRun : Bool} : ∀ {cycles : Nat} {current : Observation} {gestures : Nat}
    {selecting : Option Selecting} {st : Cleanup}, Kept c w b →
    Py.Ends world (configure w provided dryRun cycles current gestures selecting) st b
      (fun r _ b' => w.status ≠ .active ∨ b'.commits = c → b'.workflow = some r.workflow ∧ b'.Sound)
      (fun _ _ b' => b'.commits = c → b'.Sound)
  | 0, _, _, _, _, hb => .raise fun _ => hb.books
  | cycles + 1, current, gestures, selecting, st, hb => by
    unfold configure
    refine .bind (.lift (fun _ _ => ?_) fun _ _ _ => hb.books)
    refine .bind (.lift (fun input hinput => ?_) fun _ _ _ => hb.books)
    rcases input with _ | ⟨targetId, effect, selecting'⟩
    · exact ends_commitEducation hb
    refine .bind (Books.ends_target (fun t ht => ?_) fun _ _ => hb.books)
    refine .ite (fun _ => .pure fun _ => ⟨hb.workflow, hb.books⟩) fun _ => ?_
    refine .bind (Books.ends_click (ht ▸ nextInput_ne_commit hinput) (fun o _ => ?_) fun _ _ => hb.books)
    exact ends_configure hb

theorem continueWorkflow_eq_ok {current : Observation} (h : continueWorkflow w current = .ok w') : w' = w := by
  obtain ⟨_, -, h⟩ := Except.bind_eq_ok.mp h
  split at h
  · obtain ⟨_, -, h⟩ := Except.bind_eq_ok.mp h
    obtain ⟨_, -, h⟩ := Except.bind_eq_ok.mp h
    split at h
    · cases h
      rfl
    · cases h
  · cases h

/-- A request that belongs to the books: it continues their workflow, or comes from a
recommendation of an employee without a level yet. -/
def StartRequest.Fits (b : Books) : StartRequest → Prop
  | continuation w => b.workflow = some w
  | recommendation _ candidate _ => candidate.employee.level = 0

theorem ends_openWorkflow {r : TrainingRecommendation} {candidate : TrainingCandidate} {current : Observation}
    (hb : b.Sound) (hlevel : candidate.employee.level = 0) :
    Py.Ends world (openWorkflow r candidate current) st b
      (fun w _ b' => Kept b.commits w b' ∧ (b.workflow = some w ∨ w.status ≠ .active))
      (fun _ _ b' => b'.Sound) := by
  unfold openWorkflow
  refine .bind (ends_now (Books.quiet (· = b)) rfl fun _ b₁ h₁ => ?_)
  cases h₁
  refine .bind (.lift (fun _ _ => ?_) fun _ _ => hb)
  refine .bind (.lift (fun _ _ => ?_) fun _ _ => hb)
  refine .bind (.lift (fun _ _ => ?_) fun _ _ => hb)
  refine .bind (ends_require (fun _ => ?_) hb)
  refine .bind (ends_current (fun existing b₁ h₁ => ?_) fun e b₁ h₁ => ?_)
  · rcases existing with _ | existing
    -- a new workflow
    · cases h₁
      have hempty : ({ b with workflow := none, approved := [], started := [] } : Books).Sound := ⟨rfl, rfl⟩
      refine .bind (Books.ends_uuid4 fun n => ?_)
      refine .bind (.lift (fun created hcreated => ?_) fun _ _ => hempty)
      have hsound := sound_of_createTrainingWorkflow hcreated hlevel
      refine .bind (Books.ends_save (.pure ⟨⟨rfl, hsound, rfl⟩, .inr ?_⟩) fun _ => hempty)
      intro hactive
      have hcourses := hsound.courses
      have hfits := hsound.fits
      have hpending := hsound.pending
      unfold PendingFits at hfits
      rw [hactive] at hfits
      obtain ⟨p, hp, hyes⟩ := hfits
      exact absurd (hpending p hp hyes) (by simp)
    · obtain ⟨rfl, hw, -⟩ := h₁
      have hkept : Kept b₁.commits existing b₁ := ⟨hw, (Books.sound_of_workflow hw).mp hb, rfl⟩
      refine .bind (ends_require (fun _ => ?_) hb)
      refine .bind (Books.ends_uuid4 fun n => ?_)
      refine .bind (.lift (fun _ _ => ?_) fun _ _ => hb)
      exact .bind (ends_require (fun _ => .pure ⟨hkept, .inl hw⟩) hb)
  · cases h₁
    exact hb

theorem ends_workflow {request : StartRequest} {current : Observation} (hb : b.Sound) (hrequest : request.Fits b) :
    Py.Ends world (request.workflow current) st b
      (fun w _ b' => Kept b.commits w b' ∧ (b.workflow = some w ∨ w.status ≠ .active)) (fun _ _ b' => b'.Sound) := by
  cases request with
  | continuation w =>
    have hw : b.workflow = some w := hrequest
    refine .lift (fun w' hw' => ?_) fun _ _ => hb
    rw [continueWorkflow_eq_ok hw']
    exact ⟨⟨hw, (Books.sound_of_workflow hw).mp hb, rfl⟩, .inl hw⟩
  | recommendation r candidate h => exact ends_openWorkflow hb hrequest

theorem ends_startTraining {request : StartRequest} {provided dryRun : Bool} (hb : b.Sound) (hrequest : request.Fits b) :
    Py.Ends world (startTraining request provided dryRun) st b
      (fun r _ b' => (∀ w ∈ b.workflow, w.status ≠ .active) ∨ b'.commits = b.commits →
        b'.workflow = some r.workflow ∧ b'.Sound)
      (fun _ _ b' => b'.commits = b.commits → b'.Sound) := by
  unfold startTraining
  refine .bind (Books.ends_observe (fun current _ => ?_) fun _ _ => hb)
  refine .bind (.lift (fun _ _ => ?_) fun _ _ _ => hb)
  refine .seq (ends_workflow hb hrequest) (fun w st' b₁ h₁ => ?_) fun _ _ _ h _ => h
  obtain ⟨hkept, hbase⟩ := h₁
  refine .bind (.lift (fun _ _ => ?_) fun _ _ _ => hkept.books)
  refine .ite (fun _ => .pure fun _ => ⟨hkept.workflow, hkept.books⟩) fun _ => ?_
  refine (ends_configure hkept).mono (fun r _ b' h hcond => h ?_) fun _ _ _ h => h
  rcases hcond with hidle | hc
  · rcases hbase with hw | hne
    · exact .inl (hidle w hw)
    · exact .inl hne
  · exact .inr hc

/-! ## Advancing -/

theorem ends_runBoundedEducation {current : TrainingWorkflow} {before : Observation} {runSeconds : ℚ} {gestures : Nat}
    (hb : b.Sound) (hcurrent : Sound current b.approved b.started) (hactive : current.status = .active) :
    Py.Ends world (runBoundedEducation current before runSeconds gestures) st b
      (fun r _ b' => b'.workflow = some r.workflow ∧ b'.Sound) (fun _ _ b' => b'.Sound) := by
  unfold runBoundedEducation
  refine .bind (Books.ends_target (fun t ht => ?_) fun _ => hb)
  refine .bind (Books.ends_click (ht ▸ by decide) (fun running _ => ?_) fun _ => hb)
  refine .bind (ends_require (fun _ => ?_) hb)
  have hpause : ∀ (g : InputGesture) (s : Books) (r : Except UIError Unit) (s' : Books), g.targetId = "pause_button" →
      s = b → world (.execute g) s r s' → s' = b := by
    rintro g s (e | u) s' hg rfl h
    · exact h
    · exact h.trans (if_neg (hg ▸ by decide))
  refine .bind (ends_boundedInterval education (Books.calm (· = b)) hpause rfl (fun p st' _ s' _ _ h => ?_)
    fun _ _ _ h => h ▸ hb)
  subst h
  refine .bind (Books.ends_uuid4 fun n => ?_)
  refine .bind (.lift (fun updated hupdated => ?_) fun _ _ => hb)
  obtain ⟨employee, -, happly⟩ := synchronizeTraining_eq_ok hupdated
  -- the course of an active workflow was committed
  have hcourses := hcurrent.courses
  rw [if_pos hactive] at hcourses
  have hsound := hcurrent.apply happly (fun _ => hcourses) fun hdone => by
    rw [hactive] at hdone
    cases hdone
  refine .bind (Books.ends_save ?_ fun _ => hb)
  exact .bind (Books.ends_event (fun _ => .pure ⟨rfl, hsound⟩) fun _ => hsound)

theorem ends_closeManagement {before : Observation} {dryRun : Bool} :
    Py.Ends world (closeManagement before dryRun) st b (fun _ _ b' => b' = b) (fun _ _ b' => b' = b) := by
  refine .ite (fun _ => .pure rfl) fun _ => .ite (fun _ => .raise rfl) fun _ => .ite (fun _ => .pure rfl) fun _ => ?_
  exact .bind (Books.ends_send (by decide) (fun _ _ => .pure rfl) fun _ => rfl)

theorem ends_advanceTraining {runSeconds : ℚ} {dryRun : Bool} (hb : b.Sound) (hw : b.workflow = some w) :
    Py.Ends world (advanceTraining w runSeconds dryRun) st b
      (fun r _ b' => b'.Sound ∧ ({ b' with workflow := some r.workflow } : Books).Sound) (fun _ _ b' => b'.Sound) := by
  unfold advanceTraining
  refine .bind (ends_require (fun _ => ?_) hb)
  refine .bind (Books.ends_observe (fun before hfair => ?_) fun _ => hb)
  refine .bind (.lift (fun _ _ => ?_) fun _ _ => hb)
  refine .bind (Books.ends_uuid4 fun n => ?_)
  refine .bind (.lift (fun current hcurrent => ?_) fun _ _ => hb)
  have hsound : Sound current b.approved b.started := hb.synchronize hw hfair hcurrent
  refine .ite (fun _ => .bind (Books.ends_save (.pure ⟨hsound, hsound⟩) fun _ => hb)) fun _ => ?_
  refine .ite (fun _ => .bind (Books.ends_save ?_ fun _ => hb)) fun _ => ?_
  · exact .bind (ends_assertSome (fun _ _ => .pure ⟨hsound, hsound⟩) hsound)
  refine .bind (.lift (fun employee hemployee => ?_) fun _ _ => hb)
  refine .bind (ends_require (fun hshown => ?_) hb)
  have hactive : current.status = .active := by
    obtain ⟨employee', hemployee', happly⟩ := synchronizeTraining_eq_ok hcurrent
    have hid : current.employeeId = w.employeeId := employeeId_of_applyEmployee happly
    rw [hid, hemployee'] at hemployee
    cases hemployee
    unfold applyEmployee at happly
    dsimp only at happly
    rw [if_pos hshown] at happly
    cases happly
    rfl
  refine .seq ends_closeManagement (fun p st' b₁ h₁ => ?_) fun _ _ _ h => h ▸ hb
  subst h₁
  obtain ⟨_ | closed, gestures⟩ := p
  · exact .pure ⟨hb, hsound⟩
  refine .bind (ends_require (fun _ => ?_) hb)
  refine .ite (fun _ => .pure ⟨hb, hsound⟩) fun _ => ?_
  refine (ends_runBoundedEducation hb hsound hactive).mono (fun r _ b' h => ⟨h.2, ?_⟩) fun _ _ _ h => h
  rw [← h.1]
  exact h.2

/-! ## Runs -/

def Books.empty : Books := ⟨none, [], [], 0⟩

/-- One step of a run: an employee without a level starts, the approval is answered, a fair
snapshot is synchronized, or an operator runs among fair observations. A run of `start_training`
that commits a course is verified, and does not commit one for a workflow whose course runs. -/
inductive Step : Books → Books → Prop
  | create {b : Books} {snapshot : GameSnapshot} {candidate : TrainingCandidate} {n : Nat} {w : TrainingWorkflow}
      (h : createTrainingWorkflow snapshot candidate n = .ok w) (hlevel : candidate.employee.level = 0) :
      Step b { b with workflow := some w, approved := [], started := [] }
  | resolve {b : Books} {w w' : TrainingWorkflow} {yes : Bool} (hw : b.workflow = some w)
      (h : resolveTrainingApproval w yes = .ok w') :
      Step b { b with
        workflow := some w', approved := if yes then b.approved ++ w.pendingApproval.toList else b.approved }
  | synchronize {b : Books} {snapshot : GameSnapshot} {w w' : TrainingWorkflow} {n : Nat} (hw : b.workflow = some w)
      (hfair : Fair b snapshot) (h : synchronizeTraining w snapshot n = .ok w') : Step b { b with workflow := some w' }
  | start {b b' : Books} {request : StartRequest} {provided dryRun : Bool} {st : Cleanup}
      {result : Except UIError TrainingOperationResult} (hrequest : request.Fits b)
      (hrun : (startTraining request provided dryRun none).Run world b (result, st) b')
      (hverified : ∀ e, result = .error e → b'.commits = b.commits)
      (hidle : (∃ w ∈ b.workflow, w.status = .active) → b'.commits = b.commits) : Step b b'
  | advance {b b' : Books} {w : TrainingWorkflow} {runSeconds : ℚ} {dryRun : Bool} {st : Cleanup}
      {result : Except UIError TrainingOperationResult} (hw : b.workflow = some w)
      (hrun : (advanceTraining w runSeconds dryRun none).Run world b (result, st) b') : Step b b'
  | advanced {b b' : Books} {w : TrainingWorkflow} {runSeconds : ℚ} {dryRun : Bool} {st : Cleanup}
      {r : TrainingOperationResult} (hw : b.workflow = some w)
      (hrun : (advanceTraining w runSeconds dryRun none).Run world b (.ok r, st) b') :
      Step b { b' with workflow := some r.workflow }

theorem Step.sound (h : Step b b') (hb : b.Sound) : b'.Sound := by
  cases h with
  | create h hlevel => exact sound_of_createTrainingWorkflow h hlevel
  | resolve hw h =>
    obtain ⟨p, hp, hnone, rfl⟩ := resolveTrainingApproval_eq_ok h
    rw [hp]
    exact ((Books.sound_of_workflow hw).mp hb).resolve hp hnone
  | synchronize hw hfair h => exact hb.synchronize hw hfair h
  | @start _ _ _ _ _ result hrequest hrun hverified hidle =>
    cases result with
    | error e => exact (ends_startTraining hb hrequest).raises hrun (hverified e rfl)
    | ok r =>
      refine ((ends_startTraining hb hrequest).returns hrun ?_).2
      by_cases hactive : ∃ w ∈ b.workflow, w.status = .active
      · exact .inr (hidle hactive)
      · exact .inl fun w hw hst => hactive ⟨w, hw, hst⟩
  | @advance _ _ _ _ _ result hw hrun =>
    cases result with
    | error e => exact (ends_advanceTraining hb hw).raises hrun
    | ok r => exact ((ends_advanceTraining hb hw).returns hrun).1
  | advanced hw hrun => exact ((ends_advanceTraining hb hw).returns hrun).2

/-- What the status, the counters and the cost of a workflow say about its approvals. -/
structure Accounted (w : TrainingWorkflow) (approved started : List TrainingApproval) : Prop where
  active : w.status = .active → ∃ p, w.pendingApproval = some p ∧ p.approved = some true
  /-- The completed courses are the started ones, but for the one that runs; the course of a
  stage was started on an approval of that stage that had been granted. -/
  completed : w.completedCourses = started.length - if w.status = .active then 1 else 0
  granted : ∀ i (h : i < started.length), started[i].stageNumber = i + 1 ∧ started[i].approved = some true ∧
    started[i].asked ∈ approved
  cost : w.actualDirectCost = (started.map (·.directCost)).sum
  finished : w.status = .completed → 3 ≤ w.currentLevel ∧ w.completedCourses = w.currentLevel - w.initialLevel ∧
    started.map (·.stageNumber) = [1, 2, 3]

theorem Sound.accounted (h : Sound w approved started) : Accounted w approved started where
  active := by
    intro hactive
    have hfits := h.fits
    unfold PendingFits at hfits
    rw [hactive] at hfits
    exact hfits
  completed := by
    rw [h.courses]
    omega
  granted i hi := ⟨h.stages i hi, h.granted _ (List.getElem_mem hi)⟩
  cost := h.cost
  finished := by
    intro hdone
    obtain ⟨hcourses, hlevel⟩ := h.finished hdone
    have hlength : started.length = 3 := by
      have := h.courses
      rw [hdone] at this
      simp at this
      omega
    refine ⟨hlevel.ge, ?_, ?_⟩
    · rw [hcourses, hlevel, h.initial]
      rfl
    · refine List.ext_getElem (by simpa using hlength) fun i hi _ => ?_
      have hi' : i < started.length := by simpa using hi
      rw [List.getElem_map, h.stages i hi']
      rw [hlength] at hi'
      obtain rfl | rfl | rfl : i = 0 ∨ i = 1 ∨ i = 2 := by omega
      all_goals rfl

section Example

/-- Ada of team Core, at level 0, with these courses and this cash. -/
def adaShown (courses : String) (sequence : Int) : GameSnapshot where
  captureTimestamp := ""
  captureStartedMarker := "a"
  captureCompletedMarker := "b"
  bridgeSequence := sequence
  bridgeInstanceId := "bridge"
  gameSessionId := "session"
  gameId := "software-inc"
  gameVersion := "1.8.41"
  adapterVersion := "9"
  platform := .macos
  architecture := .x86_64
  mapIdentity := ⟨.unavailable, none, none, none⟩
  saveIdentity := ⟨.observed, some "save", none, none⟩
  gameState := []
  surfaces :=
    [⟨⟨"education", .observedComplete, [], none⟩,
        [⟨"employee_specialization", "7:System",
          [("team", .string "Core"), ("role", .string "Designer"), ("specialization", .string "System"),
            ("employee_id", .string "7"), ("level", .integer 0), ("one_time_cost", .integer 600)]⟩]⟩,
      ⟨⟨"employees", .observedComplete, [], none⟩,
        [⟨"employee", "7",
          [("name", .string "Ada"), ("team", .string "Core"), ("courses", .string courses),
            ("skill_designer", .number 1), ("salary", .integer 3000), ("taking_courses", .boolean false)]⟩]⟩,
      ⟨⟨"finances", .observedComplete, [], none⟩, [⟨"finance", "current", [("cash", .integer 50000)]⟩]⟩]
  warnings := []
  limitations := []

def adaEligible : TrainingCandidate where
  employee :=
    { employeeId := "7", employeeName := "Ada", teamName := "Core", role := "Designer", specialization := "System"
      level := 0, baseSkill := 1, monthlySalary := 3000, takingCourses := false, activeCourses := [], oneTimeCost := 600 }
  currentCourseCost := 600
  projectedDirectCost := 7600
  payrollDuringTraining := 9000
  observedCash := 50000
  minimumCashReserve := 10000
  eligible := true

/-- The status and the answer of the pending approval once the course of a workflow that was just
created is shown. -/
def shownBeforeApproval : Except UIError (TrainingWorkflowStatus × Option (Option Bool)) := do
  let w ← createTrainingWorkflow (adaShown "" 1) adaEligible 1
  let w' ← synchronizeTraining w (adaShown "Designer:System" 2) 2
  return (w'.status, w'.pendingApproval.map (·.approved))

set_option maxRecDepth 8000 in
theorem shownBeforeApproval_eq : shownBeforeApproval = .ok (.active, some none) :=
  eq_ok_of_toOption (by
    simp only [shownBeforeApproval, createTrainingWorkflow, checkedApproval, TrainingApproval.valid, sized_eq_countP]
    decide +kernel)

end Example

end SimPilot.SoftwareInc.Training
