import SimPilot.Runtime.CommitProgress
import SimPilot.Runtime.Reconstruction
/-!
# What a commit does to the records of a task

`viewOf` is what a reader of the store sees of a task. A commit that returned started
from the sequence the reader sees, and takes one view to the next (`After`).
-/

namespace SimPilot
open InMemory Transaction

/-- The records of a task, as `load` reads them. -/
def viewOf (id : UUID) (s : InMemoryPersistenceState) : Option TaskView :=
  (s.tasks.get id).map fun record =>
    { record, events := (stream s id).map (·.event), approvals := listApprovals s id
      checkpoint := (checkpointStream s id).getLast? }

/-- The approvals of a task after one was created and one was resolved. -/
def approvalsAfter (create update : Option ApprovalRecord) (old : List ApprovalRecord) : List ApprovalRecord :=
  match update with
  | none => old ++ create.toList
  | some u => (old ++ create.toList).map fun a => if a.approval.id = u.approval.id then u else a

/-- The approvals of a task after those a request creates and resolves. -/
def IterationRequest.approvals (r : IterationRequest) (old : List ApprovalRecord) : List ApprovalRecord :=
  approvalsAfter r.approvalCreate r.approvalUpdate old

theorem approvalsAfter_perm {create update : Option ApprovalRecord} {old old' : List ApprovalRecord}
    (h : old.Perm old') : (approvalsAfter create update old).Perm (approvalsAfter create update old') := by
  have hp := h.append_right create.toList
  unfold approvalsAfter
  cases update with
  | none => exact hp
  | some u => exact hp.map _

/-- `v'` is what is stored after the request was committed on `v`. -/
structure After (v : TaskView) (now : Timestamp) (r : IterationRequest) (v' : TaskView) : Prop where
  record : v'.record = r.updatedRecord now
  events : v'.events = v.events ++ numberEvents r.task.id now v.record.task.sequence r.eventDrafts
  approvals : v'.approvals.Perm (r.approvals v.approvals)
  fresh : ∀ c ∈ r.approvalCreate, ∀ a ∈ v.approvals, a.approval.id ≠ c.approval.id
  checkpoint : match r.adapterSnapshot with
    | none => v'.checkpoint = v.checkpoint
    | some sn => ∃ cp, v'.checkpoint = some cp ∧ buildCheckpoint r.task.id r.lastSequence now sn = .ok cp
  drafts : r.eventDrafts ≠ []

/-- The approvals of one task, each stored under its id. -/
structure ApprovalsOk (id : UUID) (d : Assoc UUID ApprovalRecord) : Prop where
  keyed : ∀ kr ∈ d, kr.1 = kr.2.approval.id
  nodup : d.keys.Nodup
  owner : ∀ kr ∈ d, kr.2.approval.taskId = id

/-- What holds of a store the engine wrote for one task. -/
structure StoreOk (id : UUID) (s : InMemoryPersistenceState) : Prop where
  reached : Reached s
  approvals : ApprovalsOk id s.approvals
  identified : Identified s

theorem viewOf_eq_some {id : UUID} {s : InMemoryPersistenceState} {v : TaskView} (h : viewOf id s = some v) :
    s.tasks.get id = some v.record ∧ v.events = (stream s id).map (·.event) ∧ v.approvals = listApprovals s id ∧
      v.checkpoint = (checkpointStream s id).getLast? := by
  obtain ⟨record, hr, rfl⟩ := Option.map_eq_some_iff.1 h
  exact ⟨hr, rfl, rfl, rfl⟩

/-! ## The approvals of the store -/

namespace ApprovalsOk
variable {id : UUID} {d : Assoc UUID ApprovalRecord}

theorem set (h : ApprovalsOk id d) {r : ApprovalRecord} (hr : r.approval.taskId = id) :
    ApprovalsOk id (d.set r.approval.id r) where
  keyed kr hkr := by
    rcases Assoc.mem_set hkr with rfl | hkr
    · rfl
    · exact h.keyed kr hkr
  nodup := Assoc.keys_set h.nodup
  owner kr hkr := by
    rcases Assoc.mem_set hkr with rfl | hkr
    · exact hr
    · exact h.owner kr hkr

/-- Updating an approval replaces the one of its id. -/
theorem values_update (h : ApprovalsOk id d) {r old : ApprovalRecord} (ho : d.get r.approval.id = some old) :
    (d.set r.approval.id r).values = d.values.map fun a => if a.approval.id = r.approval.id then r else a := by
  have hmem : r.approval.id ∈ d.keys := List.mem_map.2 ⟨_, Assoc.mem_of_get ho, rfl⟩
  rw [Assoc.set_of_mem h.nodup hmem]
  simp only [Assoc.values, List.map_map]
  refine List.map_congr_left fun kr hkr => ?_
  simp only [Function.comp, h.keyed kr hkr]
  split <;> rfl

end ApprovalsOk

/-- Creating an approval adds it. -/
theorem values_create {d : Assoc UUID ApprovalRecord} {r : ApprovalRecord} (hn : d.get r.approval.id = none) :
    (d.set r.approval.id r).values = d.values ++ [r] := by
  rw [Assoc.set_of_not_mem (Assoc.get_eq_none hn)]
  simp [Assoc.values]

theorem listApprovals_perm {id : UUID} {s : InMemoryPersistenceState} (h : ApprovalsOk id s.approvals) :
    (listApprovals s id).Perm s.approvals.values := by
  refine (List.perm_insertionSort _ _).trans ?_
  rw [List.filter_eq_self.2]
  intro r hr
  obtain ⟨kr, hkr, rfl⟩ := List.mem_map.1 hr
  simpa using h.owner kr hkr

/-- Both approval calls of a commit: the approvals that result, and a created one was not
there before. -/
theorem forPresent_approvals {id : UUID} {create update : Option ApprovalRecord}
    {s s₁ s₂ : InMemoryPersistenceState} (h : ApprovalsOk id s.approvals)
    (hc : ∀ a ∈ create, a.approval.taskId = id) (hu : ∀ a ∈ update, a.approval.taskId = id)
    (h₁ : forPresent createApproval create s = (.ok (), s₁))
    (h₂ : forPresent updateApproval update s₁ = (.ok (), s₂)) :
    ApprovalsOk id s₂.approvals ∧
      s₂.approvals.values = approvalsAfter create update s.approvals.values ∧
      (∀ c ∈ create, ∀ a ∈ s.approvals.values, a.approval.id ≠ c.approval.id) ∧
      s₂.tasks = s.tasks ∧ s₂.events = s.events ∧ s₂.checkpoints = s.checkpoints := by
  have hcreate : ApprovalsOk id s₁.approvals ∧ s₁.approvals.values = s.approvals.values ++ create.toList ∧
      (∀ c ∈ create, ∀ a ∈ s.approvals.values, a.approval.id ≠ c.approval.id) ∧
      s₁.tasks = s.tasks ∧ s₁.events = s.events ∧ s₁.checkpoints = s.checkpoints := by
    cases create with
    | none =>
      simp only [forPresent, pure, Prod.mk.injEq, true_and] at h₁
      subst h₁
      exact ⟨h, by simp, by simp, rfl, rfl, rfl⟩
    | some c =>
      obtain ⟨hnone, -, rfl⟩ := createApproval_ok h₁
      refine ⟨h.set (hc c rfl), values_create hnone, ?_, rfl, rfl, rfl⟩
      rintro c' ⟨⟩ a ha heq
      obtain ⟨kr, hkr, rfl⟩ := List.mem_map.1 ha
      refine Assoc.get_eq_none hnone (List.mem_map.2 ⟨kr, hkr, ?_⟩)
      rw [h.keyed kr hkr, heq]
  obtain ⟨hok, hvalues, hfresh, ht, he, hcp⟩ := hcreate
  cases update with
  | none =>
    simp only [forPresent, pure, Prod.mk.injEq, true_and] at h₂
    subst h₂
    exact ⟨hok, hvalues, hfresh, ht, he, hcp⟩
  | some u =>
    obtain ⟨old, hold, -, -, rfl⟩ := updateApproval_ok h₂
    refine ⟨hok.set (hu u rfl), ?_, hfresh, ht, he, hcp⟩
    rw [hok.values_update hold, hvalues]
    rfl

/-! ## One commit -/

/-- **A commit takes one view to the next.** It started from the sequence of the view. -/
theorem commit_view {id : UUID} {s s' : InMemoryPersistenceState} {v : TaskView} {now : Timestamp}
    {r : IterationRequest} {c : IterationCommit} (h : StoreOk id s) (hv : viewOf id s = some v) (hid : r.task.id = id)
    (hc : ∀ a ∈ r.approvalCreate, a.approval.taskId = id) (hu : ∀ a ∈ r.approvalUpdate, a.approval.taskId = id)
    (hcommit : commitIteration now r s = (.ok c, s')) :
    c.taskRecord = r.updatedRecord now ∧ StoreOk id s' ∧ r.current.task.sequence = v.record.task.sequence ∧
      ∃ v', viewOf id s' = some v' ∧ After v now r v' := by
  have hreached : Reached s' := by
    have := Reached.commit now r h.reached
    rwa [hcommit] at this
  rcases commitIteration_cases now r (s := s) with ⟨e, he⟩ | ⟨c', s'', hb, hw, hcc⟩
  · rw [he] at hcommit; cases hcommit
  rw [hcc] at hcommit
  cases hcommit
  obtain ⟨hrec, hevents, happrovals, hcheckpoint⟩ := viewOf_eq_some hv
  obtain ⟨hd, hrecord, hev, hcreate, hupdate, hcp⟩ := IterationRequest.build_ok hb
  obtain ⟨⟨old, hold, hbase⟩, htask', -⟩ := IterationCommit.write_ok h.reached.numbered hb hw
  have hidentified := h.identified.write hb hw
  rw [taskOf_eq, hid, hrec] at hold
  cases hold
  rw [taskOf_eq, hid] at htask'
  -- the five calls of the transaction
  obtain ⟨_, s₁, h₁, hw⟩ := bind_ok hw
  obtain ⟨_, s₂, h₂, hw⟩ := bind_ok hw
  obtain ⟨_, s₃, h₃, hw⟩ := bind_ok hw
  obtain ⟨_, s₄, h₄, h₅⟩ := bind_ok hw
  obtain ⟨_, -, -, -, rfl⟩ := InMemory.updateTask_ok h₁
  have hids : ∀ rec ∈ c.events.map eventRecord, rec.event.taskId = id := by
    intro rec hrec'
    obtain ⟨e, he, rfl⟩ := List.mem_map.1 hrec'
    exact hid ▸ taskId_numberEvents e (hev ▸ he)
  obtain ⟨-, -, ha₂, hcp₂, hst₂⟩ := InMemory.appendMany_ok hids h₂
  rw [hcreate] at h₃
  rw [hupdate] at h₄
  have hok₂ : ApprovalsOk id s₂.approvals := by rw [ha₂]; exact h.approvals
  obtain ⟨hok₄, hvalues, hfresh, -, he₄, hcp₄⟩ := forPresent_approvals hok₂ hc hu h₃ h₄
  rw [ha₂] at hvalues hfresh
  have hstream : stream s₄ id = stream s id ++ c.events.map eventRecord := by
    have := hst₂ id
    rw [if_pos rfl] at this
    simpa [stream, he₄] using this
  have hsave : s'.approvals = s₄.approvals ∧ stream s' id = stream s₄ id ∧
      (match r.adapterSnapshot with
        | none => checkpointStream s' id = checkpointStream s id
        | some sn => ∃ cp, checkpointStream s' id = checkpointStream s id ++ [cp] ∧
            buildCheckpoint r.task.id r.lastSequence now sn = .ok cp) := by
    have hcps : checkpointStream s₄ id = checkpointStream s id := by simp [checkpointStream, hcp₄, hcp₂]
    cases hsn : r.adapterSnapshot with
    | none =>
      rw [hsn] at hcp
      simp only [hcp, forPresent, pure, Prod.mk.injEq, true_and] at h₅
      subst h₅
      exact ⟨rfl, rfl, hcps⟩
    | some sn =>
      rw [hsn] at hcp
      obtain ⟨cp, hccp, hbcp⟩ := hcp
      simp only [hccp, forPresent] at h₅
      obtain ⟨-, -, cps, rfl, hst⟩ := InMemory.saveCheckpoint_ok h₅
      refine ⟨rfl, rfl, cp, ?_, hbcp⟩
      rw [hst id, (buildCheckpoint_ok hbcp).2.1, hid, if_pos rfl, hcps]
  obtain ⟨ha₅, hst₅, hcp₅⟩ := hsave
  refine ⟨hrecord, ⟨hreached, ha₅ ▸ hok₄, hidentified⟩, hbase,
    ⟨c.taskRecord, (stream s' id).map (·.event), listApprovals s' id, (checkpointStream s' id).getLast?⟩, ?_, ?_⟩
  · simp [viewOf, htask']
  · refine ⟨hrecord, ?_, ?_, ?_, ?_, hd⟩
    · simp only [hst₅, hstream, List.map_append, hevents, List.map_map]
      rw [hev, hbase]
      simp [Function.comp_def, eventRecord]
    · refine (listApprovals_perm (ha₅ ▸ hok₄)).trans ?_
      rw [ha₅, hvalues, happrovals]
      exact approvalsAfter_perm (listApprovals_perm h.approvals).symm
    · intro c' hc' a ha
      rw [happrovals] at ha
      exact hfresh c' hc' a ((listApprovals_perm h.approvals).mem_iff.1 ha)
    · rw [hcheckpoint]
      cases hsn : r.adapterSnapshot with
      | none => rw [hsn] at hcp₅; rw [hcp₅]
      | some sn =>
        rw [hsn] at hcp₅
        obtain ⟨cp, hcp₅, hb'⟩ := hcp₅
        exact ⟨cp, by simp [hcp₅], hb'⟩

/-- A request that starts from another sequence than the view's does not commit. -/
theorem commit_stale {id : UUID} {s : InMemoryPersistenceState} {v : TaskView} (h : StoreOk id s)
    (hv : viewOf id s = some v) {r : IterationRequest} (hid : r.task.id = id)
    (hne : r.current.task.sequence ≠ v.record.task.sequence) (now : Timestamp) :
    ∃ e, commitIteration now r s = (.error e, s) := by
  obtain ⟨e, he, -⟩ := h.reached.stale now r v.record (by rw [taskOf_eq, hid]; exact (viewOf_eq_some hv).1) hne
  exact ⟨e, he⟩

/-- A request on the stored record that the store accepts commits, when it builds. -/
theorem commit_fresh {id : UUID} {s : InMemoryPersistenceState} {v : TaskView} (h : StoreOk id s)
    (hv : viewOf id s = some v) {r : IterationRequest} (hid : r.task.id = id)
    (hseq : r.current.task.sequence = v.record.task.sequence) {now : Timestamp} (ha : Acceptable v.record now r)
    {e : PyError} {s' : InMemoryPersistenceState} (hc : commitIteration now r s = (.error e, s')) :
    r.build now = .error e := by
  cases hb : r.build now with
  | error e' =>
    simp only [commitIteration, hb, Prod.mk.injEq, Except.error.injEq] at hc
    rw [hc.1]
  | ok commit =>
    obtain ⟨s'', hok⟩ := commit_isOk h.reached h.identified (by rw [hid]; exact (viewOf_eq_some hv).1) hseq ha hb
    rw [hok] at hc
    cases hc

/-! ## Creation -/

/-- The view of a task just created. -/
def createdView (task : Task) : TaskView :=
  { record := createdRecord task, events := [createdEvent task], approvals := [], checkpoint := none }

/-- Creating a task that is not stored, or being refused. -/
theorem create_view {s : InMemoryPersistenceState} {task : Task} (h : StoreOk task.id s)
    (hempty : viewOf task.id s = none → s.approvals = []) :
    (∃ e, createTaskRecord task s = (.error e, s)) ∨
      ∃ s', createTaskRecord task s = (.ok (createdRecord task), s') ∧ viewOf task.id s = none ∧ StoreOk task.id s' ∧
        viewOf task.id s' = some (createdView task) := by
  have hreached := Reached.create task h.reached
  unfold createTaskRecord at hreached ⊢
  cases hw : UnitOfWork.run (writeTask task) s with
  | mk res s' =>
    cases res with
    | error e => exact .inl ⟨_, by rw [UnitOfWork.run_error hw]⟩
    | ok u =>
      refine .inr ⟨s', rfl, ?_⟩
      rw [hw] at hreached
      obtain ⟨_, s₁, h₁, h₂⟩ := bind_ok (UnitOfWork.run_ok hw)
      obtain ⟨hnone, rfl⟩ := InMemory.createTask_ok h₁
      have hview : viewOf task.id s = none := by simp only [viewOf]; rw [show s.tasks.get task.id = none from hnone]; rfl
      have hnum : stream s task.id = [] ∧ UnitOfWork.checkpointSequences s task.id = [] := by
        have := h.reached.numbered task.id
        simp only [Numbered, taskOf_eq, show s.tasks.get task.id = none from hnone] at this
        exact this
      have hids : ∀ rec ∈ [eventRecord (createdEvent task)], rec.event.taskId = task.id := by
        simp [eventRecord, createdEvent]
      obtain ⟨-, ht₂, ha₂, hcp₂, hst₂⟩ := InMemory.appendMany_ok hids h₂
      have happ : s'.approvals = [] := by rw [ha₂]; exact hempty hview
      have hcps : checkpointStream s task.id = [] := List.map_eq_nil_iff.1 hnum.2
      have hidentified₁ : Identified { s with tasks := s.tasks.set task.id (createdRecord task) } :=
        h.identified.congr rfl rfl
      have hidentified : Identified s' := hidentified₁.appendMany (Identified.eventRecords [createdEvent task]) h₂
      refine ⟨hview, ⟨hreached, by rw [happ]; exact ⟨by simp, by simp [Assoc.keys], by simp⟩, hidentified⟩, ?_⟩
      have hst := hst₂ task.id
      rw [if_pos rfl] at hst
      have hcp' : checkpointStream s' task.id = [] := by rw [← hcps]; simp [checkpointStream, hcp₂]
      have hst' : stream s' task.id = [eventRecord (createdEvent task)] := by
        rw [hst]
        change stream s task.id ++ _ = _
        rw [hnum.1]
        rfl
      have htask : s'.tasks.get task.id = some (createdRecord task) := by
        rw [ht₂]
        exact Assoc.get_set_self _ _ _
      simp [viewOf, htask, hst', hcp', listApprovals, happ, Assoc.values, createdView, eventRecord]

end SimPilot
