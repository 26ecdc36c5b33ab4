import SimPilot.Runtime.CheckpointInvariant
/-!
# The records of a task along a run

Every legal operation changes the system in one of five ways (`Change`), and each keeps
what the engine relies on (`SystemOk`): the store was written through its repositories,
and the records of the task satisfy the invariants of the last modules.
-/

namespace SimPilot
open Effect

variable {c : Conditions} {id : UUID}

/-- The invariants of the records of a task. -/
structure TaskOk (c : Conditions) (id : UUID) (v : TaskView) : Prop where
  journal : JournalOk id v
  status : StatusOk c v
  approvals : ApprovalsAgree c v.approvals v.record.task.status v.record.runtimeState
  checkpoint : CheckpointOk c id v

theorem TaskOk.step {v v' : TaskView} {r : IterationRequest} {now : Timestamp} (h : TaskOk c id v) (hr : Allowed c v r)
    (hm : Meets c v r) (ha : After v now r v') : TaskOk c id v' where
  journal := h.journal.step hr ha
  status := h.status.step h.journal hr hm ha
  approvals := h.approvals.step h.status hr hm ha
  checkpoint := h.checkpoint.step h.journal hr ha

theorem TaskOk.created {task : Task} (hid : task.id = id) (hs : task.status = .pending) :
    TaskOk c id (createdView task) where
  journal :=
    { task := hid
      head := rfl
      owner := by simpa [createdView, createdEvent] using hid
      numbered := rfl
      attempts := ⟨[], rfl, .nil⟩ }
  status :=
    { attempt := fun a ha => by cases ha
      running := fun _ a ha => by cases ha
      terminal := fun _ ht => by rw [show (createdView task).record.task.status = .pending from hs] at ht; cases ht
      cancelled := by simp [createdView, createdRecord, hs] }
  approvals :=
    { ids := by simp [createdView]
      one := by simp [createdView, pendings]
      waiting := fun hw => by rw [show (createdView task).record.task.status = .pending from hs] at hw; cases hw
      identity := rfl
      granted := by simp [createdView, createdRecord]
      unanswered := fun _ => rfl
      pendingWaits := fun _ hne => absurd rfl hne }
  checkpoint :=
    { latest := ⟨none, rfl, rfl, by simp⟩
      started := fun hn => by
        rw [show (createdView task).record.task.status = .pending from hs] at hn
        cases hn
      stored := by simp [createdView] }

/-- **A task that meets its invariants is loaded**, when it was cancelled settled and
answered and its adapters are faithful. -/
theorem TaskOk.reconstruct {v : TaskView} (h : TaskOk c id v) (hs : c.settledCancel) (ha : c.answeredCancel)
    (hf : c.faithful) : ∃ context, SimPilot.reconstruct v = .ok context := by
  obtain ⟨o, ho, hcp⟩ := h.checkpoint.validate h.journal hf
  obtain ⟨as, has, -⟩ := h.journal.attempts
  have hj := h.journal
  have hevents : Reconstruction.validateEvents v.record v.events = .ok () := by
    rw [Reconstruction.validateEvents_eq_ok]
    refine ⟨hj.head, fun e he => (hj.owner e he).trans hj.task.symm, by rw [hj.numbered, hj.length], ?_, h.status.terminal hs,
      h.status.cancelled⟩
    -- the last event carries the sequence of the task
    have hlen := hj.length
    have hlast : (v.events.map (·.sequence)).getLast? = (List.range' 1 v.record.task.sequence).getLast? := by
      rw [hj.numbered]
    rw [List.getLast?_map] at hlast
    rw [hlast, List.getLast?_range']
    have hpos : v.record.task.sequence ≠ 0 := by
      intro h0
      have hnil : v.events = [] := List.length_eq_zero_iff.1 (hlen.trans h0)
      have := hj.head
      rw [hnil] at this
      cases this
    rw [if_neg hpos]
    congr 1
    omega
  exact ⟨_, reconstruct_eq_ok.2 ⟨o, as, ho,
    Reconstruction.validate_eq_ok.2 ⟨hevents, h.approvals.validate ha, hcp⟩, has, rfl⟩⟩

/-! ## One operation -/

/-- What holds of the store between operations. -/
structure SystemOk (c : Conditions) (id : UUID) (s : System) : Prop where
  store : StoreOk id s.store
  unborn : viewOf id s.store = none → s.store.approvals = []
  task : ∀ v, viewOf id s.store = some v → TaskOk c id v

/-- How an operation of `p` changes the system. -/
inductive Change (c : Conditions) (id : UUID) (p : Process) (s s' : System) : Prop
  | silent (h : s' = s)
  | created (task : Task) (hid : task.id = id) (hs : task.status = .pending) (hq : task.sequence = 0)
      (before : viewOf id s.store = none) (after : viewOf id s'.store = some (createdView task))
      (ok : StoreOk id s'.store) (trace : s'.trace = s.trace ++ [.created p task])
  | committed (v v' : TaskView) (now : Timestamp) (r : IterationRequest) (before : viewOf id s.store = some v)
      (allowed : Allowed c v r) (meets : Meets c v r) (commit : After v now r v')
      (after : viewOf id s'.store = some v') (ok : StoreOk id s'.store)
      (trace : s'.trace = s.trace ++ [.committed p v r])
  | executed (actionId : UUID) (authority : Option UUID) (action : Action)
      (legal : Legal c id p (.execute actionId authority action) s)
      (h : s' = { s with trace := s.trace ++ [.executed p actionId authority action] })
  | returned (outcome : Except PyError Unit) (legal : Legal c id p (.returned outcome) s)
      (h : s' = { s with trace := s.trace ++ [.returned p outcome] })

/-- The approvals an allowed commit writes are those of the task. -/
theorem Allowed.approvals_owner {v : TaskView} {r : IterationRequest} (h : Allowed c v r) (hid : v.record.task.id = id)
    (ho : ∀ a ∈ v.approvals, a.approval.taskId = id) :
    (∀ a ∈ r.approvalCreate, a.approval.taskId = id) ∧ ∀ a ∈ r.approvalUpdate, a.approval.taskId = id := by
  have hans : ∀ {pending : ApprovalRecord} {status : ApprovalStatus}, Answer v r pending status →
      (∀ a ∈ r.approvalCreate, a.approval.taskId = id) ∧ ∀ a ∈ r.approvalUpdate, a.approval.taskId = id := by
    intro pending status h
    obtain ⟨now, reason, hs, hu⟩ := h.approvalUpdate
    rw [h.approvalCreate, hu]
    refine ⟨by simp, fun a ha => ?_⟩
    rw [Option.mem_some_iff] at ha
    have hpending : pending.approval.taskId = id := ho pending (mem_of_pendingOf h.asked).1
    rw [← ha]
    exact hpending
  have hnone : r.approvalCreate = none → r.approvalUpdate = none →
      (∀ a ∈ r.approvalCreate, a.approval.taskId = id) ∧ ∀ a ∈ r.approvalUpdate, a.approval.taskId = id := by
    intro hc hu
    rw [hc, hu]
    simp
  cases h with
  | ordinary _ _ _ h =>
    have hcreate := h.approvalCreate
    split at hcreate
    · obtain ⟨-, action, now, reason, hrec⟩ := hcreate
      rw [hrec, h.approvalUpdate]
      refine ⟨fun a ha => ?_, by simp⟩
      rw [Option.mem_some_iff] at ha
      exact ha ▸ hid
    · exact hnone hcreate h.approvalUpdate
  | prepare _ _ _ _ _ h => exact hnone h.approvalCreate h.approvalUpdate
  | start _ h | retire _ h | requireReconciliation _ h => exact hnone h.approvalCreate h.approvalUpdate
  | confirm _ _ _ _ _ h => exact hnone h.approvalCreate h.approvalUpdate
  | failAttempt _ h => exact hnone h.approvalCreate h.approvalUpdate
  | acceptCurrent _ _ _ _ _ _ _ h | dismiss _ _ _ h | abandon _ _ _ h => exact hnone h.approvalCreate h.approvalUpdate
  | approve _ h | deny _ h => exact hans h
  | cancel _ _ _ _ _ hu hc => exact hnone hc hu

theorem SystemOk.approvals_owner {s : System} {v : TaskView} (h : SystemOk c id s) (hv : viewOf id s.store = some v) :
    ∀ a ∈ v.approvals, a.approval.taskId = id := by
  intro a ha
  rw [(viewOf_eq_some hv).2.2.1, (listApprovals_perm h.store.approvals).mem_iff] at ha
  obtain ⟨kr, hkr, rfl⟩ := List.mem_map.1 ha
  exact h.store.approvals.owner kr hkr

/-- Every legal operation is one of the five changes. -/
theorem SystemOk.change {s s' : System} {p : Process} (h : SystemOk c id s) (hm : (protocol c id).Move p s s') :
    Change c id p s s' := by
  obtain ⟨o, reply, hl, hs⟩ := hm
  cases o with
  | createTask task =>
    obtain ⟨rfl, hpending, hq⟩ := hl
    obtain ⟨store, hc, hs⟩ := hs
    rcases create_view h.store h.unborn with ⟨e, he⟩ | ⟨store', hok, hnone, hstore, hview⟩
    · rw [he] at hc
      cases hc
      exact .silent hs
    · rw [hok] at hc
      cases hc
      cases hs
      exact .created task rfl hpending hq hnone hview hstore rfl
  | commitIteration r =>
    obtain ⟨hid, hl⟩ := hl
    obtain ⟨now, store, hc, -, hs⟩ := hs
    rcases commitIteration_cases now r (s := s.store) with ⟨e, he⟩ | ⟨commit, store', -, -, hok⟩
    · rw [he] at hc
      cases hc
      exact .silent hs
    · rw [hok] at hc
      cases hc
      obtain ⟨v, hv, hmeets, hs⟩ := hs
      rw [hid] at hv
      have hseq : r.current.task.sequence = v.record.task.sequence := by
        by_contra hne
        obtain ⟨e, he⟩ := commit_stale h.store hv hid hne now
        rw [hok] at he
        cases he
      have hallowed := hl v hv hseq
      obtain ⟨hcreate, hupdate⟩ := hallowed.approvals_owner (h.task v hv).journal.task (h.approvals_owner hv)
      obtain ⟨-, hstore, -, v', hv', hafter⟩ := commit_view h.store hv hid hcreate hupdate hok
      subst hs
      exact .committed v v' now r hv hallowed hmeets hafter hv' hstore rfl
  | execute actionId authority action => exact .executed actionId authority action hl hs.1
  | returned outcome => exact .returned outcome hl hs
  | load | listEvents | cancellationCheck | initializeAdapter | observe | availableActions | validate | shutdown
    | snapshot | restored | decide | adapterFactory | reconcile => exact .silent hs.1
  | now | crash => exact .silent hs

theorem SystemOk.empty : SystemOk c id {} where
  store := ⟨.empty, ⟨by simp, by simp [Assoc.keys], by simp⟩, .empty⟩
  unborn _ := rfl
  task v hv := by cases hv

theorem SystemOk.step {s s' : System} {p : Process} (h : SystemOk c id s) (hm : (protocol c id).Move p s s') :
    SystemOk c id s' := by
  cases h.change hm with
  | silent hs => exact hs ▸ h
  | created task hid hs hq before after ok =>
    refine ⟨ok, fun hnone => ?_, fun v hv => ?_⟩
    · rw [after] at hnone; cases hnone
    · rw [after] at hv
      cases hv
      exact .created hid hs
  | committed v v' now r before allowed meets commit after ok =>
    refine ⟨ok, fun hnone => ?_, fun w hw => ?_⟩
    · rw [after] at hnone; cases hnone
    · rw [after] at hw
      cases hw
      exact (h.task v before).step allowed meets commit
  | executed _ _ _ _ hs => rw [hs]; exact ⟨h.store, h.unborn, h.task⟩
  | returned _ _ hs => rw [hs]; exact ⟨h.store, h.unborn, h.task⟩

/-- What the engine relies on holds along every run of legal operations. -/
theorem SystemOk.of_moves {s : System} (h : (protocol c id).Moves {} s) : SystemOk c id s :=
  h.preserves (fun _ _ _ => SystemOk.step) .empty

end SimPilot
