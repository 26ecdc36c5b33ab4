import SimPilot.Runtime.StatusInvariant
/-!
# Approvals, status and the approved-once action

Approvals have their own repository; `ApprovalsAgree` is what ties them to the status and
to the approved-once action of the task. Every allowed commit keeps it: the commits that
change neither approvals nor the action (`keep`), those that use the action up (`clear`),
the request of an approval (`create`), and the two answers to it.
-/

namespace SimPilot

variable {c : Conditions} {id : UUID} {v v' : TaskView} {r : IterationRequest} {now : Timestamp}

/-- The pending approvals. -/
def pendings (as : List ApprovalRecord) : List ApprovalRecord := as.filter (·.approval.status = .pending)

theorem pendingOf_eq_none {as : List ApprovalRecord} : pendingOf as = none ↔ pendings as = [] := by
  simp [pendingOf, pendings, List.find?_eq_none, List.filter_eq_nil_iff]

theorem mem_pendings {as : List ApprovalRecord} {a : ApprovalRecord} :
    a ∈ pendings as ↔ a ∈ as ∧ a.approval.status = .pending := by
  simp [pendings]

theorem mem_of_pendingOf {as : List ApprovalRecord} {a : ApprovalRecord} (h : pendingOf as = some a) :
    a ∈ as ∧ a.approval.status = .pending :=
  ⟨List.mem_of_find?_eq_some h, by simpa using List.find?_some h⟩

/-- The approvals of a task with its status and its safeguards. -/
structure ApprovalsAgree (c : Conditions) (as : List ApprovalRecord) (status : TaskStatus) (rs : RuntimeSafeguardState) :
    Prop where
  ids : (as.map (·.approval.id)).Nodup
  one : (pendings as).length ≤ 1
  waiting : status = .waitingForApproval → pendings as ≠ [] ∨ rs.approvedOnceAction.isSome = true
  identity : rs.approvedApprovalId.isNone = rs.approvedOnceAction.isNone
  granted : ∀ action ∈ rs.approvedOnceAction, ∃ a ∈ as, some a.approval.id = rs.approvedApprovalId ∧
    a.approval.status = .approved ∧ a.approval.action = action
  unanswered : pendings as ≠ [] → rs.approvedOnceAction = none
  pendingWaits : c.answeredCancel → pendings as ≠ [] → status = .waitingForApproval

namespace ApprovalsAgree
variable {as as' : List ApprovalRecord} {status status' : TaskStatus} {rs rs' : RuntimeSafeguardState}

theorem perm (h : ApprovalsAgree c as status rs) (hp : as'.Perm as) : ApprovalsAgree c as' status rs where
  ids := (hp.map _).nodup_iff.2 h.ids
  one := by rw [pendings, (hp.filter _).length_eq]; exact h.one
  waiting hs := by
    refine (h.waiting hs).imp_left fun hne he => hne ?_
    exact List.Perm.nil_eq (he ▸ (hp.filter _)) |>.symm
  identity := h.identity
  granted a ha := by
    obtain ⟨rec, hm, hrec⟩ := h.granted a ha
    exact ⟨rec, hp.mem_iff.2 hm, hrec⟩
  unanswered hne := h.unanswered fun he => hne (List.Perm.eq_nil (he ▸ (hp.filter _)))
  pendingWaits hc hne := h.pendingWaits hc fun he => hne (List.Perm.eq_nil (he ▸ (hp.filter _)))

/-- A commit that leaves the approvals and the approved-once action alone. -/
theorem keep (h : ApprovalsAgree c as status rs) (hs : SameApproval rs' rs)
    (henter : status' = .waitingForApproval → status = .waitingForApproval)
    (hleave : c.answeredCancel → status = .waitingForApproval → status' = .waitingForApproval ∨ pendings as = []) :
    ApprovalsAgree c as status' rs' where
  ids := h.ids
  one := h.one
  waiting hw := by rw [hs.action]; exact h.waiting (henter hw)
  identity := by rw [hs.action, hs.id]; exact h.identity
  granted := by rw [hs.action, hs.id]; exact h.granted
  unanswered hne := by rw [hs.action]; exact h.unanswered hne
  pendingWaits hc hne := ((hleave hc (h.pendingWaits hc hne)).resolve_right hne)

/-- A commit that uses the approved-once action up. -/
theorem clear (h : ApprovalsAgree c as status rs) (hr : rs'.approvedOnceAction = none ∧ rs'.approvedApprovalId = none)
    (hs : status ≠ .waitingForApproval) (hs' : status' ≠ .waitingForApproval) :
    ApprovalsAgree c as status' rs' where
  ids := h.ids
  one := h.one
  waiting hw := absurd hw hs'
  identity := by rw [hr.1, hr.2]; rfl
  granted := by rw [hr.1]; simp
  unanswered _ := hr.1
  pendingWaits hc hne := absurd (h.pendingWaits hc hne) hs

/-- A commit that requests an approval. -/
theorem create (h : ApprovalsAgree c as status rs) (hnone : pendings as = []) (hr : rs'.approvedOnceAction = none)
    (hi : rs'.approvedApprovalId = none) {rec : ApprovalRecord} (hp : rec.approval.status = .pending)
    (hf : ∀ a ∈ as, a.approval.id ≠ rec.approval.id) :
    ApprovalsAgree c (as ++ [rec]) .waitingForApproval rs' where
  ids := by
    rw [List.map_append, List.nodup_append]
    refine ⟨h.ids, by simp, ?_⟩
    rintro x hx y hy rfl
    obtain ⟨a, ha, rfl⟩ := List.mem_map.1 hx
    exact hf a ha (by simpa using hy)
  one := by rw [pendings, List.filter_append, ← pendings, hnone]; simp [hp]
  waiting _ := .inl (by rw [pendings, List.filter_append, ← pendings, hnone]; simp [hp])
  identity := by rw [hr, hi]; rfl
  granted := by rw [hr]; simp
  unanswered _ := hr
  pendingWaits _ _ := rfl

/-- Replacing the pending approval by its answer leaves no pending one. -/
theorem answer (h : ApprovalsAgree c as status rs) {p u : ApprovalRecord} (hp : pendingOf as = some p)
    (hid : u.approval.id = p.approval.id) (hu : u.approval.status ≠ .pending) :
    (as.map fun a => if a.approval.id = u.approval.id then u else a).map (·.approval.id) = as.map (·.approval.id) ∧
      pendings (as.map fun a => if a.approval.id = u.approval.id then u else a) = [] ∧
      u ∈ as.map fun a => if a.approval.id = u.approval.id then u else a := by
  obtain ⟨hmem, hstatus⟩ := mem_of_pendingOf hp
  refine ⟨?_, ?_, ?_⟩
  · rw [List.map_map]
    refine List.map_congr_left fun a _ => ?_
    simp only [Function.comp]
    split
    · rename_i he; exact he.symm
    · rfl
  · rw [pendings, List.filter_eq_nil_iff]
    intro a ha
    obtain ⟨b, hb, rfl⟩ := List.mem_map.1 ha
    split
    · simpa using hu
    · rename_i hne
      intro hpend
      -- two pending approvals would be one too many
      have hbp : b ∈ pendings as := mem_pendings.2 ⟨hb, by simpa using hpend⟩
      have hpp : p ∈ pendings as := mem_pendings.2 ⟨hmem, hstatus⟩
      obtain ⟨x, hx⟩ := List.length_eq_one_iff.1 (le_antisymm h.one (List.length_pos_of_mem hbp))
      rw [hx, List.mem_singleton] at hbp hpp
      exact hne (by rw [hbp, hid, hpp])
  · exact List.mem_map.2 ⟨p, hmem, by rw [if_pos hid.symm]⟩

end ApprovalsAgree

theorem After.approvals_same (ha : After v now r v') (hc : r.approvalCreate = none) (hu : r.approvalUpdate = none) :
    v'.approvals.Perm v.approvals := by
  have := ha.approvals
  simpa only [IterationRequest.approvals, approvalsAfter, hu, hc, Option.toList_none, List.append_nil] using this

/-- A commit that answers the pending approval. -/
theorem ApprovalsAgree.answered {pending : ApprovalRecord} {status : ApprovalStatus}
    (h : ApprovalsAgree c v.approvals v.record.task.status v.record.runtimeState) (hr : Answer v r pending status)
    (ha : After v now r v') : ∃ u : ApprovalRecord, u.approval.id = pending.approval.id ∧ u.approval.status = status ∧
      u.approval.action = pending.approval.action ∧ u ∈ v'.approvals ∧ pendings v'.approvals = [] ∧
      (v'.approvals.map (·.approval.id)).Nodup := by
  obtain ⟨at', reason, hs, hu⟩ := hr.approvalUpdate
  have hp := ha.approvals
  simp only [IterationRequest.approvals, approvalsAfter, hu, hr.approvalCreate, Option.toList_none, List.append_nil] at hp
  obtain ⟨hids, hnone, hmem⟩ := h.answer (u := resolvedRecord pending.approval status at' reason hs) hr.asked rfl hs
  refine ⟨resolvedRecord pending.approval status at' reason hs, rfl, rfl, rfl, hp.mem_iff.2 hmem, ?_, ?_⟩
  · have := hp.filter (·.approval.status = .pending)
    rw [← pendings, ← pendings, hnone] at this
    exact this.eq_nil
  · rw [(hp.map _).nodup_iff, hids]
    exact h.ids

theorem ApprovalsAgree.step (h : ApprovalsAgree c v.approvals v.record.task.status v.record.runtimeState)
    (hst : StatusOk c v) (hr : Allowed c v r) (hm : Meets c v r) (ha : After v now r v') :
    ApprovalsAgree c v'.approvals v'.record.task.status v'.record.runtimeState := by
  rw [ha.status, ha.runtimeState]
  have hopen : ∀ {a}, unresolvedActionAttempt v.events = .ok (some a) → v.record.task.status ≠ .waitingForApproval := by
    intro a hu hw
    rcases hst.attempt a hu with hs | hs <;> (rw [hs] at hw; cases hw)
  cases hr with
  | ordinary quiet observed last h' =>
    have hnone := pendingOf_eq_none.1 h'.answered
    have hcreate := h'.approvalCreate
    by_cases hw : r.task.status = .waitingForApproval
    · rw [if_pos hw] at hcreate
      obtain ⟨honce, action, at', reason, hrec⟩ := hcreate
      have hp := ha.approvals
      simp only [IterationRequest.approvals, approvalsAfter, h'.approvalUpdate, hrec] at hp
      have hid : r.runtimeState.approvedApprovalId = none := by
        have := h.identity
        rw [honce] at this
        rw [h'.approval.id]
        simpa using this
      rw [hw]
      exact (h.create hnone (by rw [h'.approval.action, honce]) hid rfl (ha.fresh _ hrec)).perm hp
    · rw [if_neg hw] at hcreate
      exact (h.keep h'.approval (fun he => absurd he hw) (fun _ _ => .inr hnone)).perm
        (ha.approvals_same hcreate h'.approvalUpdate)
  | prepare _ _ _ _ _ h' =>
    refine (h.keep h'.approval ?_ ?_).perm (ha.approvals_same h'.approvalCreate h'.approvalUpdate)
    · rw [h'.task]; exact fun he => he
    · rw [h'.task]; exact fun _ he => .inl he
  | start _ h' | retire _ h' | requireReconciliation _ h' =>
    refine (h.keep h'.approval ?_ ?_).perm (ha.approvals_same h'.approvalCreate h'.approvalUpdate)
    · rw [h'.task]; exact fun he => he
    · rw [h'.task]; exact fun _ he => .inl he
  | confirm _ _ _ _ terminal h' =>
    refine (h.clear h'.approval (hopen h'.unresolved) ?_).perm (ha.approvals_same h'.approvalCreate h'.approvalUpdate)
    rw [h'.status]
    cases terminal with
    | none => decide
    | some t => rcases h'.endsIn t rfl with ht | ht <;> simp [ht]
  | failAttempt _ h' =>
    have hs' : r.task.status ≠ .waitingForApproval := by simp [h'.task]
    rcases h'.approval with hap | hap
    · exact (h.keep hap (fun he => absurd he hs') (fun _ he => absurd he (hopen h'.unresolved))).perm
        (ha.approvals_same h'.approvalCreate h'.approvalUpdate)
    · exact (h.clear hap (hopen h'.unresolved) hs').perm (ha.approvals_same h'.approvalCreate h'.approvalUpdate)
  | acceptCurrent _ _ _ _ _ _ _ h' task =>
    refine (h.clear h'.approval (hopen h'.unresolved) ?_).perm (ha.approvals_same h'.approvalCreate h'.approvalUpdate)
    rw [task, Task.chargeSuccess]
    split
    · exact hopen h'.unresolved
    · exact hopen h'.unresolved
  | dismiss _ _ _ h' task =>
    refine (h.clear h'.approval (hopen h'.unresolved) ?_).perm (ha.approvals_same h'.approvalCreate h'.approvalUpdate)
    rw [task]
    exact hopen h'.unresolved
  | abandon _ _ _ h' _ task =>
    exact (h.clear h'.approval (hopen h'.unresolved) (by simp [task])).perm
      (ha.approvals_same h'.approvalCreate h'.approvalUpdate)
  | approve pending h' task state =>
    obtain ⟨u, hid, hs, haction, hmem, hnone, hids⟩ := h.answered h' ha
    rw [state]
    exact
      { ids := hids
        one := by rw [hnone]; simp
        waiting := fun _ => .inr rfl
        identity := rfl
        granted := by
          intro action haction'
          simp only [Option.mem_some_iff] at haction'
          exact ⟨u, hmem, by rw [hid], hs, by rw [haction, haction']⟩
        unanswered := fun hne => absurd hnone hne
        pendingWaits := fun _ hne => absurd hnone hne }
  | deny pending h' task state =>
    obtain ⟨u, -, -, -, -, hnone, hids⟩ := h.answered h' ha
    obtain ⟨hpmem, hpst⟩ := mem_of_pendingOf h'.asked
    have honce := h.unanswered (List.ne_nil_of_mem (mem_pendings.2 ⟨hpmem, hpst⟩))
    rw [state]
    exact
      { ids := hids
        one := by rw [hnone]; simp
        waiting := by simp [task]
        identity := h.identity
        granted := by simp [honce]
        unanswered := fun hne => absurd hnone hne
        pendingWaits := fun _ hne => absurd hnone hne }
  | cancel _ live task state cancelRequested approvalUpdate approvalCreate =>
    refine (h.keep ⟨by rw [state], by rw [state], by rw [state]⟩ (by simp [task]) ?_).perm (ha.approvals_same approvalCreate approvalUpdate)
    intro hc _
    exact .inr (pendingOf_eq_none.1 ((hm cancelRequested).2 hc))

/-- **No approval check of the reconstructor fails** on approvals that agree with their
record, where a pending one only exists while the task waits. -/
theorem ApprovalsAgree.validate (h : ApprovalsAgree c v.approvals v.record.task.status v.record.runtimeState)
    (hc : c.answeredCancel) : Reconstruction.validateApprovals v.record v.approvals = .ok () := by
  rw [Reconstruction.validateApprovals_eq_ok]
  refine ⟨h.identity, h.pendingWaits hc, ?_, ?_, ?_⟩
  · intro hw hnone
    rcases h.waiting hw with hne | hs
    · exact absurd hnone hne
    · intro he; rw [he] at hs; cases hs
  · intro ht
    by_contra hne
    rw [h.pendingWaits hc hne] at ht
    cases ht
  · intro hs
    obtain ⟨action, hact⟩ := Option.isSome_iff_exists.1 hs
    obtain ⟨a, hmem, hid, happroved, haction⟩ := h.granted action hact
    have hauth : Reconstruction.authorises v.record.runtimeState a = true := by
      simp [Reconstruction.authorises, hid, happroved, hact, haction]
    -- the ids are distinct, so no other approval has the granted one's
    have hall : v.approvals.filter (Reconstruction.authorises v.record.runtimeState) = [a] := by
      have hn : v.approvals.Nodup := List.Nodup.of_map _ h.ids
      refine List.perm_singleton.1 ((List.perm_ext_iff_of_nodup (hn.filter _) (by simp)).2 fun b => ?_)
      simp only [List.mem_filter, List.mem_singleton]
      refine ⟨fun ⟨hb, hb'⟩ => ?_, fun hb => hb ▸ ⟨hmem, hauth⟩⟩
      have hbid : some b.approval.id = v.record.runtimeState.approvedApprovalId := by
        simp only [Reconstruction.authorises, Bool.and_eq_true, decide_eq_true_eq] at hb'
        exact hb'.1.1
      exact List.inj_on_of_nodup_map h.ids hb hmem (Option.some.inj (hbid.trans hid.symm))
    rw [hall]
    rfl

end SimPilot
