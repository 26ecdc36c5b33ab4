import SimPilot.Runtime.NoLostUpdate
/-!
# A commit on the stored record goes through

`NoLostUpdate.lean` says what a commit that returned did. Here is when one returns: when
it starts from the stored sequence, its clock does not run back, its checkpoint is of the
supported version and it touches no approval, nothing in the in-memory store refuses it.
The identifiers of events and checkpoints are derived from their sequences, so a new one
never meets an old one (`Identified`).
-/

namespace SimPilot
open InMemory Transaction

/-- Every event and checkpoint carries the identifier of its task and sequence. -/
structure Identified (s : InMemoryPersistenceState) : Prop where
  events : ∀ kr ∈ s.events, ∀ r ∈ kr.2, r.id = .uuid5 kr.1 "event" r.event.sequence
  eventKeys : s.events.keys.Nodup
  checkpoints : ∀ kr ∈ s.checkpoints, ∀ c ∈ kr.2, c.metadata.id = .uuid5 kr.1 "checkpoint" c.metadata.runtimeSequence
  checkpointKeys : s.checkpoints.keys.Nodup

namespace Identified
variable {s s' : InMemoryPersistenceState}

theorem empty : Identified {} := ⟨by simp, by simp [Assoc.keys], by simp, by simp [Assoc.keys]⟩

theorem congr (h : Identified s) (he : s'.events = s.events) (hc : s'.checkpoints = s.checkpoints) : Identified s' :=
  ⟨he ▸ h.events, he ▸ h.eventKeys, hc ▸ h.checkpoints, hc ▸ h.checkpointKeys⟩

theorem of_stream (h : Identified s) {id : UUID} {r : EventRecord} (hr : r ∈ stream s id) :
    r.id = .uuid5 id "event" r.event.sequence := by
  unfold stream at hr
  cases hg : s.events.get id with
  | none => rw [hg] at hr; cases hr
  | some rs =>
    rw [hg] at hr
    exact h.events _ (Assoc.mem_of_get hg) r hr

theorem of_checkpointStream (h : Identified s) {id : UUID} {c : SimulationCheckpoint} (hc : c ∈ checkpointStream s id) :
    c.metadata.id = .uuid5 id "checkpoint" c.metadata.runtimeSequence := by
  unfold checkpointStream at hc
  cases hg : s.checkpoints.get id with
  | none => rw [hg] at hc; cases hc
  | some cs =>
    rw [hg] at hc
    exact h.checkpoints _ (Assoc.mem_of_get hg) c hc

theorem push (h : Identified s) {r : EventRecord} (hr : r.id = .uuid5 r.event.taskId "event" r.event.sequence) :
    Identified (InMemory.push s r) where
  events kr hkr x hx := by
    rcases Assoc.mem_set hkr with rfl | hkr
    · rcases List.mem_append.1 hx with hx | hx
      · exact h.of_stream hx
      · rw [List.mem_singleton] at hx
        exact hx ▸ hr
    · exact h.events kr hkr x hx
  eventKeys := Assoc.keys_set h.eventKeys
  checkpoints := h.checkpoints
  checkpointKeys := h.checkpointKeys

theorem pushAll {rs : List EventRecord} (h : Identified s)
    (hr : ∀ r ∈ rs, r.id = .uuid5 r.event.taskId "event" r.event.sequence) : Identified (rs.foldl InMemory.push s) := by
  induction rs generalizing s with
  | nil => exact h
  | cons r rs ih => exact ih (h.push (hr r (by simp))) fun x hx => hr x (List.mem_cons_of_mem _ hx)

theorem appendMany (h : Identified s) {rs : List EventRecord} {u : Unit}
    (hr : ∀ r ∈ rs, r.id = .uuid5 r.event.taskId "event" r.event.sequence)
    (ha : InMemory.appendMany rs s = (.ok u, s')) : Identified s' := by
  unfold InMemory.appendMany at ha
  split at ha
  · cases ha
  · cases ha
    exact h.pushAll hr

theorem saveCheckpoint (h : Identified s) {c : SimulationCheckpoint} {u : Unit}
    (hc : c.metadata.id = .uuid5 c.metadata.taskId "checkpoint" c.metadata.runtimeSequence)
    (ha : InMemory.saveCheckpoint c s = (.ok u, s')) : Identified s' := by
  simp only [InMemory.saveCheckpoint] at ha
  split at ha
  · cases ha
  split at ha
  · cases ha
  split at ha
  · cases ha
  split at ha
  · cases ha
  cases ha
  refine ⟨h.events, h.eventKeys, fun kr hkr x hx => ?_, Assoc.keys_set (Assoc.keys_set h.checkpointKeys)⟩
  rcases Assoc.mem_set hkr with rfl | hkr
  · rcases List.mem_append.1 hx with hx | hx
    · refine h.of_checkpointStream ?_
      simpa [checkpointStream] using hx
    · rw [List.mem_singleton] at hx
      exact hx ▸ hc
  · rcases Assoc.mem_set hkr with rfl | hkr
    · exact h.of_checkpointStream hx
    · exact h.checkpoints kr hkr x hx

/-- The event records a commit makes carry their identifiers. -/
theorem eventRecords (es : List RuntimeEvent) :
    ∀ x ∈ es.map eventRecord, x.id = .uuid5 x.event.taskId "event" x.event.sequence := by
  intro x hx
  obtain ⟨e, -, rfl⟩ := List.mem_map.1 hx
  rfl

theorem forPresent_approval (h : Identified s) {call : ApprovalRecord → Transaction InMemoryPersistenceState Unit}
    (hcall : ∀ a s s', call a s = (.ok (), s') → s'.events = s.events ∧ s'.checkpoints = s.checkpoints)
    {o : Option ApprovalRecord} (hp : forPresent call o s = (.ok (), s')) : Identified s' := by
  cases o with
  | none =>
    simp only [forPresent, pure, Prod.mk.injEq, true_and] at hp
    exact hp ▸ h
  | some a =>
    obtain ⟨he, hc⟩ := hcall a s s' hp
    exact h.congr he hc

/-- The transaction of a commit keeps identifiers. -/
theorem write (h : Identified s) {now : Timestamp} {r : IterationRequest} {c : IterationCommit}
    (hb : r.build now = .ok c) (hw : c.write s = (.ok (), s')) : Identified s' := by
  obtain ⟨-, -, -, -, -, hcp⟩ := IterationRequest.build_ok hb
  obtain ⟨_, s₁, h₁, hw⟩ := bind_ok hw
  obtain ⟨_, s₂, h₂, hw⟩ := bind_ok hw
  obtain ⟨_, s₃, h₃, hw⟩ := bind_ok hw
  obtain ⟨_, s₄, h₄, h₅⟩ := bind_ok hw
  obtain ⟨_, -, -, -, rfl⟩ := updateTask_ok h₁
  have hi₁ : Identified { s with tasks := s.tasks.set c.taskRecord.task.id c.taskRecord } := h.congr rfl rfl
  have hi₂ : Identified s₂ := hi₁.appendMany (eventRecords c.events) h₂
  have hi₃ : Identified s₃ := hi₂.forPresent_approval (fun a t t' ha => by
    obtain ⟨-, -, rfl⟩ := createApproval_ok ha
    exact ⟨rfl, rfl⟩) h₃
  have hi₄ : Identified s₄ := hi₃.forPresent_approval (fun a t t' ha => by
    obtain ⟨_, -, -, -, rfl⟩ := updateApproval_ok ha
    exact ⟨rfl, rfl⟩) h₄
  cases hsn : r.adapterSnapshot with
  | none =>
    rw [hsn] at hcp
    simp only [hcp, forPresent, pure, Prod.mk.injEq, true_and] at h₅
    exact h₅ ▸ hi₄
  | some sn =>
    rw [hsn] at hcp
    obtain ⟨cp, hcc, hbc⟩ := hcp
    obtain ⟨-, howner, hn, hcid, -⟩ := buildCheckpoint_ok hbc
    rw [hcc] at h₅
    exact hi₄.saveCheckpoint (by rw [hcid, howner, hn]) h₅

end Identified

/-! ## Each call of a transaction -/

theorem eventRecord_id (e : RuntimeEvent) : (eventRecord e).id = .uuid5 e.taskId "event" e.sequence := rfl

/-- Records of one task, numbered from the expected sequence on, under new identifiers. -/
theorem checkAppend_isOk {s : InMemoryPersistenceState} {identifiers : List UUID} {id : UUID}
    (ht : s.tasks.contains id = true) : ∀ {es : List RuntimeEvent} {expectedByTask : Assoc UUID Nat} {pending : List UUID}
      {n : Nat}, (expectedByTask.get id).getD ((stream s id).length + 1) = n → (∀ e ∈ es, e.taskId = id) →
      es.map (·.sequence) = List.range' n es.length →
      (∀ m, n ≤ m → (.uuid5 id "event" m : UUID) ∉ identifiers ∧ (.uuid5 id "event" m : UUID) ∉ pending) →
      checkAppend s identifiers expectedByTask pending (es.map eventRecord) = .ok ()
  | [], _, _, _, _, _, _, _ => rfl
  | e :: es, expectedByTask, pending, n, hn, hid, hseq, hnew => by
    have he : e.taskId = id := hid e (by simp)
    rw [List.map_cons, List.length_cons, List.range'_succ, List.cons.injEq] at hseq
    obtain ⟨hi, hp⟩ := hnew n (le_refl _)
    have hfresh : ¬ ((eventRecord e).id ∈ identifiers ∨ (eventRecord e).id ∈ pending) := by
      rw [eventRecord_id, he, hseq.1]
      exact not_or.2 ⟨hi, hp⟩
    have hevent : (eventRecord e).event = e := rfl
    simp only [List.map_cons, checkAppend, hevent, he, ht, not_true, if_false, hn, hseq.1, hfresh, ne_eq]
    refine checkAppend_isOk ht (n := n + 1) (by simp) (fun x hx => hid x (List.mem_cons_of_mem _ hx)) hseq.2 fun m hm => ?_
    obtain ⟨hi', hp'⟩ := hnew m (by omega)
    refine ⟨hi', ?_⟩
    rw [List.mem_cons, not_or, eventRecord_id, he, hseq.1]
    refine ⟨?_, hp'⟩
    simp only [UUID.uuid5.injEq, true_and]
    omega

theorem updateTask_isOk {s : InMemoryPersistenceState} {r old : TaskRecord} (hold : s.tasks.get r.task.id = some old)
    (hseq : old.task.sequence ≤ r.task.sequence) (htime : old.task.updatedAt ≤ r.task.updatedAt) :
    InMemory.updateTask r s = (.ok (), { s with tasks := s.tasks.set r.task.id r }) := by
  have hget : getTask r.task.id s = (.ok old, s) := by simp [getTask, hold]
  have hstale : ¬ (r.task.sequence < old.task.sequence ∨ r.task.updatedAt < old.task.updatedAt) := by
    rw [not_or, not_lt, not_lt]
    exact ⟨hseq, htime⟩
  simp only [InMemory.updateTask, bind, hget, raiseIf, hstale, if_false, Transaction.modify]

theorem saveCheckpoint_isOk {s : InMemoryPersistenceState} {c : SimulationCheckpoint} (h : Identified s)
    (hv : c.metadata.simulationSchemaVersion = 1) (ht : s.tasks.contains c.metadata.taskId = true)
    (hid : c.metadata.id = .uuid5 c.metadata.taskId "checkpoint" c.metadata.runtimeSequence)
    (hnew : ∀ x ∈ checkpointStream s c.metadata.taskId, x.metadata.runtimeSequence < c.metadata.runtimeSequence) :
    ∃ s', InMemory.saveCheckpoint c s = (.ok (), s') := by
  have hlast : (checkpointStream s c.metadata.taskId).getLast?.any
      (fun x => c.metadata.runtimeSequence ≤ x.metadata.runtimeSequence) = false := by
    cases hl : (checkpointStream s c.metadata.taskId).getLast? with
    | none => rfl
    | some x => simpa using hnew x (List.mem_of_getLast? hl)
  have hdup : (s.checkpoints.set c.metadata.taskId (checkpointStream s c.metadata.taskId)).values.flatten.any
      (fun x => x.metadata.id = c.metadata.id) = false := by
    rw [List.any_eq_false]
    intro x hx
    obtain ⟨cs, hcs, hxc⟩ := List.mem_flatten.1 hx
    obtain ⟨kr, hkr, rfl⟩ := List.mem_map.1 hcs
    have hstream : (kr.1 = c.metadata.taskId → x ∈ checkpointStream s c.metadata.taskId) ∧
        x.metadata.id = .uuid5 kr.1 "checkpoint" x.metadata.runtimeSequence := by
      rcases Assoc.mem_set hkr with rfl | hkr
      · exact ⟨fun _ => hxc, h.of_checkpointStream hxc⟩
      · refine ⟨fun hk => ?_, h.checkpoints kr hkr x hxc⟩
        have hget : s.checkpoints.get c.metadata.taskId = some kr.2 := Assoc.get_of_mem h.checkpointKeys (hk ▸ hkr)
        simpa [checkpointStream, hget] using hxc
    intro heq
    have heq : x.metadata.id = c.metadata.id := by simpa using heq
    rw [hstream.2, hid] at heq
    simp only [UUID.uuid5.injEq, true_and] at heq
    have := hnew x (hstream.1 heq.1)
    omega
  simp only [InMemory.saveCheckpoint, hv, ne_eq, not_true, if_false, ht, hlast, Bool.false_eq_true, hdup]
  exact ⟨_, rfl⟩

/-! ## The commit -/

variable {s s' : InMemoryPersistenceState} {now : Timestamp} {r : IterationRequest}

/-- The clock and the checkpoint version the store asks of a commit on a stored record. -/
structure Acceptable (old : TaskRecord) (now : Timestamp) (r : IterationRequest) : Prop where
  time : old.task.updatedAt ≤ now
  version : ∀ sn ∈ r.adapterSnapshot, sn.simulationSchemaVersion = 1
  approvalCreate : r.approvalCreate = none
  approvalUpdate : r.approvalUpdate = none

/-- **A commit on the stored record goes through.** -/
theorem commit_isOk {old : TaskRecord} {c : IterationCommit} (hs : Reached s) (hi : Identified s)
    (hold : s.tasks.get r.task.id = some old) (hseq : r.current.task.sequence = old.task.sequence)
    (ha : Acceptable old now r) (hb : r.build now = .ok c) : ∃ s', commitIteration now r s = (.ok c, s') := by
  obtain ⟨hd, hrec, hev, hca, hua, hcp⟩ := IterationRequest.build_ok hb
  have hid : c.taskRecord.task.id = r.task.id := by rw [hrec]; rfl
  have hlast : c.taskRecord.task.sequence = old.task.sequence + r.eventDrafts.length := by rw [hrec, ← hseq]; rfl
  have hstored : UnitOfWork.taskOf s r.task.id = some old := by rw [taskOf_eq]; exact hold
  obtain ⟨hnum, -, hle⟩ := (hs.numbered r.task.id).of_stored hstored
  have hlen : (stream s r.task.id).length = old.task.sequence := (hs.numbered r.task.id).length hstored
  -- the task row
  have h₁ := updateTask_isOk (r := c.taskRecord) (by rw [hid]; exact hold) (by omega)
    (by rw [hrec]; exact ha.time)
  -- the events
  let s₁ : InMemoryPersistenceState := { s with tasks := s.tasks.set c.taskRecord.task.id c.taskRecord }
  have ht₁ : s₁.tasks.contains r.task.id = true := by simp [s₁, hid, Assoc.contains]
  have hids : ∀ e ∈ c.events, e.taskId = r.task.id := fun e he => taskId_numberEvents e (hev ▸ he)
  have hold_ids : ∀ m, old.task.sequence + 1 ≤ m →
      (.uuid5 r.task.id "event" m : UUID) ∉ s.events.values.flatten.map (·.id) := by
    intro m hm hmem
    obtain ⟨x, hx, hxm⟩ := List.mem_map.1 hmem
    obtain ⟨rs, hrs, hxr⟩ := List.mem_flatten.1 hx
    obtain ⟨kr, hkr, rfl⟩ := List.mem_map.1 hrs
    rw [hi.events kr hkr x hxr] at hxm
    simp only [UUID.uuid5.injEq, true_and] at hxm
    have hget : s.events.get r.task.id = some kr.2 := Assoc.get_of_mem hi.eventKeys (hxm.1 ▸ hkr)
    have hseqmem : x.event.sequence ∈ UnitOfWork.eventSequences s r.task.id :=
      List.mem_map_of_mem (f := fun x : EventRecord => x.event.sequence)
        (show x ∈ stream s r.task.id by simpa [stream, hget] using hxr)
    rw [hnum, List.mem_range'] at hseqmem
    obtain ⟨i, hi', he⟩ := hseqmem
    omega
  have hcheck : checkAppend s₁ (s₁.events.values.flatten.map (·.id)) [] [] (c.events.map eventRecord) = .ok () := by
    refine checkAppend_isOk ht₁ (n := old.task.sequence + 1) ?_ hids ?_ fun m hm => ⟨hold_ids m hm, by simp⟩
    · change (stream s r.task.id).length + 1 = _
      rw [hlen]
    · rw [hev, sequence_numberEvents, hseq, length_numberEvents]
  obtain ⟨s₂, h₂⟩ : ∃ s₂, InMemory.appendMany (c.events.map eventRecord) s₁ = (.ok (), s₂) := by
    simp only [InMemory.appendMany, hcheck]
    exact ⟨_, rfl⟩
  have hrecords : ∀ x ∈ c.events.map eventRecord, x.event.taskId = r.task.id := by
    intro x hx
    obtain ⟨e, he, rfl⟩ := List.mem_map.1 hx
    exact hids e he
  obtain ⟨-, ht₂, -, hc₂, -⟩ := InMemory.appendMany_ok hrecords h₂
  have hi₁ : Identified s₁ := hi.congr rfl rfl
  have hi₂ : Identified s₂ := hi₁.appendMany (Identified.eventRecords c.events) h₂
  -- the checkpoint
  obtain ⟨s₃, h₃⟩ : ∃ s₃, forPresent InMemory.saveCheckpoint c.checkpoint s₂ = (.ok (), s₃) := by
    cases hsn : r.adapterSnapshot with
    | none =>
      rw [hsn] at hcp
      rw [hcp]
      exact ⟨s₂, rfl⟩
    | some sn =>
      rw [hsn] at hcp
      obtain ⟨cp, hcc, hbc⟩ := hcp
      obtain ⟨-, howner, hn, hcid, -, hv, -⟩ := buildCheckpoint_ok hbc
      rw [hcc]
      refine saveCheckpoint_isOk hi₂ (by rw [hv]; exact ha.version sn hsn) ?_ (by rw [hcid, howner, hn]) ?_
      · rw [howner, ht₂]
        exact ht₁
      · intro x hx
        rw [howner] at hx
        have hxs : x ∈ checkpointStream s r.task.id := by simpa [checkpointStream, hc₂, s₁] using hx
        have hxle := hle x.metadata.runtimeSequence (List.mem_map.2 ⟨x, hxs, rfl⟩)
        have hpos : 0 < r.eventDrafts.length := List.length_pos_of_ne_nil hd
        rw [hn, IterationRequest.lastSequence, hseq]
        omega
  have hcreate : forPresent InMemory.createApproval c.approvalCreate s₂ = (.ok (), s₂) := by
    rw [hca, ha.approvalCreate]
    rfl
  have hupdate : forPresent InMemory.updateApproval c.approvalUpdate s₂ = (.ok (), s₂) := by
    rw [hua, ha.approvalUpdate]
    rfl
  have hwrite : c.write s = (.ok (), s₃) := by
    refine (bind_of_ok h₁).trans ?_
    refine (bind_of_ok h₂).trans ?_
    refine (bind_of_ok hcreate).trans ?_
    refine (bind_of_ok hupdate).trans ?_
    exact h₃
  refine ⟨s₃, ?_⟩
  have hrun : UnitOfWork.run c.write s = (.ok (), s₃) := by simp only [UnitOfWork.run, hwrite]
  simp only [commitIteration, hb, hrun]

end SimPilot
