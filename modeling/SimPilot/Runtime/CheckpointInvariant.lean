import SimPilot.Runtime.ApprovalInvariant
/-!
# The checkpoint and the latest observation

A task has a checkpoint exactly when an observation was recorded, and with faithful
adapters the two agree (`CheckpointOk`). A commit leaves both alone (`same`), takes a
snapshot of the state observed last (`live`), records an observation with its snapshot
(`observed`), records an observation of the same state (`unchanged`), or copies the
checkpoint (`copied`).
-/

namespace SimPilot
open Reconstruction

variable {c : Conditions} {id : UUID} {v v' : TaskView} {r : IterationRequest} {now : Timestamp}

/-! ## The latest observation behind a commit -/

/-- Drafts without an observation. -/
def NoObservation (drafts : List EventDraft) : Prop := ∀ d ∈ drafts, d.eventType ≠ .observationRecorded

theorem Quiet.noObservation {drafts : List EventDraft} (h : Quiet drafts) : NoObservation drafts := by
  intro d hd he
  have := h d hd
  rw [he] at this
  cases this

theorem Ends.noObservation {status : TaskStatus} {drafts : List EventDraft} (h : Ends status drafts) :
    NoObservation drafts := by
  unfold Ends at h
  cases status with
  | completed | blocked | failed | cancelled =>
    obtain ⟨payload, rfl⟩ := h
    simp [NoObservation]
  | pending | running | waitingForApproval =>
    obtain rfl : drafts = [] := h
    simp [NoObservation]

theorem NoObservation.append {ds es : List EventDraft} (hd : NoObservation ds) (he : NoObservation es) :
    NoObservation (ds ++ es) := by
  intro d hmem
  rcases List.mem_append.1 hmem with h | h
  · exact hd d h
  · exact he d h

theorem observations_numberEvents {task : UUID} {n : Nat} {drafts : List EventDraft} (h : NoObservation drafts) :
    (numberEvents task now n drafts).filter (·.eventType = .observationRecorded) = [] := by
  rw [List.filter_eq_nil_iff]
  intro e he
  obtain ⟨d, hd, ht, -⟩ := eventType_numberEvents he
  simpa [ht] using h d hd

theorem After.latest_same (ha : After v now r v') (h : NoObservation r.eventDrafts) :
    latestObservation v'.events = latestObservation v.events := by
  simp only [latestObservation, ha.events, List.filter_append, observations_numberEvents h, List.append_nil]

theorem After.latest_observed (ha : After v now r v') (quiet rest : List EventDraft) {o : Observation}
    (hd : r.eventDrafts = quiet ++ observationDraft o :: rest) (h : NoObservation rest) :
    latestObservation v'.events = .ok (some o) := by
  have hfilter : (numberEvents r.task.id now v.record.task.sequence r.eventDrafts).filter
      (·.eventType = .observationRecorded) =
      (numberEvents r.task.id now v.record.task.sequence quiet).filter (·.eventType = .observationRecorded) ++
        [⟨r.task.id, v.record.task.sequence + quiet.length + 1, .observationRecorded, now, o.modelDump⟩] := by
    rw [hd, numberEvents_append, List.filter_append]
    simp [numberEvents, observationDraft, observations_numberEvents h]
  simp [latestObservation, ha.events, List.filter_append, hfilter]

/-! ## Checkpoints -/

/-- A checkpoint stored for the task, whose tick is the one of its state. -/
structure StoredCheckpoint (id : UUID) (n : Nat) (cp : SimulationCheckpoint) : Prop where
  owner : cp.metadata.taskId = id
  sequence : cp.metadata.runtimeSequence ≤ n
  adapterSchema : cp.metadata.adapterSchemaVersion = 1
  tick : stateTick cp.state = some (cp.metadata.simulationTick : Int)

theorem disagrees_stateTick {state : Dict} {n : Nat} (h : stateTick state = some (n : Int)) :
    disagrees (state.get "tick") n = false := by
  unfold stateTick at h
  cases hv : state.get "tick" with
  | none => rfl
  | some v =>
    rw [hv] at h
    cases v <;> simp_all [JsonValue.int?, disagrees]

theorem StoredCheckpoint.of_build {n m : Nat} {sn : AdapterSnapshot} {cp : SimulationCheckpoint}
    (h : buildCheckpoint id n now sn = .ok cp) (hm : n ≤ m) : StoredCheckpoint id m cp := by
  obtain ⟨hs, ho, hn, -, ha, -, -, -, -, ht⟩ := buildCheckpoint_ok h
  exact ⟨ho, hn ▸ hm, ha, by rw [hs]; exact ht⟩

/-- A snapshot that agrees with an observation makes a checkpoint that fits it. -/
theorem Agrees.coherent {n : Nat} {o : Observation} {sn : AdapterSnapshot} {cp : SimulationCheckpoint}
    (h : Agrees o sn) (hb : buildCheckpoint id n now sn = .ok cp) : Coherent cp o := by
  obtain ⟨hs, -, -, -, ha, hv, -, -, hq, ht⟩ := buildCheckpoint_ok hb
  have htick : (o.tick : Int) = cp.metadata.simulationTick := Option.some.inj (h.tick.symm.trans ht)
  exact
    { adapterSchema := ha
      schema := by rw [hs, hv]; exact h.schema
      stateTick := disagrees_stateTick (by rw [hs]; exact ht)
      state := by rw [hs]; exact h.state
      tick := by exact_mod_cast htick
      sequence := by rw [hq]; exact h.sequence }

/-- A status that needs a checkpoint whatever was observed. -/
def NeedsCheckpoint (status : TaskStatus) : Prop := requiresCheckpoint status none = true

/-- The checkpoint of a task and its latest observation. -/
structure CheckpointOk (c : Conditions) (id : UUID) (v : TaskView) : Prop where
  latest : ∃ o, latestObservation v.events = .ok o ∧ o.isSome = v.checkpoint.isSome ∧
    (c.faithful → ∀ ob ∈ o, Readable ob ∧ ∀ cp ∈ v.checkpoint, Coherent cp ob)
  started : NeedsCheckpoint v.record.task.status → v.checkpoint.isSome = true
  stored : ∀ cp ∈ v.checkpoint, StoredCheckpoint id v.record.task.sequence cp

theorem latestAfter_none {events : List RuntimeEvent} {o : Option Observation} (h : latestObservation events = .ok o) :
    latestAfter events none = o := by
  simp [latestAfter, h, Except.toOption]

namespace CheckpointOk

theorem same (h : CheckpointOk c id v) (ha : After v now r v') (hq : NoObservation r.eventDrafts)
    (hs : r.adapterSnapshot = none) (hn : v.record.task.sequence ≤ v'.record.task.sequence)
    (hneeds : NeedsCheckpoint r.task.status → NeedsCheckpoint v.record.task.status) : CheckpointOk c id v' := by
  have hcp : v'.checkpoint = v.checkpoint := by simpa [hs] using ha.checkpoint
  refine ⟨?_, fun hst => ?_, fun cp hmem => ?_⟩
  · rw [ha.latest_same hq, hcp]
    exact h.latest
  · rw [hcp]
    exact h.started (hneeds (by rwa [ha.status] at hst))
  · rw [hcp] at hmem
    have hst := h.stored cp hmem
    exact ⟨hst.owner, hst.sequence.trans hn, hst.adapterSchema, hst.tick⟩

/-- A snapshot of the state observed last. -/
theorem live (h : CheckpointOk c id v) (ha : After v now r v') (hid : r.task.id = id)
    (hq : NoObservation r.eventDrafts) {sn : AdapterSnapshot} (hs : r.adapterSnapshot = some sn)
    (hlive : LiveSnapshot c.faithful v.events none sn) (hlatest : (latestAfter v.events none).isSome = true)
    (hn : r.lastSequence = v'.record.task.sequence) : CheckpointOk c id v' := by
  obtain ⟨cp, hcp, hb⟩ : ∃ cp, v'.checkpoint = some cp ∧ buildCheckpoint r.task.id r.lastSequence now sn = .ok cp := by
    simpa [hs] using ha.checkpoint
  obtain ⟨o, ho, hsome, hcoh⟩ := h.latest
  rw [latestAfter_none ho] at hlatest
  refine ⟨⟨o, by rw [ha.latest_same hq, ho], by rw [hcp, hlatest]; rfl, fun hf ob hob => ?_⟩, fun _ => by simp [hcp], ?_⟩
  · refine ⟨(hcoh hf ob hob).1, fun cp' hcp' => ?_⟩
    obtain ⟨o', ho', hag⟩ := hlive hf
    rw [latestAfter_none ho, hob] at ho'
    rw [hcp, Option.mem_some_iff] at hcp'
    rw [← hcp', Option.some.inj ho']
    exact hag.coherent hb
  · intro cp' hcp'
    rw [hcp, Option.mem_some_iff] at hcp'
    subst hcp'
    exact .of_build (hid ▸ hb) (le_of_eq hn)

/-- An observation with the snapshot of its state. -/
theorem observed (ha : After v now r v') (hid : r.task.id = id) (quiet rest : List EventDraft) {o : Observation}
    (hd : r.eventDrafts = quiet ++ observationDraft o :: rest) (hq : NoObservation rest) {sn : AdapterSnapshot}
    (hs : r.adapterSnapshot = some sn) (hag : c.faithful → Readable o ∧ Agrees o sn)
    (hn : r.lastSequence = v'.record.task.sequence) : CheckpointOk c id v' := by
  obtain ⟨cp, hcp, hb⟩ : ∃ cp, v'.checkpoint = some cp ∧ buildCheckpoint r.task.id r.lastSequence now sn = .ok cp := by
    simpa [hs] using ha.checkpoint
  refine ⟨⟨some o, ha.latest_observed _ _ hd hq, by simp [hcp], fun hf ob hob => ?_⟩, fun _ => by simp [hcp], ?_⟩
  · rw [Option.mem_some_iff] at hob
    subst hob
    refine ⟨(hag hf).1, fun cp' hcp' => ?_⟩
    rw [hcp, Option.mem_some_iff] at hcp'
    exact hcp' ▸ (hag hf).2.coherent hb
  · intro cp' hcp'
    rw [hcp, Option.mem_some_iff] at hcp'
    subst hcp'
    exact .of_build (hid ▸ hb) (le_of_eq hn)

/-- An observation of the state that was observed before, without a snapshot. -/
theorem unchanged (h : CheckpointOk c id v) (ha : After v now r v') {quiet rest : List EventDraft}
    {before o : Observation} (hd : r.eventDrafts = quiet ++ observationDraft o :: rest) (hq : NoObservation rest)
    (hs : r.adapterSnapshot = none) (hb : latestObservation v.events = .ok (some before))
    (hstate : Dict.pyEq before.state o.state = true) (htick : before.tick = o.tick)
    (hseq : c.faithful → before.sequence ≤ o.sequence) (hread : c.faithful → Readable o)
    (hn : v.record.task.sequence ≤ v'.record.task.sequence) : CheckpointOk c id v' := by
  have hcp : v'.checkpoint = v.checkpoint := by simpa [hs] using ha.checkpoint
  obtain ⟨o', ho', hsome, hcoh⟩ := h.latest
  rw [hb, Except.ok.injEq] at ho'
  subst ho'
  refine ⟨⟨some o, ha.latest_observed _ _ hd hq, by rw [hcp]; simpa using hsome, fun hf ob hob => ?_⟩, fun _ => ?_, ?_⟩
  · rw [Option.mem_some_iff] at hob
    subst hob
    refine ⟨hread hf, fun cp hmem => ?_⟩
    rw [hcp] at hmem
    have hc := (hcoh hf before rfl).2 cp hmem
    have hsym : Dict.pyEq o.state before.state = true := by
      rw [Dict.pyEq, JsonValue.pyEq_comm]; exact hstate
    exact
      { adapterSchema := hc.adapterSchema
        schema := hc.schema
        stateTick := hc.stateTick
        state := Dict.pyEq_trans hsym hc.state
        tick := htick ▸ hc.tick
        sequence := hc.sequence.trans (hseq hf) }
  · rw [hcp]
    simpa using hsome.symm
  · intro cp hmem
    rw [hcp] at hmem
    have hst := h.stored cp hmem
    exact ⟨hst.owner, hst.sequence.trans hn, hst.adapterSchema, hst.tick⟩

/-- The checkpoint copied for a terminal task. -/
theorem copied (h : CheckpointOk c id v) (ha : After v now r v') (hid : r.task.id = id)
    (hq : NoObservation r.eventDrafts) (hs : r.adapterSnapshot = copyCheckpointForTerminal v.checkpoint)
    (hn : r.lastSequence = v'.record.task.sequence) (hneeds : NeedsCheckpoint r.task.status →
      NeedsCheckpoint v.record.task.status) : CheckpointOk c id v' := by
  cases hcp : v.checkpoint with
  | none =>
    rw [hcp] at hs
    have hcp' : v'.checkpoint = v.checkpoint := by
      have := ha.checkpoint
      rw [hs] at this
      exact this
    refine ⟨?_, fun hst => ?_, ?_⟩
    · rw [ha.latest_same hq, hcp']; exact h.latest
    · rw [hcp']; exact h.started (hneeds (by rwa [ha.status] at hst))
    · rw [hcp', hcp]; simp
  | some cp =>
    rw [hcp] at hs
    obtain ⟨cp', hcp', hb⟩ : ∃ cp', v'.checkpoint = some cp' ∧ buildCheckpoint r.task.id r.lastSequence now _ = .ok cp' := by
      have := ha.checkpoint
      rw [hs] at this
      exact this
    obtain ⟨o, ho, hsome, hcoh⟩ := h.latest
    obtain ⟨hbs, -, -, -, hba, hbv, -, -, hbq, hbt⟩ := buildCheckpoint_ok hb
    refine ⟨⟨o, by rw [ha.latest_same hq, ho], by rw [hcp', hsome, hcp]; rfl, fun hf ob hob => ?_⟩, fun _ => by simp [hcp'], ?_⟩
    · refine ⟨(hcoh hf ob hob).1, fun x hx => ?_⟩
      rw [hcp', Option.mem_some_iff] at hx
      subst hx
      have hc := (hcoh hf ob hob).2 cp hcp
      have htick : (cp.metadata.simulationTick : Int) = cp'.metadata.simulationTick :=
        Option.some.inj ((h.stored cp hcp).tick.symm.trans hbt)
      exact
        { adapterSchema := hba
          schema := by rw [hbs, hbv]; exact hc.schema
          stateTick := disagrees_stateTick (by rw [hbs]; exact hbt)
          state := by rw [hbs]; exact hc.state
          tick := by rw [hc.tick]; exact_mod_cast htick
          sequence := by rw [hbq]; exact hc.sequence }
    · intro x hx
      rw [hcp', Option.mem_some_iff] at hx
      subst hx
      exact .of_build (hid ▸ hb) (le_of_eq hn)

end CheckpointOk

/-- A running or waiting task needs a checkpoint. -/
theorem needsCheckpoint_of_live {status : TaskStatus} (hl : status.isTerminal = false) (hp : status ≠ .pending) :
    NeedsCheckpoint status := by
  cases status <;> simp_all [NeedsCheckpoint, requiresCheckpoint, TaskStatus.isTerminal]

theorem CheckpointOk.step (h : CheckpointOk c id v) (hj : JournalOk id v) (hr : Allowed c v r) (ha : After v now r v') :
    CheckpointOk c id v' := by
  have hid : r.task.id = id := hr.task_eq.1.trans hj.task
  have hseq := hr.sequence ha
  have hle : v.record.task.sequence ≤ v'.record.task.sequence := by omega
  have hlast : r.lastSequence = v'.record.task.sequence := by
    rw [hseq]; simp only [IterationRequest.lastSequence, hr.current]
  -- a running task has been observed
  have hseen : v.record.task.status = .running → (latestAfter v.events none).isSome = true := by
    intro hs
    obtain ⟨o, ho, hsome, -⟩ := h.latest
    rw [latestAfter_none ho, hsome]
    exact h.started (by rw [hs]; rfl)
  cases hr with
  | ordinary quiet observed last h' =>
    have hneeds : NeedsCheckpoint r.task.status → r.adapterSnapshot = none → NeedsCheckpoint v.record.task.status := by
      intro hn hs
      by_cases hp : v.record.task.status = .pending
      · rcases h'.opened hp with hf | hobs
        · rw [hf] at hn; cases hn
        · have := h'.recorded hobs
          rw [hs] at this
          cases this
      · exact needsCheckpoint_of_live h'.live hp
    cases hobs : observed with
    | none =>
      have hq : NoObservation r.eventDrafts := by
        rw [h'.drafts, hobs]
        simpa using h'.isQuiet.noObservation.append h'.ends.noObservation
      cases hs : r.adapterSnapshot with
      | none => exact h.same ha hq hs hle fun hn => hneeds hn hs
      | some sn =>
        exact h.live ha hid hq hs (hobs ▸ h'.snapshot sn hs) (by simpa [hobs, hs] using h'.latest) hlast
    | some o =>
      obtain ⟨sn, hs⟩ := Option.isSome_iff_exists.1 (h'.recorded (by simp [hobs]))
      refine .observed ha hid quiet last (o := o) ?_ h'.ends.noObservation hs (fun hf => ?_) hlast
      · rw [h'.drafts, hobs]; simp
      · obtain ⟨o', ho', hag⟩ := h'.snapshot sn hs hf
        rw [hobs] at ho'
        rw [← Option.some.inj ho'] at hag
        exact ⟨h'.readable hf o hobs, hag⟩
  | prepare _ _ _ _ _ h' =>
    refine h.same ha ?_ h'.snapshot hle (by rw [h'.task]; exact fun hn => hn)
    rw [h'.drafts]
    exact h'.isQuiet.noObservation.append (by simp [NoObservation, preparedDraft])
  | start _ h' _ _ drafts =>
    exact h.same ha (by rw [drafts]; simp [NoObservation, attemptDraft]) h'.snapshot hle (by rw [h'.task]; exact fun hn => hn)
  | retire _ h' _ drafts =>
    exact h.same ha (by rw [drafts]; simp [NoObservation, Engine.retiredDraft]) h'.snapshot hle
      (by rw [h'.task]; exact fun hn => hn)
  | requireReconciliation _ h' _ _ drafts =>
    exact h.same ha (by rw [drafts]; simp [NoObservation, Engine.reconciliationDraft]) h'.snapshot hle
      (by rw [h'.task]; exact fun hn => hn)
  | confirm a result observed verification terminal h' =>
    have hrest : NoObservation ([⟨.verificationRecorded, verification.modelDump⟩, confirmedDraft a.actionId result verification,
        attemptDraft .actionCheckpointCommitted a.actionId] ++ (terminal.map fun t => terminalDraft t.1 t.2).toList) := by
      refine NoObservation.append (by simp [NoObservation, confirmedDraft, attemptDraft]) ?_
      intro d hd
      simp only [Option.mem_toList, Option.map_eq_some_iff] at hd
      obtain ⟨t, -, rfl⟩ := hd
      unfold terminalDraft
      split <;> simp
    have hd : r.eventDrafts = [⟨.actionExecuted, result.modelDump⟩] ++ observationDraft observed ::
        ([⟨.verificationRecorded, verification.modelDump⟩, confirmedDraft a.actionId result verification,
          attemptDraft .actionCheckpointCommitted a.actionId] ++ (terminal.map fun t => terminalDraft t.1 t.2).toList) := by
      rw [h'.drafts]; rfl
    rcases h'.snapshot with ⟨sn, hs, hlive⟩ | ⟨hs, before, hb, hstate, htick, hbseq⟩
    · refine .observed ha hid _ _ hd hrest hs (fun hf => ?_) hlast
      obtain ⟨o', ho', hag⟩ := hlive hf
      rw [← Option.some.inj ho'] at hag
      exact ⟨h'.readable hf, hag⟩
    · exact h.unchanged ha hd hrest hs hb hstate htick hbseq h'.readable hle
  | failAttempt _ h' =>
    obtain ⟨sn, hs, hlive⟩ := h'.snapshot
    obtain ⟨reason, payload, hd⟩ := h'.drafts
    exact h.live ha hid (by rw [hd]; simp [NoObservation]) hs hlive (hseen h'.running) hlast
  | acceptCurrent a report resolution result previous observed sn h' task cost drafts snapshot state tick presentable =>
    refine .observed ha hid [] [_] drafts (by simp [NoObservation, reconciledDraft]) snapshot
      (fun hf => ?_) hlast
    have hp := presentable hf
    exact ⟨⟨by rw [state]; exact tick, by rw [state]; exact hp.readable⟩,
      ⟨by simp [state], tick, hp.schema, hp.version, le_refl _⟩⟩
  | dismiss _ _ _ h' task drafts snapshot =>
    exact h.same ha (by rw [drafts]; simp [NoObservation, reconciledDraft]) snapshot hle (by rw [task]; exact fun hn => hn)
  | abandon _ _ _ h' status task drafts snapshot =>
    refine h.copied ha hid (by rw [drafts]; simp [NoObservation, reconciledDraft, reasonDraft]) snapshot hlast fun _ => ?_
    exact needsCheckpoint_of_live (TaskStatus.canBecome_terminal status) (by rintro he; rw [he] at status; cases status)
  | approve _ h' task _ drafts snapshot =>
    exact h.same ha (by rw [drafts]; simp [NoObservation]) snapshot hle (by rw [task]; exact fun hn => hn)
  | deny _ h' task _ drafts snapshot =>
    exact h.copied ha hid (by rw [drafts]; simp [NoObservation, reasonDraft]) snapshot hlast fun _ => by rw [h'.waiting]; rfl
  | cancel _ live task _ _ _ _ drafts snapshot =>
    refine h.copied ha hid (by rw [drafts]; simp [NoObservation, reasonDraft]) snapshot hlast fun hn => ?_
    rw [task] at hn
    cases hn

/-- **The checkpoint checks of the reconstructor pass**, with faithful adapters. -/
theorem CheckpointOk.validate (h : CheckpointOk c id v) (hj : JournalOk id v) (hf : c.faithful) :
    ∃ o, latestObservation v.events = .ok o ∧ validateCheckpoint v.record v.checkpoint o = .ok () := by
  obtain ⟨o, ho, hsome, hcoh⟩ := h.latest
  refine ⟨o, ho, validateCheckpoint_eq_ok.2 ⟨fun hr he => ?_, fun cp hcp => ?_⟩⟩
  · rw [he] at hsome
    have hnone : o = none := by simpa using hsome
    subst hnone
    have := h.started (by
      unfold NeedsCheckpoint
      exact hr)
    rw [he] at this
    cases this
  · have hst := h.stored cp hcp
    refine ⟨hst.owner.trans hj.task.symm, hst.sequence, ?_⟩
    rw [show v.checkpoint = some cp from hcp] at hsome
    obtain ⟨ob, rfl⟩ := Option.isSome_iff_exists.1 (show o.isSome = true from hsome)
    exact ⟨ob, rfl, (hcoh hf ob rfl).2 cp hcp⟩

end SimPilot
