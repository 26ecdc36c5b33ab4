import SimPilot.Runtime.WalkCalls
import SimPilot.Runtime.Replay
/-!
# The history of a run

Every event of a history was added by one change of a reached state (`Reach.before`), so
what is said of it is said of that state. The journal of the task is the events of its
commits, in the order of the history.
-/

namespace SimPilot
open Effect

variable {c : Conditions} {id : UUID} {s : System} {v : TaskView}

/-- What a change of a reached state keeps holds of every reached state. -/
theorem Reach.induct {I : System → Prop} (h0 : I {})
    (hstep : ∀ p s s', Reach c id s → I s → Change c id p s s' → I s') (h : Reach c id s) : I s := by
  have hboth : Reach c id s ∧ I s := h.preserves (I := fun s => Reach c id s ∧ I s)
    (fun p s s' hs hm => ⟨hs.1.move hm, hstep p s s' hs.1 hs.2 (hs.1.system.change hm)⟩) ⟨.refl, h0⟩
  exact hboth.2

/-- An event was added to the history of a reached state. -/
def Added (c : Conditions) (id : UUID) (pre : List TraceEvent) (e : TraceEvent) : Prop :=
  ∃ p s₀ s₁, Reach c id s₀ ∧ Change c id p s₀ s₁ ∧ s₀.trace = pre ∧ s₁.trace = pre ++ [e]

/-- The state an event of the history was added to. -/
theorem Reach.before (h : Reach c id s) {pre post : List TraceEvent} {e : TraceEvent}
    (ht : s.trace = pre ++ e :: post) : Added c id pre e := by
  have hall : ∀ pre post e, s.trace = pre ++ e :: post → Added c id pre e := by
    refine Reach.induct (I := fun s => ∀ pre post e, s.trace = pre ++ e :: post → Added c id pre e) ?_ ?_ h
    · intro pre post e ht
      simp at ht
    · intro p s s' hs ih hc pre post e ht
      -- the event is the last one, or an earlier one
      have hadd : ∀ e', s'.trace = s.trace ++ [e'] → Added c id pre e := by
        intro e' he'
        rcases List.eq_nil_or_concat post with rfl | ⟨post', last, rfl⟩
        · rw [ht] at he'
          obtain ⟨hpre, -⟩ := List.append_inj' he' rfl
          exact ⟨p, s, s', hs, hc, hpre.symm, ht⟩
        · rw [List.concat_eq_append] at ht
          rw [ht, ← List.cons_append, ← List.append_assoc] at he'
          obtain ⟨hpre, -⟩ := List.append_inj' he' rfl
          exact ih pre post' e hpre.symm
      cases hc with
      | silent hs' => exact ih pre post e (hs' ▸ ht)
      | created _ _ _ _ _ _ _ htrace => exact hadd _ htrace
      | committed _ _ _ _ _ _ _ _ _ _ htrace => exact hadd _ htrace
      | executed _ _ _ _ hs' => exact hadd _ (by rw [hs'])
      | returned _ _ hs' => exact hadd _ (by rw [hs'])
  exact hall pre post e ht

/-- What a commit of the history was made on: the records of a reached state. -/
theorem Added.committed {pre : List TraceEvent} {p : Process} {r : IterationRequest}
    (h : Added c id pre (.committed p v r)) : ∃ s₀, Reach c id s₀ ∧ viewOf id s₀.store = some v ∧ s₀.trace = pre ∧
      Allowed c v r := by
  obtain ⟨q, s₀, s₁, hs, hc, rfl, ht⟩ := h
  have hlast : ∀ e, s₁.trace = s₀.trace ++ [e] → e = .committed p v r := by
    intro e he
    rw [he] at ht
    simpa using ht
  cases hc with
  | silent h => rw [h] at ht; simp at ht
  | created _ _ _ _ _ _ _ htrace => cases hlast _ htrace
  | committed w w' now r' before allowed meets commit after ok htrace =>
    cases hlast _ htrace
    exact ⟨s₀, hs, before, rfl, allowed⟩
  | executed _ _ _ _ h => cases hlast _ (by rw [h])
  | returned _ _ h => cases hlast _ (by rw [h])

/-- Where an execution of the history was legal. -/
theorem Added.executed {pre : List TraceEvent} {p : Process} {actionId : UUID} {authority : Option UUID} {action : Action}
    (h : Added c id pre (.executed p actionId authority action)) : ∃ s₀, Reach c id s₀ ∧ s₀.trace = pre ∧
      Legal c id p (.execute actionId authority action) s₀ := by
  obtain ⟨q, s₀, s₁, hs, hc, rfl, ht⟩ := h
  have hlast : ∀ e, s₁.trace = s₀.trace ++ [e] → e = .executed p actionId authority action := by
    intro e he
    rw [he] at ht
    simpa using ht
  cases hc with
  | silent h => rw [h] at ht; simp at ht
  | created _ _ _ _ _ _ _ htrace => cases hlast _ htrace
  | committed _ _ _ _ _ _ _ _ _ _ htrace => cases hlast _ htrace
  | executed id' auth' action' legal h =>
    cases hlast _ (by rw [h])
    exact ⟨s₀, hs, rfl, legal⟩
  | returned _ _ h => cases hlast _ (by rw [h])

/-- Where a call of `run` ended was legal. -/
theorem Added.returned {pre : List TraceEvent} {p : Process} {outcome : Except PyError Unit}
    (h : Added c id pre (.returned p outcome)) : ∃ s₀, Reach c id s₀ ∧ s₀.trace = pre ∧ Legal c id p (.returned outcome) s₀ := by
  obtain ⟨q, s₀, s₁, hs, hc, rfl, ht⟩ := h
  have hlast : ∀ e, s₁.trace = s₀.trace ++ [e] → e = .returned p outcome := by
    intro e he
    rw [he] at ht
    simpa using ht
  cases hc with
  | silent h => rw [h] at ht; simp at ht
  | created _ _ _ _ _ _ _ htrace => cases hlast _ htrace
  | committed _ _ _ _ _ _ _ _ _ _ htrace => cases hlast _ htrace
  | executed _ _ _ _ h => cases hlast _ (by rw [h])
  | returned outcome legal h =>
    cases hlast _ (by rw [h])
    exact ⟨s₀, hs, rfl, legal⟩

/-! ## The journal -/

/-- The events an event of the history adds to the journal. -/
def TraceEvent.drafts : TraceEvent → List EventDraft
  | created _ _ => [⟨.taskCreated, []⟩]
  | committed _ _ r => r.eventDrafts
  | executed _ _ _ _ | returned _ _ => []

/-- The journal of a history. -/
def journal (trace : List TraceEvent) : List EventDraft := trace.flatMap (·.drafts)

theorem journal_append (pre post : List TraceEvent) : journal (pre ++ post) = journal pre ++ journal post := by
  simp [journal]

@[simp] theorem journal_singleton (e : TraceEvent) : journal [e] = e.drafts := by simp [journal]

theorem mem_journal {trace : List TraceEvent} {d : EventDraft} :
    d ∈ journal trace ↔ ∃ e ∈ trace, d ∈ e.drafts := by
  simp [journal]

/-- **The stored journal is that of the history.** -/
theorem Reach.journal (h : Reach c id s) : (viewOf id s.store = none → SimPilot.journal s.trace = []) ∧
    ∀ v, viewOf id s.store = some v →
      v.events.map (fun e => (⟨e.eventType, e.payload⟩ : EventDraft)) = SimPilot.journal s.trace := by
  refine Reach.induct (I := fun s => (viewOf id s.store = none → SimPilot.journal s.trace = []) ∧
    ∀ v, viewOf id s.store = some v →
      v.events.map (fun e => (⟨e.eventType, e.payload⟩ : EventDraft)) = SimPilot.journal s.trace) ?_ ?_ h
  · refine ⟨fun _ => rfl, ?_⟩
    rintro v ⟨⟩
  · intro p s s' _ ih hc
    obtain ⟨hnone, hsome⟩ := ih
    cases hc with
    | silent hs => exact hs ▸ ⟨hnone, hsome⟩
    | created task hid hs hq before after ok trace =>
      constructor
      · intro hn
        rw [after] at hn
        cases hn
      · intro v hv
        rw [after] at hv
        cases hv
        rw [trace, journal_append, hnone before]
        rfl
    | committed w w' now r before allowed meets commit after ok trace =>
      constructor
      · intro hn
        rw [after] at hn
        cases hn
      · intro v hv
        rw [after] at hv
        cases hv
        rw [trace, journal_append, journal_singleton, commit.events, List.map_append, hsome w before, drafts_numberEvents]
        rfl
    | executed _ _ _ _ hs =>
      rw [hs]
      simpa [journal_append, TraceEvent.drafts] using ⟨hnone, hsome⟩
    | returned _ _ hs =>
      rw [hs]
      simpa [journal_append, TraceEvent.drafts] using ⟨hnone, hsome⟩

/-- A draft of the history is an event of the journal. -/
theorem Reach.event_of_draft (h : Reach c id s) (hv : viewOf id s.store = some v) {d : EventDraft}
    (hd : d ∈ SimPilot.journal s.trace) : ∃ e ∈ v.events, e.eventType = d.eventType ∧ e.payload = d.payload := by
  rw [← h.journal.2 v hv] at hd
  obtain ⟨e, he, rfl⟩ := List.mem_map.1 hd
  exact ⟨e, he, rfl, rfl⟩

theorem Reach.draft_of_event (h : Reach c id s) (hv : viewOf id s.store = some v) {e : RuntimeEvent}
    (he : e ∈ v.events) : (⟨e.eventType, e.payload⟩ : EventDraft) ∈ SimPilot.journal s.trace := by
  rw [← h.journal.2 v hv]
  exact List.mem_map_of_mem he

end SimPilot
