import SimPilot.Runtime.AttemptJournal
import Mathlib.Data.List.Induction
/-!
# What a replay keeps

`action_attempts` over a journal that grows: the events of an attempt are behind its
status, and a settled attempt stays as it is.
-/

namespace SimPilot

variable {as as' : List ActionAttempt} {events : List RuntimeEvent} {e : RuntimeEvent}

theorem ActionAttemptStatus.not_final_of_canBecome {s t : ActionAttemptStatus} (h : s.canBecome t = true) :
    s.isFinal = false ∧ t ≠ .prepared := by
  cases s <;> cases t <;> simp_all [canBecome, isFinal]

/-- How one event changes the attempts. -/
inductive Replayed (as : List ActionAttempt) (e : RuntimeEvent) : List ActionAttempt → Prop
  | other (h : e.eventType.attemptStatus = none) : Replayed as e as
  | prepared (a : ActionAttempt) (type : e.eventType.attemptStatus = some .prepared)
      (id : attemptId e.payload = .ok a.actionId) (status : a.status = .prepared)
      (fresh : ∀ b ∈ as, b.actionId ≠ a.actionId) : Replayed as e (as ++ [a])
  | moved (a a' : ActionAttempt) (mem : a ∈ as) (type : e.eventType.attemptStatus = some a'.status)
      (id : attemptId e.payload = .ok a.actionId) (same : a'.actionId = a.actionId)
      (moves : a.status.canBecome a'.status = true) :
      Replayed as e (as.map fun b => if b.actionId = a.actionId then a' else b)

theorem preparedAttempt_id {id : UUID} {a : ActionAttempt} (h : preparedAttempt e id = some a) :
    a.actionId = id ∧ a.status = .prepared := by
  unfold preparedAttempt at h
  simp only [bind, Option.bind_eq_some_iff] at h
  obtain ⟨_, -, _, -, _, -, _, -, _, -, _, -, _, -, _, -, h⟩ := h
  split at h
  · simp only [Option.bind_eq_some_iff, pure, Option.some.injEq] at h
    obtain ⟨_, -, _, -, rfl⟩ := h
    exact ⟨rfl, rfl⟩
  · cases h

theorem attemptStep_cases (h : attemptStep as e = .ok as') : Replayed as e as' := by
  unfold attemptStep at h
  split at h
  · rename_i hnone
    cases h
    exact .other hnone
  rename_i status hstatus
  cases hid : attemptId e.payload with
  | error err => rw [hid] at h; cases h
  | ok id =>
    simp only [hid, bind, Except.bind] at h
    split at h
    · rename_i hp
      subst hp
      split at h
      · cases h
      rename_i hnew
      split at h
      · cases h
      rename_i a ha
      cases h
      obtain ⟨hida, hs⟩ := preparedAttempt_id ha
      refine .prepared a hstatus (by rw [hid, hida]) hs fun b hb heq => hnew ?_
      rw [List.any_eq_true]
      exact ⟨b, hb, by simpa [hida] using heq⟩
    · split at h
      · cases h
      rename_i a hfind
      split at h
      swap
      · cases h
      rename_i hmoves
      cases hcl : nextClassification e.payload a with
      | error err => rw [hcl] at h; cases h
      | ok cl =>
        rw [hcl] at h
        cases h
        have hida : a.actionId = id := by simpa using List.find?_some hfind
        rw [← hida]
        exact .moved a (a.advance e status cl) (List.mem_of_find?_eq_some hfind) hstatus (by rw [hid, hida]) rfl hmoves

/-- A replay takes its last event last. -/
theorem actionAttempts_concat (h : actionAttempts (events ++ [e]) = .ok as') :
    ∃ as, actionAttempts events = .ok as ∧ Replayed as e as' := by
  rw [actionAttempts_append] at h
  cases has : actionAttempts events with
  | error err => rw [has] at h; cases h
  | ok as =>
    rw [has] at h
    refine ⟨as, rfl, attemptStep_cases ?_⟩
    cases hstep : attemptStep as e with
    | error err => simp [bind, Except.bind, List.foldlM, hstep] at h
    | ok as₁ => simpa [bind, Except.bind, List.foldlM, hstep, pure, Except.pure] using h

/-- No id is prepared twice. -/
theorem actionAttempts_nodup : ∀ {events : List RuntimeEvent} {as : List ActionAttempt},
    actionAttempts events = .ok as → (as.map (·.actionId)).Nodup := by
  intro events
  induction events using List.reverseRecOn with
  | nil =>
    intro as h
    cases h
    simp
  | append_singleton events e ih =>
    intro as' h
    obtain ⟨as, has, hstep⟩ := actionAttempts_concat h
    have hnodup := ih has
    cases hstep with
    | other => exact hnodup
    | prepared a type id status fresh =>
      rw [List.map_append, List.nodup_append]
      refine ⟨hnodup, by simp, ?_⟩
      rintro x hx y hy rfl
      obtain ⟨b, hb, rfl⟩ := List.mem_map.1 hx
      exact fresh b hb (by simpa using hy)
    | moved a a' mem type id same moves =>
      have hids : (as.map fun b => if b.actionId = a.actionId then a' else b).map (·.actionId) = as.map (·.actionId) := by
        rw [List.map_map]
        refine List.map_congr_left fun b _ => ?_
        simp only [Function.comp]
        split
        · rename_i heq
          rw [same, heq]
        · rfl
      rw [hids]
      exact hnodup

theorem RuntimeEventType.attemptStatus_prepared {t : RuntimeEventType} :
    t.attemptStatus = some .prepared ↔ t = .actionPrepared := by
  cases t <;> simp [RuntimeEventType.attemptStatus]

/-- A journal has an attempt for each preparation. -/
theorem actionAttempts_length : ∀ {events : List RuntimeEvent} {as : List ActionAttempt},
    actionAttempts events = .ok as → as.length = events.countP (·.eventType = .actionPrepared) := by
  intro events
  induction events using List.reverseRecOn with
  | nil =>
    intro as h
    cases h
    rfl
  | append_singleton events e ih =>
    intro as' h
    obtain ⟨as, has, hstep⟩ := actionAttempts_concat h
    have hlength := ih has
    rw [List.countP_append, ← hlength, List.countP_singleton]
    have hother : e.eventType.attemptStatus ≠ some .prepared → ¬ e.eventType = .actionPrepared := fun hne ht =>
      hne (RuntimeEventType.attemptStatus_prepared.2 ht)
    cases hstep with
    | other hnone => simp [hother (by simp [hnone])]
    | prepared a type => simp [RuntimeEventType.attemptStatus_prepared.1 type]
    | moved a a' mem type id same moves =>
      have hne := (ActionAttemptStatus.not_final_of_canBecome moves).2
      simp [hother (by simpa [type] using hne)]

/-- The status of an attempt is that of an event about it. -/
theorem event_of_attempt : ∀ {events : List RuntimeEvent} {as : List ActionAttempt}, actionAttempts events = .ok as →
    ∀ a ∈ as, ∃ e ∈ events, e.eventType.attemptStatus = some a.status ∧ attemptId e.payload = .ok a.actionId := by
  intro events
  induction events using List.reverseRecOn with
  | nil =>
    intro as h
    cases h
    simp
  | append_singleton events e ih =>
    intro as' h a ha
    obtain ⟨as, has, hstep⟩ := actionAttempts_concat h
    have hold : a ∈ as → ∃ e' ∈ events ++ [e], e'.eventType.attemptStatus = some a.status ∧
        attemptId e'.payload = .ok a.actionId := by
      intro hmem
      obtain ⟨e', he', h'⟩ := ih has a hmem
      exact ⟨e', by simp [he'], h'⟩
    cases hstep with
    | other => exact hold ha
    | prepared b type id status fresh =>
      rcases List.mem_append.1 ha with ha | ha
      · exact hold ha
      · rw [List.mem_singleton] at ha
        subst ha
        exact ⟨e, by simp, by rw [status]; exact type, id⟩
    | moved b b' mem type id same moves =>
      obtain ⟨x, hx, rfl⟩ := List.mem_map.1 ha
      by_cases heq : x.actionId = b.actionId
      · rw [if_pos heq]
        exact ⟨e, by simp, type, by rw [id, same]⟩
      · rw [if_neg heq] at hold ⊢
        exact hold hx

/-- An event about an attempt leaves that attempt, behind its preparation unless it was one. -/
theorem attempt_of_event : ∀ {events : List RuntimeEvent} {as : List ActionAttempt}, actionAttempts events = .ok as →
    ∀ e ∈ events, ∀ {status : ActionAttemptStatus} {id : UUID}, e.eventType.attemptStatus = some status →
      attemptId e.payload = .ok id → ∃ a ∈ as, a.actionId = id ∧ (status ≠ .prepared → a.status ≠ .prepared) := by
  intro events
  induction events using List.reverseRecOn with
  | nil =>
    intro as h e he
    cases he
  | append_singleton events e ih =>
    intro as' h e' he' status id ht hid
    obtain ⟨as, has, hstep⟩ := actionAttempts_concat h
    rcases List.mem_append.1 he' with he' | he'
    · obtain ⟨a, ha, hida, hs⟩ := ih has e' he' ht hid
      cases hstep with
      | other => exact ⟨a, ha, hida, hs⟩
      | prepared b _ _ _ _ => exact ⟨a, by simp [ha], hida, hs⟩
      | moved b b' mem type idb same moves =>
        by_cases heq : a.actionId = b.actionId
        · refine ⟨b', List.mem_map.2 ⟨b, mem, by rw [if_pos rfl]⟩, by rw [same, ← heq, hida], fun _ hp => ?_⟩
          -- nothing moves back to its preparation
          exact (ActionAttemptStatus.not_final_of_canBecome moves).2 hp
        · exact ⟨a, List.mem_map.2 ⟨a, ha, by rw [if_neg heq]⟩, hida, hs⟩
    · rw [List.mem_singleton] at he'
      subst he'
      cases hstep with
      | other hnone => rw [hnone] at ht; cases ht
      | prepared a type ida hs fresh =>
        rw [ida] at hid
        rw [type] at ht
        cases hid
        cases ht
        exact ⟨a, by simp, rfl, fun hne => absurd rfl hne⟩
      | moved a a' mem type ida same moves =>
        rw [ida] at hid
        rw [type] at ht
        cases hid
        cases ht
        exact ⟨a', List.mem_map.2 ⟨a, mem, by rw [if_pos rfl]⟩, same, fun hne => hne⟩

/-- A settled attempt stays as it is. -/
theorem attempt_stays : ∀ {more : List RuntimeEvent} {as as' : List ActionAttempt}, actionAttempts events = .ok as →
    actionAttempts (events ++ more) = .ok as' → ∀ a ∈ as, a.status.isFinal = true → a ∈ as' := by
  intro more
  induction more using List.reverseRecOn with
  | nil =>
    intro as as' h h' a ha _
    rw [List.append_nil, h] at h'
    cases h'
    exact ha
  | append_singleton more e ih =>
    intro as as' h h' a ha hf
    rw [← List.append_assoc] at h'
    obtain ⟨as₁, h₁, hstep⟩ := actionAttempts_concat h'
    have hmem := ih h h₁ a ha hf
    cases hstep with
    | other => exact hmem
    | prepared b _ _ _ _ => exact List.mem_append_left _ hmem
    | moved b b' mem type id same moves =>
      refine List.mem_map.2 ⟨a, hmem, if_neg fun heq => ?_⟩
      have hab : a = b := List.inj_on_of_nodup_map (actionAttempts_nodup h₁) hmem mem heq
      rw [hab, (ActionAttemptStatus.not_final_of_canBecome moves).1] at hf
      cases hf

end SimPilot
