import Mathlib.Data.List.Dedup
import SimPilot.Data.Suffix
import SimPilot.Runtime.DecisionContext
import SimPilot.Runtime.Policy
/-!
# What a decision provider is shown

Two places where the projected context says something else than what it projects: a limit of
no events is the slice `[-0:]`, which is all of them (`recentEvents_exact_iff`); and the allowed
actions are the union of what the constraints name, where the policy asks for each of them
(`restrictions_enforced_iff`).

| here | there |
|---|---|
| `emptyContext` | `_context` without events, decision_context.py:175 |
| `relevantSummaries` | `relevant`, with their summaries, decision_context.py:133-142 |
| `shownRejected` | what `forbidden_actions` and `allowed_actions` say of a type |
-/

namespace SimPilot
namespace DecisionContextProjector

open Data

/-! ## The recent events -/

section
variable (task : Task) (observation : Observation) (availableActions : List ActionDefinition)
  (events : List RuntimeEvent) (runtimeState : RuntimeSafeguardState) (progress : RuntimeEvaluation)

/-- The context of an iteration with no recent events. -/
def emptyContext : DecisionContext :=
  let authority := task.specification.authority
  { taskId := task.id
    specification := task.specification
    observation
    previousObservation := previousObservation events observation.sequence
    availableActions
    recentEvents := []
    accumulatedSpend := task.totalSpend
    remainingAuthority :=
      { maximumSingleSpend := authority.maximumSingleSpend
        maximumTotalSpend := authority.maximumTotalSpend
        remainingTotalSpend := authority.maximumTotalSpend.map fun limit => max 0 (limit - task.totalSpend)
        approvalActions := authority.approvalActions
        forbiddenActions := authority.forbiddenActions }
    pendingRestrictions := restrictions task.specification (events.filter (·.eventType.isRelevant))
    previousExecution := previousExecution events
    safeguards :=
      { iterations := runtimeState.iterations
        consecutiveFailures := runtimeState.consecutiveFailures
        repeatedActionCount := runtimeState.repeatedActionCount
        repeatedStateCount := runtimeState.repeatedStateCount
        rejectedActionCount := runtimeState.rejectedActionCount
        lastActionFingerprint := runtimeState.lastActionFingerprint }
    progress }

end

/-- The summaries of the relevant events, oldest first. -/
def relevantSummaries (events : List RuntimeEvent) : List DecisionEventSummary :=
  (events.filter (·.eventType.isRelevant)).map summarize

/-- A context with these recent events is small enough. -/
def Fits (size : DecisionContext → Nat) (limit : Nat) (context : DecisionContext) (summaries : List DecisionEventSummary) :
    Prop := size { context with recentEvents := summaries } ≤ limit

instance (size : DecisionContext → Nat) (limit : Nat) (context : DecisionContext) :
    DecidablePred (Fits size limit context) := fun _ => inferInstanceAs (Decidable (_ ≤ _))

theorem shrink_eq {size : DecisionContext → Nat} {limit : Nat} {context : DecisionContext} :
    ∀ {summaries : List DecisionEventSummary},
      shrink size limit context summaries = { context with recentEvents := dropUntil (Fits size limit context) summaries }
  | [] => rfl
  | summary :: summaries => by
    unfold shrink dropUntil
    by_cases hfits : Fits size limit context (summary :: summaries)
    · rw [if_pos hfits, if_neg (not_lt.mpr hfits)]
    · rw [if_neg hfits, if_pos (not_le.mp hfits), shrink_eq]

theorem lastN_map {α β : Type} {f : α → β} {n : Nat} {l : List α} : (lastN n l).map f = lastN n (l.map f) := by
  unfold lastN
  split
  · rfl
  · rw [List.map_drop, List.length_map]

section
variable {size : DecisionContext → Nat} {config : RuntimeConfiguration} {task : Task} {observation : Observation}
  {availableActions : List ActionDefinition} {events : List RuntimeEvent} {runtimeState : RuntimeSafeguardState}
  {progress : RuntimeEvaluation} {context : DecisionContext}

/-- The events that are left once the context is shrunk. -/
def recentEvents (size : DecisionContext → Nat) (config : RuntimeConfiguration) (context : DecisionContext)
    (events : List RuntimeEvent) : List DecisionEventSummary :=
  dropUntil (Fits size config.decisionContextMaxBytes context)
    (lastN config.decisionContextEventLimit (relevantSummaries events))

theorem project_eq :
    project size config task observation availableActions events runtimeState progress =
      let context := emptyContext task observation availableActions events runtimeState progress
      let projected := { context with recentEvents := recentEvents size config context events }
      if config.decisionContextMaxBytes < size projected then
        .error (.decisionProvider "DecisionContextTooLargeError"
          s!"decision context exceeds {config.decisionContextMaxBytes} bytes")
      else .ok projected := by
  unfold project
  dsimp only
  rw [shrink_eq, lastN_map]
  rfl

/-- The recent events are the longest suffix within both limits, and only a context that is too
large without any is refused. -/
structure ExactEvents (size : DecisionContext → Nat) (config : RuntimeConfiguration) (task : Task)
    (observation : Observation) (availableActions : List ActionDefinition) (events : List RuntimeEvent)
    (runtimeState : RuntimeSafeguardState) (progress : RuntimeEvaluation) : Prop where
  longest : ∀ context,
    project size config task observation availableActions events runtimeState progress = .ok context →
      LongestSuffix (Fits size config.decisionContextMaxBytes
          (emptyContext task observation availableActions events runtimeState progress))
        config.decisionContextEventLimit (relevantSummaries events) context.recentEvents
  refused : (∃ e, project size config task observation availableActions events runtimeState progress = .error e) ↔
    ¬ Fits size config.decisionContextMaxBytes
      (emptyContext task observation availableActions events runtimeState progress) []

/-- Events only make a context larger. -/
def Grows (size : DecisionContext → Nat) : Prop :=
  ∀ (context : DecisionContext) (summaries : List DecisionEventSummary), size { context with recentEvents := [] } ≤ size { context with recentEvents := summaries }

/-- Whatever the limits are, a context is refused where it is too large without events. -/
theorem project_error_iff (hsize : Grows size) :
    (∃ e, project size config task observation availableActions events runtimeState progress = .error e) ↔
      ¬ Fits size config.decisionContextMaxBytes
        (emptyContext task observation availableActions events runtimeState progress) [] := by
  rw [project_eq]
  generalize emptyContext task observation availableActions events runtimeState progress = context
  dsimp only
  constructor
  · rintro ⟨e, he⟩ hempty
    split at he
    · rename_i hlarge
      by_cases hnone : recentEvents size config context events = []
      · rw [hnone] at hlarge
        exact absurd hempty (not_le.mpr hlarge)
      · exact absurd (dropUntil_fits hnone) (not_le.mpr hlarge)
    · cases he
  · intro hempty
    have hlarge := lt_of_lt_of_le (not_le.mp hempty) (hsize context (recentEvents size config context events))
    exact ⟨_, if_pos hlarge⟩

theorem recentEvents_of_project
    (h : project size config task observation availableActions events runtimeState progress = .ok context) :
    context.recentEvents = recentEvents size config
        (emptyContext task observation availableActions events runtimeState progress) events ∧
      Fits size config.decisionContextMaxBytes
        (emptyContext task observation availableActions events runtimeState progress) context.recentEvents := by
  rw [project_eq] at h
  dsimp only at h
  split at h
  · cases h
  · rename_i hsmall
    cases h
    exact ⟨rfl, not_lt.mp hsmall⟩

/-- **The recent events are exact where the event limit is not zero, or no event fits.** -/
theorem recentEvents_exact_iff (hsize : Grows size) :
    ExactEvents size config task observation availableActions events runtimeState progress ↔
      (0 < config.decisionContextEventLimit ∨ ∀ l, l <:+ relevantSummaries events → l ≠ [] →
        ¬ Fits size config.decisionContextMaxBytes
          (emptyContext task observation availableActions events runtimeState progress) l) := by
  constructor
  · intro hexact
    rcases Nat.eq_zero_or_pos config.decisionContextEventLimit with hzero | hpos
    · refine .inr fun l hl hne hfits => ?_
      -- the slice keeps every event, so the one that fits keeps an event in the context
      have hempty := le_trans (hsize _ l) hfits
      cases hproject : project size config task observation availableActions events runtimeState progress with
      | error e => exact hexact.refused.mp ⟨e, hproject⟩ hempty
      | ok context =>
        have hlongest := hexact.longest context hproject
        have hbounded := hlongest.bounded
        rw [hzero, Nat.le_zero, List.length_eq_zero_iff, (recentEvents_of_project hproject).1, recentEvents, lastN,
          if_pos hzero] at hbounded
        have hsuffix := suffix_dropUntil hl hfits
        rw [hbounded, List.suffix_nil] at hsuffix
        exact hne hsuffix
    · exact .inl hpos
  · intro hlimit
    refine ⟨fun context hproject => ?_, project_error_iff hsize⟩
    obtain ⟨heq, hfits⟩ := recentEvents_of_project hproject
    rcases Nat.eq_zero_or_pos config.decisionContextEventLimit with hzero | hpos
    · rcases hlimit with hpos | hnone
      · omega
      have hempty : context.recentEvents = [] := by
        by_contra hne
        refine hnone context.recentEvents ?_ hne hfits
        rw [heq, recentEvents, lastN, if_pos hzero]
        exact dropUntil_suffix
      rw [hempty] at hfits ⊢
      refine ⟨List.nil_suffix, Nat.zero_le _, hfits, fun l' _ hn _ => ?_⟩
      rwa [hzero] at hn
    · rw [heq] at hfits ⊢
      unfold recentEvents lastN at hfits ⊢
      rw [if_neg (by omega)] at hfits ⊢
      exact longestSuffix_dropUntil hfits

end

section Example

/-- A task without constraints. -/
def plainTask (constraints : List Constraint) : Task where
  id := .int 1
  status := .running
  specification := { objective := { type := .reachResource }, constraints, authority := {} }
  createdAt := 0
  updatedAt := 0

def plainObservation : Observation := ⟨2, 2, 0, ⟨"A city.", by decide, by decide⟩, []⟩

def plainProgress : RuntimeEvaluation := ⟨.running, false, "Nothing yet.", false, none⟩

/-- A context takes some room, and every event more. -/
def roomOf (context : DecisionContext) : Nat := 1000 + 200 * context.recentEvents.length

theorem roomOf_grows : Grows roomOf := fun _ _ => Nat.le_add_right _ _

/-- A rejected action in the journal. -/
def rejection : RuntimeEvent := ⟨.int 1, 1, .actionRejected, 1, []⟩

theorem rejection_shown : ∃ context, project roomOf { decisionContextEventLimit := 0 } (plainTask []) plainObservation []
    [rejection] {} plainProgress = .ok context ∧ context.recentEvents.length = 1 := by
  refine ⟨_, rfl, ?_⟩
  decide

/-- With a limit of no events the context holds the one there is. -/
theorem limit_zero_keeps_events :
    ¬ ∀ size, Grows size → ∀ config task observation availableActions events runtimeState progress,
      ExactEvents size config task observation availableActions events runtimeState progress := by
  intro h
  obtain ⟨context, hproject, hlength⟩ := rejection_shown
  have hbounded := ((h roomOf roomOf_grows _ _ _ _ _ _ _).longest context hproject).bounded
  rw [hlength] at hbounded
  exact absurd hbounded (by decide)

theorem recentEvents_exact_one :
    ExactEvents roomOf { decisionContextEventLimit := 1 } (plainTask []) plainObservation [] [rejection] {} plainProgress :=
  (recentEvents_exact_iff roomOf_grows).mpr (.inl Nat.one_pos)

end Example

/-! ## The restrictions -/

/-- What the projected restrictions say of an action type: it is forbidden, or some are allowed and it is not. -/
def shownRejected (r : PendingRestrictions) (type : String) : Prop :=
  type ∈ r.forbiddenActions ∨ r.allowedActions ≠ [] ∧ type ∉ r.allowedActions

theorem mem_sortedSet {values : List String} {v : String} : v ∈ sortedSet values ↔ v ∈ values := by
  unfold sortedSet
  rw [List.mem_insertionSort, List.mem_dedup]

theorem sortedSet_eq_nil {values : List String} : sortedSet values = [] ↔ values = [] := by
  constructor
  · intro h
    rw [List.eq_nil_iff_forall_not_mem] at h ⊢
    exact fun v hv => h v (mem_sortedSet.mpr hv)
  · rintro rfl
    rfl

theorem length_le_sum {values : List String} {v : String} (h : v ∈ values) :
    v.length ≤ (values.map String.length).sum := by
  induction h with
  | head values => simp
  | tail w _ ih =>
    rw [List.map_cons, List.sum_cons]
    omega

/-- Every list of strings leaves one out. -/
theorem exists_not_mem (values : List String) : ∃ type : NonEmptyString, type.val ∉ values := by
  let n := (values.map String.length).sum
  have hstrip : strip (String.ofList (List.replicate (n + 1) 'a')) = String.ofList (List.replicate (n + 1) 'a') := by
    have hspace : isSpace 'a' = false := by decide
    unfold strip
    rw [String.toList_ofList, List.dropWhile_replicate, hspace]
    simp [hspace]
  refine ⟨⟨String.ofList (List.replicate (n + 1) 'a'), hstrip, ?_⟩, fun hmem => ?_⟩
  · intro h
    have hlength := congrArg String.length h
    simp at hlength
  · have hle : (String.ofList (List.replicate (n + 1) 'a')).length ≤ n :=
      length_le_sum hmem
    rw [String.length_ofList, List.length_replicate] at hle
    omega

section
variable {spec : TaskSpecification} {events : List RuntimeEvent}

/-- The types the projected context calls allowed. -/
def allowedNames (spec : TaskSpecification) : List String := spec.constraints.flatMap allowedOf

theorem mem_forbiddenActions {type : String} :
    type ∈ (restrictions spec events).forbiddenActions ↔ type ∈ PolicyEngine.forbidden spec := by
  have hconstraint : ∀ c : Constraint, type ∈ forbiddenOf c ↔ PolicyEngine.forbiddenAction c = some type := by
    intro c
    unfold forbiddenOf PolicyEngine.forbiddenAction Constraint.string
    split
    · rw [Option.mem_toList]
    · simp
  show type ∈ sortedSet _ ↔ _
  rw [mem_sortedSet, PolicyEngine.forbidden, List.mem_append, List.mem_append, List.mem_flatMap, List.mem_filterMap]
  simp only [hconstraint]

theorem mem_filterMap_of_mapM {items : List JsonValue} {values : List String} {type : String}
    (h : JsonValue.strings? (.list items) = some values) (htype : type ∈ values) :
    type ∈ items.filterMap JsonValue.str? := by
  change items.mapM _ = some values at h
  induction items generalizing values with
  | nil =>
    cases h
    cases htype
  | cons item items ih =>
    rw [List.mapM_cons] at h
    cases item with
    | str v =>
      obtain ⟨first, hfirst, h⟩ := Option.bind_eq_some_iff.mp h
      obtain ⟨rest, hrest, heq⟩ := Option.bind_eq_some_iff.mp h
      cases hfirst
      cases heq
      rw [List.filterMap_cons_some (show JsonValue.str? (.str v) = some v from rfl), List.mem_cons]
      rcases List.mem_cons.mp htype with rfl | htype
      · exact .inl rfl
      · exact .inr (ih htype hrest)
    | _ => cases h

/-- A set the policy asks for holds types that are called allowed. -/
theorem subset_allowedNames {c : Constraint} (hc : c ∈ spec.constraints) {values : List String}
    (h : PolicyEngine.allowedSet c = some values) {type : String} (htype : type ∈ values) : type ∈ allowedNames spec := by
  refine List.mem_flatMap.mpr ⟨c, hc, ?_⟩
  unfold PolicyEngine.allowedSet at h
  unfold allowedOf
  split at h
  swap
  · cases h
  rename_i hallowed
  rw [if_pos hallowed, List.mem_append]
  split at h
  · rename_i values' hvalues
    cases h
    refine .inr ?_
    obtain ⟨raw, hraw, hstrings⟩ := Option.bind_eq_some_iff.mp hvalues
    cases raw with
    | list items =>
      rw [hraw]
      exact mem_filterMap_of_mapM hstrings htype
    | _ => cases hstrings
  · obtain ⟨action, haction, heq⟩ := Option.map_eq_some_iff.mp h
    subst heq
    rw [List.mem_singleton] at htype
    refine .inl ?_
    rw [Option.mem_toList, htype]
    exact haction

/-- The policy and the projection restrict the same types, whatever the events are. -/
def RestrictionsEnforced (spec : TaskSpecification) (events : List RuntimeEvent) : Prop :=
  ∀ type : NonEmptyString,
    PolicyEngine.permits spec type.val = false ↔ shownRejected (restrictions spec events) type.val

theorem permits_eq_false {type : String} :
    PolicyEngine.permits spec type = false ↔
      type ∈ PolicyEngine.forbidden spec ∨ ∃ values ∈ PolicyEngine.allowedSets spec, type ∉ values := by
  unfold PolicyEngine.permits
  rw [Bool.and_eq_false_iff, decide_eq_false_iff_not, not_not, List.all_eq_false]
  simp only [decide_eq_true_eq]

theorem shownRejected_iff {type : String} :
    shownRejected (restrictions spec events) type ↔
      type ∈ PolicyEngine.forbidden spec ∨ allowedNames spec ≠ [] ∧ type ∉ allowedNames spec := by
  unfold shownRejected
  rw [mem_forbiddenActions]
  show _ ∨ sortedSet (allowedNames spec) ≠ [] ∧ type ∉ sortedSet (allowedNames spec) ↔ _
  rw [ne_eq, sortedSet_eq_nil, mem_sortedSet]

/-- **The projected restrictions are those of the policy where its allowed sets, if any, share
every type that a constraint names and nothing forbids.** -/
theorem restrictions_enforced_iff :
    RestrictionsEnforced spec events ↔
      (PolicyEngine.allowedSets spec = [] ↔ allowedNames spec = []) ∧
        ∀ type : NonEmptyString, type.val ∈ allowedNames spec → type.val ∉ PolicyEngine.forbidden spec →
          ∀ values ∈ PolicyEngine.allowedSets spec, type.val ∈ values := by
  unfold RestrictionsEnforced
  simp only [permits_eq_false, shownRejected_iff]
  constructor
  · intro h
    -- a type that no constraint names
    obtain ⟨fresh, hfresh⟩ := exists_not_mem
      (PolicyEngine.forbidden spec ++ allowedNames spec ++ (PolicyEngine.allowedSets spec).flatten)
    simp only [List.mem_append, List.mem_flatten, not_or, not_exists, not_and] at hfresh
    obtain ⟨⟨hforbidden, hnames⟩, hsets⟩ := hfresh
    refine ⟨⟨fun hnone => ?_, fun hnone => ?_⟩, fun type hnamed hfree values hvalues => ?_⟩
    · by_contra hsome
      rcases (h fresh).mpr (.inr ⟨hsome, hnames⟩) with hmem | ⟨values, hvalues, -⟩
      · exact hforbidden hmem
      · rw [hnone] at hvalues
        cases hvalues
    · by_contra hsome
      obtain ⟨values, hvalues⟩ := List.exists_mem_of_ne_nil _ hsome
      rcases (h fresh).mp (.inr ⟨values, hvalues, hsets values hvalues⟩) with hmem | ⟨hsome, -⟩
      · exact hforbidden hmem
      · exact hsome hnone
    · by_contra hout
      rcases (h type).mp (.inr ⟨values, hvalues, hout⟩) with hmem | ⟨-, hunnamed⟩
      · exact hfree hmem
      · exact hunnamed hnamed
  · rintro ⟨hnone, hshared⟩ type
    refine or_congr_right' fun hfree => ?_
    constructor
    · rintro ⟨values, hvalues, hout⟩
      refine ⟨fun h => ?_, fun hnamed => hout (hshared type hnamed hfree values hvalues)⟩
      rw [hnone.mpr h] at hvalues
      cases hvalues
    · rintro ⟨hsome, hunnamed⟩
      obtain ⟨values, hvalues⟩ := List.exists_mem_of_ne_nil _ (mt hnone.mp hsome)
      refine ⟨values, hvalues, fun hmem => hunnamed ?_⟩
      obtain ⟨c, hc, hset⟩ := List.mem_filterMap.mp hvalues
      exact subset_allowedNames hc hset hmem

section Example

/-- Two constraints that allow one type each. -/
def disjointAllowed : TaskSpecification :=
  (plainTask [⟨.allowedAction, [("action", .str "pause")]⟩, ⟨.allowedAction, [("action", .str "resume")]⟩]).specification

/-- The policy refuses what both constraints name; the projection shows both as allowed. -/
theorem disjoint_allowed_shown : ¬ ∀ spec events, RestrictionsEnforced spec events := by
  intro h
  have hpause := h disjointAllowed [] ⟨"pause", by decide, by decide⟩
  rcases hpause.mp (by decide) with hforbidden | ⟨-, hunnamed⟩
  · exact absurd hforbidden (by decide)
  · exact hunnamed (by decide)

end Example

end

end DecisionContextProjector

end SimPilot
