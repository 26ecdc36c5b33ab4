import SimPilot.Runtime.Machine
import SimPilot.Effect.Play
/-!
# Playing runs of the engine

Collaborators that answer from a state of their own, and the handler that puts them
behind a store: an answer that does not meet the conditions of the run is none. What a
schedule leads to is reached by a run (`playEngines_runs`).
-/

namespace SimPilot
open Effect Reconstruction

/-! ## Conditions as switches -/

/-- Which conditions a run is held to. -/
structure Switches where
  settledCancel : Bool := false
  answeredCancel : Bool := false
  faithful : Bool := false
  restored : Bool := false
  honestReconciler : Bool := false
  /-- The one configuration engines run under, when there is one. -/
  configuration : Option RuntimeConfiguration := none

def Switches.all : Switches :=
  { settledCancel := true, answeredCancel := true, faithful := true, restored := true, honestReconciler := true }

def Switches.conditions (f : Switches) : Conditions where
  settledCancel := f.settledCancel = true
  answeredCancel := f.answeredCancel = true
  faithful := f.faithful = true
  restored := f.restored = true
  honestReconciler := f.honestReconciler = true
  configured config := ∀ only ∈ f.configuration, config = only

section
variable (f : Switches)

instance : Decidable f.conditions.settledCancel := inferInstanceAs (Decidable (f.settledCancel = true))
instance : Decidable f.conditions.answeredCancel := inferInstanceAs (Decidable (f.answeredCancel = true))
instance : Decidable f.conditions.faithful := inferInstanceAs (Decidable (f.faithful = true))
instance : Decidable f.conditions.restored := inferInstanceAs (Decidable (f.restored = true))
instance : Decidable f.conditions.honestReconciler := inferInstanceAs (Decidable (f.honestReconciler = true))

end

/-! ## Deciding an answer -/

/-- A property of the value of a reply. -/
def okAll {α : Type} (q : α → Bool) : Except PyError α → Bool
  | .ok a => q a
  | .error _ => true

theorem okAll_iff {α : Type} {q : α → Bool} {r : Except PyError α} : okAll q r = true ↔ ∀ a, r = .ok a → q a = true := by
  cases r with
  | ok a => simp [okAll]
  | error e => simp [okAll]

def answersOk {α : Type} : Except PyError α → Bool
  | .ok _ => true
  | .error e => e.isException

theorem answersOk_iff {α : Type} {r : Except PyError α} : answersOk r = true ↔ Answers r := by
  cases r with
  | ok a => simp [answersOk, Answers]
  | error e => simp [answersOk, Answers]

instance (state : Dict) : Decidable (SchemaReadable state) :=
  decidable_of_iff (okAll (fun version => version.1 = supportedVersion && !disagrees (state.get "schema_version") version.1)
      (stateSchemaVersion state) = true ∧ (stateSchemaVersion state).toOption.isSome = true) <| by
    unfold SchemaReadable
    cases stateSchemaVersion state with
    | ok version => simp [okAll, Except.toOption, Bool.and_eq_true]
    | error e => simp [Except.toOption]

instance (o : Observation) : Decidable (Readable o) :=
  decidable_of_iff (stateTick o.state = some (o.tick : Int) ∧ SchemaReadable o.state)
    ⟨fun h => ⟨h.1, h.2⟩, fun h => ⟨h.tick, h.schema⟩⟩

instance (o : Observation) (sn : AdapterSnapshot) : Decidable (Agrees o sn) :=
  decidable_of_iff (Dict.pyEq o.state sn.state = true ∧ stateTick sn.state = some (o.tick : Int) ∧
      disagrees (sn.state.get "schema_version") sn.simulationSchemaVersion = false ∧
      sn.simulationSchemaVersion = supportedVersion ∧ sn.observationSequence ≤ o.sequence)
    ⟨fun h => ⟨h.1, h.2.1, h.2.2.1, h.2.2.2.1, h.2.2.2.2⟩,
      fun h => ⟨h.state, h.tick, h.schema, h.version, h.sequence⟩⟩

instance (sn : AdapterSnapshot) : Decidable (Presentable sn) :=
  decidable_of_iff (disagrees (sn.state.get "schema_version") sn.simulationSchemaVersion = false ∧
      sn.simulationSchemaVersion = supportedVersion ∧ SchemaReadable sn.state)
    ⟨fun h => ⟨h.1, h.2.1, h.2.2⟩, fun h => ⟨h.schema, h.version, h.readable⟩⟩

/-- The reply meets the conditions of the run. -/
def admits (f : Switches) : (o : Op) → Ret o → Bool
  | .observe held, r => answersOk r &&
    (!f.faithful || okAll (fun o => decide (Readable o) && held.all (·.sequence ≤ o.sequence)) r)
  | .snapshot held, r => answersOk r &&
    (!f.faithful || r.toOption.isSome && okAll (fun sn => decide (Agrees held sn)) r)
  | .restored durable, r => answersOk r && (!f.faithful || r.toOption.isSome) &&
    (!f.restored || okAll (fun sn => okAll (fun d => sn.pyEq d) durable) r)
  | .adapterFactory _, r => answersOk r && (!f.faithful || okAll (fun adapter => adapter.adapterType ≠ "") r)
  | .reconcile attempt _ current, r => answersOk r &&
    (!f.honestReconciler || okAll (fun report => report.expectedResult.all fun result =>
      |result.cost - attempt.estimatedCost| ≤ costTolerance) r) &&
    (!f.faithful || current.all fun sn => decide (Presentable sn))
  | .cancellationCheck _, r => answersOk r
  | .initializeAdapter, r | .shutdown, r => answersOk r
  | .availableActions, r => answersOk r
  | .validate _, r => answersOk r
  | .execute _ _ _, r => answersOk r
  | .decide _, r => answersOk r
  | .load _, _ | .listEvents _, _ | .createTask _, _ | .commitIteration _, _ | .now, _ | .crash _, _ | .returned _, _ =>
    true

/-- The records meet the conditions on a cancellation. -/
def meets (f : Switches) (v : TaskView) (r : IterationRequest) : Bool :=
  decide (r.cancelRequested ≠ some true) ||
    ((!f.settledCancel || okAll (·.isNone) (unresolvedActionAttempt v.events) &&
        (unresolvedActionAttempt v.events).toOption.isSome) &&
      (!f.answeredCancel || (pendingOf v.approvals).isNone))

theorem meets_iff {f : Switches} {v : TaskView} {r : IterationRequest} (h : meets f v r = true) :
    Meets f.conditions v r := by
  intro hc
  simp only [meets, hc, ne_eq, not_true_eq_false, decide_false, Bool.false_or, Bool.and_eq_true, Bool.or_eq_true,
    Bool.not_eq_true'] at h
  obtain ⟨hs, ha⟩ := h
  refine ⟨fun hf => ?_, fun hf => ?_⟩
  · have hok := hs.resolve_left (by rw [show f.settledCancel = true from hf]; decide)
    cases hu : unresolvedActionAttempt v.events with
    | error e => rw [hu] at hok; simp [Except.toOption] at hok
    | ok a =>
      rw [hu] at hok
      simpa [okAll] using hok.1
  · have hok := ha.resolve_left (by rw [show f.answeredCancel = true from hf]; decide)
    simpa using hok

/-! ## The handler -/

/-- The world outside the engines: a clock and the answers of everything but the store. -/
structure World (ω : Type) where
  clock : ω → Timestamp
  reply : Process → (o : Op) → ω → Ret o × ω

/-- What a commit at `now` adds to the system, when it meets the conditions. -/
def answerCommit (f : Switches) (p : Process) (now : Timestamp) (request : IterationRequest) (s : System) :
    Option (Except PyError IterationCommit × System) :=
  let view := viewOf request.task.id s.store
  if f.faithful && view.any (now < ·.record.task.updatedAt) then none
  else match commitIteration now request s.store with
    | (.error e, store) => some (.error e, { s with store })
    | (.ok commit, store) => match view with
      | none => none
      | some v => if meets f v request then some (.ok commit, { store, trace := s.trace ++ [.committed p v request] })
        else none

/-- The reply of a collaborator, and what it adds to the system. -/
def answerWorld (W : World ω) (f : Switches) (p : Process) (o : Op) (add : List TraceEvent) (s : System) (w : ω) :
    Option (Ret o × System × ω) :=
  let (r, w') := W.reply p o w
  if admits f o r then some (r, { s with trace := s.trace ++ add }, w') else none

/-- The store and the collaborators of a run. -/
def engineHandler (W : World ω) (f : Switches) : Handler Op Ret Process System ω
  | _, .load id, s, w => some (match viewOf id s.store with
      | some v => .ok v
      | none => .error (.recordNotFound s!"task {id.text} was not found"), s, w)
  | _, .listEvents id, s, w => some ((InMemory.stream s.store id).map (·.event), s, w)
  | p, .createTask task, s, w => match createTaskRecord task s.store with
    | (.error e, store) => some (.error e, { s with store }, w)
    | (.ok record, store) => some (.ok record, { store, trace := s.trace ++ [.created p task] }, w)
  | p, .commitIteration request, s, w => (answerCommit f p (W.clock w) request s).map fun rs => (rs.1, rs.2, w)
  | _, .now, s, w => some (W.clock w, s, w)
  | p, .execute id authority action, s, w =>
    answerWorld W f p (.execute id authority action) [.executed p id authority action] s w
  | p, .returned outcome, s, w => answerWorld W f p (.returned outcome) [.returned p outcome] s w
  | p, o, s, w => answerWorld W f p o [] s w

variable {ω : Type} {W : World ω} {f : Switches}

theorem answerWorld_some {p : Process} {o : Op} {add : List TraceEvent} {s s' : System} {w w' : ω} {r : Ret o}
    (h : answerWorld W f p o add s w = some (r, s', w')) :
    s' = { s with trace := s.trace ++ add } ∧ admits f o r = true := by
  simp only [answerWorld] at h
  split at h
  · rename_i hadmits
    cases h
    exact ⟨rfl, hadmits⟩
  · cases h


/-- An operation that only asks a collaborator. -/
theorem answerWorld_silent {p : Process} {o : Op} {s s' : System} {w w' : ω} {r : Ret o}
    (h : answerWorld W f p o [] s w = some (r, s', w')) : s' = s ∧ admits f o r = true := by
  obtain ⟨rfl, hadmits⟩ := answerWorld_some h
  exact ⟨by simp, hadmits⟩

theorem answerCommit_step {p : Process} {now : Timestamp} {request : IterationRequest} {s s' : System}
    {r : Except PyError IterationCommit} (h : answerCommit f p now request s = some (r, s')) :
    Step f.conditions p (.commitIteration request) s r s' := by
  simp only [answerCommit] at h
  split at h
  · cases h
  rename_i hclock
  have htime : f.conditions.faithful → ∀ v, viewOf request.task.id s.store = some v → v.record.task.updatedAt ≤ now := by
    intro hf v hv
    rw [show f.faithful = true from hf, hv] at hclock
    simpa using hclock
  split at h
  · rename_i e store hc
    cases h
    exact ⟨now, store, hc, htime, rfl⟩
  · rename_i commit store hc
    split at h
    · cases h
    rename_i v hv
    split at h
    · rename_i hmeets
      cases h
      exact ⟨now, store, hc, htime, v, hv, meets_iff hmeets, rfl⟩
    · cases h

/-- **Every answer is a step** of the engines under the conditions. -/
theorem engineHandler_sound (id : UUID) : (engineHandler W f).Sound (protocol f.conditions id) := by
  intro p o s w r s' w' h
  have hf : ∀ {q : Bool}, (!f.faithful || q) = true → f.conditions.faithful → q = true := by
    intro q hq hc
    rw [show f.faithful = true from hc] at hq
    simpa using hq
  cases o with
  | load id =>
    cases h
    exact ⟨rfl, rfl⟩
  | listEvents id =>
    cases h
    exact ⟨rfl, rfl⟩
  | createTask task =>
    simp only [engineHandler] at h
    split at h
    · rename_i e store hc
      cases h
      exact ⟨store, hc, rfl⟩
    · rename_i record store hc
      cases h
      exact ⟨store, hc, rfl⟩
  | commitIteration request =>
    simp only [engineHandler, Option.map_eq_some_iff] at h
    obtain ⟨⟨r₁, s₁⟩, hc, heq⟩ := h
    cases heq
    exact answerCommit_step hc
  | now =>
    cases h
    rfl
  | crash point =>
    obtain ⟨hs, -⟩ : s' = s ∧ admits f (.crash point) r = true := answerWorld_silent h
    exact hs
  | execute actionId authority action =>
    obtain ⟨rfl, ha⟩ := answerWorld_some h
    exact ⟨rfl, answersOk_iff.1 ha⟩
  | returned outcome =>
    obtain ⟨hs, -⟩ : s' = { s with trace := s.trace ++ [.returned p outcome] } ∧ admits f (.returned outcome) r = true :=
      answerWorld_some h
    exact hs
  | cancellationCheck | initializeAdapter | shutdown | availableActions | validate | decide =>
    obtain ⟨hs, ha⟩ := answerWorld_silent h
    exact ⟨hs, answersOk_iff.1 ha⟩
  | observe held =>
    obtain ⟨hs, ha⟩ := answerWorld_silent h
    simp only [admits, Bool.and_eq_true] at ha
    refine ⟨hs, answersOk_iff.1 ha.1, fun hc o ho => ?_⟩
    have := okAll_iff.1 (hf ha.2 hc) o ho
    simpa [Option.all_eq_true] using this
  | snapshot held =>
    obtain ⟨hs, ha⟩ := answerWorld_silent h
    simp only [admits, Bool.and_eq_true] at ha
    refine ⟨hs, answersOk_iff.1 ha.1, fun hc => ?_⟩
    have := hf ha.2 hc
    simp only [Bool.and_eq_true] at this
    obtain ⟨hsome, hagree⟩ := this
    cases r with
    | ok sn => exact ⟨sn, rfl, by simpa using okAll_iff.1 hagree sn rfl⟩
    | error e => cases hsome
  | restored durable =>
    obtain ⟨hs, ha⟩ := answerWorld_silent h
    simp only [admits, Bool.and_eq_true] at ha
    refine ⟨hs, answersOk_iff.1 ha.1.1, fun hc => ?_, fun hc sn hsn d hd => ?_⟩
    · have := hf ha.1.2 hc
      cases r with
      | ok sn => exact ⟨sn, rfl⟩
      | error e => cases this
    · have hr := ha.2
      rw [show f.restored = true from hc] at hr
      exact okAll_iff.1 (okAll_iff.1 (by simpa using hr) sn hsn) d hd
  | adapterFactory context =>
    obtain ⟨hs, ha⟩ := answerWorld_silent h
    simp only [admits, Bool.and_eq_true] at ha
    refine ⟨hs, answersOk_iff.1 ha.1, fun hc adapter hadapter => ?_⟩
    simpa using okAll_iff.1 (hf ha.2 hc) adapter hadapter
  | reconcile attempt prior current =>
    obtain ⟨hs, ha⟩ := answerWorld_silent h
    simp only [admits, Bool.and_eq_true] at ha
    refine ⟨hs, answersOk_iff.1 ha.1.1, fun hc report hreport result hresult => ?_, fun hc sn hsn => ?_⟩
    · have hr := ha.1.2
      rw [show f.honestReconciler = true from hc] at hr
      have hall := okAll_iff.1 (by simpa using hr) report hreport
      rw [Option.mem_def] at hresult
      simpa [hresult] using hall
    · have hall := hf ha.2 hc
      rw [Option.mem_def] at hsn
      simpa [hsn] using hall

/-! ## Schedules of calls -/

/-- One entry of a schedule: a process makes a call, or performs at most `n` operations. -/
inductive EngineTurn where
  | call (p : Process) (services : Services) (call : EngineCall)
  | run (p : Process) (n : Nat)

def EngineTurn.turn : EngineTurn → Turn Op Ret Process
  | call p services c => .spawn p (c.main services)
  | run p n => .run p n

/-- The calls of a schedule are on one task, with named adapters, under the configuration. -/
def EngineTurn.allowed (f : Switches) (id : UUID) : EngineTurn → Bool
  | call _ services c => c.taskId = id && f.configuration.all (services.configuration = ·) && (!f.faithful || match c with
    | .run _ adapter _ => adapter.adapterType ≠ ""
    | _ => true)
  | run _ _ => true

/-- The state a schedule of calls on the task leads to, from the empty store. -/
def playEngines (W : World ω) (f : Switches) (id : UUID) (w : ω) (turns : List EngineTurn) :
    Option (Config Op Ret Process System × ω) :=
  if turns.all (·.allowed f id) then play (engineHandler W f) (turns.map (·.turn)) (Config.idle {}) w else none

/-- A call a schedule may make is one that may be started. -/
theorem EngineTurn.allowed_started {id : UUID} {turn : EngineTurn} (h : turn.allowed f id = true) {p : Process}
    {m : Prog Op Ret Unit} (ht : turn.turn = .spawn p m) : Started f.conditions id m := by
  cases turn with
  | run q n => cases ht
  | call q services call =>
    cases ht
    simp only [EngineTurn.allowed, Bool.and_eq_true, decide_eq_true_eq] at h
    obtain ⟨⟨hid, hconfig⟩, hnamed⟩ := h
    refine ⟨services, call, rfl, hid, ?_, fun only honly => ?_⟩
    rotate_left
    · rw [show f.configuration = some only from honly] at hconfig
      simpa using hconfig
    cases call with
    | run task adapter budget =>
      intro hf
      rw [show f.faithful = true from hf] at hnamed
      simpa using hnamed
    | _ => trivial

theorem allowed_spawn {id : UUID} {turns : List EngineTurn} (hall : turns.all (·.allowed f id) = true) (p : Process)
    (m : Prog Op Ret Unit) (hmem : Turn.spawn p m ∈ turns.map (·.turn)) : Started f.conditions id m := by
  obtain ⟨turn, hturn, heq⟩ := List.mem_map.1 hmem
  exact EngineTurn.allowed_started (List.all_eq_true.1 hall turn hturn) heq

/-- **What is played is a run.** -/
theorem playEngines_runs {id : UUID} {w w' : ω} {turns : List EngineTurn} {config : Config Op Ret Process System}
    (h : playEngines W f id w turns = some (config, w')) : Runs f.conditions id config := by
  simp only [playEngines] at h
  split at h
  · rename_i hall
    exact play_steps (engineHandler_sound id) (allowed_spawn hall) h
  · cases h

/-- A schedule that is played on leads from where it was. -/
theorem playEngines_later {id : UUID} {w w' w'' : ω} {turns more : List EngineTurn}
    {config config' : Config Op Ret Process System} (h : playEngines W f id w turns = some (config, w'))
    (h' : playEngines W f id w (turns ++ more) = some (config', w'')) :
    Config.Steps (protocol f.conditions id) (Started f.conditions id) config config' := by
  simp only [playEngines] at h h'
  split at h'
  · rename_i hall
    rw [List.all_append, Bool.and_eq_true] at hall
    rw [if_pos hall.1] at h
    rw [List.map_append, play_append, h] at h'
    exact play_steps (engineHandler_sound id) (allowed_spawn hall.2) h'
  · cases h'

/-! ## A till -/

/-- A simulation with a tick and the cash it earned, and the decisions of a script. -/
structure Till where
  sequence : Nat := 0
  tick : Nat := 0
  decisions : List Decision := []
  /-- The crash point that kills the next process to reach it. -/
  crash : Option CrashPoint := none
  /-- Executing an action raises after it changed the simulation. -/
  failing : Bool := false

namespace Till

def state (t : Till) : Dict := [("cash", .int (10 * t.tick)), ("tick", .int t.tick)]

def observation (t : Till) : Observation where
  sequence := t.sequence + 1
  timestamp := 0
  tick := t.tick
  summary := ⟨"till", by decide, by decide⟩
  state := t.state

def snapshot (t : Till) : AdapterSnapshot where
  adapterType := "till"
  simulationSchemaVersion := 1
  observationSequence := t.sequence
  seed := "0"
  state := t.state

def info : AdapterInfo := { adapterType := "till", checkpointable := true, requiresFreshObservationOnResume := false }

theorem stripped_done : strip "done" = "done" := by decide

theorem done_nonempty : "done" ≠ "" := by decide

/-- Executing an action: a tick passes. -/
def execute (t : Till) (action : Action) : Except PyError ExecutionResult × Till :=
  (if t.failing then .error (.other "RuntimeError" "connection lost") else
    .ok { success := true, stateChanged := true, cost := action.estimatedCost
          message := ⟨"done", stripped_done, done_nonempty⟩, cost_nonneg := action.cost_nonneg },
    { t with tick := t.tick + 1 })

def reply (_ : Process) : (o : Op) → Till → Ret o × Till
  | .now, t => (0, t)
  | .cancellationCheck _, t => (.ok false, t)
  | .crash point, t => if t.crash = some point then (true, { t with crash := none }) else (false, t)
  | .initializeAdapter, t | .shutdown, t => (.ok (), t)
  | .observe _, t => (.ok t.observation, { t with sequence := t.sequence + 1 })
  | .availableActions, t => (.ok [], t)
  | .validate action, t =>
    (.ok { valid := true, message := "", estimatedCost := action.estimatedCost, cost_nonneg := action.cost_nonneg }, t)
  | .execute _ _ action, t => t.execute action
  | .snapshot _, t | .restored _, t => (.ok t.snapshot, t)
  | .decide _, t => match t.decisions with
    | decision :: decisions => (.ok ⟨decision, []⟩, { t with decisions })
    | [] => (.error (.scriptedDecisionExhausted "no decision left"), t)
  | .adapterFactory _, t => (.ok info, t)
  | .reconcile _ _ _, t => (.ok { classification := .ambiguous, reason := "the outcome is unknown" }, t)
  -- the handler answers the operations on the store
  | .load _, t => (.error (.transaction ""), t)
  | .listEvents _, t => ([], t)
  | .createTask _, t | .commitIteration _, t => (.error (.valueError ""), t)
  | .returned _, t => ((), t)

def world : World Till := { clock := fun _ => 0, reply }

/-- Letting a tick pass, for a price of one. -/
def advance : Action where
  type := ⟨"advance_time", by decide, by decide⟩
  expectedEffect := ⟨"cash", by decide, by decide⟩
  estimatedCost := 1

def decision : Decision where
  type := .execute
  reason := ⟨"earn", by decide, by decide⟩
  action := some advance

/-- Earn `target`, spend at most five, and ask before the actions listed. -/
def specification (target : Int) (approvalActions : List NonEmptyString) : TaskSpecification where
  objective := { type := .reachResource, parameters := [("resource", .str "cash"), ("target", .int target)] }
  authority := { maximumTotalSpend := some 5, approvalActions, total_nonneg := by decide +kernel }

def task (target : Int) (approvalActions : List NonEmptyString) : Task where
  id := .int 1
  status := .pending
  specification := specification target approvalActions
  createdAt := 0
  updatedAt := 0

/-- A run that waits for an approval, gets it, and completes its task. -/
def approvedTurns : List EngineTurn :=
  [.call 0 {} (.run (task 10 [advance.type]) info none), .run 0 100, .call 1 {} (.approve (.int 1)), .run 1 10,
    .call 2 {} (.resume (.int 1) none), .run 2 100]

def approvedPlay : Option (Config Op Ret Process System × Till) :=
  playEngines world .all (.int 1) { decisions := [decision] } approvedTurns

theorem approvedPlay_isSome : approvedPlay.isSome = true := by decide +kernel

/-- The state behind `approvedTurns`. -/
def approvedConfig : Config Op Ret Process System := (approvedPlay.get approvedPlay_isSome).1

theorem approvedConfig_runs : Runs Switches.all.conditions (.int 1) approvedConfig :=
  playEngines_runs (Option.some_get approvedPlay_isSome).symm

theorem approvedView_isSome : (viewOf (.int 1) approvedConfig.shared.store).isSome = true := by decide +kernel

/-- The records of the completed task. -/
def approvedView : TaskView := (viewOf (.int 1) approvedConfig.shared.store).get approvedView_isSome

theorem approvedView_eq : viewOf (.int 1) approvedConfig.shared.store = some approvedView :=
  (Option.some_get approvedView_isSome).symm

example : approvedView.record.task.status = .completed ∧ approvedView.record.task.totalSpend = 1 := by decide +kernel

end Till

end SimPilot
