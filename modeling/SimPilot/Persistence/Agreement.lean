import SimPilot.Persistence.Writes
/-!
# The relation between the two stores

`Agree` holds of the empty stores; each admissible call that SQLite takes keeps it, and a
call that is not admissible is rejected by both. The reads answer alike while it holds.
-/

namespace SimPilot
open Transaction InMemory

/-! ## The relation -/

/-- The tables hold the rows of what the dictionaries hold, task by task in the same order. -/
structure Agree (s : InMemoryPersistenceState) (db : SqliteDatabase) : Prop where
  tasks : db.tasks = s.tasks.values.map Sqlite.TaskRow.values
  approvals : db.approvals = s.approvals.values.map Sqlite.ApprovalRow.values
  events : ∀ id, db.events.filter (·.taskId = id) = (stream s id).map Sqlite.EventRow.values
  checkpoints : ∀ id, db.simulationCheckpoints.filter (·.metadata.taskId = id) =
    (checkpointStream s id).map Sqlite.CheckpointRow.values
  taskKeys : Assoc.Keyed (·.task.id) s.tasks
  approvalKeys : Assoc.Keyed (·.approval.id) s.approvals
  streamKeys : (Assoc.keys s.events).Nodup
  checkpointKeys : (Assoc.keys s.checkpoints).Nodup
  numbered : ∀ id, (stream s id).map (·.event.sequence) = List.range' 1 (stream s id).length
  increasing : ∀ id, ((checkpointStream s id).map (·.metadata.runtimeSequence)).Pairwise (· < ·)

theorem Agree.start : Agree {} {} where
  tasks := rfl
  approvals := rfl
  events _ := rfl
  checkpoints _ := rfl
  taskKeys := .nil
  approvalKeys := .nil
  streamKeys := List.nodup_nil
  checkpointKeys := List.nodup_nil
  numbered _ := rfl
  increasing _ := List.Pairwise.nil

namespace Agree
variable {s : InMemoryPersistenceState} {db : SqliteDatabase}

/-! ## What the tables say about the dictionaries -/

theorem any_task (h : Agree s db) (id : UUID) : db.tasks.any (·.id = id) = s.tasks.contains id := by
  rw [← h.taskKeys.any, h.tasks, List.any_map]
  rfl

theorem find_task (h : Agree s db) (id : UUID) :
    db.tasks.find? (·.id = id) = (s.tasks.get id).map Sqlite.TaskRow.values := by
  rw [← h.taskKeys.find?, h.tasks, List.find?_map]
  rfl

theorem any_approval (h : Agree s db) (id : UUID) : db.approvals.any (·.id = id) = s.approvals.contains id := by
  rw [← h.approvalKeys.any, h.approvals, List.any_map]
  rfl

theorem find_approval (h : Agree s db) (id : UUID) :
    db.approvals.find? (·.id = id) = (s.approvals.get id).map Sqlite.ApprovalRow.values := by
  rw [← h.approvalKeys.find?, h.approvals, List.find?_map]
  rfl

/-- The rows of the events table are the records of the streams. -/
theorem mem_events (h : Agree s db) {row : EventRow} :
    row ∈ db.events ↔ ∃ r ∈ stream s row.taskId, Sqlite.EventRow.values r = row := by
  have hf : row ∈ db.events.filter (·.taskId = row.taskId) ↔ row ∈ db.events := by simp
  rw [← hf, h.events, List.mem_map]

theorem mem_checkpoints (h : Agree s db) {row : CheckpointRow} :
    row ∈ db.simulationCheckpoints ↔
      ∃ c ∈ checkpointStream s row.metadata.taskId, Sqlite.CheckpointRow.values c = row := by
  have hf : row ∈ db.simulationCheckpoints.filter (·.metadata.taskId = row.metadata.taskId) ↔
      row ∈ db.simulationCheckpoints := by simp
  rw [← hf, h.checkpoints, List.mem_map]

/-- A record sits in the stream of its own task. -/
theorem stream_task (h : Agree s db) {id : UUID} {r : EventRecord} (hr : r ∈ stream s id) : r.event.taskId = id := by
  have hrow : Sqlite.EventRow.values r ∈ db.events.filter (·.taskId = id) := by
    rw [h.events]; exact List.mem_map_of_mem hr
  exact of_decide_eq_true (List.mem_filter.1 hrow).2

theorem checkpoint_task (h : Agree s db) {id : UUID} {c : SimulationCheckpoint} (hc : c ∈ checkpointStream s id) :
    c.metadata.taskId = id := by
  have hrow : Sqlite.CheckpointRow.values c ∈ db.simulationCheckpoints.filter (·.metadata.taskId = id) := by
    rw [h.checkpoints]; exact List.mem_map_of_mem hc
  exact of_decide_eq_true (List.mem_filter.1 hrow).2

/-- No event of the table has an identifier exactly when no event of a stream has. -/
theorem event_fresh (h : Agree s db) (id : UUID) :
    db.events.any (·.id = id) = false ↔ ∀ task, ∀ stored ∈ stream s task, stored.id ≠ id := by
  simp only [List.any_eq_false, decide_eq_true_eq]
  constructor
  · intro hrow task stored hstored
    obtain rfl := h.stream_task hstored
    exact hrow (Sqlite.EventRow.values stored) (h.mem_events.2 ⟨stored, hstored, rfl⟩)
  · rintro hstored row hrow
    obtain ⟨r, hr, rfl⟩ := h.mem_events.1 hrow
    exact hstored _ r hr

/-- The sequences of a stream end at its length. -/
theorem stream_sequence_le (h : Agree s db) {id : UUID} {r : EventRecord} (hr : r ∈ stream s id) :
    1 ≤ r.event.sequence ∧ r.event.sequence ≤ (stream s id).length := by
  have hm : r.event.sequence ∈ (stream s id).map (·.event.sequence) := List.mem_map_of_mem hr
  rw [h.numbered, List.mem_range'_1] at hm
  omega

/-- The journal of a task comes out in the order it was written. -/
theorem eventRows_eq (h : Agree s db) (id : UUID) :
    Sqlite.eventRows db id = (stream s id).map Sqlite.EventRow.values := by
  rw [Sqlite.eventRows, h.events]
  refine List.Pairwise.insertionSort_eq ?_
  have hs : ((stream s id).map (·.event.sequence)).Pairwise (· ≤ ·) := by
    rw [h.numbered]; exact List.pairwise_le_range'
  rw [List.pairwise_map] at hs ⊢
  exact hs

theorem checkpointRows_eq (h : Agree s db) (id : UUID) :
    Sqlite.checkpointRows db id = (checkpointStream s id).map Sqlite.CheckpointRow.values := by
  rw [Sqlite.checkpointRows, h.checkpoints]
  refine List.Pairwise.insertionSort_eq ?_
  have hs := (h.increasing id).imp fun {a b} hab => Nat.le_of_lt hab
  rw [List.pairwise_map] at hs ⊢
  exact hs

theorem nextSequence_eq (h : Agree s db) (id : UUID) : Sqlite.nextSequence db id = (stream s id).length + 1 := by
  have hn := h.numbered id
  unfold Sqlite.nextSequence
  rw [h.eventRows_eq]
  rcases List.eq_nil_or_concat (stream s id) with hnil | ⟨init, last, hl⟩
  · simp [hnil]
  · rw [hl] at hn ⊢
    simp only [List.concat_eq_append, List.map_append, List.map_cons, List.map_nil, List.length_append,
      List.length_cons, List.length_nil, Nat.zero_add, List.range'_concat, Nat.one_mul] at hn
    have hlast := List.append_inj_right' hn (by simp)
    simp only [List.cons.injEq, and_true] at hlast
    simp [Sqlite.EventRow.values, hlast, Nat.add_comm]

/-! ## Reads -/

theorem pyEq_stored (r : EventRecord) :
    EventRecord.pyEq (Sqlite.EventRow.record (Sqlite.EventRow.values r)) r = true := by
  simp [EventRecord.pyEq, Sqlite.EventRow.record, Sqlite.EventRow.values, Sqlite.json_pyEq]

theorem pyEq_storedCheckpoint (c : SimulationCheckpoint) :
    SimulationCheckpoint.pyEq (Sqlite.CheckpointRow.record (Sqlite.CheckpointRow.values c)) c = true := by
  simp [SimulationCheckpoint.pyEq, Sqlite.CheckpointRow.record, Sqlite.CheckpointRow.values, Sqlite.json_pyEq]

/-- In a list numbered from `k` on, the entry with number `n` is found at its place. -/
theorem find_numbered {α : Type} (f : α → Nat) (n : Int) :
    ∀ (l : List α) (k : Nat), l.map f = List.range' k l.length →
      l.find? (fun a => (f a : Int) = n) = if n < k then none else l[(n - k).toNat]?
  | [], k, _ => by simp
  | a :: l, k, hl => by
    simp only [List.map_cons, List.length_cons, List.range'_succ, List.cons.injEq] at hl
    have ih := find_numbered f n l (k + 1) hl.2
    rw [List.find?_cons, hl.1, ih]
    rcases lt_trichotomy n (k : Int) with hlt | heq | hgt
    · have hne : ¬ (k : Int) = n := by omega
      have hlt' : n < ((k + 1 : Nat) : Int) := by omega
      rw [if_pos hlt, if_pos hlt']
      simp [hne]
    · have hk : ¬ n < (k : Int) := by omega
      have hz : (n - k).toNat = 0 := by omega
      simp [heq]
    · have hne : ¬ (k : Int) = n := by omega
      have hnlt : ¬ n < (k : Int) := by omega
      have hnlt' : ¬ n < ((k + 1 : Nat) : Int) := by omega
      have hs : (n - k).toNat = (n - ((k + 1 : Nat) : Int)).toNat + 1 := by omega
      rw [if_neg hnlt, if_neg hnlt', hs, List.getElem?_cons_succ]
      simp [hne]

theorem latest_rel {α β : Type} {eq : β → β → Bool} {f : β → α} {g : α → β}
    (hfg : ∀ b, eq (g (f b)) b = true) (l : List β) :
    Option.Rel (fun a b => eq a b = true) (((l.map f).getLast?).map g) l.getLast? := by
  rw [List.getLast?_map, Option.map_map]
  cases l.getLast? with
  | none => exact .none
  | some b => exact .some (hfg b)

theorem eventBySequence (h : Agree s db) (id : UUID) (n : Int) : SameAnswer EventRecord.pyEq
    (Sqlite.getEventBySequence db id n) (InMemory.getEventBySequence s id n) := by
  have hfind : db.events.find? (fun row => row.taskId = id ∧ (row.sequence : Int) = n) =
      ((stream s id).find? fun r => (r.event.sequence : Int) = n).map Sqlite.EventRow.values := by
    have hf : db.events.find? (fun row => row.taskId = id ∧ (row.sequence : Int) = n) =
        (db.events.filter (·.taskId = id)).find? fun row => (row.sequence : Int) = n := by
      simp [List.find?_filter]
    rw [hf, h.events, List.find?_map]
    rfl
  unfold Sqlite.getEventBySequence InMemory.getEventBySequence
  rw [hfind, find_numbered _ n _ 1 (h.numbered id)]
  by_cases hn : n < 1
  · simp [hn, SameAnswer]
  by_cases hlen : ((stream s id).length : Int) < n
  · have hnone : (stream s id)[(n - (1 : Nat)).toNat]? = none := List.getElem?_eq_none (by omega)
    have hcast : ¬ n < ((1 : Nat) : Int) := hn
    rw [if_neg hcast, hnone, dif_pos (Or.inr hlen)]
    rfl
  · have hlt : (n - 1).toNat < (stream s id).length := by omega
    have hsome : (stream s id)[(n - (1 : Nat)).toNat]? = some ((stream s id).get ⟨(n - 1).toNat, hlt⟩) :=
      List.getElem?_eq_getElem hlt
    have hcast : ¬ n < ((1 : Nat) : Int) := hn
    have hin : ¬ (n < 1 ∨ ((stream s id).length : Int) < n) := by omega
    rw [if_neg hcast, hsome, dif_neg hin]
    exact pyEq_stored _

theorem checkpointBySequence (h : Agree s db) (id : UUID) (n : Int) : SameAnswer SimulationCheckpoint.pyEq
    (Sqlite.getByRuntimeSequence db id n) (InMemory.getByRuntimeSequence s id n) := by
  have hfind : db.simulationCheckpoints.find?
      (fun row => row.metadata.taskId = id ∧ (row.metadata.runtimeSequence : Int) = n) =
      ((checkpointStream s id).find? fun c => (c.metadata.runtimeSequence : Int) = n).map
        Sqlite.CheckpointRow.values := by
    have hf : db.simulationCheckpoints.find?
        (fun row => row.metadata.taskId = id ∧ (row.metadata.runtimeSequence : Int) = n) =
        (db.simulationCheckpoints.filter (·.metadata.taskId = id)).find?
          fun row => (row.metadata.runtimeSequence : Int) = n := by
      simp [List.find?_filter]
    rw [hf, h.checkpoints, List.find?_map]
    rfl
  unfold Sqlite.getByRuntimeSequence InMemory.getByRuntimeSequence
  rw [hfind]
  cases (checkpointStream s id).find? fun c => (c.metadata.runtimeSequence : Int) = n with
  | none => rfl
  | some c => exact pyEq_storedCheckpoint c

theorem sameReads (h : Agree s db) : SameReads s db where
  task id := by
    unfold Sqlite.getTask InMemory.getTask
    rw [h.find_task]
    cases s.tasks.get id <;> rfl
  approval id := by
    unfold Sqlite.getApproval InMemory.getApproval
    rw [h.find_approval]
    cases s.approvals.get id <;> rfl
  latestEvent id := by
    rw [Sqlite.latestEvent, InMemory.latestEvent, h.eventRows_eq]
    exact latest_rel pyEq_stored _
  eventBySequence := h.eventBySequence
  latestCheckpoint id := by
    rw [Sqlite.latestCheckpoint, InMemory.latestCheckpoint, h.checkpointRows_eq]
    exact latest_rel pyEq_storedCheckpoint _
  checkpointBySequence := h.checkpointBySequence

/-! ## Tasks -/

theorem createTask_ok (h : Agree s db) {r : TaskRecord} (ha : s.tasks.contains r.task.id = false) :
    InMemory.createTask r s = (.ok (), { s with tasks := s.tasks.set r.task.id r }) ∧
      ∃ db', Sqlite.createTask r db = (.ok (), db') ∧ Agree { s with tasks := s.tasks.set r.task.id r } db' := by
  have hnone : s.tasks.get r.task.id = none := by simpa [Assoc.contains] using ha
  refine ⟨by simp [InMemory.createTask, ha], _, by simp only [Sqlite.createTask, h.any_task, ha]; rfl, ?_⟩
  exact { h with
    tasks := by
      have hv := @Assoc.Keyed.values_set_new _ _ _ (fun t : TaskRecord => t.task.id) _ _ hnone
      simp only [hv, h.tasks, List.map_append, List.map_cons, List.map_nil]
    taskKeys := h.taskKeys.set r }

theorem updateTask_ok (h : Agree s db) {r current : TaskRecord} (hget : s.tasks.get r.task.id = some current)
    (hseq : current.task.sequence ≤ r.task.sequence) (htime : current.task.updatedAt ≤ r.task.updatedAt) :
    InMemory.updateTask r s = (.ok (), { s with tasks := s.tasks.set r.task.id r }) ∧
      ∃ db', Sqlite.updateTask r db = (.ok (), db') ∧ Agree { s with tasks := s.tasks.set r.task.id r } db' := by
  have hfresh : ¬ (r.task.sequence < current.task.sequence ∨ r.task.updatedAt < current.task.updatedAt) := by
    rw [not_or, not_lt, not_lt]; exact ⟨hseq, htime⟩
  have hfind : Sqlite.getTask r.task.id db = (.ok current, db) := by
    unfold Sqlite.getTask
    rw [h.find_task, hget]
    rfl
  have hin : InMemory.getTask r.task.id s = (.ok current, s) := by
    unfold InMemory.getTask
    rw [hget]
  refine ⟨?_, { db with tasks := db.tasks.map fun row =>
    if row.id = r.task.id then Sqlite.TaskRow.values r else row }, ?_, ?_⟩
  · rw [InMemory.updateTask, bind_of_ok hin, bind_of_ok (raiseIf_not hfresh)]
    rfl
  · rw [Sqlite.updateTask, bind_of_ok hfind, bind_of_ok (raiseIf_not hfresh)]
    rfl
  · exact { h with
      tasks := by
        have hv := h.taskKeys.values_set_old (v := r) hget
        rw [hv, h.tasks, List.map_map, List.map_map]
        refine List.map_congr_left fun t _ => ?_
        simp only [Function.comp]
        split <;> simp_all [Sqlite.TaskRow.values]
      taskKeys := h.taskKeys.set r }

/-! ## Events

Both loops of `append_many` read the stored events once and keep in two variables what
appending the records one by one would store. `AtPrefix` says that they do. -/

/-- `base` and `known` are what the loop read of the store, `s` is the store with the
records of the prefix appended. -/
structure AtPrefix (base : UUID → Nat) (known : UUID → Prop) (expected : Assoc UUID Nat) (pending : List UUID)
    (s : InMemoryPersistenceState) : Prop where
  next : ∀ id, (expected.get id).getD (base id) = (stream s id).length + 1
  taken : ∀ i, (i ∈ pending ∨ known i) ↔ ∃ task, ∃ stored ∈ stream s task, stored.id = i

theorem AtPrefix.push {base : UUID → Nat} {known : UUID → Prop} {expected : Assoc UUID Nat} {pending : List UUID}
    (h : AtPrefix base known expected pending s) (r : EventRecord) :
    AtPrefix base known (expected.set r.event.taskId ((expected.get r.event.taskId).getD (base r.event.taskId) + 1))
      (r.id :: pending) (InMemory.push s r) where
  next id := by
    rw [stream_push, Assoc.get_set]
    by_cases hid : r.event.taskId = id
    · subst hid
      simp [h.next]
    · rw [if_neg hid, if_neg hid, h.next]
  taken i := by
    rw [List.mem_cons, or_assoc, h.taken]
    constructor
    · rintro (rfl | ⟨task, stored, hm, rfl⟩)
      · exact ⟨r.event.taskId, r, by simp [stream_push], rfl⟩
      · refine ⟨task, stored, ?_, rfl⟩
        rw [stream_push]
        split
        · exact List.mem_append_left _ hm
        · exact hm
    · rintro ⟨task, stored, hm, rfl⟩
      rw [stream_push] at hm
      split at hm
      · rcases List.mem_append.1 hm with hm | hm
        · exact .inr ⟨task, stored, hm, rfl⟩
        · exact .inl (congrArg EventRecord.id (List.mem_singleton.1 hm))
      · exact .inr ⟨task, stored, hm, rfl⟩

/-- The identifier test of either loop. -/
theorem AtPrefix.fresh {base : UUID → Nat} {known : UUID → Prop} {expected : Assoc UUID Nat} {pending : List UUID}
    (h : AtPrefix base known expected pending s) (i : UUID) :
    ¬ (i ∈ pending ∨ known i) ↔ ∀ task, ∀ stored ∈ stream s task, stored.id ≠ i := by
  rw [h.taken]
  push Not
  rfl

theorem inMemory_checkAppend {s₀ : InMemoryPersistenceState} {identifiers : List UUID} :
    ∀ {rs : List EventRecord} {s : InMemoryPersistenceState} {expected : Assoc UUID Nat} {pending : List UUID},
      s.tasks = s₀.tasks →
      AtPrefix (fun id => (stream s₀ id).length + 1) (· ∈ identifiers) expected pending s →
      (InMemory.checkAppend s₀ identifiers expected pending rs = .ok () ↔ Appendable s rs)
  | [], _, _, _, _, _ => by simp [InMemory.checkAppend, Appendable]
  | r :: rs, s, expected, pending, ht, h => by
    have ih := @inMemory_checkAppend s₀ identifiers rs (push s r) _ _ ht (h.push r)
    have hfresh := h.fresh r.id
    rw [or_comm] at hfresh
    simp only [InMemory.checkAppend, Appendable, ← ih, ht, ← hfresh, ← h.next]
    split
    · simp_all
    split
    · simp_all
    split
    · simp_all
    simp_all

theorem sqlite_checkAppend {db₀ : SqliteDatabase} :
    ∀ {rs : List EventRecord} {s : InMemoryPersistenceState} {expected : Assoc UUID Nat} {pending : List UUID},
      AtPrefix (Sqlite.nextSequence db₀) (fun i => db₀.events.any (·.id = i) = true) expected pending s →
      ((Sqlite.checkAppend db₀ expected pending rs = .ok () ∧ ∀ r ∈ rs, s.tasks.contains r.event.taskId) ↔
        Appendable s rs)
  | [], _, _, _, _ => by simp [Sqlite.checkAppend, Appendable]
  | r :: rs, s, expected, pending, h => by
    have ih := @sqlite_checkAppend db₀ rs (push s r) _ _ (h.push r)
    have hfresh := h.fresh r.id
    simp only [Sqlite.checkAppend, Appendable, ← ih, ← hfresh, ← h.next, List.forall_mem_cons, push_tasks]
    split
    · simp_all
    split
    · simp_all
    rename_i hid hseq
    constructor
    · rintro ⟨hc, hr, hrs⟩
      exact ⟨hr, hid, not_not.1 hseq, hc, hrs⟩
    · rintro ⟨hr, -, -, hc, hrs⟩
      exact ⟨hc, hr, hrs⟩

/-- Appending one record that is next in its stream. -/
theorem push (h : Agree s db) {r : EventRecord} (htask : s.tasks.contains r.event.taskId)
    (hid : ∀ id, ∀ stored ∈ stream s id, stored.id ≠ r.id)
    (hseq : r.event.sequence = (stream s r.event.taskId).length + 1) :
    ∃ db', Sqlite.insertEvent r db = (.ok (), db') ∧ Agree (InMemory.push s r) db' := by
  refine ⟨{ db with events := db.events ++ [Sqlite.EventRow.values r] }, ?_, ?_⟩
  · have hunique : ¬ (db.events.any fun existing => existing.id = (Sqlite.EventRow.values r).id ∨
        existing.taskId = (Sqlite.EventRow.values r).taskId ∧
          existing.sequence = (Sqlite.EventRow.values r).sequence) = true := by
      simp only [List.any_eq_true, decide_eq_true_eq, not_exists, not_and, not_or]
      rintro row hrow
      obtain ⟨stored, hm, rfl⟩ := h.mem_events.1 hrow
      refine ⟨hid _ stored hm, fun ht hn => ?_⟩
      have ht' : stored.event.taskId = r.event.taskId := ht
      have hn' : stored.event.sequence = r.event.sequence := hn
      have hle := (h.stream_sequence_le hm).2
      have htid : (Sqlite.EventRow.values stored).taskId = r.event.taskId := ht
      rw [htid] at hle
      omega
    have hforeign : db.tasks.any (·.id = (Sqlite.EventRow.values r).taskId) = true := by
      rw [h.any_task]; exact htask
    rw [Sqlite.insertEvent, if_neg hunique, if_neg (not_not.2 hforeign)]
  · exact { h with
      events := fun id => by
        rw [List.filter_append, h.events, stream_push]
        by_cases ht : r.event.taskId = id
        · simp [ht, Sqlite.EventRow.values]
        · simp [ht, Sqlite.EventRow.values]
      streamKeys := Assoc.keys_set h.streamKeys
      numbered := fun id => by
        rw [stream_push]
        by_cases ht : r.event.taskId = id
        · subst ht
          rw [if_pos rfl, List.map_append, h.numbered, List.length_append, List.length_singleton,
            List.range'_concat, List.map_singleton, hseq, Nat.one_mul, Nat.add_comm 1]
        · rw [if_neg ht, h.numbered] }

theorem insertEvents_ok : ∀ {rs : List EventRecord} {s : InMemoryPersistenceState} {db : SqliteDatabase},
    Agree s db → Appendable s rs →
      ∃ db', Sqlite.insertEvents rs db = (.ok (), db') ∧ Agree (rs.foldl InMemory.push s) db'
  | [], _, db, h, _ => ⟨db, rfl, h⟩
  | _ :: _, _, _, h, ⟨htask, hid, hseq, hrest⟩ => by
    obtain ⟨db₁, hr, h₁⟩ := h.push htask hid hseq
    obtain ⟨db₂, hrs, h₂⟩ := insertEvents_ok h₁ hrest
    exact ⟨db₂, by rw [Sqlite.insertEvents, bind_of_ok hr, hrs], h₂⟩

/-- Rows that went in met the foreign key. -/
theorem insertEvents_known : ∀ {rs : List EventRecord} {db db' : SqliteDatabase},
    Sqlite.insertEvents rs db = (.ok (), db') → ∀ r ∈ rs, db.tasks.any (·.id = r.event.taskId) = true
  | [], _, _, _ => by simp
  | r :: rs, db, db', hi => by
    obtain ⟨_, db₁, hr, hrs⟩ := bind_ok hi
    simp only [Sqlite.insertEvent] at hr
    split at hr
    · simp at hr
    split at hr
    · simp at hr
    rename_i _ hforeign
    simp only [Prod.mk.injEq, true_and] at hr
    have ih := insertEvents_known hrs
    rw [← hr] at ih
    exact List.forall_mem_cons.2 ⟨not_not.1 hforeign, ih⟩

/-- Before the first record the variables stand for what is stored. -/
theorem atPrefix_inMemory (h : Agree s db) :
    AtPrefix (fun id => (stream s id).length + 1) (· ∈ s.events.values.flatten.map (·.id)) [] [] s where
  next _ := rfl
  taken i := by
    simp only [List.not_mem_nil, false_or, List.mem_map, Assoc.mem_values_flatten h.streamKeys]
    constructor
    · rintro ⟨r, ⟨task, hm⟩, rfl⟩
      exact ⟨task, r, hm, rfl⟩
    · rintro ⟨task, r, hm, rfl⟩
      exact ⟨r, ⟨task, hm⟩, rfl⟩

theorem atPrefix_sqlite (h : Agree s db) :
    AtPrefix (Sqlite.nextSequence db) (fun i => db.events.any (·.id = i) = true) [] [] s where
  next id := h.nextSequence_eq id
  taken i := by
    have hfresh := not_congr (h.event_fresh i)
    rw [Bool.not_eq_false] at hfresh
    simp only [List.not_mem_nil, false_or, hfresh]
    push Not
    rfl

theorem appendMany_ok (h : Agree s db) {rs : List EventRecord} (ha : Appendable s rs) :
    InMemory.appendMany rs s = (.ok (), rs.foldl InMemory.push s) ∧
      ∃ db', Sqlite.appendMany rs db = (.ok (), db') ∧ Agree (rs.foldl InMemory.push s) db' := by
  obtain ⟨db', hi, hagree⟩ := insertEvents_ok h ha
  refine ⟨?_, db', ?_, hagree⟩
  · rw [InMemory.appendMany, (inMemory_checkAppend rfl h.atPrefix_inMemory).2 ha]
  · rw [Sqlite.appendMany, ((sqlite_checkAppend h.atPrefix_sqlite).2 ha).1, hi]

theorem appendMany_rejected (h : Agree s db) {rs : List EventRecord} (ha : ¬ Appendable s rs) :
    accepted (InMemory.appendMany rs s).1 = false ∧ accepted (Sqlite.appendMany rs db).1 = false := by
  constructor
  · unfold InMemory.appendMany
    split
    · rfl
    · rename_i hc
      exact absurd ((inMemory_checkAppend rfl h.atPrefix_inMemory).1 hc) ha
  · unfold Sqlite.appendMany
    split
    · rfl
    · rename_i hc
      rcases hi : Sqlite.insertEvents rs db with ⟨error | done, db'⟩
      · rfl
      · refine absurd ((sqlite_checkAppend h.atPrefix_sqlite).1 ⟨hc, fun r hr => ?_⟩) ha
        rw [← h.any_task]
        exact insertEvents_known hi r hr

/-! ## Approvals -/

/-- The partial index against the records. -/
theorem pendingConflict_iff (h : Agree s db) (r : ApprovalRecord) :
    Sqlite.pendingConflict db (Sqlite.ApprovalRow.values r) = true ↔
      r.approval.status = .pending ∧ ∃ other ∈ s.approvals.values, other.approval.id ≠ r.approval.id ∧
        other.approval.status = .pending ∧ other.approval.taskId = r.approval.taskId ∧
        other.approval.action = r.approval.action := by
  rw [Sqlite.pendingConflict, h.approvals, List.any_map]
  simp only [Bool.and_eq_true, decide_eq_true_eq, List.any_eq_true, Function.comp_apply, and_assoc]
  rfl

theorem pendingConflict_fresh (h : Agree s db) {r : ApprovalRecord}
    (hnew : s.approvals.contains r.approval.id = false) :
    Sqlite.pendingConflict db (Sqlite.ApprovalRow.values r) = true ↔
      r.approval.status = .pending ∧ duplicatePending s r.approval = true := by
  rw [h.pendingConflict_iff, duplicatePending, List.any_eq_true]
  rw [← h.approvalKeys.any, List.any_eq_false] at hnew
  refine and_congr_right fun _ => exists_congr fun other => and_congr_right fun hm => ?_
  have hne : other.approval.id ≠ r.approval.id := by simpa using hnew other hm
  simp only [Bool.and_eq_true, decide_eq_true_eq, and_assoc]
  constructor
  · rintro ⟨-, hp, ht, ha⟩
    exact ⟨ht, hp, ha⟩
  · rintro ⟨ht, hp, ha⟩
    exact ⟨hne, hp, ht, ha⟩

theorem createApproval_ok (h : Agree s db) {r : ApprovalRecord} (htask : s.tasks.contains r.approval.taskId)
    (hnew : s.approvals.contains r.approval.id = false)
    (hdup : r.approval.status = .pending → duplicatePending s r.approval = false) :
    InMemory.createApproval r s = (.ok (), { s with approvals := s.approvals.set r.approval.id r }) ∧
      ∃ db', Sqlite.createApproval r db = (.ok (), db') ∧
        Agree { s with approvals := s.approvals.set r.approval.id r } db' := by
  have hnone : s.approvals.get r.approval.id = none := by simpa [Assoc.contains] using hnew
  refine ⟨?_, { db with approvals := db.approvals ++ [Sqlite.ApprovalRow.values r] }, ?_, ?_⟩
  · have hd : ¬ (r.approval.status = .pending ∧ duplicatePending s r.approval = true) := by
      rintro ⟨hp, hd⟩
      simp [hdup hp] at hd
    simp only [InMemory.createApproval]
    rw [if_neg (not_not.2 htask), if_neg (by simp [hnew]), if_neg hd]
  · have hd : ¬ (db.approvals.any (·.id = (Sqlite.ApprovalRow.values r).id) = true ∨
        Sqlite.pendingConflict db (Sqlite.ApprovalRow.values r) = true) := by
      rw [h.any_approval, h.pendingConflict_fresh hnew]
      rintro (hc | ⟨hp, hd⟩)
      · have hc' : s.approvals.contains r.approval.id = true := hc
        simp [hnew] at hc'
      · simp [hdup hp] at hd
    have hforeign : db.tasks.any (·.id = (Sqlite.ApprovalRow.values r).taskId) = true := by
      rw [h.any_task]; exact htask
    simp only [Sqlite.createApproval]
    rw [if_neg hd, if_neg (not_not.2 hforeign)]
  · exact { h with
      approvals := by
        have hv := @Assoc.Keyed.values_set_new _ _ _ (fun r : ApprovalRecord => r.approval.id) _ _ hnone
        simp only [hv, h.approvals, List.map_append, List.map_cons, List.map_nil]
      approvalKeys := h.approvalKeys.set r }

theorem createApproval_rejected (h : Agree s db) {r : ApprovalRecord}
    (ha : ¬ Admissible s (.createApproval r)) :
    accepted (InMemory.createApproval r s).1 = false ∧ accepted (Sqlite.createApproval r db).1 = false := by
  constructor
  · simp only [InMemory.createApproval]
    split
    · rfl
    split
    · rfl
    split
    · rfl
    rename_i htask hnew hdup
    refine absurd ⟨not_not.1 htask, by simpa using hnew, fun hp => ?_⟩ ha
    simpa using fun hd => hdup ⟨hp, hd⟩
  · simp only [Sqlite.createApproval]
    split
    · rfl
    split
    · rfl
    rename_i hdup hforeign
    rw [h.any_task] at hforeign
    rw [not_or, h.any_approval, Bool.not_eq_true] at hdup
    have hnew : s.approvals.contains r.approval.id = false := hdup.1
    refine absurd ⟨not_not.1 hforeign, hnew, fun hp => ?_⟩ ha
    rw [h.pendingConflict_fresh hnew] at hdup
    simpa using fun hd => hdup.2 ⟨hp, hd⟩

theorem getApproval_eq (h : Agree s db) {id : UUID} {current : ApprovalRecord}
    (hget : s.approvals.get id = some current) : Sqlite.getApproval id db = (.ok current, db) := by
  unfold Sqlite.getApproval
  rw [h.find_approval, hget]
  rfl

theorem updateApproval_inMemory {r current : ApprovalRecord} (hget : s.approvals.get r.approval.id = some current)
    (hp : current.approval.status = .pending) (hc : r.approval.createdAt = current.approval.createdAt) :
    InMemory.updateApproval r s = (.ok (), { s with approvals := s.approvals.set r.approval.id r }) := by
  have hin : InMemory.getApproval r.approval.id s = (.ok current, s) := by
    unfold InMemory.getApproval
    rw [hget]
  rw [InMemory.updateApproval, bind_of_ok hin, bind_of_ok (raiseIf_not (not_not.2 hp)),
    bind_of_ok (raiseIf_not (not_not.2 hc))]
  rfl

theorem updateApproval_ok (h : Agree s db) {r current : ApprovalRecord}
    (hget : s.approvals.get r.approval.id = some current) (hp : current.approval.status = .pending)
    (hc : r.approval.createdAt = current.approval.createdAt) (hkeep : KeepsRequest s r) :
    ∃ db', Sqlite.updateApproval r db = (.ok (), db') ∧
      Agree { s with approvals := s.approvals.set r.approval.id r } db' := by
  obtain ⟨htask, haction, hother⟩ := hkeep current hget
  have himmutable : ¬ (r.approval.taskId ≠ current.approval.taskId ∨
      r.approval.action.pyEq current.approval.action = false ∨
      r.approval.createdAt ≠ current.approval.createdAt) := by
    simp [htask, haction, hc]
  have hconflict : ¬ Sqlite.pendingConflict db (Sqlite.ApprovalRow.values r) = true := by
    rw [h.pendingConflict_iff]
    rintro ⟨hpending, other, hm, hne, hop, hot, hoa⟩
    exact hother hpending other hm hne hop hot hoa
  refine ⟨{ db with approvals := db.approvals.map fun row =>
    if row.id = r.approval.id then Sqlite.ApprovalRow.values r else row }, ?_, ?_⟩
  · rw [Sqlite.updateApproval, bind_of_ok (h.getApproval_eq hget), bind_of_ok (raiseIf_not (not_not.2 hp))]
    refine (bind_of_ok (raiseIf_not himmutable)).trans ?_
    exact if_neg hconflict
  · exact { h with
      approvals := by
        have hv := h.approvalKeys.values_set_old (v := r) hget
        rw [hv, h.approvals, List.map_map, List.map_map]
        refine List.map_congr_left fun t _ => ?_
        simp only [Function.comp]
        split <;> simp_all [Sqlite.ApprovalRow.values]
      approvalKeys := h.approvalKeys.set r }

/-- What SQLite takes, the rules admit, and it keeps the request. -/
theorem updateApproval_sqlite (h : Agree s db) {r : ApprovalRecord} {db' : SqliteDatabase}
    (hok : Sqlite.updateApproval r db = (.ok (), db')) :
    Admissible s (.updateApproval r) ∧ KeepsRequest s r := by
  obtain ⟨current, db₁, hget, h₁⟩ := bind_ok hok
  obtain ⟨_, db₂, hresolved, h₂⟩ := bind_ok h₁
  obtain ⟨hp, rfl⟩ := raiseIf_ok hresolved
  obtain ⟨_, db₃, himmutable, h₃⟩ := bind_ok h₂
  obtain ⟨hi, rfl⟩ := raiseIf_ok himmutable
  unfold Sqlite.getApproval at hget
  rw [h.find_approval] at hget
  cases hs : s.approvals.get r.approval.id with
  | none => simp [hs] at hget
  | some old =>
    simp only [hs, Option.map_some, Sqlite.ApprovalRow.record_values, Prod.mk.injEq, Except.ok.injEq] at hget
    obtain ⟨rfl, rfl⟩ := hget
    simp only [ne_eq, not_or, not_not, Bool.not_eq_false] at hi
    split at h₃
    · simp at h₃
    rename_i hconflict
    rw [h.pendingConflict_iff] at hconflict
    refine ⟨⟨old, hs, not_not.1 hp, hi.2.2⟩, fun current hcurrent => ?_⟩
    obtain rfl : old = current := Option.some.inj (hs ▸ hcurrent)
    refine ⟨hi.1, hi.2.1, fun hpending other hm hne hop hot hoa => ?_⟩
    exact hconflict ⟨hpending, other, hm, hne, hop, hot, hoa⟩

/-! ## Checkpoints -/

/-- The table has a checkpoint with this identifier exactly when a stream has. -/
theorem any_checkpoint (h : Agree s db) (id : UUID) :
    (∀ task, ∀ stored ∈ checkpointStream s task, stored.metadata.id ≠ id) ↔
      ∀ row ∈ db.simulationCheckpoints, row.metadata.id ≠ id := by
  constructor
  · rintro hstored row hrow
    obtain ⟨c, hc, rfl⟩ := h.mem_checkpoints.1 hrow
    exact hstored _ c hc
  · intro hrow task stored hstored
    obtain rfl := h.checkpoint_task hstored
    exact hrow (Sqlite.CheckpointRow.values stored) (h.mem_checkpoints.2 ⟨stored, hstored, rfl⟩)

theorem checkpointStream_set (s : InMemoryPersistenceState) (id id' : UUID) (l : List SimulationCheckpoint) :
    checkpointStream { s with checkpoints := s.checkpoints.set id l } id' =
      if id = id' then l else checkpointStream s id' := by
  unfold checkpointStream
  rw [Assoc.get_set]
  split <;> rfl

/-- `setdefault` leaves every stream as it is. -/
theorem checkpointStream_setdefault (s : InMemoryPersistenceState) (id id' : UUID) :
    checkpointStream { s with checkpoints := s.checkpoints.set id (checkpointStream s id) } id' =
      checkpointStream s id' := by
  rw [checkpointStream_set]
  split
  · rename_i hid; rw [hid]
  · rfl

/-- The identifier test of `save` in memory. -/
theorem any_flatten (h : Agree s db) (task id : UUID) :
    ((s.checkpoints.set task (checkpointStream s task)).values.flatten.any fun c => c.metadata.id = id) = false ↔
      ∀ t, ∀ stored ∈ checkpointStream s t, stored.metadata.id ≠ id := by
  simp only [List.any_eq_false, decide_eq_true_eq, Assoc.mem_values_flatten (Assoc.keys_set h.checkpointKeys)]
  constructor
  · intro hall t stored hm
    refine hall stored ⟨t, ?_⟩
    have hst := checkpointStream_setdefault s task t
    rw [← hst] at hm
    exact hm
  · rintro hall c ⟨t, hm⟩
    have hst := checkpointStream_setdefault s task t
    exact hall t c (hst ▸ hm)

/-- What `save` leaves in memory: the stream it set by default, then extended. -/
def saved (s : InMemoryPersistenceState) (c : SimulationCheckpoint) : InMemoryPersistenceState :=
  let id := c.metadata.taskId
  let s' := { s with checkpoints := s.checkpoints.set id (checkpointStream s id) }
  { s with checkpoints := s'.checkpoints.set id (checkpointStream s' id ++ [c]) }

theorem checkpointStream_saved (s : InMemoryPersistenceState) (c : SimulationCheckpoint) (id : UUID) :
    checkpointStream (saved s c) id =
      if c.metadata.taskId = id then checkpointStream s id ++ [c] else checkpointStream s id := by
  by_cases ht : c.metadata.taskId = id
  · subst ht; simp [saved, checkpointStream]
  · simp [saved, checkpointStream, Assoc.get_set, ht]

theorem saveCheckpoint_inMemory (h : Agree s db) {c : SimulationCheckpoint}
    (ha : Admissible s (.saveCheckpoint c)) : InMemory.saveCheckpoint c s = (.ok (), saved s c) := by
  obtain ⟨hschema, htask, hlatest, hid⟩ := ha
  have hnewer : ¬ ((checkpointStream s c.metadata.taskId).getLast?.any fun latest =>
      c.metadata.runtimeSequence ≤ latest.metadata.runtimeSequence) = true := by
    simp only [Option.any_eq_true, decide_eq_true_eq, not_exists, not_and, not_le]
    exact hlatest
  have hunused : ¬ ((s.checkpoints.set c.metadata.taskId (checkpointStream s c.metadata.taskId)).values.flatten.any
      fun stored => stored.metadata.id = c.metadata.id) = true := by
    rw [Bool.not_eq_true]
    exact (h.any_flatten c.metadata.taskId c.metadata.id).2 hid
  exact (if_neg (not_not.2 hschema)).trans <| (if_neg (not_not.2 htask)).trans <| (if_neg hnewer).trans <|
    if_neg hunused

/-- A newer checkpoint than the latest is newer than every stored one. -/
theorem newer (h : Agree s db) {c : SimulationCheckpoint} (ha : Admissible s (.saveCheckpoint c)) :
    ∀ stored ∈ checkpointStream s c.metadata.taskId,
      stored.metadata.runtimeSequence < c.metadata.runtimeSequence := by
  obtain ⟨-, -, hlatest, -⟩ := ha
  intro stored hm
  refine lt_of_lt_getLast (h.increasing _) (fun n hn => ?_) _ (List.mem_map_of_mem hm)
  rw [List.getLast?_map, Option.mem_def, Option.map_eq_some_iff] at hn
  obtain ⟨latest, hl, rfl⟩ := hn
  exact hlatest latest hl

theorem saveCheckpoint_sqlite (h : Agree s db) {c : SimulationCheckpoint}
    (ha : Admissible s (.saveCheckpoint c)) : Sqlite.saveCheckpoint c db = (.ok (),
      { db with simulationCheckpoints := db.simulationCheckpoints ++ [Sqlite.CheckpointRow.values c] }) := by
  have hlt := h.newer ha
  obtain ⟨hschema, htask, hlatest, hid⟩ := ha
  have hnewer : ¬ ((Sqlite.checkpointRows db c.metadata.taskId).getLast?.any fun latest =>
      c.metadata.runtimeSequence ≤ latest.metadata.runtimeSequence) = true := by
    rw [h.checkpointRows_eq, List.getLast?_map, Option.any_map]
    simp only [Option.any_eq_true, decide_eq_true_eq, not_exists, not_and, not_le]
    exact hlatest
  have hunique : ¬ (db.simulationCheckpoints.any fun existing => existing.metadata.id = c.metadata.id ∨
      existing.metadata.taskId = c.metadata.taskId ∧
        existing.metadata.runtimeSequence = c.metadata.runtimeSequence) = true := by
    simp only [List.any_eq_true, decide_eq_true_eq, not_exists, not_and, not_or]
    rintro row hrow
    refine ⟨(h.any_checkpoint _).1 hid row hrow, fun ht hn => ?_⟩
    obtain ⟨stored, hm, rfl⟩ := h.mem_checkpoints.1 hrow
    rw [ht] at hm
    exact absurd hn (Nat.ne_of_lt (hlt stored hm))
  have hforeign : db.tasks.any (·.id = c.metadata.taskId) = true := by rw [h.any_task]; exact htask
  exact (if_neg (not_not.2 hschema)).trans <| (if_neg hnewer).trans <| (if_neg hunique).trans <|
    if_neg (not_not.2 hforeign)

theorem saveCheckpoint_ok (h : Agree s db) {c : SimulationCheckpoint} (ha : Admissible s (.saveCheckpoint c)) :
    ∃ s' db', InMemory.saveCheckpoint c s = (.ok (), s') ∧ Sqlite.saveCheckpoint c db = (.ok (), db') ∧
      Agree s' db' := by
  refine ⟨_, _, h.saveCheckpoint_inMemory ha, h.saveCheckpoint_sqlite ha, ?_⟩
  exact { h with
    checkpoints := fun id => by
      rw [List.filter_append, h.checkpoints, checkpointStream_saved]
      by_cases ht : c.metadata.taskId = id
      · simp [ht, Sqlite.CheckpointRow.values]
      · simp [ht, Sqlite.CheckpointRow.values]
    checkpointKeys := Assoc.keys_set (Assoc.keys_set h.checkpointKeys)
    increasing := fun id => by
      rw [checkpointStream_saved]
      split
      · rename_i ht
        subst ht
        rw [List.map_append, List.pairwise_append]
        refine ⟨h.increasing _, by simp, fun n hn m hm => ?_⟩
        obtain ⟨stored, hs, rfl⟩ := List.mem_map.1 hn
        rw [List.map_singleton, List.mem_singleton] at hm
        exact hm ▸ h.newer ha stored hs
      · exact h.increasing id }

theorem saveCheckpoint_rejected (h : Agree s db) {c : SimulationCheckpoint}
    (ha : ¬ Admissible s (.saveCheckpoint c)) :
    accepted (InMemory.saveCheckpoint c s).1 = false ∧ accepted (Sqlite.saveCheckpoint c db).1 = false := by
  constructor
  · simp only [InMemory.saveCheckpoint]
    split
    · rfl
    split
    · rfl
    split
    · rfl
    split
    · rfl
    rename_i hschema htask hnewer hunused
    refine absurd ⟨not_not.1 hschema, not_not.1 htask, fun latest hl => ?_, ?_⟩ ha
    · simp only [Option.any_eq_true, decide_eq_true_eq, not_exists, not_and, not_le] at hnewer
      exact hnewer latest hl
    · exact (h.any_flatten c.metadata.taskId c.metadata.id).1 (by simpa using hunused)
  · simp only [Sqlite.saveCheckpoint]
    split
    · rfl
    split
    · rfl
    split
    · rfl
    split
    · rfl
    rename_i hschema hnewer hunique hforeign
    rw [h.any_task] at hforeign
    refine absurd ⟨not_not.1 hschema, not_not.1 hforeign, fun latest hl => ?_, ?_⟩ ha
    · have hrows := h.checkpointRows_eq c.metadata.taskId
      simp only [Sqlite.CheckpointRow.values] at hnewer
      rw [hrows, List.getLast?_map, Option.any_map] at hnewer
      simp only [Option.any_eq_true, decide_eq_true_eq, not_exists, not_and, not_le] at hnewer
      exact hnewer latest hl
    · rw [h.any_checkpoint]
      simp only [List.any_eq_true, decide_eq_true_eq, not_exists, not_and, not_or] at hunique
      exact fun row hrow => (hunique row hrow).1

end Agree

end SimPilot
