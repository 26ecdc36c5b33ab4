import SimPilot.Data.FixedWidth
import SimPilot.Persistence.Indistinguishable
import Mathlib.Order.Monotone.Basic
/-!
# Listings in the order of creation (persistence/sqlite/repositories.py:56-66, 132-136, 304-347)

SQLite orders by the text of `created_at`. `isoformat` writes microseconds only when there
are some, and `"."` lies before `"Z"`, so an instant on the full second is listed behind
the fractional instants of that second. The in-memory store compares the instants.

| here | source |
|---|---|
| `utcText` | `_utc_text` |
| `Sqlite.listTasks`, `Sqlite.listApprovals` | `list`, `list_for_task` |
| `Sqlite.getPendingForTask`, `InMemory.getPendingForTask` | `get_pending_for_task` |
-/

namespace SimPilot
open FixedWidth

/-! ## The calendar -/

def isLeap (year : Nat) : Bool := year % 4 = 0 && (year % 100 ≠ 0 || year % 400 = 0)

def daysInMonth (year month : Nat) : Nat :=
  if month = 2 then if isLeap year then 29 else 28
  else if month = 4 ∨ month = 6 ∨ month = 9 ∨ month = 11 then 30
  else 31

theorem daysInMonth_bounds (year month : Nat) : 1 ≤ daysInMonth year month ∧ daysInMonth year month ≤ 31 := by
  unfold daysInMonth
  split_ifs <;> omega

/-- `datetime.date`. -/
structure Date where
  year : Nat
  month : Nat
  day : Nat
  month_le : month ≤ 12
  day_le : day ≤ daysInMonth year month

/-- The day after. -/
def Date.next (d : Date) : Date :=
  if h : d.day < daysInMonth d.year d.month then ⟨d.year, d.month, d.day + 1, d.month_le, h⟩
  else if h : d.month < 12 then ⟨d.year, d.month + 1, 1, h, (daysInMonth_bounds _ _).1⟩
  else ⟨d.year + 1, 1, 1, by decide, (daysInMonth_bounds _ _).1⟩

/-- `date.fromordinal(n + 1)`: day 0 is 0001-01-01. -/
def dateOf : Nat → Date
  | 0 => ⟨1, 1, 1, by decide, by decide⟩
  | n + 1 => (dateOf n).next

def Date.fields (d : Date) : List Nat := [d.year, d.month, d.day]

theorem Date.lt_next (d : Date) : d.fields < d.next.fields := by
  unfold Date.next
  split_ifs <;> simp [Date.fields, List.cons_lt_cons_iff]

theorem dateOf_strictMono : StrictMono fun n => (dateOf n).fields :=
  strictMono_nat_of_lt_succ fun n => (dateOf n).lt_next

/-! ## The text of an instant -/

/-! A `Timestamp` counts the microseconds from 0001-01-01T00:00:00Z. -/

def microseconds : Nat := 1000000

def secondsPerDay : Nat := 86400

/-- Year, month, day, hour, minute and second of the `n`th second. -/
def secondFields (n : Nat) : List Nat :=
  (dateOf (n / secondsPerDay)).fields ++
    [n % secondsPerDay / 3600, n % secondsPerDay % 3600 / 60, n % secondsPerDay % 3600 % 60]

/-- `YYYY-MM-DDTHH:MM:SS`. -/
def isoLayout : List Field :=
  [⟨4, ['-']⟩, ⟨2, ['-']⟩, ⟨2, ['T']⟩, ⟨2, [':']⟩, ⟨2, [':']⟩, ⟨2, []⟩]

/-- The fraction `isoformat` writes, none at zero, and the offset as `_utc_text` writes it. -/
def fraction (microsecond : Nat) : List Char :=
  if microsecond = 0 then ['Z'] else '.' :: digits 6 microsecond ++ ['Z']

/-- `_utc_text`: `value.astimezone(UTC).isoformat().replace("+00:00", "Z")`. -/
def utcText (t : Nat) : String :=
  String.ofList (render isoLayout (secondFields (t / microseconds)) ++ fraction (t % microseconds))

/-- `datetime` ends with the year 9999. -/
def Representable (t : Nat) : Prop := (dateOf (t / microseconds / secondsPerDay)).year ≤ 9999

instance (t : Nat) : Decidable (Representable t) := inferInstanceAs (Decidable (_ ≤ _))

theorem secondFields_lt_iff {m n : Nat} : secondFields m < secondFields n ↔ m < n := by
  have hmono : StrictMono secondFields := by
    intro m n h
    unfold secondFields
    rw [append_lt_append_iff (by rfl)]
    rcases (lt_iff_div_mod secondsPerDay m n).1 h with hday | ⟨hday, htime⟩
    · exact .inl (dateOf_strictMono hday)
    · refine .inr ⟨by rw [hday], ?_⟩
      have hhour := (lt_iff_div_mod 3600 _ _).1 htime
      simp only [List.cons_lt_cons_iff, List.not_lt_nil, and_false, or_false]
      rcases hhour with hhour | ⟨hhour, hrest⟩
      · exact .inl hhour
      · exact .inr ⟨hhour, (lt_iff_div_mod 60 _ _).1 hrest⟩
  exact hmono.lt_iff_lt

theorem secondFields_inj {m n : Nat} : secondFields m = secondFields n ↔ m = n := by
  constructor
  · intro h
    have hlt := secondFields_lt_iff (m := m) (n := n)
    have hgt := secondFields_lt_iff (m := n) (n := m)
    rw [h] at hlt hgt
    simp only [lt_self_iff_false, false_iff] at hlt hgt
    omega
  · rintro rfl
    rfl

/-- The fields of a representable instant fit their columns. -/
theorem Representable.fits {t : Nat} (h : Representable t) :
    Fits isoLayout (secondFields (t / microseconds)) := by
  have hyear : (dateOf (t / microseconds / secondsPerDay)).year ≤ 9999 := h
  have hmonth := (dateOf (t / microseconds / secondsPerDay)).month_le
  have hday := (dateOf (t / microseconds / secondsPerDay)).day_le
  have hdays := (daysInMonth_bounds (dateOf (t / microseconds / secondsPerDay)).year
    (dateOf (t / microseconds / secondsPerDay)).month).2
  have htime : t / microseconds % secondsPerDay < 86400 := Nat.mod_lt _ (by decide)
  simp only [Fits, isoLayout, secondFields, Date.fields, List.cons_append, List.nil_append, List.forall₂_cons,
    List.forall₂_nil_left_iff, and_true]
  generalize t / microseconds % secondsPerDay = time at htime ⊢
  refine ⟨?_, ?_, ?_, ?_, ?_, ?_⟩ <;> omega

/-- Behind the second, the instant on the full second comes last. -/
theorem fraction_lt_iff {m n : Nat} (hm : m < microseconds) (hn : n < microseconds) :
    fraction m < fraction n ↔ m ≠ 0 ∧ (n = 0 ∨ m < n) := by
  have hpoint : '.' < 'Z' := by decide
  unfold fraction
  by_cases hm0 : m = 0
  · by_cases hn0 : n = 0
    · simp [hm0, hn0]
    · simp [hm0, hn0, List.cons_lt_cons_iff, hpoint.not_gt, hpoint.ne']
  · by_cases hn0 : n = 0
    · simp [hm0, hn0, List.cons_lt_cons_iff, hpoint]
    · have hz : ¬ (['Z'] < ['Z']) := by decide
      rw [if_neg hm0, if_neg hn0, List.cons_append, List.cons_append, List.cons_lt_cons_iff,
        append_lt_append_iff (by simp), digits_lt_iff hm hn]
      simp [hm0, hn0]

/-- `a` falls on a full second and `b` later in the same second. -/
def OutOfOrder (a b : Nat) : Prop :=
  a / microseconds = b / microseconds ∧ a % microseconds = 0 ∧ b % microseconds ≠ 0

instance (a b : Nat) : Decidable (OutOfOrder a b) := inferInstanceAs (Decidable (_ ∧ _ ∧ _))

theorem utcText_lt {a b : Nat} (ha : Representable a) (hb : Representable b) :
    utcText a < utcText b ↔ (a < b ∧ ¬ OutOfOrder a b) ∨ OutOfOrder b a := by
  have hpos : 0 < microseconds := by decide
  rw [utcText, utcText, String.lt_iff_toList_lt, String.toList_ofList, String.toList_ofList,
    render_append_lt_iff ha.fits hb.fits, secondFields_lt_iff, secondFields_inj,
    fraction_lt_iff (Nat.mod_lt a hpos) (Nat.mod_lt b hpos), lt_iff_div_mod microseconds a b, OutOfOrder, OutOfOrder]
  omega

/-- The order of the texts is the order of the instants, but for such pairs. -/
theorem utcText_lt_iff {a b : Nat} (ha : Representable a) (hb : Representable b) :
    (utcText a < utcText b ↔ a < b) ↔ ¬ OutOfOrder a b ∧ ¬ OutOfOrder b a := by
  rw [utcText_lt ha hb]
  have hasymm : OutOfOrder a b → ¬ OutOfOrder b a := fun h h' => h.2.2 h'.2.1
  have hlt : OutOfOrder a b → a < b := by
    rintro ⟨hdiv, hmod, hmod'⟩
    exact (lt_iff_div_mod microseconds a b).2 (.inr ⟨hdiv, by omega⟩)
  have hgt : OutOfOrder b a → b < a := by
    rintro ⟨hdiv, hmod, hmod'⟩
    exact (lt_iff_div_mod microseconds b a).2 (.inr ⟨hdiv, by omega⟩)
  constructor
  · intro h
    refine ⟨fun hab => ?_, fun hba => ?_⟩
    · have := h.2 (hlt hab)
      tauto
    · have := h.1 (.inr hba)
      exact absurd (hgt hba) (by omega)
  · rintro ⟨hab, hba⟩
    tauto

theorem utcText_inj {a b : Nat} (ha : Representable a) (hb : Representable b) :
    utcText a = utcText b ↔ a = b := by
  constructor
  · intro h
    have hlt := utcText_lt ha hb
    have hgt := utcText_lt hb ha
    rw [h] at hlt hgt
    simp only [lt_self_iff_false, false_iff] at hlt hgt
    by_contra hne
    rcases Nat.lt_or_gt_of_ne hne with h | h <;> tauto
  · rintro rfl
    rfl

/-! ## Sorting by the time of creation -/

section Sorting
variable {α κ : Type} [LinearOrder κ]

/-- By creation, ties by `str(id)`. -/
def CreatedOrder (createdAt : α → κ) (id : α → UUID) (a b : α) : Prop :=
  createdAt a < createdAt b ∨ createdAt a = createdAt b ∧ (id a).text ≤ (id b).text

instance (createdAt : α → κ) (id : α → UUID) : DecidableRel (CreatedOrder createdAt id) :=
  fun _ _ => inferInstanceAs (Decidable (_ ∨ _))

instance (createdAt : α → κ) (id : α → UUID) : Std.Total (CreatedOrder createdAt id) where
  total a b := by
    unfold CreatedOrder
    rcases lt_trichotomy (createdAt a) (createdAt b) with h | h | h
    · exact .inl (.inl h)
    · rcases le_total (id a).text (id b).text with hid | hid
      · exact .inl (.inr ⟨h, hid⟩)
      · exact .inr (.inr ⟨h.symm, hid⟩)
    · exact .inr (.inl h)

instance (createdAt : α → κ) (id : α → UUID) : IsTrans α (CreatedOrder createdAt id) where
  trans a b c := by
    rintro (hab | ⟨hab, hid⟩) (hbc | ⟨hbc, hid'⟩)
    · exact .inl (hab.trans hbc)
    · exact .inl (hbc ▸ hab)
    · exact .inl (hab ▸ hbc)
    · exact .inr ⟨hab.trans hbc, hid.trans hid'⟩

variable {createdAt : α → Nat} {id : α → UUID} {l : List α}

/-- No two of the records show the times of one second, one of them on the full second. -/
def InOrder (createdAt : α → Nat) (l : List α) : Prop :=
  ∀ a ∈ l, ∀ b ∈ l, ¬ OutOfOrder (createdAt a) (createdAt b)

/-- The order of the column. -/
abbrev TextOrdered (createdAt : α → Nat) (id : α → UUID) : α → α → Prop :=
  CreatedOrder (fun a => utcText (createdAt a)) id

theorem textOrdered_iff {a b : α} (ha : Representable (createdAt a)) (hb : Representable (createdAt b))
    (hab : ¬ OutOfOrder (createdAt a) (createdAt b)) (hba : ¬ OutOfOrder (createdAt b) (createdAt a)) :
    TextOrdered createdAt id a b ↔ CreatedOrder createdAt id a b := by
  have hlt := (utcText_lt_iff ha hb).2 ⟨hab, hba⟩
  simp only [TextOrdered, CreatedOrder, hlt, utcText_inj ha hb]

/-- Records in order come out of SQLite as the instants have them. -/
theorem insertionSort_text (hrep : ∀ a ∈ l, Representable (createdAt a)) (h : InOrder createdAt l) :
    l.insertionSort (TextOrdered createdAt id) = l.insertionSort (CreatedOrder createdAt id) := by
  have hmap := List.map_insertionSort (TextOrdered createdAt id) (CreatedOrder createdAt id) (fun a => a) l
    fun a ha b hb => textOrdered_iff (hrep a ha) (hrep b hb) (h a ha b hb) (h b hb a ha)
  simpa using hmap

/-- A pair out of order stands the wrong way round. -/
theorem not_pairwise_text {a b : α} (ha : a ∈ l) (hb : b ∈ l) (hra : Representable (createdAt a))
    (hrb : Representable (createdAt b)) (hout : OutOfOrder (createdAt a) (createdAt b)) :
    ¬ (l.insertionSort (TextOrdered createdAt id)).Pairwise (CreatedOrder createdAt id) := by
  intro hp
  have htext : utcText (createdAt b) < utcText (createdAt a) := (utcText_lt hrb hra).2 (.inr hout)
  have hlt : createdAt a < createdAt b := by
    obtain ⟨hdiv, hmod, hmod'⟩ := hout
    exact (lt_iff_div_mod microseconds _ _).2 (.inr ⟨hdiv, by omega⟩)
  -- Side by side in the list, each order would have to allow what the other forbids.
  have hboth := (List.pairwise_insertionSort (TextOrdered createdAt id) l).and hp
  have hperm := List.perm_insertionSort (TextOrdered createdAt id) l
  have hsub : ∀ x ∈ [a, b], x ∈ l.insertionSort (TextOrdered createdAt id) := by
    intro x hx
    rcases List.mem_pair.1 hx with rfl | rfl
    · exact hperm.mem_iff.2 ha
    · exact hperm.mem_iff.2 hb
  have hne : a ≠ b := by
    rintro rfl
    exact lt_irrefl _ hlt
  obtain ⟨i, hi, rfl⟩ := List.getElem_of_mem (hsub a (by simp))
  obtain ⟨j, hj, rfl⟩ := List.getElem_of_mem (hsub b (by simp))
  rcases lt_trichotomy i j with hij | rfl | hij
  · rcases (List.pairwise_iff_getElem.1 hboth i j hi hj hij).1 with h | ⟨h, -⟩
    · exact lt_asymm h htext
    · exact absurd h htext.ne'
  · exact hne rfl
  · rcases (List.pairwise_iff_getElem.1 hboth j i hj hi hij).2 with h | ⟨h, -⟩
    · exact lt_asymm h hlt
    · exact absurd h hlt.ne'

/-- SQLite's order is the order of creation exactly when no pair is out of order. -/
theorem pairwise_text_iff (hrep : ∀ a ∈ l, Representable (createdAt a)) :
    (l.insertionSort (TextOrdered createdAt id)).Pairwise (CreatedOrder createdAt id) ↔ InOrder createdAt l := by
  constructor
  · intro hp a ha b hb hout
    exact not_pairwise_text ha hb (hrep a ha) (hrep b hb) hout hp
  · intro h
    rw [insertionSort_text hrep h]
    exact List.pairwise_insertionSort ..

end Sorting

/-! ## The listings of both stores -/

/-- `ORDER BY created_at, id` of tasks and of approvals. -/
abbrev taskOrder : TaskRecord → TaskRecord → Prop := CreatedOrder (·.task.createdAt) (·.task.id)

abbrev approvalOrder : ApprovalRecord → ApprovalRecord → Prop :=
  CreatedOrder (·.approval.createdAt) (·.approval.id)

namespace InMemory

/-- `InMemoryTaskRepository.list`. -/
def listTasks (s : InMemoryPersistenceState) : List TaskRecord := s.tasks.values.insertionSort taskOrder

def isPending (id : UUID) (record : ApprovalRecord) : Bool :=
  record.approval.taskId = id && record.approval.status = .pending

/-- `InMemoryApprovalRepository.get_pending_for_task`. -/
def getPendingForTask (s : InMemoryPersistenceState) (id : UUID) : Option ApprovalRecord :=
  ((s.approvals.values.filter (isPending id)).insertionSort approvalOrder).head?

end InMemory

namespace Sqlite

/-- `SQLiteTaskRepository.list`. -/
def listTasks (db : SqliteDatabase) : List TaskRecord :=
  (db.tasks.insertionSort (TextOrdered (·.createdAt) (·.id))).map TaskRow.record

/-- `SQLiteApprovalRepository.list_for_task`. -/
def listApprovals (db : SqliteDatabase) (id : UUID) : List ApprovalRecord :=
  ((db.approvals.filter (·.taskId = id)).insertionSort (TextOrdered (·.createdAt) (·.id))).map ApprovalRow.record

/-- `SQLiteApprovalRepository.get_pending_for_task`. -/
def getPendingForTask (db : SqliteDatabase) (id : UUID) : Option ApprovalRecord :=
  ((db.approvals.filter fun row => row.taskId = id && row.status = .pending).insertionSort
    (TextOrdered (·.createdAt) (·.id))).head?.map ApprovalRow.record

end Sqlite

/-- Both stores hold the same tasks and approvals. -/
structure SameContent (s : InMemoryPersistenceState) (db : SqliteDatabase) : Prop where
  tasks : db.tasks = s.tasks.values.map Sqlite.TaskRow.values
  approvals : db.approvals = s.approvals.values.map Sqlite.ApprovalRow.values

/-- Every `created_at` is a `datetime`. -/
structure SqliteDatabase.Dated (db : SqliteDatabase) : Prop where
  tasks : ∀ row ∈ db.tasks, Representable row.createdAt
  approvals : ∀ row ∈ db.approvals, Representable row.createdAt

/-- The listings ascend in the time of creation and are those of the in-memory store, and
the pending approval is the earliest. -/
structure Chronological (s : InMemoryPersistenceState) (db : SqliteDatabase) : Prop where
  tasks : (Sqlite.listTasks db).Pairwise taskOrder
  tasks_eq : Sqlite.listTasks db = InMemory.listTasks s
  approvals : ∀ id, (Sqlite.listApprovals db id).Pairwise approvalOrder
  approvals_eq : ∀ id, Sqlite.listApprovals db id = InMemory.listApprovals s id
  earliest : ∀ id, ∀ record ∈ Sqlite.getPendingForTask db id, ∀ row ∈ db.approvals,
    row.taskId = id → row.status = .pending → approvalOrder record (Sqlite.ApprovalRow.record row)
  pending_eq : ∀ id, Sqlite.getPendingForTask db id = InMemory.getPendingForTask s id

/-- The rows in the text order of the column are the records in the text order of the field. -/
theorem map_tasks_text (rows : List TaskRow) :
    (rows.insertionSort (TextOrdered (·.createdAt) (·.id))).map Sqlite.TaskRow.record =
      (rows.map Sqlite.TaskRow.record).insertionSort (TextOrdered (·.task.createdAt) (·.task.id)) :=
  List.map_insertionSort _ _ _ _ fun _ _ _ _ => Iff.rfl

theorem map_approvals_text (rows : List ApprovalRow) :
    (rows.insertionSort (TextOrdered (·.createdAt) (·.id))).map Sqlite.ApprovalRow.record =
      (rows.map Sqlite.ApprovalRow.record).insertionSort (TextOrdered (·.approval.createdAt) (·.approval.id)) :=
  List.map_insertionSort _ _ _ _ fun _ _ _ _ => Iff.rfl

namespace SameContent
variable {s : InMemoryPersistenceState} {db : SqliteDatabase}

theorem listTasks_eq (h : SameContent s db) :
    Sqlite.listTasks db = s.tasks.values.insertionSort (TextOrdered (·.task.createdAt) (·.task.id)) := by
  have hrows : db.tasks.map Sqlite.TaskRow.record = s.tasks.values := by
    rw [h.tasks, List.map_map]
    simp [Function.comp_def]
  rw [Sqlite.listTasks, map_tasks_text, hrows]

/-- The rows a query selects are the records a filter keeps. -/
theorem approvals_filter (h : SameContent s db) {p : ApprovalRow → Bool} {q : ApprovalRecord → Bool}
    (hpq : ∀ r, p (Sqlite.ApprovalRow.values r) = q r) :
    (db.approvals.filter p).map Sqlite.ApprovalRow.record = s.approvals.values.filter q := by
  rw [h.approvals, List.filter_map, List.map_map]
  have hcomp : p ∘ Sqlite.ApprovalRow.values = q := funext hpq
  simp [hcomp, Function.comp_def]

theorem listApprovals_eq (h : SameContent s db) (id : UUID) :
    Sqlite.listApprovals db id = (s.approvals.values.filter (·.approval.taskId = id)).insertionSort
      (TextOrdered (·.approval.createdAt) (·.approval.id)) := by
  rw [Sqlite.listApprovals, map_approvals_text, h.approvals_filter (q := (·.approval.taskId = id)) fun _ => rfl]

theorem getPendingForTask_eq (h : SameContent s db) (id : UUID) :
    Sqlite.getPendingForTask db id = ((s.approvals.values.filter (InMemory.isPending id)).insertionSort
      (TextOrdered (·.approval.createdAt) (·.approval.id))).head? := by
  rw [Sqlite.getPendingForTask, ← List.head?_map, map_approvals_text,
    h.approvals_filter (q := InMemory.isPending id) fun _ => rfl]

theorem task_representable (h : SameContent s db) (hd : db.Dated) :
    ∀ r ∈ s.tasks.values, Representable r.task.createdAt := by
  intro r hr
  exact hd.tasks (Sqlite.TaskRow.values r) (by rw [h.tasks]; exact List.mem_map_of_mem hr)

theorem approval_representable (h : SameContent s db) (hd : db.Dated) :
    ∀ r ∈ s.approvals.values, Representable r.approval.createdAt := by
  intro r hr
  exact hd.approvals (Sqlite.ApprovalRow.values r) (by rw [h.approvals]; exact List.mem_map_of_mem hr)

theorem inOrder_tasks (h : SameContent s db) :
    InOrder (·.task.createdAt) s.tasks.values ↔ InOrder (·.createdAt) db.tasks := by
  rw [h.tasks]
  simp only [InOrder, List.forall_mem_map]
  rfl

/-- The approvals of each task are in order exactly when those of one task never clash. -/
theorem inOrder_approvals (h : SameContent s db) :
    (∀ id, InOrder (·.approval.createdAt) (s.approvals.values.filter (·.approval.taskId = id))) ↔
      ∀ a ∈ db.approvals, ∀ b ∈ db.approvals, a.taskId = b.taskId → ¬ OutOfOrder a.createdAt b.createdAt := by
  rw [h.approvals]
  simp only [InOrder, List.mem_filter, decide_eq_true_eq, List.forall_mem_map]
  constructor
  · intro hid a ha b hb htask
    exact hid b.approval.taskId a ⟨ha, htask⟩ b ⟨hb, rfl⟩
  · rintro hall id a ⟨ha, hat⟩ b ⟨hb, hbt⟩
    exact hall a ha b hb (hat.trans hbt.symm)

/-- The first of the sorted pending approvals is no later than any of them. -/
theorem earliest_in_memory {id : UUID} {record : ApprovalRecord}
    (hget : InMemory.getPendingForTask s id = some record) {other : ApprovalRecord}
    (hother : other ∈ s.approvals.values)
    (hpending : InMemory.isPending id other) : approvalOrder record other := by
  have hsorted := List.pairwise_insertionSort approvalOrder (s.approvals.values.filter (InMemory.isPending id))
  have hmem : other ∈ (s.approvals.values.filter (InMemory.isPending id)).insertionSort approvalOrder :=
    (List.perm_insertionSort ..).mem_iff.2 (List.mem_filter.2 ⟨hother, hpending⟩)
  unfold InMemory.getPendingForTask at hget
  cases hl : (s.approvals.values.filter (InMemory.isPending id)).insertionSort approvalOrder with
  | nil =>
    rw [hl] at hget
    simp at hget
  | cons first rest =>
    rw [hl] at hsorted hmem hget
    obtain rfl : first = record := by simpa using hget
    rcases List.mem_cons.1 hmem with rfl | hrest
    · exact or_self_iff.1 (Std.Total.total other other)
    · exact (List.pairwise_cons.1 hsorted).1 other hrest

end SameContent

/-- The listings are chronological exactly when no two tasks, and no two approvals of one
task, were created in one second, one of them on the full second and the other past it. -/
theorem chronological_iff {s : InMemoryPersistenceState} {db : SqliteDatabase} (h : SameContent s db)
    (hd : db.Dated) :
    Chronological s db ↔ InOrder (·.createdAt) db.tasks ∧
      ∀ a ∈ db.approvals, ∀ b ∈ db.approvals, a.taskId = b.taskId → ¬ OutOfOrder a.createdAt b.createdAt := by
  have happroval : ∀ {p : ApprovalRecord → Bool}, ∀ r ∈ s.approvals.values.filter p,
      Representable r.approval.createdAt :=
    fun r hr => h.approval_representable hd r (List.mem_filter.1 hr).1
  rw [← h.inOrder_tasks, ← h.inOrder_approvals]
  constructor
  · intro hc
    constructor
    · have hsorted := hc.tasks
      rw [h.listTasks_eq] at hsorted
      exact (pairwise_text_iff (h.task_representable hd)).1 hsorted
    · intro id
      have hsorted := hc.approvals id
      rw [h.listApprovals_eq] at hsorted
      exact (pairwise_text_iff happroval).1 hsorted
  · rintro ⟨htasks, happrovals⟩
    have hpendings : ∀ id, InOrder (·.approval.createdAt) (s.approvals.values.filter (InMemory.isPending id)) := by
      intro id a ha b hb
      simp only [List.mem_filter, InMemory.isPending, Bool.and_eq_true, decide_eq_true_eq] at ha hb
      exact happrovals id a (by simp [ha]) b (by simp [hb])
    have hpending : ∀ id, Sqlite.getPendingForTask db id = InMemory.getPendingForTask s id := by
      intro id
      rw [h.getPendingForTask_eq, insertionSort_text happroval (hpendings id), InMemory.getPendingForTask]
    refine ⟨?_, ?_, ?_, ?_, ?_, hpending⟩
    · rw [h.listTasks_eq]
      exact (pairwise_text_iff (h.task_representable hd)).2 htasks
    · rw [h.listTasks_eq, insertionSort_text (h.task_representable hd) htasks, InMemory.listTasks]
    · intro id
      rw [h.listApprovals_eq]
      exact (pairwise_text_iff happroval).2 (happrovals id)
    · intro id
      rw [h.listApprovals_eq, insertionSort_text happroval (happrovals id)]
      rfl
    · intro id record hget row hrow htask hstatus
      rw [hpending, Option.mem_def] at hget
      rw [h.approvals] at hrow
      obtain ⟨other, hother, rfl⟩ := List.mem_map.1 hrow
      have hother' : InMemory.isPending id other := by
        simp only [InMemory.isPending, Bool.and_eq_true, decide_eq_true_eq]
        exact ⟨htask, hstatus⟩
      exact SameContent.earliest_in_memory hget hother hother'

/-! ## Two tasks of one second -/

/-- Tasks with these ids and times of creation, as both stores hold them. -/
def tasksCreated (times : List (Nat × Nat)) : List TaskRecord :=
  times.map fun (id, createdAt) => { task := { parkTask with id := .int id, createdAt, updatedAt := createdAt } }

def memoryWith (records : List TaskRecord) : InMemoryPersistenceState :=
  { tasks := records.map fun r => (r.task.id, r) }

def databaseWith (records : List TaskRecord) : SqliteDatabase := { tasks := records.map Sqlite.TaskRow.values }

theorem sameContent_with (records : List TaskRecord) : SameContent (memoryWith records) (databaseWith records) where
  tasks := by simp [memoryWith, databaseWith, Assoc.values, Function.comp_def]
  approvals := rfl

/-- One task at 00:00:00 and one at 00:00:01.5. -/
theorem chronological_apart :
    Chronological (memoryWith (tasksCreated [(1, 0), (2, 1500000)]))
      (databaseWith (tasksCreated [(1, 0), (2, 1500000)])) :=
  (chronological_iff (sameContent_with _) ⟨by decide, by decide⟩).2 ⟨by unfold InOrder; decide, by decide⟩

/-- One task at 00:00:00 and one at 00:00:00.5: the later one is listed first. -/
theorem not_chronological_within_second :
    ¬ ∀ s db, SameContent s db → db.Dated → Chronological s db := by
  intro hall
  let records := tasksCreated [(1, 0), (2, 500000)]
  have hsame := sameContent_with records
  have hdated : (databaseWith records).Dated := ⟨by decide, by decide⟩
  have hsorted := (hall _ _ hsame hdated).tasks
  rw [hsame.listTasks_eq] at hsorted
  have hmem : ∀ r ∈ records, r ∈ (memoryWith records).tasks.values := by decide
  exact not_pairwise_text (hmem records[0] (by decide)) (hmem records[1] (by decide)) (by decide) (by decide)
    (by decide) hsorted

end SimPilot
