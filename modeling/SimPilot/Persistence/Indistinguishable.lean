import SimPilot.Persistence.Agreement
/-!
# Runs of write calls

The two stores cannot be told apart by the calls of a run exactly when every call of it is
portable (`stores_indistinguishable`).
-/

namespace SimPilot
open Transaction

namespace Agree
variable {s : InMemoryPersistenceState} {db : SqliteDatabase}

/-! ## One call -/

theorem call_ok (h : Agree s db) {w : Write} (ha : Admissible s w) (hk : Keeps s w) :
    ∃ s' db', w.call s = (.ok (), s') ∧ w.call db = (.ok (), db') ∧ Agree s' db' := by
  cases w with
  | createTask r =>
    obtain ⟨hin, db', hsql, hagree⟩ := h.createTask_ok ha
    exact ⟨_, db', hin, hsql, hagree⟩
  | updateTask r =>
    obtain ⟨current, hget, hseq, htime⟩ := ha
    obtain ⟨hin, db', hsql, hagree⟩ := h.updateTask_ok hget hseq htime
    exact ⟨_, db', hin, hsql, hagree⟩
  | appendMany rs =>
    obtain ⟨hin, db', hsql, hagree⟩ := h.appendMany_ok ha
    exact ⟨_, db', hin, hsql, hagree⟩
  | createApproval r =>
    obtain ⟨htask, hnew, hdup⟩ := ha
    obtain ⟨hin, db', hsql, hagree⟩ := h.createApproval_ok htask hnew hdup
    exact ⟨_, db', hin, hsql, hagree⟩
  | updateApproval r =>
    obtain ⟨current, hget, hp, hc⟩ := ha
    obtain ⟨db', hsql, hagree⟩ := h.updateApproval_ok hget hp hc hk
    exact ⟨_, db', updateApproval_inMemory hget hp hc, hsql, hagree⟩
  | saveCheckpoint c => exact h.saveCheckpoint_ok ha

theorem call_rejected (h : Agree s db) {w : Write} (ha : ¬ Admissible s w) :
    accepted (w.call s).1 = false ∧ accepted (w.call db).1 = false := by
  cases w with
  | createTask r =>
    refine ⟨accepted_eq_false fun s' hok => ha ?_, accepted_eq_false fun db' hok => ha ?_⟩
    · have hnone := (InMemory.createTask_ok hok).1
      simp [Admissible, Assoc.contains, hnone]
    · have hnone := (Sqlite.createTask_ok hok).1
      rw [h.find_task, Option.map_eq_none_iff] at hnone
      simp [Admissible, Assoc.contains, hnone]
  | updateTask r =>
    refine ⟨accepted_eq_false fun s' hok => ha ?_, accepted_eq_false fun db' hok => ha ?_⟩
    · obtain ⟨old, hget, hseq, htime, -⟩ := InMemory.updateTask_ok hok
      exact ⟨old, hget, hseq, htime⟩
    · obtain ⟨old, hfind, hseq, htime, -⟩ := Sqlite.updateTask_ok hok
      rw [h.find_task, Option.map_map] at hfind
      exact ⟨old, by simpa [Function.comp_def] using hfind, hseq, htime⟩
  | appendMany rs => exact h.appendMany_rejected ha
  | createApproval r => exact h.createApproval_rejected ha
  | updateApproval r =>
    refine ⟨accepted_eq_false fun s' hok => ha ?_, accepted_eq_false fun db' hok => ha ?_⟩
    · obtain ⟨old, hget, hp, hc, -⟩ := InMemory.updateApproval_ok hok
      exact ⟨old, hget, hp, hc.symm⟩
    · exact (h.updateApproval_sqlite hok).1
  | saveCheckpoint c => exact h.saveCheckpoint_rejected ha

/-- An admissible call that returns from SQLite keeps what SQLite asks for. -/
theorem keeps_of_call (h : Agree s db) {w : Write} {db' : SqliteDatabase} (hok : w.call db = (.ok (), db')) :
    Keeps s w := by
  cases w with
  | updateApproval r => exact (h.updateApproval_sqlite hok).2
  | _ => exact trivial

/-- In memory the rules are all there is. -/
theorem accepted_inMemory (h : Agree s db) {w : Write} (ha : Admissible s w) : accepted (w.call s).1 = true := by
  cases w with
  | updateApproval r =>
    obtain ⟨current, hget, hp, hc⟩ := ha
    have hin := updateApproval_inMemory hget hp hc
    rw [Write.call, show UnitOfWork.updateApproval r s = InMemory.updateApproval r s from rfl, hin]
    rfl
  | createTask | updateTask | appendMany | createApproval | saveCheckpoint =>
    obtain ⟨s', db', hin, -, -⟩ := h.call_ok ha trivial
    rw [hin]
    rfl

/-- The call is answered alike exactly when it is portable. -/
theorem step_iff (h : Agree s db) (w : Write) :
    accepted (w.sqlite db).1 = accepted (w.inMemory s).1 ↔ Portable s w := by
  rw [Write.sqlite, Write.inMemory, accepted_run, accepted_run]
  by_cases ha : Admissible s w
  · rw [h.accepted_inMemory ha]
    constructor
    · intro hsql
      refine fun _ => ?_
      match hb : w.bound db with
      | (.ok (), db') =>
        obtain ⟨_, db₁, hcall, hbind⟩ := bind_ok hb
        exact ⟨h.keeps_of_call hcall, not_not.1 (raiseIf_ok hbind).1⟩
      | (.error _, _) => rw [hb] at hsql; simp [accepted] at hsql
    · intro hport
      obtain ⟨hk, hbind⟩ := hport ha
      obtain ⟨s', db', -, hsql, -⟩ := h.call_ok ha hk
      rw [Write.bound, bind_of_ok hsql, raiseIf_not (not_not.2 hbind)]
      rfl
  · obtain ⟨hin, hsql⟩ := h.call_rejected ha
    have hbound : accepted (w.bound db).1 = false := by
      refine accepted_eq_false fun db' hb => ?_
      obtain ⟨_, db₁, hcall, -⟩ := bind_ok hb
      rw [hcall] at hsql
      simp [accepted] at hsql
    simp [hin, hbound, Portable, ha]

/-- A portable call keeps the relation. -/
theorem step (h : Agree s db) {w : Write} (hport : Portable s w) : Agree (w.inMemory s).2 (w.sqlite db).2 := by
  by_cases ha : Admissible s w
  · obtain ⟨hk, hbind⟩ := hport ha
    obtain ⟨s', db', hin, hsql, hagree⟩ := h.call_ok ha hk
    have hbound : w.bound db = (.ok (), db') := by
      rw [Write.bound, bind_of_ok hsql, raiseIf_not (not_not.2 hbind)]
    rw [Write.inMemory, Write.sqlite, UnitOfWork.run_of_ok hin, UnitOfWork.run_of_ok hbound]
    exact hagree
  · have heq := (h.step_iff w).2 hport
    have hin : accepted (w.inMemory s).1 = false := by
      rw [Write.inMemory, accepted_run]
      exact (h.call_rejected ha).1
    rw [hin] at heq
    rw [Write.inMemory, run_rejected hin, Write.sqlite, run_rejected heq]
    exact h

/-- From related stores on, the two are indistinguishable exactly as long as every call is
portable. -/
theorem run_iff (h : Agree s db) (ws : List Write) : Indistinguishable s db ws ↔ AllPortable s ws := by
  induction ws generalizing s db with
  | nil => exact ⟨fun _ => trivial, fun _ => h.sameReads⟩
  | cons w ws ih =>
    rw [Indistinguishable, AllPortable, h.step_iff w]
    constructor
    · rintro ⟨-, hport, hrest⟩
      exact ⟨hport, (ih (h.step hport)).1 hrest⟩
    · rintro ⟨hport, hrest⟩
      exact ⟨h.sameReads, hport, (ih (h.step hport)).2 hrest⟩

end Agree

/-- A task with nothing done. -/
def parkTask : Task where
  id := .int 1
  status := .pending
  specification := { objective := { type := .reachResource }, authority := {} }
  createdAt := 0
  updatedAt := 0

/-- A pending request for an action of this type. -/
def request (type : NonEmptyString) : ApprovalRecord where
  approval :=
    { id := .int 2, taskId := .int 1, createdAt := 0
      action := { type, expectedEffect := ⟨"built", by decide, by decide⟩ } }
  resolution := by simp

end SimPilot
