import SimPilot.SoftwareInc.OperatorRules
/-!
# The workflow stores (contracts/store.py, training/store.py)

Both stores keep a row for each workflow, and at most one open row for each game session and
save: they are one definition with a `StoreKind`. The rows come with what a run of an operator
was told of them.

| here | there |
|---|---|
| `StoreKind.conflict`, `StoreKind.upsert` | `save` (contracts/store.py:60, training/store.py:60) |
| `stored` | `save`, `get` and `current` under an operator |
| `Shelf.refused`, `Shelf.shown` | the operator was refused a save; the open workflow it was shown |
-/

namespace SimPilot.SoftwareInc

open Effect

/-- What a store knows of a workflow `W`. -/
structure StoreKind (I W : Type) where
  workflowId : W → I
  gameSessionId : W → String
  saveIdentity : W → String
  /-- `status NOT IN (…)` -/
  isOpen : W → Bool
  /-- What `save` raises for a workflow while another one is open. -/
  owned : UIError
  /-- The target of the gesture that commits. -/
  commitment : String

structure Shelf (W : Type) where
  rows : List W
  /-- The commitment gestures that were sent, or perhaps sent. -/
  commitments : Nat := 0
  /-- The store has answered a `save` or a `current`. -/
  answered : Bool := false
  refused : Bool := false
  shown : Option W := none
  deriving DecidableEq

/-- The rows before a call of an operator. -/
def Shelf.begin {W : Type} (s : Shelf W) : Shelf W := { rows := s.rows, commitments := s.commitments }

namespace StoreKind
variable {I W A E σ : Type} [DecidableEq I] (kind : StoreKind I W)

/-- The row is an open one of this session and save. -/
def ownedBy (gameSessionId saveIdentity : String) (w : W) : Bool :=
  kind.isOpen w && kind.gameSessionId w = gameSessionId && kind.saveIdentity w = saveIdentity

/-- Another open workflow has the session and the save of this one. -/
def conflict (rows : List W) (w : W) : Bool :=
  kind.isOpen w && rows.any fun v =>
    kind.ownedBy (kind.gameSessionId w) (kind.saveIdentity w) v && kind.workflowId v ≠ kind.workflowId w

def upsert (rows : List W) (w : W) : List W := w :: rows.filter fun v => kind.workflowId v ≠ kind.workflowId w

/-- What the calls of an operator do to the rows; the database itself may fail. -/
def stored : Semantics (Call I W A E) Reply (Shelf W)
  | .save w, s, .ok (), s' => kind.conflict s.rows w = false ∧ s' = { s with rows := kind.upsert s.rows w, answered := true }
  | .save w, s, .error e, s' =>
    (kind.conflict s.rows w = true ∧ e = kind.owned ∧ s' = { s with answered := true, refused := true }) ∨ s' = s
  | .get i, s, .ok found, s' => found = s.rows.find? (kind.workflowId · = i) ∧ s' = s
  | .current session save, s, .ok none, s' =>
    (∀ v ∈ s.rows, kind.ownedBy session save v = false) ∧ s' = { s with answered := true }
  | .current session save, s, .ok (some w), s' =>
    w ∈ s.rows ∧ kind.ownedBy session save w = true ∧ s' = { s with answered := true, shown := some w }
  | .execute g, s, _, s' =>
    s' = { s with commitments := s.commitments + if g.targetId = kind.commitment then 1 else 0 }
  | _, s, _, s' => s' = s

/-! ## The rows of every run -/

/-- One row for each id, and one open row for each session and save. -/
structure Sole (rows : List W) : Prop where
  ids : ∀ v ∈ rows, ∀ w ∈ rows, kind.workflowId v = kind.workflowId w → v = w
  owners : ∀ v ∈ rows, ∀ w ∈ rows, kind.isOpen v = true →
    kind.ownedBy (kind.gameSessionId v) (kind.saveIdentity v) w = true → kind.workflowId v = kind.workflowId w

theorem mem_upsert {rows : List W} {v w : W} :
    v ∈ kind.upsert rows w ↔ v = w ∨ v ∈ rows ∧ kind.workflowId v ≠ kind.workflowId w := by
  simp [upsert]

theorem conflict_eq_false {rows : List W} {w : W} (hopen : kind.isOpen w = true)
    (h : kind.conflict rows w = false) {v : W} (hv : v ∈ rows)
    (howned : kind.ownedBy (kind.gameSessionId w) (kind.saveIdentity w) v = true) :
    kind.workflowId v = kind.workflowId w := by
  by_contra hne
  have htrue : kind.conflict rows w = true := by
    simp only [conflict, hopen, Bool.true_and, List.any_eq_true]
    exact ⟨v, hv, by simp [howned, hne]⟩
  rw [h] at htrue
  cases htrue

theorem Sole.upsert {rows : List W} {w : W} (h : kind.Sole rows) (hfree : kind.conflict rows w = false) :
    kind.Sole (kind.upsert rows w) := by
  refine ⟨fun v hv v' hv' hid => ?_, fun v hv v' hv' hopen howned => ?_⟩
  · rcases kind.mem_upsert.mp hv with rfl | ⟨hold, hne⟩
    · rcases kind.mem_upsert.mp hv' with rfl | ⟨hold', hne'⟩
      · rfl
      · exact absurd hid.symm hne'
    · rcases kind.mem_upsert.mp hv' with rfl | ⟨hold', hne'⟩
      · exact absurd hid hne
      · exact h.ids v hold v' hold' hid
  · rcases kind.mem_upsert.mp hv with rfl | ⟨hold, hne⟩
    · rcases kind.mem_upsert.mp hv' with rfl | ⟨hold', hne'⟩
      · rfl
      · exact (kind.conflict_eq_false hopen hfree hold' howned).symm
    · rcases kind.mem_upsert.mp hv' with rfl | ⟨hold', hne'⟩
      · -- an open row of the session and save of the new one
        simp only [ownedBy, Bool.and_eq_true, decide_eq_true_eq] at howned
        obtain ⟨⟨hopen', hsession⟩, hsave⟩ := howned
        refine kind.conflict_eq_false hopen' hfree hold ?_
        simp [ownedBy, hopen, hsession, hsave]
      · exact h.owners v hold v' hold' hopen howned

theorem Sole.step {o : Call I W A E} {s s' : Shelf W} {r : Reply o} (h : kind.Sole s.rows) (hs : kind.stored o s r s') :
    kind.Sole s'.rows := by
  unfold stored at hs
  split at hs
  · obtain ⟨hfree, rfl⟩ := hs
    exact h.upsert kind hfree
  · rcases hs with ⟨-, -, rfl⟩ | rfl
    · exact h
    · exact h
  · obtain ⟨-, rfl⟩ := hs
    exact h
  · obtain ⟨-, rfl⟩ := hs
    exact h
  · obtain ⟨-, -, rfl⟩ := hs
    exact h
  · rw [hs]
    exact h
  · rw [hs]
    exact h

theorem Sole.run {α : Type} {m : Prog (Call I W A E) Reply α} {s s' : Shelf W} {a : α} (h : kind.Sole s.rows)
    (hrun : m.Run kind.stored s a s') : kind.Sole s'.rows :=
  Prog.Run.keeps (L := fun s => kind.Sole s.rows) (fun _ _ _ _ h hs => h.step kind hs) h hrun

/-! ## Rules -/

/-- No other workflow owns the session and the save of this one. -/
def Free (rows : List W) (w : W) : Prop :=
  ∀ v ∈ rows, kind.ownedBy (kind.gameSessionId w) (kind.saveIdentity w) v = true → kind.workflowId v = kind.workflowId w

/-- Two states of one workflow. -/
structure SameOwner (w w' : W) : Prop where
  id : kind.workflowId w' = kind.workflowId w
  session : kind.gameSessionId w' = kind.gameSessionId w
  save : kind.saveIdentity w' = kind.saveIdentity w

variable {kind} {w w' : W} {rows : List W}

omit [DecidableEq I] in
theorem SameOwner.refl : kind.SameOwner w w := ⟨rfl, rfl, rfl⟩

omit [DecidableEq I] in
theorem SameOwner.trans {w'' : W} (h : kind.SameOwner w w') (h' : kind.SameOwner w' w'') : kind.SameOwner w w'' :=
  ⟨h'.id.trans h.id, h'.session.trans h.session, h'.save.trans h.save⟩

omit [DecidableEq I] in
theorem Free.of_same (h : kind.Free rows w) (hsame : kind.SameOwner w w') : kind.Free rows w' := by
  intro v hv howned
  rw [hsame.session, hsame.save] at howned
  rw [hsame.id]
  exact h v hv howned

theorem Free.conflict (h : kind.Free rows w) : kind.conflict rows w = false := by
  unfold StoreKind.conflict
  rw [Bool.and_eq_false_iff]
  refine .inr (List.any_eq_false.mpr fun v hv => ?_)
  simp only [Bool.and_eq_true, decide_eq_true_eq, not_and, not_not]
  exact h v hv

theorem Free.upsert (h : kind.Free rows w) (hsame : kind.SameOwner w w') : kind.Free (kind.upsert rows w') w := by
  intro v hv howned
  rcases kind.mem_upsert.mp hv with rfl | ⟨hv, -⟩
  · exact hsame.id
  · exact h v hv howned

/-- What holds of the rows once the workflow of a call owns its save. -/
structure Owns (kind : StoreKind I W) (w : W) (shown : Option W) (s : Shelf W) : Prop where
  answered : s.answered = true
  refused : s.refused = false
  shown : s.shown = shown
  free : kind.Free s.rows w

section
variable {shown : Option W} {s : Shelf W} {st : σ} {er : UIError → σ → Shelf W → Prop}

open Py

/-- Everything but saving and asking for the open workflow leaves what depends on the rows. -/
theorem calm {L : Shelf W → Prop} : Calm (kind.stored : Semantics (Call I W A E) Reply (Shelf W)) L where
  sleep := by rintro _ _ _ _ hs rfl; exact hs
  keepGameForeground := by rintro _ _ _ hs rfl; exact hs
  events := by rintro _ _ _ _ hs rfl; exact hs
  appendEvent := by rintro _ _ _ _ hs rfl; exact hs
  uuid4 := by rintro _ _ _ hs rfl; exact hs
  now := by rintro _ _ _ hs rfl; exact hs
  observe := by rintro _ _ _ hs rfl; exact hs

theorem Owns.execute {g : InputGesture} {r : Except UIError Unit} {s' : Shelf W} (h : kind.Owns w shown s)
    (hs : kind.stored (.execute g : Call I W A E) s r s') : kind.Owns w shown s' := by
  have hs : s' = _ := hs
  rw [hs]
  exact ⟨h.answered, h.refused, h.shown, h.free⟩

omit [DecidableEq I] in
theorem Owns.of_same (h : kind.Owns w shown s) (hsame : kind.SameOwner w w') : kind.Owns w' shown s :=
  ⟨h.answered, h.refused, h.shown, h.free.of_same hsame⟩

/-- A state of the workflow that owns the save is saved, or the database fails. -/
theorem ends_save_own {ok : Unit → σ → Shelf W → Prop} (h : kind.Owns w shown s) (hsame : kind.SameOwner w w')
    (ho : ∀ s', s'.rows = kind.upsert s.rows w' → kind.Owns w shown s' → ok () st s') (he : ∀ e, er e st s) :
    Py.Ends kind.stored (Operation.save w' : Operation I W A E σ Unit) st s ok er := by
  refine ends_save (fun s' hs => ?_) fun e s' hs => ?_
  · obtain ⟨-, rfl⟩ := hs
    exact ho _ rfl ⟨rfl, h.refused, h.shown, h.free.upsert hsame⟩
  · rcases hs with ⟨hconflict, -, -⟩ | rfl
    · rw [(h.free.of_same hsame).conflict] at hconflict
      cases hconflict
    · exact he e

end

end StoreKind

end SimPilot.SoftwareInc
