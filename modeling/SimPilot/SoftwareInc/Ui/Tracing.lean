import SimPilot.SoftwareInc.Ui.Controller
import SimPilot.Effect.Run
/-!
# Which input of a visible-UI action is traced

A run leaves a history of what was observed, sent and traced. `TimeExit` and `TeamsExit` list the
exits of the two procedures with what each leaves. Some exits after a click trace nothing: the
history accounts for its input exactly where the observations after a click avoid these exits
(`accounted_iff`).
-/

namespace SimPilot.SoftwareInc.Ui

open GameBridge Effect

/-! ## Histories -/

inductive Event where
  | seen (reply : Except Raised UiObservation)
  /-- `backend.execute` returned. -/
  | sent (gesture : ClickGesture)
  | traced (record : TraceRecord)

def happened : (o : UiCall) → UiReply o → List Event
  | .observe, r => [.seen r]
  | .execute g, .ok () => [.sent g]
  | .trace record, () => [.traced record]
  | _, _ => []

/-- Every reply is possible. -/
def history : Semantics UiCall UiReply (List Event) := fun o s r s' => s' = s ++ happened o r

/-- What every run of `m` adds to the history: `ok` where it returns, `er` where it raises. -/
def Does {α : Type} (m : Controller α) (ok : α → List Event → Prop) (er : Raised → List Event → Prop) : Prop :=
  ∀ s, Py.Ends history m () s (fun a _ s' => ∃ es, s' = s ++ es ∧ ok a es) (fun e _ s' => ∃ es, s' = s ++ es ∧ er e es)

namespace Does

variable {α β : Type} {m : Controller α} {f : α → Controller β} {ok : α → List Event → Prop}
  {ok' : β → List Event → Prop} {er : Raised → List Event → Prop}

theorem mono {ok₂ : α → List Event → Prop} {er₂ : Raised → List Event → Prop} (h : Does m ok er)
    (ho : ∀ a es, ok a es → ok₂ a es) (he : ∀ e es, er e es → er₂ e es) : Does m ok₂ er₂ := by
  intro s
  refine (h s).mono (fun a _ s' ha => ?_) fun e _ s' hr => ?_
  · obtain ⟨es, hs, h⟩ := ha
    exact ⟨es, hs, ho a es h⟩
  · obtain ⟨es, hs, h⟩ := hr
    exact ⟨es, hs, he e es h⟩

theorem bind (h : Does m (fun a es => Does (f a) (fun b es' => ok' b (es ++ es')) fun e es' => er e (es ++ es')) er) :
    Does (m >>= f) ok' er := by
  intro s
  refine .bind ((h s).mono (fun a _ s' ha => ?_) fun e _ s' hr => hr)
  obtain ⟨es, rfl, hf⟩ := ha
  refine (hf (s ++ es)).mono (fun b _ s' hb => ?_) fun e _ s' hr => ?_
  · obtain ⟨es', rfl, h⟩ := hb
    exact ⟨es ++ es', List.append_assoc .., h⟩
  · obtain ⟨es', rfl, h⟩ := hr
    exact ⟨es ++ es', List.append_assoc .., h⟩

theorem pure {a : α} (h : ok a []) : Does (Pure.pure a) ok er :=
  fun s => .pure ⟨[], (List.append_nil s).symm, h⟩

theorem raise {e : Raised} (h : er e []) : Does (Py.raise e : Controller α) ok er :=
  fun s => .raise ⟨[], (List.append_nil s).symm, h⟩

theorem lift {r : Except Raised α} (ho : ∀ a, r = .ok a → ok a []) (he : ∀ e, r = .error e → er e []) :
    Does (Py.lift r) ok er :=
  fun s => .lift (fun a h => ⟨[], (List.append_nil s).symm, ho a h⟩) fun e h => ⟨[], (List.append_nil s).symm, he e h⟩

theorem perform {o : UiCall} {ok : UiReply o → List Event → Prop} (h : ∀ r, ok r (happened o r)) :
    Does (Py.perform o) ok er :=
  fun _ => .perform fun r _ hs => ⟨happened o r, hs, h r⟩

theorem ite {p : Prop} [Decidable p] {m' : Controller α} (h : p → Does m ok er) (h' : ¬ p → Does m' ok er) :
    Does (if p then m else m') ok er := by
  split
  · next hp => exact h hp
  · next hp => exact h' hp

theorem tryCatch {handler : Raised → Controller α}
    (h : Does m ok fun e es => Does (handler e) (fun a es' => ok a (es ++ es')) fun e' es' => er e' (es ++ es')) :
    Does (Py.tryCatch m handler) ok er := by
  intro s
  refine .tryCatch ((h s).mono (fun a _ s' ha => ha) fun e _ s' hr => ?_)
  obtain ⟨es, rfl, hf⟩ := hr
  refine (hf (s ++ es)).mono (fun b _ s' hb => ?_) fun e _ s' hr => ?_
  · obtain ⟨es', rfl, h⟩ := hb
    exact ⟨es ++ es', List.append_assoc .., h⟩
  · obtain ⟨es', rfl, h⟩ := hr
    exact ⟨es ++ es', List.append_assoc .., h⟩

/-! ### Calls and checks -/

theorem observe {ok : UiObservation → List Event → Prop} (ho : ∀ o, ok o [.seen (.ok o)])
    (he : ∀ e, er e [.seen (.error e)]) : Does Ui.observe ok er := by
  refine bind (perform fun r => lift (fun o hr => ?_) fun e hr => ?_)
  · subst hr
    exact ho o
  · subst hr
    exact he e

theorem execute {g : ClickGesture} {ok : Unit → List Event → Prop} (ho : ok () [.sent g]) (he : ∀ e, er e []) :
    Does (Ui.execute g) ok er := by
  refine bind (perform fun r => lift (fun u hr => ?_) fun e hr => ?_)
  · subst hr
    exact ho
  · subst hr
    exact he e

theorem now {ok : Timestamp → List Event → Prop} (h : ∀ t, ok t []) : Does Ui.now ok er := perform h

theorem raiseError {e : UIError} (h : er (.error e) []) : Does (Ui.raise e : Controller α) ok er := raise h

theorem trace {action : UiAction} {cycle : Nat} {o : UiObservation} {targetId : Option String}
    {gesture : Option ClickGesture} {inputSent verified : Bool} {reason : String} {ok : Unit → List Event → Prop}
    (h : ∀ r : TraceRecord, r.gesture = gesture → r.inputSent = inputSent → r.verified = verified →
      ok () [.traced r]) : Does (Ui.trace action cycle o targetId gesture inputSent verified reason) ok er :=
  bind (now fun _ => perform fun _ => h _ rfl rfl rfl)

theorem result {action : UiAction} {before after : UiObservation} {gesturesSent cycles : Nat} {dryRun : Bool}
    {message : String} {expected : List String} {ok : DoResult → List Event → Prop}
    (h : ∀ r : DoResult, r.gesturesSent = gesturesSent → ok r []) :
    Does (Ui.result action before after gesturesSent cycles dryRun message expected) ok er :=
  bind (now fun _ => pure (h _ rfl))

theorem check {r : Except UIError α} (ho : ∀ a, r = .ok a → ok a []) (he : ∀ e, r = .error e → er (.error e) []) :
    Does (Ui.check r) ok er := by
  cases r with
  | ok a => exact lift (fun b h => by cases h; exact ho a rfl) fun e h => by cases h
  | error e => exact lift (fun a h => by cases h) fun e' h => by cases h; exact he e rfl

/-- What resolves has the name that was asked for. -/
theorem target {o : UiObservation} {targetId : String} {ok : VisualTarget → List Event → Prop}
    (ho : ∀ t, t.targetId = targetId → ok t []) (he : ∀ e, er e []) : Does (Ui.target o targetId) ok er := by
  unfold Ui.target
  split
  · next t hnamed =>
    have hmem : t ∈ targetsNamed o.toObservation targetId := hnamed ▸ List.mem_singleton_self t
    refine bind (now fun n => check (fun t' ht' => ho t' ?_) fun e _ => he _)
    unfold freshTarget at ht'
    split at ht'
    · cases ht'
    · split at ht'
      · cases ht'
      · cases ht'
        exact of_decide_eq_true (List.mem_filter.mp hmem).2
  · exact raise (he _)

theorem clickGesture {o : UiObservation} {t : VisualTarget} {effect : String} {ok : ClickGesture → List Event → Prop}
    (ho : ∀ g : ClickGesture, g.targetId = t.targetId → ok g []) (he : ∀ e, er e []) :
    Does (Ui.check (Ui.clickGesture o t effect)) ok er := by
  refine check (fun g hg => ho g ?_) fun e _ => he _
  unfold Ui.clickGesture at hg
  split at hg
  · cases hg
  · cases hg
    rfl

end Does

/-! ## Exits -/

/-- A record of a gesture that was sent. -/
def TraceRecord.Reports (r : TraceRecord) (g : ClickGesture) (verified : Bool) : Prop :=
  r.gesture = some g ∧ r.inputSent = true ∧ r.verified = verified

/-- What `_execute_time_control` leaves, with the number of gestures it returns. -/
inductive TimeExit (before : UiObservation) (wantsPaused dryRun : Bool) : List Event → Except Raised Nat → Prop where
  | idle {r : TraceRecord} (hidle : before.paused = wantsPaused ∨ dryRun = true) (hr : r.inputSent = false) :
      TimeExit before wantsPaused dryRun [.traced r] (.ok 0)
  | refused (e : Raised) : TimeExit before wantsPaused dryRun [] (.error e)
  | unseen {g : ClickGesture} {x : UIError} {r : TraceRecord} {e : Raised} (hdry : dryRun = false)
      (hg : g.targetId = timeTarget wantsPaused) (hr : r.Reports g false) :
      TimeExit before wantsPaused dryRun [.sent g, .seen (.error (.error x)), .traced r] (.error e)
  | interrupted {g : ClickGesture} {e : Raised} (hdry : dryRun = false) (hg : g.targetId = timeTarget wantsPaused) :
      TimeExit before wantsPaused dryRun [.sent g, .seen (.error .interrupted)] (.error e)
  | ineffective {g : ClickGesture} {after : UiObservation} {r : TraceRecord} {e : Raised} (hdry : dryRun = false)
      (hg : g.targetId = timeTarget wantsPaused) (hshown : ¬ TimeShown wantsPaused after) (hr : r.Reports g false) :
      TimeExit before wantsPaused dryRun [.sent g, .seen (.ok after), .traced r] (.error e)
  | discontinuous {g : ClickGesture} {after : UiObservation} {e : Raised} (hdry : dryRun = false)
      (hg : g.targetId = timeTarget wantsPaused) (hshown : TimeShown wantsPaused after)
      (hcont : ¬ Continuous before after) :
      TimeExit before wantsPaused dryRun [.sent g, .seen (.ok after)] (.error e)
  | verified {g : ClickGesture} {after : UiObservation} {r : TraceRecord} (hdry : dryRun = false)
      (hg : g.targetId = timeTarget wantsPaused) (hshown : TimeShown wantsPaused after)
      (hcont : Continuous before after) (hr : r.Reports g true) :
      TimeExit before wantsPaused dryRun [.sent g, .seen (.ok after), .traced r] (.ok 1)

theorem requireIdentityContinuity_eq_ok {before after : UiObservation} :
    requireIdentityContinuity before after = .ok () ↔ Continuous before after := by
  unfold requireIdentityContinuity
  by_cases h : Continuous before after <;> simp [h]

theorem requireIdentityContinuity_eq_error {before after : UiObservation} {e : UIError}
    (h : requireIdentityContinuity before after = .error e) : ¬ Continuous before after := by
  intro hcont
  rw [requireIdentityContinuity_eq_ok.mpr hcont] at h
  cases h

theorem does_executeTimeControl {action : UiAction} {before : UiObservation} {dryRun : Bool} {cycle : Nat} :
    Does (executeTimeControl action before dryRun cycle)
      (fun r es => TimeExit before action.wantsPaused dryRun es (.ok r.gesturesSent))
      (fun e es => TimeExit before action.wantsPaused dryRun es (.error e)) := by
  unfold executeTimeControl
  refine .ite (fun hpaused => ?_) fun hpaused => ?_
  · refine .bind (.trace fun r _ hr _ => .result fun out hout => ?_)
    rw [hout]
    exact .idle (.inl hpaused) hr
  refine .bind (.target (fun t ht => ?_) fun e => .refused e)
  refine .bind (.clickGesture (fun g hg => ?_) fun e => .refused e)
  replace hg := hg.trans ht
  refine .ite (fun hdry => ?_) fun hdry => ?_
  · refine .bind (.trace fun r _ hr _ => .result fun out hout => ?_)
    rw [hout]
    exact .idle (.inr hdry) hr
  replace hdry : dryRun = false := by simpa using hdry
  refine .bind (.execute ?_ fun e => .refused e)
  refine .bind (.tryCatch (.observe (fun after => ?_) fun e => ?_))
  · -- the effect is looked for before the identity
    refine .ite (fun hshown => ?_) fun hshown => ?_
    · exact .bind (.trace fun r hg' hs hv => .raiseError (.ineffective hdry hg hshown ⟨hg', hs, hv⟩))
    replace hshown := not_not.mp hshown
    refine .bind (.check (fun _ hok => ?_) fun e he =>
      .discontinuous hdry hg hshown (requireIdentityContinuity_eq_error he))
    refine .bind (.trace fun r hg' hs hv => .result fun out hout => ?_)
    rw [hout]
    exact .verified hdry hg hshown (requireIdentityContinuity_eq_ok.mp hok) ⟨hg', hs, hv⟩
  · cases e with
    | interrupted => exact .raise (.interrupted hdry hg)
    | error x => exact .bind (.trace fun r hg' hs hv => .raiseError (.unseen hdry hg ⟨hg', hs, hv⟩))

/-- The observations after the click that end with the team management shown. -/
inductive Opened (current : UiObservation) : List Event → UiObservation → Prop where
  | atOnce {after : UiObservation} (hcont : Continuous current after) (hteams : managesTeams after.scene = true) :
      Opened current [.seen (.ok after)] after
  | later {first after : UiObservation} (hcont : Continuous current first) (hfirst : ¬ managesTeams first.scene = true)
      (hsecond : Continuous first after) (hteams : managesTeams after.scene = true) :
      Opened current [.seen (.ok first), .seen (.ok after)] after

variable (digest : SemanticPayload → String)

/-- The game plays on as it did: the semantic fingerprints agree. -/
def SameSemantics (before after : UiObservation) : Prop :=
  semanticFingerprint digest before.semanticAfter = semanticFingerprint digest after.semanticAfter

/-- What `clickManageTeams` leaves, with the number of gestures it returns. -/
inductive TeamsExit (current : UiObservation) (dryRun : Bool) (gestures : Nat) :
    List Event → Except Raised Nat → Prop where
  | planned {r : TraceRecord} (hdry : dryRun = true) (hr : r.inputSent = false) :
      TeamsExit current dryRun gestures [.traced r] (.ok 0)
  | refused (e : Raised) : TeamsExit current dryRun gestures [] (.error e)
  | unseen {g : ClickGesture} {x : UIError} {r : TraceRecord} {e : Raised} (hdry : dryRun = false)
      (hg : g.targetId = "manage_teams_button") (hr : r.Reports g false) :
      TeamsExit current dryRun gestures [.sent g, .seen (.error (.error x)), .traced r] (.error e)
  | interrupted {g : ClickGesture} {e : Raised} (hdry : dryRun = false) (hg : g.targetId = "manage_teams_button") :
      TeamsExit current dryRun gestures [.sent g, .seen (.error .interrupted)] (.error e)
  | discontinuous {g : ClickGesture} {first : UiObservation} {e : Raised} (hdry : dryRun = false)
      (hg : g.targetId = "manage_teams_button") (hcont : ¬ Continuous current first) :
      TeamsExit current dryRun gestures [.sent g, .seen (.ok first)] (.error e)
  | unseenAgain {g : ClickGesture} {first : UiObservation} {x e : Raised} (hdry : dryRun = false)
      (hg : g.targetId = "manage_teams_button") (hcont : Continuous current first)
      (hfirst : ¬ managesTeams first.scene = true) :
      TeamsExit current dryRun gestures [.sent g, .seen (.ok first), .seen (.error x)] (.error e)
  | drifted {g : ClickGesture} {first after : UiObservation} {e : Raised} (hdry : dryRun = false)
      (hg : g.targetId = "manage_teams_button") (hcont : Continuous current first)
      (hfirst : ¬ managesTeams first.scene = true) (hsecond : ¬ Continuous first after) :
      TeamsExit current dryRun gestures [.sent g, .seen (.ok first), .seen (.ok after)] (.error e)
  | unrecognized {g : ClickGesture} {first after : UiObservation} {r : TraceRecord} {e : Raised} (hdry : dryRun = false)
      (hg : g.targetId = "manage_teams_button") (hcont : Continuous current first)
      (hfirst : ¬ managesTeams first.scene = true) (hsecond : Continuous first after)
      (hafter : ¬ managesTeams after.scene = true) (hr : r.Reports g false) :
      TeamsExit current dryRun gestures [.sent g, .seen (.ok first), .seen (.ok after), .traced r] (.error e)
  | changed {g : ClickGesture} {after : UiObservation} {es : List Event} {e : Raised} (hdry : dryRun = false)
      (hg : g.targetId = "manage_teams_button") (hopened : Opened current es after)
      (hchanged : ¬ SameSemantics digest current after) :
      TeamsExit current dryRun gestures (.sent g :: es) (.error e)
  | verified {g : ClickGesture} {after : UiObservation} {r : TraceRecord} {es : List Event} (hdry : dryRun = false)
      (hg : g.targetId = "manage_teams_button") (hopened : Opened current es after)
      (hsame : SameSemantics digest current after) (hr : r.Reports g true) :
      TeamsExit current dryRun gestures (.sent g :: es ++ [.traced r]) (.ok (gestures + 1))

theorem does_clickManageTeams {before current : UiObservation} {dryRun : Bool} {gestures cycle : Nat} :
    Does (clickManageTeams digest before current dryRun gestures cycle)
      (fun r es => TeamsExit digest current dryRun gestures es (.ok r.gesturesSent))
      (fun e es => TeamsExit digest current dryRun gestures es (.error e)) := by
  unfold clickManageTeams
  refine .bind (.target (fun t ht => ?_) fun e => .refused e)
  refine .bind (.clickGesture (fun g hg => ?_) fun e => .refused e)
  replace hg := hg.trans ht
  refine .ite (fun hdry => ?_) fun hdry => ?_
  · refine .bind (.trace fun r _ hr _ => .result fun out hout => ?_)
    rw [hout]
    exact .planned hdry hr
  replace hdry : dryRun = false := by simpa using hdry
  refine .bind (.execute ?_ fun e => .refused e)
  refine .bind (.tryCatch (.observe (fun first => ?_) fun e => ?_))
  · refine .bind (.check (fun _ hok => ?_) fun e he =>
      .discontinuous hdry hg (requireIdentityContinuity_eq_error he))
    have hcont := requireIdentityContinuity_eq_ok.mp hok
    refine .ite (fun hfirst => ?_) fun hfirst => ?_
    · refine .bind (.observe (fun after => ?_) fun e => .unseenAgain hdry hg hcont hfirst)
      refine .bind (.check (fun _ hok => ?_) fun e he =>
        .drifted hdry hg hcont hfirst (requireIdentityContinuity_eq_error he))
      have hsecond := requireIdentityContinuity_eq_ok.mp hok
      refine .bind (.pure ?_)
      refine .ite (fun hafter => ?_) fun hafter => ?_
      · exact .bind (.trace fun r hg' hs hv =>
          .raiseError (.unrecognized hdry hg hcont hfirst hsecond hafter ⟨hg', hs, hv⟩))
      have hopened := Opened.later hcont hfirst hsecond (not_not.mp hafter)
      refine .ite (fun hchanged => .raiseError (.changed hdry hg hopened hchanged)) fun hsame => ?_
      refine .bind (.trace fun r hg' hs hv => .result fun out hout => ?_)
      rw [hout]
      exact .verified hdry hg hopened (not_not.mp hsame) ⟨hg', hs, hv⟩
    · refine .bind (.pure (.ite (fun hafter => absurd hafter hfirst) fun hafter => ?_))
      have hopened := Opened.atOnce hcont (not_not.mp hafter)
      refine .ite (fun hchanged => .raiseError (.changed hdry hg hopened hchanged)) fun hsame => ?_
      refine .bind (.trace fun r hg' hs hv => .result fun out hout => ?_)
      rw [hout]
      exact .verified hdry hg hopened (not_not.mp hsame) ⟨hg', hs, hv⟩
  · cases e with
    | interrupted => exact .raise (.interrupted hdry hg)
    | error x => exact .bind (.trace fun r hg' hs hv => .raiseError (.unseen hdry hg ⟨hg', hs, hv⟩))

/-! ## Accounts -/

/-- The gestures that were executed. -/
def sentGestures : List Event → List ClickGesture
  | [] => []
  | .sent g :: es => g :: sentGestures es
  | .seen _ :: es | .traced _ :: es => sentGestures es

/-- The gestures of the records with `input_sent`. -/
def reportedGestures : List Event → List (Option ClickGesture)
  | [] => []
  | .traced r :: es => if r.inputSent then r.gesture :: reportedGestures es else reportedGestures es
  | .seen _ :: es | .sent _ :: es => reportedGestures es

def Event.isSent : Event → Bool
  | .sent _ => true
  | _ => false

/-- What happens before the next gesture. -/
def untilClick (es : List Event) : List Event := es.takeWhile fun e => ¬ e.isSent

/-- The effect a gesture is sent for. -/
def EffectShown (g : ClickGesture) (o : UiObservation) : Prop :=
  if g.targetId = "manage_teams_button" then managesTeams o.scene = true
  else TimeShown (g.targetId = "pause_button") o

/-- The effect of a gesture is observed, and a record says so. -/
def VerifiedIn (g : ClickGesture) (es : List Event) : Prop :=
  ∃ o r, .seen (.ok o) ∈ es ∧ EffectShown g o ∧ .traced r ∈ es ∧ r.Reports g true

/-- No gesture follows one that was not verified. -/
def Settled : List Event → Prop
  | [] => True
  | .sent g :: es => (sentGestures es ≠ [] → VerifiedIn g (untilClick es)) ∧ Settled es
  | .seen _ :: es | .traced _ :: es => Settled es

/-- Every gesture has its record and every record its gesture, in their order. -/
structure Accounted (dryRun : Bool) (returned : Except Raised Nat) (es : List Event) : Prop where
  reported : reportedGestures es = (sentGestures es).map some
  counted : ∀ n, returned = .ok n → n = (sentGestures es).length
  dry : dryRun = true → sentGestures es = []
  settled : Settled es

/-! ## The answers to a click -/

def replies : List Event → List (Except Raised UiObservation)
  | [] => []
  | .seen r :: es => r :: replies es
  | .sent _ :: es | .traced _ :: es => replies es

/-- The observation after the first one of a click on Manage Teams, where there is one. -/
def SecondAnswer (current first : UiObservation) : List (Except Raised UiObservation) → Prop
  | [] => True
  | .error _ :: _ => False
  | .ok after :: _ => Continuous first after ∧ (managesTeams after.scene = true → SameSemantics digest current after)

/-- The observations after a click reach no exit that traces nothing. -/
def Answered (g : ClickGesture) (before : UiObservation) : List (Except Raised UiObservation) → Prop
  | [] => True
  | .error .interrupted :: _ => False
  | .error (.error _) :: _ => True
  | .ok after :: rest =>
    if g.targetId = "manage_teams_button" then
      Continuous before after ∧
        if managesTeams after.scene then SameSemantics digest before after else SecondAnswer digest before after rest
    else EffectShown g after → Continuous before after

/-- The observations after each click, the last one before it being `last`. -/
def AllAnswered : Option UiObservation → List Event → Prop
  | _, [] => True
  | last, .sent g :: es => (∀ before ∈ last, Answered digest g before (replies (untilClick es))) ∧ AllAnswered last es
  | _, .seen (.ok o) :: es => AllAnswered (some o) es
  | last, .seen (.error _) :: es | last, .traced _ :: es => AllAnswered last es

instance (current first : UiObservation) : (rest : List (Except Raised UiObservation)) →
    Decidable (SecondAnswer digest current first rest)
  | [] => isTrue trivial
  | .error _ :: _ => isFalse id
  | .ok _ :: _ => inferInstanceAs (Decidable (_ ∧ (_ → _ = _)))

instance (before after : UiObservation) : Decidable (SameSemantics digest before after) :=
  inferInstanceAs (Decidable (_ = _))

instance (g : ClickGesture) (o : UiObservation) : Decidable (EffectShown g o) := by
  unfold EffectShown
  infer_instance

instance (g : ClickGesture) (before : UiObservation) : (answers : List (Except Raised UiObservation)) →
    Decidable (Answered digest g before answers)
  | [] => isTrue trivial
  | .error .interrupted :: _ => isFalse id
  | .error (.error _) :: _ => isTrue trivial
  | .ok after :: rest => inferInstanceAs (Decidable (if g.targetId = "manage_teams_button" then
      Continuous before after ∧
        if managesTeams after.scene then SameSemantics digest before after else SecondAnswer digest before after rest
    else EffectShown g after → Continuous before after))

instance decidableAllAnswered : (last : Option UiObservation) → (es : List Event) →
    Decidable (AllAnswered digest last es)
  | _, [] => isTrue trivial
  | last, .sent _ :: es =>
    have := decidableAllAnswered last es
    inferInstanceAs (Decidable (_ ∧ _))
  | _, .seen (.ok o) :: es => decidableAllAnswered (some o) es
  | last, .seen (.error _) :: es | last, .traced _ :: es => decidableAllAnswered last es

section
variable {g : ClickGesture} {o before after : UiObservation} {r : TraceRecord} {es : List Event}
  {wantsPaused verified : Bool}

theorem timeTarget_ne : timeTarget wantsPaused ≠ "manage_teams_button" := by
  cases wantsPaused <;> decide

theorem timeTarget_pause : decide (timeTarget wantsPaused = "pause_button") = wantsPaused := by
  cases wantsPaused <;> decide

theorem effectShown_time (hg : g.targetId = timeTarget wantsPaused) : EffectShown g o ↔ TimeShown wantsPaused o := by
  unfold EffectShown
  rw [hg, if_neg timeTarget_ne, timeTarget_pause]

/-- A time control asks for the identity where its effect shows. -/
theorem answered_time (hg : g.targetId = timeTarget wantsPaused) {rest : List (Except Raised UiObservation)} :
    Answered digest g before (.ok after :: rest) ↔ (TimeShown wantsPaused after → Continuous before after) := by
  simp only [Answered]
  rw [if_neg (hg ▸ timeTarget_ne), effectShown_time hg]

theorem answered_teams (hg : g.targetId = "manage_teams_button") {rest : List (Except Raised UiObservation)} :
    Answered digest g before (.ok after :: rest) ↔ Continuous before after ∧
      if managesTeams after.scene then SameSemantics digest before after
      else SecondAnswer digest before after rest := by
  simp only [Answered]
  rw [if_pos hg]

/-! ## What the exits account for -/

variable {current : UiObservation} {dryRun : Bool} {gestures : Nat} {returned : Except Raised Nat}

theorem TimeExit.reported (h : TimeExit before wantsPaused dryRun es returned) :
    reportedGestures es = (sentGestures es).map some ↔ AllAnswered digest (some before) es := by
  cases h with
  | idle hidle hr => simp [reportedGestures, sentGestures, AllAnswered, hr]
  | refused e => simp [reportedGestures, sentGestures, AllAnswered]
  | unseen hdry hg hr =>
    simp [reportedGestures, hr.1, hr.2.1, sentGestures, AllAnswered, untilClick, Event.isSent, replies, Answered]
  | interrupted hdry hg =>
    simp [reportedGestures, sentGestures, AllAnswered, untilClick, Event.isSent, replies, Answered]
  | ineffective hdry hg hshown hr =>
    simp [reportedGestures, hr.1, hr.2.1, sentGestures, AllAnswered, untilClick, Event.isSent, replies,
      answered_time digest hg, hshown]
  | discontinuous hdry hg hshown hcont =>
    simp [reportedGestures, sentGestures, AllAnswered, untilClick, Event.isSent, replies, answered_time digest hg,
      hshown, hcont]
  | verified hdry hg hshown hcont hr =>
    simp [reportedGestures, hr.1, hr.2.1, sentGestures, AllAnswered, untilClick, Event.isSent, replies,
      answered_time digest hg, hcont]

theorem TeamsExit.reported (h : TeamsExit digest current dryRun gestures es returned) :
    reportedGestures es = (sentGestures es).map some ↔ AllAnswered digest (some current) es := by
  cases h with
  | planned hdry hr => simp [reportedGestures, sentGestures, AllAnswered, hr]
  | refused e => simp [reportedGestures, sentGestures, AllAnswered]
  | unseen hdry hg hr =>
    simp [reportedGestures, hr.1, hr.2.1, sentGestures, AllAnswered, untilClick, Event.isSent, replies, Answered]
  | interrupted hdry hg =>
    simp [reportedGestures, sentGestures, AllAnswered, untilClick, Event.isSent, replies, Answered]
  | discontinuous hdry hg hcont =>
    simp [reportedGestures, sentGestures, AllAnswered, untilClick, Event.isSent, replies, answered_teams digest hg,
      hcont]
  | unseenAgain hdry hg hcont hfirst =>
    simp [reportedGestures, sentGestures, AllAnswered, untilClick, Event.isSent, replies, answered_teams digest hg,
      hfirst, SecondAnswer]
  | drifted hdry hg hcont hfirst hsecond =>
    simp [reportedGestures, sentGestures, AllAnswered, untilClick, Event.isSent, replies, answered_teams digest hg,
      hfirst, SecondAnswer, hsecond]
  | unrecognized hdry hg hcont hfirst hsecond hafter hr =>
    simp [reportedGestures, hr.1, hr.2.1, sentGestures, AllAnswered, untilClick, Event.isSent, replies,
      answered_teams digest hg, hcont, hfirst, SecondAnswer, hsecond, hafter]
  | changed hdry hg hopened hchanged =>
    cases hopened with
    | atOnce hcont hteams =>
      simp [reportedGestures, sentGestures, AllAnswered, untilClick, Event.isSent, replies, answered_teams digest hg,
        hteams, hchanged]
    | later hcont hfirst hsecond hteams =>
      simp [reportedGestures, sentGestures, AllAnswered, untilClick, Event.isSent, replies, answered_teams digest hg,
        hfirst, SecondAnswer, hteams, hchanged]
  | verified hdry hg hopened hsame hr =>
    cases hopened with
    | atOnce hcont hteams =>
      simp [reportedGestures, hr.1, hr.2.1, sentGestures, AllAnswered, untilClick, Event.isSent, replies,
        answered_teams digest hg, hcont, hteams, hsame]
    | later hcont hfirst hsecond hteams =>
      simp [reportedGestures, hr.1, hr.2.1, sentGestures, AllAnswered, untilClick, Event.isSent, replies,
        answered_teams digest hg, hcont, hfirst, SecondAnswer, hsecond, hteams, hsame]

/-- What an exit sends, and returns of it. -/
structure SendsOnce (dryRun : Bool) (gestures : Nat) (es : List Event) (returned : Except Raised Nat) : Prop where
  once : (sentGestures es).length ≤ 1
  dry : dryRun = true → sentGestures es = [] ∧ ∀ n, returned = .ok n → n = 0
  counted : dryRun = false → ∀ n, returned = .ok n → n = gestures + (sentGestures es).length

theorem TimeExit.sendsOnce (h : TimeExit before wantsPaused dryRun es returned) : SendsOnce dryRun 0 es returned := by
  cases h <;> constructor <;> simp_all [sentGestures]

theorem TeamsExit.sendsOnce (h : TeamsExit digest current dryRun gestures es returned) :
    SendsOnce dryRun gestures es returned := by
  cases h with
  | changed hdry hg hopened hchanged => cases hopened <;> constructor <;> simp_all [sentGestures]
  | verified hdry hg hopened hsame hr => cases hopened <;> constructor <;> simp_all [sentGestures]
  | _ => constructor <;> simp_all [sentGestures]

theorem sendsOnce_nil (e : Raised) : SendsOnce dryRun gestures [] (.error e) := by
  constructor <;> simp [sentGestures]

theorem settled_of_sentGestures_eq_nil (h : sentGestures es = []) : Settled es := by
  induction es with
  | nil => trivial
  | cons e es ih =>
    cases e with
    | sent g => cases h
    | seen x => exact ih h
    | traced r => exact ih h

theorem settled_of_once (h : (sentGestures es).length ≤ 1) : Settled es := by
  induction es with
  | nil => trivial
  | cons e es ih =>
    cases e with
    | sent g =>
      have hnil : sentGestures es = [] := List.eq_nil_of_length_eq_zero (by simpa [sentGestures] using h)
      exact ⟨fun hne => absurd hnil hne, settled_of_sentGestures_eq_nil hnil⟩
    | seen x => exact ih h
    | traced r => exact ih h

theorem SendsOnce.accounted (h : SendsOnce dryRun 0 es returned) :
    Accounted dryRun returned es ↔ reportedGestures es = (sentGestures es).map some := by
  refine ⟨fun ha => ha.reported, fun hr => ⟨hr, fun n hn => ?_, fun hd => (h.dry hd).1, settled_of_once h.once⟩⟩
  cases hdry : dryRun with
  | true => rw [(h.dry hdry).2 n hn, (h.dry hdry).1, List.length_nil]
  | false => simpa using h.counted hdry n hn

/-- One procedure, from the observation it acts on. -/
theorem SendsOnce.accounted_answered (h : SendsOnce dryRun 0 es returned)
    (hr : reportedGestures es = (sentGestures es).map some ↔ AllAnswered digest (some o) es) :
    Accounted dryRun returned (.seen (.ok o) :: es) ↔ AllAnswered digest none (.seen (.ok o) :: es) := by
  refine Iff.trans ?_ (h.accounted.trans hr)
  exact ⟨fun ⟨hr, hc, hd, hs⟩ => ⟨hr, hc, hd, hs⟩, fun ⟨hr, hc, hd, hs⟩ => ⟨hr, hc, hd, hs⟩⟩

/-- The pause that precedes the click on Manage Teams, and the observation that follows it. -/
theorem paused_accounted {x : Except Raised UiObservation}
    (hg : g.targetId = timeTarget true) (hshown : TimeShown true after) (hcont : Continuous before after)
    (hr : r.Reports g true) (h : SendsOnce false 1 es returned)
    (hes : reportedGestures es = (sentGestures es).map some ↔ AllAnswered digest ((x.toOption).or (some after)) es) :
    Accounted false returned ([.seen (.ok before), .sent g, .seen (.ok after), .traced r, .seen x] ++ es) ↔
      AllAnswered digest none ([.seen (.ok before), .sent g, .seen (.ok after), .traced r, .seen x] ++ es) := by
  have hverified : VerifiedIn g (untilClick (.seen (.ok after) :: .traced r :: .seen x :: es)) :=
    ⟨after, r, by simp [untilClick, Event.isSent], (effectShown_time hg).mpr hshown,
      by simp [untilClick, Event.isSent], hr⟩
  have hrest : AllAnswered digest none ([.seen (.ok before), .sent g, .seen (.ok after), .traced r, .seen x] ++ es) ↔
      AllAnswered digest ((x.toOption).or (some after)) es := by
    cases x <;>
      simp [AllAnswered, untilClick, Event.isSent, replies, answered_time digest hg, hcont, Except.toOption]
  rw [hrest, ← hes]
  constructor
  · intro ha
    simpa [reportedGestures, sentGestures, hr.1, hr.2.1] using ha.reported
  · intro hreported
    refine ⟨?_, fun n hn => ?_, fun hd => (Bool.false_ne_true hd).elim, fun _ => hverified, settled_of_once h.once⟩
    · simpa [reportedGestures, sentGestures, hr.1, hr.2.1] using hreported
    · have := h.counted rfl n hn
      simp only [List.cons_append, List.nil_append, sentGestures, List.length_cons]
      omega

end

/-! ## Every call -/

/-- A call that has added `es` so far accounts for its input exactly where its clicks are answered. -/
abbrev AccountedWhen (dryRun : Bool) (es : List Event) (returned : Except Raised Nat) : Prop :=
  Accounted dryRun returned es ↔ AllAnswered digest none es

theorem accountedWhen_unsent {dryRun : Bool} {es : List Event} {returned : Except Raised Nat}
    (hsent : sentGestures es = []) (hreported : reportedGestures es = []) (hanswered : AllAnswered digest none es)
    (hreturned : ∀ n, returned = .ok n → n = 0) : AccountedWhen digest dryRun es returned := by
  refine ⟨fun _ => hanswered, fun _ => ⟨?_, fun n hn => ?_, fun _ => hsent, settled_of_sentGestures_eq_nil hsent⟩⟩
  · rw [hsent, hreported, List.map_nil]
  · rw [hsent, hreturned n hn, List.length_nil]

theorem does_executeOpenManageTeams {before : UiObservation} {dryRun : Bool} :
    Does (executeOpenManageTeams digest before dryRun)
      (fun r es => AccountedWhen digest dryRun (.seen (.ok before) :: es) (.ok r.gesturesSent))
      (fun e es => AccountedWhen digest dryRun (.seen (.ok before) :: es) (.error e)) := by
  unfold executeOpenManageTeams
  refine .ite (fun _ => ?_) fun _ => .ite (fun _ => ?_) fun hpaused => ?_
  · refine .bind (.trace fun r _ hs _ => .result fun out hout => ?_)
    rw [hout]
    exact accountedWhen_unsent digest rfl (by simp [reportedGestures, hs]) trivial (by simp)
  · exact (does_clickManageTeams digest).mono (fun _ _ h => h.sendsOnce.accounted_answered digest (h.reported digest))
      fun _ _ h => h.sendsOnce.accounted_answered digest (h.reported digest)
  -- the game is paused first
  refine .bind (does_executeTimeControl.mono (fun p es hexit => ?_) fun e es hexit =>
    hexit.sendsOnce.accounted_answered digest (hexit.reported digest))
  refine .ite (fun hdry => .result fun out hout => ?_) fun hdry => ?_
  · rw [hout, List.append_nil]
    obtain ⟨hsent, hzero⟩ := hexit.sendsOnce.dry hdry
    have haccounted := hexit.sendsOnce.accounted_answered digest (hexit.reported digest)
    rwa [hzero _ rfl] at haccounted
  generalize p.gesturesSent = n at hexit ⊢
  cases hexit with
  | idle hidle hr =>
    refine absurd hidle ?_
    rintro (h | h)
    · exact hpaused h
    · exact hdry h
  | verified hdry' hg hshown hcont hr =>
    have hpause {x : Except Raised UiObservation} {es : List Event} {returned : Except Raised Nat}
        (h : SendsOnce false 1 es returned)
        (hes : reportedGestures es = (sentGestures es).map some ↔ AllAnswered digest ((x.toOption).or (some _)) es) :=
      hdry' ▸ paused_accounted digest (x := x) hg hshown hcont hr h hes
    refine .bind (.observe (fun current => ?_) fun e => ?_)
    · refine .bind (.check (fun _ _ => ?_) fun e _ => ?_)
      · refine (does_clickManageTeams digest).mono (fun out es h => ?_) fun e es h => ?_
        · exact hpause (x := .ok current) (hdry' ▸ h.sendsOnce) (h.reported digest)
        · exact hpause (x := .ok current) (hdry' ▸ h.sendsOnce) (h.reported digest)
      · exact hpause (x := .ok current) (sendsOnce_nil _) (by simp [reportedGestures, sentGestures, AllAnswered])
    · exact hpause (x := .error e) (sendsOnce_nil _) (by simp [reportedGestures, sentGestures, AllAnswered])

theorem does_executeUiAction {action : UiAction} {dryRun : Bool} :
    Does (executeUiAction digest action dryRun)
      (fun r es => AccountedWhen digest dryRun es (.ok r.gesturesSent))
      (fun e es => AccountedWhen digest dryRun es (.error e)) := by
  unfold executeUiAction
  refine .bind (.observe (fun before => ?_) fun e => accountedWhen_unsent digest rfl rfl trivial (by simp))
  refine .ite (fun _ => does_executeOpenManageTeams digest) fun _ => ?_
  refine .bind (.check (fun _ _ => ?_) fun e _ => accountedWhen_unsent digest rfl rfl trivial (by simp))
  refine .ite (fun _ => does_executeOpenManageTeams digest) fun _ => ?_
  exact does_executeTimeControl.mono (fun _ _ h => h.sendsOnce.accounted_answered digest (h.reported digest))
    fun _ _ h => h.sendsOnce.accounted_answered digest (h.reported digest)

/-- What a call returns of the gestures it sent. -/
def gesturesReturned (outcome : Except Raised DoResult) : Except Raised Nat := outcome.map (·.gesturesSent)

/-- **A call accounts for its input exactly where no click is followed by an exit that traces
nothing.** In an accounted call every gesture that was executed has one record with `input_sent`,
a result counts the gestures, a dry run executes none, and none follows one that was not verified. -/
theorem accounted_iff (action : UiAction) (dryRun : Bool) (outcome : Except Raised DoResult) (events : List Event)
    (hrun : (executeUiAction digest action dryRun ()).Run history [] (outcome, ()) events) :
    Accounted dryRun (gesturesReturned outcome) events ↔ AllAnswered digest none events := by
  cases outcome with
  | ok r =>
    obtain ⟨es, hes, h⟩ := (does_executeUiAction digest []).returns hrun
    rw [hes]
    exact h
  | error e =>
    obtain ⟨es, hes, h⟩ := (does_executeUiAction digest []).raises hrun
    rw [hes]
    exact h

/-! ## Two calls -/

section Example

/-- A game that runs or is paused, seen by a bridge. -/
def game (bridgeInstanceId : String) (bridgeSequence : Int) (paused : Bool) : GameSnapshot where
  captureTimestamp := ""
  captureStartedMarker := "a"
  captureCompletedMarker := "b"
  bridgeSequence
  bridgeInstanceId
  gameSessionId := "session"
  gameId := "software-inc"
  gameVersion := "1.8.41"
  adapterVersion := "9"
  platform := .macos
  architecture := .x86_64
  mapIdentity := ⟨.unavailable, none, none, none⟩
  saveIdentity := ⟨.observed, some "save", none, none⟩
  gameState := [("force_pause", .boolean paused)]
  surfaces := []
  warnings := []
  limitations := []

/-- What is seen of it, with the two buttons. -/
def sight (bridgeInstanceId : String) (bridgeSequence : Int) (scene : Scene) : UiObservation where
  semanticAfter := game bridgeInstanceId bridgeSequence (scene ≠ .gameplayRunning)
  frame := ⟨"frame", 1, "window"⟩
  scene
  modalState := .none
  projectionId := "projection"
  targets := [⟨"pause_button", "frame", true, 1, 10⟩, ⟨"manage_teams_button", "frame", true, 1, 10⟩]
  window := ⟨⟨0, 0, 800, 600⟩, none, [], []⟩

/-- Observations in their order; every gesture is executed, and the clock stands. -/
def showing (sights : List UiObservation) (o : UiCall) (s : List Event) : Option (UiReply o × List Event) :=
  let reply : UiReply o := match o with
    | .observe => match sights[(replies s).length]? with
      | some sight => .ok sight
      | none => .error (.error .external)
    | .execute _ => .ok ()
    | .trace _ => ()
    | .now => (0 : Timestamp)
  some (reply, s ++ happened o reply)

theorem run_of_showing {sights : List UiObservation} {α : Type} {m : Prog UiCall UiReply α} {s s' : List Event} {a : α}
    (h : m.play (showing sights) s = some (a, s')) : m.Run history s a s' := by
  refine Prog.run_of_play (fun o s r s' hs => ?_) h
  simp only [showing, Option.some.injEq, Prod.mk.injEq] at hs
  obtain ⟨rfl, rfl⟩ := hs
  rfl

/-- Manage Teams is opened in a running game with two gestures, both traced. -/
theorem accounted_iff_teams : ∃ outcome events,
    (executeUiAction SemanticPayload.gameSessionId .openManageTeams false ()).Run history [] (outcome, ()) events ∧
      (sentGestures events).length = 2 ∧ Accounted false (gesturesReturned outcome) events := by
  have hplay : ((executeUiAction SemanticPayload.gameSessionId .openManageTeams false ()).play
      (showing [sight "bridge" 1 .gameplayRunning, sight "bridge" 2 .gameplayPaused, sight "bridge" 3 .gameplayPaused,
        sight "bridge" 4 .manageTeams]) []).any (fun p => (sentGestures p.2).length = 2 ∧
          AllAnswered SemanticPayload.gameSessionId none p.2) = true := by
    decide +kernel
  obtain ⟨⟨⟨outcome, _⟩, events⟩, hrun, h⟩ := (Option.any_eq_true _ _).mp hplay
  obtain ⟨hsent, hanswered⟩ := of_decide_eq_true h
  exact ⟨outcome, events, run_of_showing hrun, hsent, (accounted_iff _ _ _ _ _ (run_of_showing hrun)).mpr hanswered⟩

/-- A pause whose effect shows under another bridge is sent and not traced. -/
theorem not_accounted_bridge : ¬ ∀ (digest : SemanticPayload → String) (action : UiAction) (dryRun : Bool)
    (outcome : Except Raised DoResult) (events : List Event),
    (executeUiAction digest action dryRun ()).Run history [] (outcome, ()) events →
      Accounted dryRun (gesturesReturned outcome) events := by
  intro h
  have hplay : ((executeUiAction SemanticPayload.gameSessionId .pause false ()).play
      (showing [sight "bridge" 1 .gameplayRunning, sight "restarted" 2 .gameplayPaused]) []).any (fun p =>
        (sentGestures p.2).length = 1 ∧ reportedGestures p.2 = []) = true := by
    decide +kernel
  obtain ⟨⟨⟨outcome, _⟩, events⟩, hrun, hevents⟩ := (Option.any_eq_true _ _).mp hplay
  obtain ⟨hsent, hreported⟩ := of_decide_eq_true hevents
  have hlength := congrArg List.length (h _ _ _ _ _ (run_of_showing hrun)).reported
  simp [hsent, hreported] at hlength

end Example

end SimPilot.SoftwareInc.Ui
