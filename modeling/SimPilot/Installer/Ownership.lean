import SimPilot.Installer.FileSystem
import Mathlib.Logic.Relation
/-!
# Touching only what is owned

A file is foreign where its content is not a recorded one. What a call does to a path that is
not foreign leaves the foreign files `Untouched`; the rules say what every call of a disk ends
in, and a run lets the calls of an installer and the player's changes follow each other.
-/

namespace SimPilot.Installer

open Effect Py Relation

variable {M D σ α : Type}

/-! ## Foreign files -/

def Foreign (recorded : List Content) (fs : FileSystem) (p : Path) : Prop :=
  ∃ c, fs.content? p = some c ∧ c ∉ recorded

/-- Every foreign file is still there, under its name and with its content. -/
def Untouched (recorded : List Content) (before after : FileSystem) : Prop :=
  ∀ p, Foreign recorded before p → after p = before p

section
variable {recorded : List Content} {before fs fs' : FileSystem} {p q : Path} {c : Content}

theorem content?_congr (h : fs' p = fs p) : fs'.content? p = fs.content? p := by
  unfold FileSystem.content? FileSystem.target
  rw [h]

theorem content?_of_present (h : fs.present p = false) : fs.content? p = none := by
  unfold FileSystem.present at h
  unfold FileSystem.content?
  rw [Option.isSome_eq_false_iff.mp h |> Option.isNone_iff_eq_none.mp]

theorem present_of_content? (h : fs.content? p = some c) : fs.present p = true := by
  by_contra hp
  rw [content?_of_present (by simpa using hp)] at h
  cases h

theorem isFile_iff : fs.isFile p = true ↔ ∃ c, fs.content? p = some c := Option.isSome_iff_exists

theorem content?_of_file (h : fs p = some (.plain (.file c))) : fs.content? p = some c := by
  unfold FileSystem.content? FileSystem.target
  rw [h]
  rfl

theorem content?_of_none (h : fs p = none) : fs.content? p = none := by
  unfold FileSystem.content? FileSystem.target
  rw [h]
  rfl

theorem content?_of_directory (h : fs p = some (.plain .directory)) : fs.content? p = none := by
  unfold FileSystem.content? FileSystem.target
  rw [h]
  rfl

/-- Nothing stands where neither a thing nor a dangling link does. -/
theorem eq_none_of_absent (h : fs.present p = false) (hlink : fs.isSymlink p = false) : fs p = none := by
  unfold FileSystem.isSymlink at hlink
  unfold FileSystem.present FileSystem.target at h
  cases hn : fs p with
  | none => rfl
  | some n =>
    rw [hn] at h hlink
    cases n with
    | plain t => cases h
    | symlink t => cases hlink

@[simp] theorem put_self {n : Option Node} : fs.put p n p = n := Function.update_self ..

theorem put_of_ne {n : Option Node} (h : q ≠ p) : fs.put p n q = fs q := Function.update_of_ne h ..

theorem not_foreign_of_none (h : fs.content? p = none) : ¬Foreign recorded fs p := by
  rintro ⟨c, hc, -⟩
  rw [h] at hc
  cases hc

theorem not_foreign_of_recorded (h : fs.content? p = some c) (hc : c ∈ recorded) : ¬Foreign recorded fs p := by
  rintro ⟨c', hc', hnot⟩
  rw [h] at hc'
  cases hc'
  exact hnot hc

namespace Untouched

theorem refl (fs : FileSystem) : Untouched recorded fs fs := fun _ _ => rfl

/-- A path that is not foreign now was not foreign before. -/
theorem not_foreign (h : Untouched recorded before fs) (hp : ¬Foreign recorded fs p) : ¬Foreign recorded before p := by
  rintro ⟨c, hc, hnot⟩
  refine hp ⟨c, ?_, hnot⟩
  rwa [content?_congr (h p ⟨c, hc, hnot⟩)]

theorem put {n : Option Node} (h : Untouched recorded before fs) (hp : ¬Foreign recorded before p) :
    Untouched recorded before (fs.put p n) := by
  intro q hq
  have hne : q ≠ p := fun he => hp (he ▸ hq)
  rw [put_of_ne hne]
  exact h q hq

theorem withDirectory (h : Untouched recorded before fs) : Untouched recorded before (fs.withDirectory p) := by
  intro q hq
  have hfs := h q hq
  obtain ⟨c, hc, -⟩ := hq
  have hne : fs q ≠ none := fun hn => by
    rw [← content?_congr hfs, content?_of_none hn] at hc
    cases hc
  unfold FileSystem.withDirectory
  rw [if_neg fun hn => hne hn.2, hfs]

end Untouched

theorem withDirectory_of_ne_none {d : Path} (h : fs p ≠ none) : fs.withDirectory d p = fs p :=
  if_neg fun hn => h hn.2

/-- Only the listed paths may differ. -/
def SameBut (paths : List Path) (before after : FileSystem) : Prop := ∀ p, p ∉ paths → after p = before p

namespace SameBut
variable {paths : List Path}

theorem refl (fs : FileSystem) : SameBut paths fs fs := fun _ _ => rfl

theorem put {n : Option Node} (h : SameBut paths before fs) (hp : p ∈ paths) : SameBut paths before (fs.put p n) := by
  intro q hq
  have hne : q ≠ p := by
    rintro rfl
    exact hq hp
  rw [put_of_ne hne]
  exact h q hq

theorem untouched (h : SameBut paths before fs) (hpaths : ∀ p ∈ paths, ¬Foreign recorded before p) :
    Untouched recorded before fs :=
  fun p hp => h p fun hmem => hpaths p hmem hp

end SameBut

/-- A name that was made up begins as it was asked to. -/
theorem namedBetween.ne {d e : Path} {a b name : String} (h : namedBetween d a b p) (ha : a.toList ≠ [])
    (hhead : name.toList.head? ≠ a.toList.head?) : p ≠ e ++ [name] := by
  rintro heq
  obtain ⟨middle, rfl⟩ := h
  have hlast := congrArg List.getLast? heq
  simp only [List.getLast?_concat, Option.some.injEq] at hlast
  apply hhead
  rw [← hlast]
  obtain ⟨c, rest, hc⟩ := List.exists_cons_of_ne_nil ha
  simp [hc]

/-- Names that were made up with different ends differ. -/
theorem namedBetween.ne_of_ends {d d' : Path} {a a' b b' : String} (h : namedBetween d a b p) (h' : namedBetween d' a' b' q)
    (hb : ¬b.toList <:+ b'.toList) (hb' : ¬b'.toList <:+ b.toList) : p ≠ q := by
  rintro rfl
  obtain ⟨middle, rfl⟩ := h
  obtain ⟨middle', heq⟩ := h'
  have hlast := congrArg List.getLast? heq
  simp only [List.getLast?_concat, Option.some.injEq] at hlast
  have hend : b.toList <:+ (a ++ middle ++ b).toList := by
    rw [String.toList_append]
    exact List.suffix_append _ _
  have hend' : b'.toList <:+ (a ++ middle ++ b).toList := by
    rw [hlast, String.toList_append]
    exact List.suffix_append _ _
  exact (List.suffix_or_suffix_of_suffix hend hend').elim hb hb'

/-! ## Rules -/

section
variable {ships : Path → Prop} {st : σ} {s : Machine M} {er : InstallError → σ → Machine M → Prop}

def Machine.put (s : Machine M) (p : Path) (n : Option Node) : Machine M := { s with files := s.files.put p n }

/-- Where a rename ends. -/
theorem Machine.moved {n : Option Node} (h : q ≠ p) : ((s.put q n).put p none).files q = n := by
  unfold put
  dsimp only
  rw [put_of_ne h, put_self]

theorem Machine.moved_other {x : Path} {n : Option Node} (hp : x ≠ p) (hq : x ≠ q) :
    ((s.put q n).put p none).files x = s.files x := by
  unfold put
  dsimp only
  rw [put_of_ne hp, put_of_ne hq]

theorem ends_require {p : Prop} [Decidable p] {e : InstallError} {ok : Unit → σ → Machine M → Prop} (ho : p → ok () st s)
    (he : er e st s) : Py.Ends (world ships) (Disk.require p e : Disk M D σ Unit) st s ok er :=
  .ite (fun hp => .pure (ho hp)) fun _ => .raise he

theorem ends_look {ok : FileSystem → σ → Machine M → Prop} (ho : ok s.files st s) :
    Py.Ends (world ships) (Disk.look : Disk M D σ FileSystem) st s ok er := by
  refine .perform fun r s' h => ?_
  obtain ⟨rfl, rfl⟩ := h
  exact ho

theorem ends_artifactIsFile {ok : Bool → σ → Machine M → Prop} (ho : ok s.artifact.isSome st s) :
    Py.Ends (world ships) (Disk.artifactIsFile : Disk M D σ Bool) st s ok er := by
  refine .perform fun r s' h => ?_
  obtain ⟨rfl, rfl⟩ := h
  exact ho

/-- What holds of a reply: of a value the one thing, of an error the other. -/
def Replied {α : Type} (ok : α → σ → Machine M → Prop) (er : InstallError → σ → Machine M → Prop) :
    Except InstallError α → σ → Machine M → Prop
  | .ok a => ok a
  | .error e => er e

/-- A call whose reply is returned or raised. -/
theorem ends_lift {α : Type} {call : Disk M D σ (Except InstallError α)} {ok : α → σ → Machine M → Prop}
    (h : Py.Ends (world ships) call st s (Replied ok er) er) : Py.Ends (world ships) (do Py.lift (← call)) st s ok er := by
  refine .bind (h.mono (fun r st' s' hr => ?_) fun _ _ _ he => he)
  cases r with
  | ok a => exact .lift (fun _ ha => by cases ha; exact hr) fun _ hd => nomatch hd
  | error e => exact .lift (fun _ hd => nomatch hd) fun _ he => by cases he; exact hr

theorem ends_inspect {ok : D → σ → Machine M → Prop} (ho : ∀ d, ok d st s) (he : ∀ e, er e st s) :
    Py.Ends (world ships) (Disk.inspect : Disk M D σ D) st s ok er := by
  refine ends_lift (.perform fun r s' h => ?_)
  cases r with
  | ok d => exact (show s' = s from h) ▸ ho d
  | error e => exact (show s' = s from h) ▸ he e

theorem ends_readArtifact {ok : Content → σ → Machine M → Prop} (ho : ∀ c, s.artifact = some c → ok c st s)
    (he : ∀ e, er e st s) : Py.Ends (world ships) (Disk.readArtifact : Disk M D σ Content) st s ok er := by
  refine ends_lift (.perform fun r s' h => ?_)
  cases r with
  | ok c =>
    obtain ⟨rfl, hc⟩ := h
    exact ho c hc
  | error e => exact (show s' = s from h) ▸ he e

theorem ends_extract {ok : Extraction → σ → Machine M → Prop} (ho : ∀ x, (∀ p ∈ x.files, ships p) → ok x st s)
    (he : ∀ e, er e st s) : Py.Ends (world ships) (Disk.extract : Disk M D σ Extraction) st s ok er := by
  refine ends_lift (.perform fun r s' h => ?_)
  cases r with
  | ok x =>
    obtain ⟨rfl, hx⟩ := h
    exact ho x hx
  | error e => exact (show s' = s from h) ▸ he e

theorem ends_read {ok : Content → σ → Machine M → Prop} (ho : ∀ c, s.files.content? p = some c → ok c st s)
    (he : ∀ e, er e st s) : Py.Ends (world ships) (Disk.read p : Disk M D σ Content) st s ok er := by
  refine ends_lift (.perform fun r s' h => ?_)
  cases r with
  | ok c =>
    obtain ⟨rfl, hc⟩ := h
    exact ho c hc
  | error e => exact (show s' = s from h) ▸ he e

theorem ends_children {ok : List Path → σ → Machine M → Prop}
    (ho : ∀ ps, (∀ name, p ++ [name] ∈ ps ↔ s.files (p ++ [name]) ≠ none) → ok ps st s) (he : ∀ e, er e st s) :
    Py.Ends (world ships) (Disk.children p : Disk M D σ (List Path)) st s ok er := by
  refine ends_lift (.perform fun r s' h => ?_)
  cases r with
  | ok ps =>
    obtain ⟨rfl, hps⟩ := h
    exact ho ps hps
  | error e => exact (show s' = s from h) ▸ he e

theorem ends_descendants {ok : List Path → σ → Machine M → Prop} (ho : ∀ ps, ok ps st s) (he : ∀ e, er e st s) :
    Py.Ends (world ships) (Disk.descendants p : Disk M D σ (List Path)) st s ok er := by
  refine ends_lift (.perform fun r s' h => ?_)
  cases r with
  | ok ps =>
    obtain ⟨rfl, -⟩ := h
    exact ho ps
  | error e => exact (show s' = s from h) ▸ he e

theorem ends_unusedPath {a b : String} {ok : Path → σ → Machine M → Prop}
    (ho : ∀ q, s.files q = none → namedBetween p a b q → ok q st s) (he : ∀ e, er e st s) :
    Py.Ends (world ships) (Disk.unusedPath p a b : Disk M D σ Path) st s ok er := by
  refine ends_lift (.perform fun r s' h => ?_)
  cases r with
  | ok q =>
    obtain ⟨rfl, hq, hname⟩ := h
    exact ho q hq hname
  | error e => exact (show s' = s from h) ▸ he e

theorem ends_mkdir {ok : Unit → σ → Machine M → Prop}
    (ho : (s.files p = none → ∀ q, p <+: q → s.files q = none) → ok () st { s with files := s.files.withDirectory p })
    (he : ∀ e, er e st s) : Py.Ends (world ships) (Disk.mkdir p : Disk M D σ Unit) st s ok er := by
  refine ends_lift (.perform fun r s' h => ?_)
  cases r with
  | ok u =>
    obtain ⟨rfl, hnew⟩ := h
    exact ho hnew
  | error e => exact (show s' = s from h) ▸ he e

theorem ends_write {ok : Unit → σ → Machine M → Prop} (ho : s.files.writable p → ok () st (s.put p (some (.plain (.file c)))))
    (he : ∀ e, er e st s) (hpart : ∀ e c, s.files.writable p → er e st (s.put p (some (.plain (.file c))))) :
    Py.Ends (world ships) (Disk.write p c : Disk M D σ Unit) st s ok er := by
  refine ends_lift (.perform fun r s' h => ?_)
  cases r with
  | ok u =>
    obtain ⟨hw, rfl⟩ := h
    exact ho hw
  | error e =>
    obtain rfl | ⟨hw, c', rfl⟩ := h
    · exact he e
    · exact hpart e c' hw

theorem ends_chmod {ok : Unit → σ → Machine M → Prop} (ho : ok () st s) (he : ∀ e, er e st s) :
    Py.Ends (world ships) (Disk.chmod p : Disk M D σ Unit) st s ok er := by
  refine ends_lift (.perform fun r s' h => ?_)
  cases r with
  | ok u => exact (show s' = s from h) ▸ ho
  | error e => exact (show s' = s from h) ▸ he e

theorem ends_unlink {ok : Unit → σ → Machine M → Prop} (ho : ok () st (s.put p none))
    (he : ∀ e, er e st s) : Py.Ends (world ships) (Disk.unlink p : Disk M D σ Unit) st s ok er := by
  refine ends_lift (.perform fun r s' h => ?_)
  cases r with
  | ok u =>
    obtain ⟨-, rfl⟩ := h
    exact ho
  | error e => exact (show s' = s from h) ▸ he e

theorem ends_replace {ok : Unit → σ → Machine M → Prop}
    (ho : s.files p ≠ none → s.files p ≠ some (.plain .directory) →
      ok () st ((s.put q (s.files p)).put p none))
    (he : ∀ e, er e st s) : Py.Ends (world ships) (Disk.replace p q : Disk M D σ Unit) st s ok er := by
  refine ends_lift (.perform fun r s' h => ?_)
  cases r with
  | ok u =>
    obtain ⟨hp, hd, -, rfl⟩ := h
    exact ho hp hd
  | error e => exact (show s' = s from h) ▸ he e

theorem ends_rmdir {ok : Unit → σ → Machine M → Prop}
    (ho : s.files p = some (.plain .directory) → ok () st (s.put p none))
    (he : ∀ e, er e st s) : Py.Ends (world ships) (Disk.rmdir p : Disk M D σ Unit) st s ok er := by
  refine ends_lift (.perform fun r s' h => ?_)
  cases r with
  | ok u =>
    obtain ⟨hd, rfl⟩ := h
    exact ho hd
  | error e => exact (show s' = s from h) ▸ he e

theorem ends_loadManifest {ok : Option M → σ → Machine M → Prop} (ho : ok s.manifest st s) (he : ∀ e, er e st s) :
    Py.Ends (world ships) (Disk.loadManifest : Disk M D σ (Option M)) st s ok er := by
  refine ends_lift (.perform fun r s' h => ?_)
  cases r with
  | ok m =>
    obtain ⟨rfl, rfl⟩ := h
    exact ho
  | error e => exact (show s' = s from h) ▸ he e

theorem ends_writeManifest {m : M} {ok : Unit → σ → Machine M → Prop} (ho : ok () st { s with manifest := some m })
    (he : ∀ e, er e st s) (hlate : ∀ e, er e st { s with manifest := some m }) :
    Py.Ends (world ships) (Disk.writeManifest m : Disk M D σ Unit) st s ok er := by
  refine ends_lift (.perform fun r s' h => ?_)
  cases r with
  | ok u =>
    obtain rfl := h
    exact ho
  | error e =>
    obtain rfl | rfl := h
    · exact he e
    · exact hlate e

theorem ends_removeManifest {ok : Unit → σ → Machine M → Prop} (ho : ok () st { s with manifest := none })
    (he : ∀ e, er e st s) : Py.Ends (world ships) (Disk.removeManifest : Disk M D σ Unit) st s ok er := by
  refine ends_lift (.perform fun r s' h => ?_)
  cases r with
  | ok u =>
    obtain rfl := h
    exact ho
  | error e => exact (show s' = s from h) ▸ he e

theorem ends_tokenIsSafe {ok : Option Bool → σ → Machine M → Prop} (ho : ∀ r, r.isSome = s.token → ok r st s)
    (he : ∀ e, er e st s) : Py.Ends (world ships) (Disk.tokenIsSafe : Disk M D σ (Option Bool)) st s ok er := by
  refine ends_lift (.perform fun r s' h => ?_)
  cases r with
  | ok t =>
    obtain ⟨rfl, ht⟩ := h
    exact ho t ht
  | error e => exact (show s' = s from h) ▸ he e

theorem ends_writeToken {ok : Unit → σ → Machine M → Prop} (ho : ok () st { s with token := true })
    (he : ∀ e, er e st s) (hlate : ∀ e, er e st { s with token := true }) :
    Py.Ends (world ships) (Disk.writeToken : Disk M D σ Unit) st s ok er := by
  refine ends_lift (.perform fun r s' h => ?_)
  cases r with
  | ok u =>
    obtain rfl := h
    exact ho
  | error e =>
    obtain rfl | rfl := h
    · exact he e
    · exact hlate e

theorem ends_removeToken {ok : Unit → σ → Machine M → Prop} (ho : ok () st { s with token := false })
    (he : ∀ e, er e st s) : Py.Ends (world ships) (Disk.removeToken : Disk M D σ Unit) st s ok er := by
  refine ends_lift (.perform fun r s' h => ?_)
  cases r with
  | ok u =>
    obtain rfl := h
    exact ho
  | error e => exact (show s' = s from h) ▸ he e

theorem ends_removeState {ok : Unit → σ → Machine M → Prop} (ho : ok () st s) (he : ∀ e, er e st s) :
    Py.Ends (world ships) (Disk.removeState : Disk M D σ Unit) st s ok er := by
  refine ends_lift (.perform fun r s' h => ?_)
  cases r with
  | ok u => exact (show s' = s from h) ▸ ho
  | error e => exact (show s' = s from h) ▸ he e

theorem ends_suppress {m : Disk M D σ Unit} {ok : Unit → σ → Machine M → Prop}
    (h : Py.Ends (world ships) m st s ok fun _ => ok ()) : Py.Ends (world ships) (Disk.suppress m) st s ok er :=
  .tryCatch (h.mono (fun _ _ _ h => h) fun _ _ _ h => .pure h)

/-- The invariant `I` says what holds while some elements remain. -/
theorem ends_each {β : Type} {f : β → Disk M D σ Unit} {I : List β → σ → Machine M → Prop}
    (hstep : ∀ b bs st s, I (b :: bs) st s → Py.Ends (world ships) (f b) st s (fun _ st' s' => I bs st' s') er) :
    ∀ {l : List β} {st : σ} {s : Machine M}, I l st s → Py.Ends (world ships) (Disk.each f l) st s (fun _ st' s' => I [] st' s') er
  | [], _, _, h => .pure h
  | b :: bs, st, s, h => .seq (hstep b bs st s h) (fun _ _ _ h' => ends_each hstep h') fun _ _ _ h' => h'

end

end

/-! ## Runs -/

inductive Operation where
  | install (approveBroadAccess : Bool)
  | disable
  | uninstall
  deriving DecidableEq, Repr

/-- An installer: its operations, the two names of its plugin, what a manifest records and
where a recorded file is. -/
structure BridgeInstaller (M D σ : Type) where
  run : Operation → Disk M D σ BridgeInstallResult
  locals : σ
  enabled : Path
  disabled : Path
  entries : M → List OwnedFile
  located : FileSystem → OwnedFile → Path

variable (installer : BridgeInstaller M D σ)

def BridgeInstaller.recorded (m : Option M) : List Content := (m.toList.flatMap installer.entries).map (·.sha256)

/-- Every recorded file has its content, and the plugin is enabled or disabled as it was. -/
def BridgeInstaller.Installed (before : FileSystem) (s : Machine M) : Prop :=
  ∃ m, s.manifest = some m ∧
    (∀ entry ∈ installer.entries m, s.files.content? (installer.located s.files entry) = some entry.sha256) ∧
    (s.files.isFile installer.enabled = true ∨
      before.isFile installer.enabled = false ∧ before.isFile installer.disabled = true ∧
        s.files.isFile installer.disabled = true)

/-- What a call may do to the disk, and what an `install` that returns leaves. -/
def BridgeInstaller.Respects (operation : Operation) (s : Machine M) (result : Except InstallError BridgeInstallResult)
    (s' : Machine M) : Prop :=
  Untouched (installer.recorded s.manifest) s.files s'.files ∧
    ∀ approve r, operation = .install approve → result = .ok r → installer.Installed s.files s'

/-- One step: the player changes the files or the artifact, or the installer is called. -/
inductive BridgeInstaller.Step (ships : Path → Prop) (allowed : Operation → Machine M → Prop) : Machine M → Machine M → Prop
  | change {s : Machine M} (files : FileSystem) (artifact : Option Content) :
      Step ships allowed s { s with files, artifact }
  | call {s s' : Machine M} {operation : Operation} {result : Except InstallError BridgeInstallResult} {st : σ}
      (hallowed : allowed operation s)
      (hrun : (installer.run operation installer.locals).Run (world ships) s (result, st) s') : Step ships allowed s s'

end SimPilot.Installer
