import SimPilot.Installer.RailRouteOwnership
import SimPilot.Installer.SoftwareIncOwnership
/-!
# Installers touch only what they own

In every run of an installer and of the player's changes, where no call finds two plugins of
which only one was verified, every call leaves the foreign files alone and every `install` that
returns leaves what it recorded.
-/

namespace SimPilot.Installer

open Effect Py Relation

section
variable {M D σ : Type} {installer : BridgeInstaller M D σ} {ships : Path → Prop} {allowed : Operation → Machine M → Prop}
  {Good : Machine M → Prop} {s start : Machine M}

/-- What the player's changes and every call keep holds in every run. -/
theorem BridgeInstaller.good_of_steps (hchange : ∀ s files artifact, Good s → Good { s with files, artifact })
    (hcall : ∀ operation s result st s', Good s → allowed operation s →
      (installer.run operation installer.locals).Run (world ships) s (result, st) s' → Good s')
    (hstart : Good start) (h : ReflTransGen (installer.Step ships allowed) start s) : Good s := by
  induction h with
  | refl => exact hstart
  | tail _ hstep ih =>
    cases hstep with
    | change files artifact => exact hchange _ files artifact ih
    | call hallowed hrun => exact hcall _ _ _ _ _ ih hallowed hrun

end

/-- Every call of both installers, in every run from a game without an installation. -/
theorem installers_touch_only_owned (operation : Operation) :
    (∀ {ships : Path → Prop} {start s s' : Machine RailRoute.BridgeInstallManifest}
        {result : Except InstallError BridgeInstallResult} {st : RailRoute.Copied},
      (∀ p, ships p → p ≠ RailRoute.DISABLED_PLUGIN_RELATIVE_PATH) → start.manifest = none →
      ReflTransGen (RailRoute.railRoute.Step ships RailRoute.Unambiguous) start s → RailRoute.Unambiguous operation s →
      (RailRoute.railRoute.run operation {}).Run (world ships) s (result, st) s' →
      RailRoute.railRoute.Respects operation s result s') ∧
    (∀ {ships : Path → Prop} {start s s' : Machine SoftwareInc.BridgeInstallManifest}
        {result : Except InstallError BridgeInstallResult} {st : Unit},
      start.manifest = none →
      ReflTransGen (SoftwareInc.softwareInc.Step ships SoftwareInc.Unambiguous) start s →
      SoftwareInc.Unambiguous operation s →
      (SoftwareInc.softwareInc.run operation ()).Run (world ships) s (result, st) s' →
      SoftwareInc.softwareInc.Respects operation s result s') := by
  constructor
  · intro ships start s s' result st hships hstart hsteps hallowed hrun
    have hgood : RailRoute.Good s := BridgeInstaller.good_of_steps (fun _ _ _ h => h)
      (fun _ _ _ _ _ hgood hallowed hrun => (RailRoute.respects_of_run hships hgood hallowed hrun).2)
      (RailRoute.good_of_none hstart) hsteps
    exact (RailRoute.respects_of_run hships hgood hallowed hrun).1
  · intro ships start s s' result st hstart hsteps hallowed hrun
    have hgood : SoftwareInc.Good s := BridgeInstaller.good_of_steps (fun _ _ _ h => h)
      (fun _ _ _ _ _ hgood hallowed hrun => (SoftwareInc.respects_of_run hgood hallowed hrun).2)
      (SoftwareInc.good_of_none hstart) hsteps
    exact (SoftwareInc.respects_of_run hgood hallowed hrun).1

/-! ## A foreign file beside the plugin -/

section Example

open RailRoute

/-- A disk on which every call succeeds. -/
def succeeding : (o : Call BridgeInstallManifest (List String)) → Machine BridgeInstallManifest →
    Option (Reply o × Machine BridgeInstallManifest)
  | .inspect, s => some (.ok [], s)
  | .look, s => some (s.files, s)
  | .artifactIsFile, s => some (s.artifact.isSome, s)
  | .readArtifact, s => s.artifact.map fun c => (.ok c, s)
  | .extract, s => some (.ok ⟨[["run_bepinex.sh"], ["libdoorstop.dylib"]], fun _ => "loader"⟩, s)
  | .read p, s => (s.files.content? p).map fun c => (.ok c, s)
  | .mkdir d, s => if s.files d = none then none else some (.ok (), { s with files := s.files.withDirectory d })
  | .write p c, s => if s.files p = none then some (.ok (), s.put p (some (.plain (.file c)))) else none
  | .chmod _, s => some (.ok (), s)
  | .replace p q, s =>
    if s.files p = none ∨ s.files p = some (.plain .directory) ∨ s.files q = some (.plain .directory) then none
    else some (.ok (), (s.put q (s.files p)).put p none)
  | .loadManifest, s => some (.ok s.manifest, s)
  | .writeManifest m, s => some (.ok (), { s with manifest := some m })
  | .tokenIsSafe, s => some (.ok (if s.token then some true else none), s)
  | .writeToken, s => some (.ok (), { s with token := true })
  | _, _ => none

/-- The paths of the loader. -/
def shipped (p : Path) : Prop := p = ["run_bepinex.sh"] ∨ p = ["libdoorstop.dylib"]

theorem world_of_succeeding (o : Call BridgeInstallManifest (List String)) (s : Machine BridgeInstallManifest) (r : Reply o)
    (s' : Machine BridgeInstallManifest) (h : succeeding o s = some (r, s')) : world shipped o s r s' := by
  cases o with
  | inspect | loadManifest | chmod | writeManifest | writeToken =>
    obtain ⟨rfl, rfl⟩ := Prod.mk.inj (Option.some.inj h)
    first | rfl | exact ⟨rfl, rfl⟩
  | look | artifactIsFile =>
    obtain ⟨rfl, rfl⟩ := Prod.mk.inj (Option.some.inj h)
    exact ⟨rfl, rfl⟩
  | extract =>
    obtain ⟨rfl, rfl⟩ := Prod.mk.inj (Option.some.inj h)
    exact ⟨rfl, fun p hp => by simpa [shipped] using hp⟩
  | tokenIsSafe =>
    obtain ⟨rfl, rfl⟩ := Prod.mk.inj (Option.some.inj h)
    refine ⟨rfl, ?_⟩
    cases s.token <;> rfl
  | readArtifact =>
    obtain ⟨c, hc, heq⟩ := Option.map_eq_some_iff.mp h
    obtain ⟨rfl, rfl⟩ := Prod.mk.inj heq
    exact ⟨rfl, hc⟩
  | read p =>
    obtain ⟨c, hc, heq⟩ := Option.map_eq_some_iff.mp h
    obtain ⟨rfl, rfl⟩ := Prod.mk.inj heq
    exact ⟨rfl, hc⟩
  | mkdir d =>
    simp only [succeeding] at h
    split at h
    · cases h
    · next hd =>
      obtain ⟨rfl, rfl⟩ := Prod.mk.inj (Option.some.inj h)
      exact ⟨rfl, fun hn => absurd hn hd⟩
  | write p c =>
    simp only [succeeding] at h
    split at h
    · next hp =>
      obtain ⟨rfl, rfl⟩ := Prod.mk.inj (Option.some.inj h)
      exact ⟨fun n hn => by simp [hp] at hn, rfl⟩
    · cases h
  | replace p q =>
    simp only [succeeding] at h
    split at h
    · cases h
    · next hpq =>
      obtain ⟨rfl, rfl⟩ := Prod.mk.inj (Option.some.inj h)
      simp only [not_or] at hpq
      exact ⟨hpq.1, hpq.2.1, hpq.2.2, rfl⟩
  | children | descendants | unusedPath | unlink | rmdir | removeManifest | removeToken | removeState => cases h

/-- A game directory without anything to do with the bridge. -/
def emptyGame : Machine BridgeInstallManifest where
  files p := if p = [] ∨ p = ["BepInEx"] ∨ p = ["BepInEx", "plugins"] then some (.plain .directory) else none
  manifest := none
  token := false
  artifact := some "bridge"

def freshInstall : Option ((Except InstallError BridgeInstallResult × Copied) × Machine BridgeInstallManifest) :=
  (install {}).play succeeding emptyGame

/-- A machine with a foreign file at the name of the disabled plugin. -/
def withForeign (s : Machine BridgeInstallManifest) : Machine BridgeInstallManifest :=
  { s with files := s.files.put DISABLED_PLUGIN_RELATIVE_PATH (some (.plain (.file "foreign"))) }

def secondInstall : Option ((Except InstallError BridgeInstallResult × Copied) × Machine BridgeInstallManifest) :=
  freshInstall.bind fun r => (install {}).play succeeding (withForeign r.2)

def recordedFiles : List OwnedFile :=
  [⟨PLUGIN_RELATIVE_PATH, "bridge"⟩, ⟨["libdoorstop.dylib"], "loader"⟩, ⟨["run_bepinex.sh"], "loader"⟩]

theorem run_of_play_install {s s' : Machine BridgeInstallManifest} {result : Except InstallError BridgeInstallResult} {st : Copied}
    (h : (install {}).play succeeding s = some ((result, st), s')) :
    (railRoute.run (.install true) {}).Run (world shipped) s (result, st) s' :=
  Prog.run_of_play world_of_succeeding h

theorem freshInstall_eq :
    freshInstall.map (fun r => (r.1.1.isOk, r.2.manifest)) = some (true, some ⟨"bridge", recordedFiles⟩) := by
  decide +kernel

theorem secondInstall_eq : secondInstall.map (fun r => r.2.files DISABLED_PLUGIN_RELATIVE_PATH) = some none := by
  decide +kernel

/-- A repeated `install` renames a foreign file over the plugin. -/
theorem foreign_file_renamed :
    ¬∀ {start s s' : Machine BridgeInstallManifest} {operation : Operation}
        {result : Except InstallError BridgeInstallResult} {st : Copied}, start.manifest = none →
      ReflTransGen (railRoute.Step shipped fun _ _ => True) start s →
      (railRoute.run operation {}).Run (world shipped) s (result, st) s' → railRoute.Respects operation s result s' := by
  intro h
  obtain ⟨r₁, hfresh, hr₁⟩ := Option.map_eq_some_iff.mp freshInstall_eq
  obtain ⟨r₂, hsecond, hr₂⟩ := Option.map_eq_some_iff.mp secondInstall_eq
  rw [secondInstall, hfresh] at hsecond
  have hmanifest : (withForeign r₁.2).manifest = some ⟨"bridge", recordedFiles⟩ := congrArg Prod.snd hr₁
  have hsteps : ReflTransGen (railRoute.Step shipped fun _ _ => True) emptyGame (withForeign r₁.2) :=
    .tail (.single (.call trivial (run_of_play_install hfresh))) (.change _ _)
  have hrespects := h rfl hsteps (run_of_play_install hsecond)
  have hforeign : (withForeign r₁.2).files DISABLED_PLUGIN_RELATIVE_PATH = some (.plain (.file "foreign")) := by
    unfold withForeign
    dsimp only
    exact put_self
  have hkept := hrespects.1 DISABLED_PLUGIN_RELATIVE_PATH
    ⟨"foreign", content?_of_file hforeign, by rw [hmanifest]; decide⟩
  rw [hr₂, hforeign] at hkept
  cases hkept

theorem installers_touch_only_owned_fresh : ∃ s', railRoute.Installed emptyGame.files s' := by
  obtain ⟨⟨⟨result, st⟩, s'⟩, hfresh, hr⟩ := Option.map_eq_some_iff.mp freshInstall_eq
  have hok := congrArg Prod.fst hr
  cases result with
  | error e => cases hok
  | ok r =>
    have hallowed : Unambiguous (.install true) emptyGame := fun m hm => by cases hm
    have hrespects := (installers_touch_only_owned _).1 (by rintro p (rfl | rfl) <;> decide) rfl .refl hallowed
      (run_of_play_install hfresh)
    exact ⟨s', hrespects.2 true r rfl rfl⟩

end Example

end SimPilot.Installer
