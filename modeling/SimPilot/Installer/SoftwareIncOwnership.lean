import SimPilot.Installer.Ownership
import SimPilot.Installer.SoftwareInc
/-!
# The Software Inc. installer touches what it owns

Its manifest records one file, which is looked for enabled first. Only `disable` acts on the
other of the two names: it renames over whatever is disabled already, so there `Unambiguous`
is needed.
-/

namespace SimPilot.Installer.SoftwareInc

open Effect Py

def softwareInc : BridgeInstaller BridgeInstallManifest Discovery Unit where
  run
    | .install approve => install approve
    | .disable => disable
    | .uninstall => uninstall
  locals := ()
  enabled := enabledPath
  disabled := disabledPath
  entries := (·.files)
  located fs _ := installedTarget fs

/-- Where a `disable` finds the plugin enabled, a disabled one is no other. -/
def Unambiguous : Operation → Machine BridgeInstallManifest → Prop
  | .disable, s => ∀ m, s.manifest = some m → s.files.isFile enabledPath = true →
      ∀ c, s.files.content? disabledPath = some c → c = m.artifactSha256
  | _, _ => True

/-- What a manifest records. -/
def WellFormed (m : BridgeInstallManifest) : Prop := m.files = [⟨ownedPath, m.artifactSha256⟩]

def Good (s : Machine BridgeInstallManifest) : Prop := ∀ m, s.manifest = some m → WellFormed m

variable {m : BridgeInstallManifest} {fs before : FileSystem} {p : Path} {ships : Path → Prop} {st : Unit}
  {s s' : Machine BridgeInstallManifest} {a : Content} {recorded : List Content}

theorem recorded_some (hm : WellFormed m) : softwareInc.recorded (some m) = [m.artifactSha256] := by
  simp [BridgeInstaller.recorded, softwareInc, show m.files = _ from hm]

theorem good_of_none (h : s.manifest = none) : Good s := fun m hm => by
  rw [h] at hm
  cases hm

/-- What `_verify_owned_file` finds. -/
def Verified (m : BridgeInstallManifest) (fs : FileSystem) : Prop :=
  fs.content? (installedTarget fs) = some m.artifactSha256

theorem ends_verifyOwnedFile : Py.Ends (world ships) (verifyOwnedFile m) st s
    (fun _ _ s' => s' = s ∧ Verified m s.files) (fun _ _ s' => s' = s) := by
  unfold verifyOwnedFile
  refine .bind (ends_require (fun _ => ?_) rfl)
  refine .bind (ends_look (.bind (ends_require (fun _ => ?_) rfl)))
  refine .bind (ends_read (fun sha hsha => ?_) fun _ => rfl)
  refine ends_require (fun heq => ⟨rfl, ?_⟩) rfl
  rw [heq] at hsha
  exact hsha

theorem not_foreign_of_verified (hv : Verified m fs) : ¬Foreign [m.artifactSha256] fs (installedTarget fs) :=
  not_foreign_of_recorded hv (List.mem_singleton.mpr rfl)

theorem installedTarget_of_enabled (h : fs.isFile enabledPath = true) : installedTarget fs = enabledPath := by
  unfold installedTarget installedName
  rw [if_pos h]
  rfl

theorem installedTarget_of_disabled (h : fs.isFile enabledPath = false) : installedTarget fs = disabledPath := by
  unfold installedTarget installedName
  rw [if_neg (by simp [h])]
  rfl

theorem enabled_not_foreign (hv : Verified m fs) : ¬Foreign [m.artifactSha256] fs enabledPath := by
  cases h : fs.isFile enabledPath with
  | true =>
    rw [← installedTarget_of_enabled h]
    exact not_foreign_of_verified hv
  | false =>
    refine not_foreign_of_none ?_
    unfold FileSystem.isFile at h
    exact Option.isSome_eq_false_iff.mp h |> Option.isNone_iff_eq_none.mp

theorem isFile_congr {fs' : FileSystem} (h : fs' p = fs p) : fs'.isFile p = fs.isFile p := by
  unfold FileSystem.isFile
  rw [content?_congr h]

/-- The one record, wherever the plugin is. -/
theorem installed_of_content (hmanifest : s.manifest = some m) (hm : WellFormed m) (hv : Verified m s.files)
    (hplace : s.files.isFile enabledPath = true ∨
      before.isFile enabledPath = false ∧ before.isFile disabledPath = true) : softwareInc.Installed before s := by
  refine ⟨m, hmanifest, fun entry hentry => ?_, ?_⟩
  · have hmem : entry ∈ m.files := hentry
    rw [show m.files = _ from hm, List.mem_singleton] at hmem
    subst hmem
    exact hv
  · rcases hplace with h | ⟨h, h'⟩
    · exact .inl h
    · cases hen : s.files.isFile enabledPath with
      | true => exact .inl hen
      | false =>
        refine .inr ⟨h, h', isFile_iff.mpr ⟨m.artifactSha256, ?_⟩⟩
        have hcontent : s.files.content? (installedTarget s.files) = some m.artifactSha256 := hv
        rwa [installedTarget_of_disabled hen] at hcontent

/-! ## Installing -/

/-- The manifest of the upgraded bridge. -/
abbrev updated (m : BridgeInstallManifest) (a : Content) : BridgeInstallManifest :=
  { m with artifactSha256 := a, files := [⟨ownedPath, a⟩] }

theorem ends_upgradeOwnedBridge (hv : Verified m s.files) (hgood : Good s) :
    Py.Ends (world ships) (upgradeOwnedBridge m a) st s
      (fun _ _ s' => Untouched [m.artifactSha256] s.files s'.files ∧ Good s' ∧ softwareInc.Installed s.files s')
      (fun _ _ s' => Untouched [m.artifactSha256] s.files s'.files ∧ Good s') := by
  have hstart : Untouched [m.artifactSha256] s.files s.files ∧ Good s := ⟨.refl _, hgood⟩
  unfold upgradeOwnedBridge
  refine .bind (ends_look ?_)
  dsimp only
  have htarget : ¬Foreign [m.artifactSha256] s.files (installedTarget s.files) := not_foreign_of_verified hv
  have htnone : s.files (installedTarget s.files) ≠ none := fun hn => by
    have hcontent : s.files.content? (installedTarget s.files) = some m.artifactSha256 := hv
    rw [content?_of_none hn] at hcontent
    cases hcontent
  refine .bind (ends_unusedPath (fun temporary htnone' htname => ?_) fun _ => hstart)
  refine .bind (ends_unusedPath (fun backup hbnone hbname => ?_) fun _ => hstart)
  have hne : temporary ≠ backup := htname.ne_of_ends hbname (by decide) (by decide)
  have htt : temporary ≠ installedTarget s.files := fun he => htnone (he ▸ htnone')
  have hbt : backup ≠ installedTarget s.files := fun he => htnone (he ▸ hbnone)
  have htenabled : temporary ≠ enabledPath := htname.ne (e := targetDirectory) (by simp) (by simp [BRIDGE_FILE_NAME])
  have hbenabled : backup ≠ enabledPath := hbname.ne (e := targetDirectory) (by simp) (by simp [BRIDGE_FILE_NAME])
  -- only these paths are touched from here on
  let paths : List Path := [temporary, backup, installedTarget s.files]
  have hpaths : ∀ p ∈ paths, ¬Foreign [m.artifactSha256] s.files p := by
    intro p hp
    simp only [paths, List.mem_cons, List.not_mem_nil, or_false] at hp
    rcases hp with rfl | rfl | rfl
    · exact not_foreign_of_none (content?_of_none htnone')
    · exact not_foreign_of_none (content?_of_none hbnone)
    · exact htarget
  have ht : temporary ∈ paths := List.mem_cons_self ..
  have hb : backup ∈ paths := by simp [paths]
  have hg : installedTarget s.files ∈ paths := by simp [paths]
  let Q (s' : Machine BridgeInstallManifest) : Prop := SameBut paths s.files s'.files ∧ Good s'
  have hQ : ∀ {s'}, Q s' → Untouched [m.artifactSha256] s.files s'.files ∧ Good s' :=
    fun h => ⟨h.1.untouched hpaths, h.2⟩
  have hQput : ∀ {s' : Machine BridgeInstallManifest} {p : Path} {n : Option Node}, Q s' → p ∈ paths → Q (s'.put p n) :=
    fun h hp => ⟨h.1.put hp, h.2⟩
  have hQ₀ : Q s := ⟨.refl _, hgood⟩
  generalize htgt : installedTarget s.files = target at *
  refine .bind (.tryFinally (.weaken (fun _ _ s' => Q s' ∧ s'.files target = some (.plain (.file a)) ∧
      s'.manifest = some (updated m a)) (fun _ _ s' => Q s') ?_ ?_ ?_))
  · refine .bind (ends_readArtifact (fun c _ => ?_) fun _ => hQ₀)
    refine .bind (ends_write (fun _ => ?_) (fun _ => hQ₀) fun _ _ _ => hQput hQ₀ ht)
    have hQ₁ : Q (s.put temporary (some (.plain (.file c)))) := hQput hQ₀ ht
    have hfile : (s.put temporary (some (.plain (.file c)))).files temporary = some (.plain (.file c)) := put_self
    generalize s.put temporary _ = s₁ at hQ₁ hfile ⊢
    refine .bind (ends_chmod ?_ fun _ => hQ₁)
    refine .bind (ends_read (fun sha hsha => ?_) fun _ => hQ₁)
    refine .bind (ends_require (fun heq => ?_) hQ₁)
    -- what was read is what was written
    obtain rfl : c = a := by
      rw [content?_of_file hfile] at hsha
      cases hsha
      exact heq
    refine .bind (ends_read (fun old _ => ?_) fun _ => hQ₁)
    refine .bind (ends_write (fun _ => ?_) (fun _ => hQ₁) fun _ _ _ => hQput hQ₁ hb)
    have hQ₂ : Q (s₁.put backup (some (.plain (.file old)))) := hQput hQ₁ hb
    have hfile₂ : (s₁.put backup (some (.plain (.file old)))).files temporary = some (.plain (.file c)) :=
      (put_of_ne hne).trans hfile
    generalize s₁.put backup _ = s₂ at hQ₂ hfile₂ ⊢
    refine .bind (ends_chmod ?_ fun _ => hQ₂)
    refine .bind (ends_replace (fun _ _ => ?_) fun _ => hQ₂)
    have hQ₃ : Q ((s₂.put target (s₂.files temporary)).put temporary none) := hQput (hQput hQ₂ hg) ht
    have hfile₃ : ((s₂.put target (s₂.files temporary)).put temporary none).files target = some (.plain (.file c)) :=
      (Machine.moved htt.symm).trans hfile₂
    generalize (s₂.put target (s₂.files temporary)).put temporary none = s₃ at hQ₃ hfile₃ ⊢
    have hQ₄ : Q { s₃ with manifest := some (updated m c) } := ⟨hQ₃.1, fun m' hm' => by cases hm'; rfl⟩
    have hrestore : ∀ {s₄ : Machine BridgeInstallManifest} {ok : Unit → Unit → Machine BridgeInstallManifest → Prop}
        (e : InstallError), Q s₄ → Py.Ends (world ships) (do Disk.replace backup target; Py.raise e : Op Unit) st s₄ ok
        (fun _ _ s' => Q s') := fun e h =>
      .bind (ends_replace (fun _ _ => .raise (hQput (hQput h hg) hb)) fun _ => h)
    refine .bind (.tryCatch (ends_writeManifest ?_ (fun e => hrestore e hQ₃) fun e => hrestore e hQ₄))
    exact ends_unlink ⟨hQput hQ₄ hb, (put_of_ne hbt.symm).trans hfile₃, rfl⟩ fun _ => hQ₄
  · rintro _ _ s₅ ⟨hQ₅, hfile, hmanifest⟩
    refine .bind (ends_unlink ?_ fun _ => hQ hQ₅)
    refine ends_unlink ?_ fun _ => hQ (hQput hQ₅ ht)
    have hQ₆ : Q ((s₅.put temporary none).put backup none) := hQput (hQput hQ₅ ht) hb
    have hfile₆ : ((s₅.put temporary none).put backup none).files target = some (.plain (.file a)) :=
      (put_of_ne hbt.symm).trans ((put_of_ne htt.symm).trans hfile)
    have hmanifest₆ : ((s₅.put temporary none).put backup none).manifest = some (updated m a) := hmanifest
    generalize (s₅.put temporary none).put backup none = s₆ at hQ₆ hfile₆ hmanifest₆ ⊢
    refine .pure ⟨(hQ hQ₆).1, (hQ hQ₆).2, installed_of_content hmanifest₆ rfl ?_ ?_⟩
    · -- the plugin is still found under the name it had
      have htgt' : installedTarget s₆.files = target := by
        cases hen : s.files.isFile enabledPath with
        | true =>
          rw [installedTarget_of_enabled hen] at htgt
          subst htgt
          exact installedTarget_of_enabled (isFile_iff.mpr ⟨a, content?_of_file hfile₆⟩)
        | false =>
          rw [installedTarget_of_disabled hen] at htgt
          subst htgt
          refine installedTarget_of_disabled ?_
          rw [isFile_congr (hQ₆.1 enabledPath ?_), hen]
          simp only [paths, List.mem_cons, List.not_mem_nil, or_false, not_or]
          rw [installedTarget_of_disabled hen]
          exact ⟨htenabled.symm, hbenabled.symm, by decide⟩
      show s₆.files.content? (installedTarget s₆.files) = some a
      rw [htgt']
      exact content?_of_file hfile₆
    · cases hen : s.files.isFile enabledPath with
      | true =>
        rw [installedTarget_of_enabled hen] at htgt
        subst htgt
        exact .inl (isFile_iff.mpr ⟨a, content?_of_file hfile₆⟩)
      | false =>
        refine .inr ⟨rfl, isFile_iff.mpr ⟨m.artifactSha256, ?_⟩⟩
        rw [installedTarget_of_disabled hen] at htgt
        have hcontent : s.files.content? (installedTarget s.files) = some m.artifactSha256 := hv
        rwa [installedTarget_of_disabled hen] at hcontent
  · intro _ _ s₅ hQ₅
    refine .bind (ends_unlink ?_ fun _ => hQ hQ₅)
    exact ends_unlink (hQ (hQput (hQput hQ₅ ht) hb)) fun _ => hQ (hQput hQ₅ ht)

theorem ends_takeBack {temporary : Path} {e : InstallError} {ok : Unit → Unit → Machine BridgeInstallManifest → Prop}
    (hu : Untouched [] before s.files) (hgood : Good s) (ht : ¬Foreign [] before temporary)
    (hp : ¬Foreign [] before enabledPath) :
    Py.Ends (world ships) (takeBack temporary e) st s ok (fun _ _ s' => Untouched [] before s'.files ∧ Good s') := by
  unfold takeBack
  refine .bind (ends_unlink ?_ fun _ => ⟨hu, hgood⟩)
  have hu₁ : Untouched [] before (s.put temporary none).files := hu.put ht
  refine .bind (ends_unlink ?_ fun _ => ⟨hu₁, hgood⟩)
  have hu₂ : Untouched [] before ((s.put temporary none).put enabledPath none).files := hu₁.put hp
  refine .bind (ends_suppress (ends_rmdir (fun hd => .raise ⟨?_, hgood⟩) fun _ => .raise ⟨hu₂, hgood⟩))
  exact hu₂.put (hu₂.not_foreign (not_foreign_of_none (content?_of_directory hd)))

/-- The directory of the bridge is there and empty. -/
theorem ends_installInto {d : Discovery} (hs : s.manifest = none) (hu : Untouched [] before s.files)
    (hempty : s.files enabledPath = none) :
    Py.Ends (world ships) (installInto d) st s
      (fun _ _ s' => Untouched [] before s'.files ∧ Good s' ∧ softwareInc.Installed before s')
      (fun _ _ s' => Untouched [] before s'.files ∧ Good s') := by
  have hgood : Good s := good_of_none hs
  have hp : ¬Foreign [] before enabledPath := hu.not_foreign (not_foreign_of_none (content?_of_none hempty))
  unfold installInto
  refine .bind (ends_unusedPath (fun temporary htnone htname => ?_) fun _ => ⟨hu, hgood⟩)
  have ht : ¬Foreign [] before temporary := hu.not_foreign (not_foreign_of_none (content?_of_none htnone))
  have htenabled : temporary ≠ enabledPath := htname.ne (e := targetDirectory) (by simp) (by simp [BRIDGE_FILE_NAME])
  refine .bind (.tryCatch ?_)
  refine .bind (ends_readArtifact (fun c _ => ?_) fun _ => ends_takeBack hu hgood ht hp)
  refine .bind (ends_write (fun _ => ?_) (fun _ => ends_takeBack hu hgood ht hp)
    fun _ _ _ => ends_takeBack (hu.put ht) hgood ht hp)
  have hu₁ : Untouched [] before (s.put temporary (some (.plain (.file c)))).files := hu.put ht
  have hfile : (s.put temporary (some (.plain (.file c)))).files temporary = some (.plain (.file c)) := put_self
  have hs₁ : (s.put temporary (some (.plain (.file c)))).manifest = none := hs
  generalize s.put temporary _ = s₁ at hu₁ hfile hs₁ ⊢
  have hgood₁ : Good s₁ := good_of_none hs₁
  refine .bind (ends_chmod ?_ fun _ => ends_takeBack hu₁ hgood₁ ht hp)
  refine .bind (ends_replace (fun _ _ => ?_) fun _ => ends_takeBack hu₁ hgood₁ ht hp)
  have hu₂ : Untouched [] before ((s₁.put enabledPath (s₁.files temporary)).put temporary none).files := (hu₁.put hp).put ht
  have hfile₂ : ((s₁.put enabledPath (s₁.files temporary)).put temporary none).files enabledPath = some (.plain (.file c)) :=
    (Machine.moved htenabled.symm).trans hfile
  have hs₂ : ((s₁.put enabledPath (s₁.files temporary)).put temporary none).manifest = none := hs₁
  generalize (s₁.put enabledPath (s₁.files temporary)).put temporary none = s₂ at hu₂ hfile₂ hs₂ ⊢
  have hgood₂ : Good s₂ := good_of_none hs₂
  refine .bind (ends_read (fun sha hsha => ?_) fun _ => ends_takeBack hu₂ hgood₂ ht hp)
  let m : BridgeInstallManifest := ⟨sha, d.identity, [⟨ownedPath, sha⟩]⟩
  have hgood₃ : Good { s₂ with manifest := some m } := fun m' hm' => by
    cases hm'
    rfl
  refine ends_writeManifest ?_ (fun _ => ends_takeBack hu₂ hgood₂ ht hp) fun _ => ends_takeBack hu₂ hgood₃ ht hp
  have hfile₃ : s₂.files.isFile enabledPath = true := isFile_iff.mpr ⟨sha, hsha⟩
  refine .pure ⟨hu₂, hgood₃, installed_of_content rfl (m := m) rfl ?_ (.inl hfile₃)⟩
  show s₂.files.content? (installedTarget s₂.files) = some sha
  rw [installedTarget_of_enabled hfile₃]
  exact hsha

theorem ends_requireEmptyTarget (hlink : s.files.isSymlink targetDirectory = false) :
    Py.Ends (world ships) (requireEmptyTarget s.files) st s
      (fun _ _ s' => s' = s ∧ (s.files enabledPath = none ∨ s.files targetDirectory = none)) (fun _ _ s' => s' = s) := by
  refine .ite (fun _ => ?_) fun habsent => .pure ⟨rfl, .inr (eq_none_of_absent (by simpa using habsent) hlink)⟩
  refine .bind (ends_children (fun ps hps => ends_require (fun hnil => ⟨rfl, .inl ?_⟩) rfl) fun _ => rfl)
  by_contra hne
  have hmem := (hps BRIDGE_FILE_NAME).mpr hne
  rw [hnil] at hmem
  exact List.not_mem_nil hmem

theorem ends_ensureToken : Py.Ends (world ships) ensureToken st s
    (fun _ _ s' => s'.files = s.files ∧ s'.manifest = s.manifest) (fun _ _ s' => s'.files = s.files ∧ s'.manifest = s.manifest) := by
  unfold ensureToken
  refine .bind (ends_tokenIsSafe (fun safe _ => ?_) fun _ => ⟨rfl, rfl⟩)
  cases safe with
  | some safe => exact ends_require (fun _ => ⟨rfl, rfl⟩) ⟨rfl, rfl⟩
  | none => exact ends_writeToken ⟨rfl, rfl⟩ (fun _ => ⟨rfl, rfl⟩) fun _ => ⟨rfl, rfl⟩

theorem withDirectory_of_outside {d : Path} (h : ¬p <+: d) : fs.withDirectory d p = fs p := if_neg fun hn => h hn.1

theorem ends_installFresh {d : Discovery} (hs : s.manifest = none) :
    Py.Ends (world ships) (installFresh d) st s
      (fun _ _ s' => Untouched [] s.files s'.files ∧ Good s' ∧ softwareInc.Installed s.files s')
      (fun _ _ s' => Untouched [] s.files s'.files ∧ Good s') := by
  have hstart : Untouched [] s.files s.files ∧ Good s := ⟨.refl _, good_of_none hs⟩
  unfold installFresh
  refine .bind (ends_look (.bind (ends_require (fun _ => ?_) hstart)))
  refine .bind (ends_require (fun hlink => ?_) hstart)
  refine .seq (ends_requireEmptyTarget hlink) ?_ fun _ _ s' h => (show s' = s from h) ▸ hstart
  rintro _ _ s ⟨rfl, hplace⟩
  refine .seq ends_ensureToken ?_ ?_
  · rintro _ _ s₁ ⟨hfiles, hmanifest⟩
    rw [hs] at hmanifest
    rw [← hfiles] at hplace hstart ⊢
    have hgood : Good s₁ := good_of_none hmanifest
    refine .bind (ends_mkdir (fun _ => ?_) fun _ => ⟨.refl _, hgood⟩)
    have hu : Untouched [] s₁.files (s₁.files.withDirectory modRoot) := (Untouched.refl _).withDirectory
    refine .bind (ends_mkdir (fun hnew => ?_) fun _ => ⟨hu, hgood⟩)
    refine ends_installInto hmanifest hu.withDirectory ?_
    have htargetKept : s₁.files.withDirectory modRoot targetDirectory = s₁.files targetDirectory :=
      withDirectory_of_outside (by decide)
    have henabledKept : s₁.files.withDirectory modRoot enabledPath = s₁.files enabledPath :=
      withDirectory_of_outside (by decide)
    show (s₁.files.withDirectory modRoot).withDirectory targetDirectory enabledPath = none
    rw [withDirectory_of_outside (by decide)]
    rcases hplace with hplace | hplace
    · rw [henabledKept, hplace]
    · exact hnew (htargetKept.trans hplace) enabledPath (List.prefix_append _ _)
  · rintro _ _ s₁ ⟨hfiles, hmanifest⟩
    rw [hfiles]
    exact ⟨.refl _, good_of_none (hmanifest.trans hs)⟩

/-! ## The operations -/

theorem ends_requiredManifest {ok : BridgeInstallManifest → Unit → Machine BridgeInstallManifest → Prop}
    {er : InstallError → Unit → Machine BridgeInstallManifest → Prop}
    (ho : ∀ m, s.manifest = some m → ok m st s) (he : ∀ e, er e st s) :
    Py.Ends (world ships) requiredManifest st s ok er := by
  unfold requiredManifest
  refine .bind (ends_loadManifest ?_ he)
  cases hm : s.manifest with
  | none => exact .raise (he _)
  | some m => exact .pure (ho m hm)

theorem ends_install {approve : Bool} (hgood : Good s) :
    Py.Ends (world ships) (install approve) st s
      (fun _ _ s' => Untouched (softwareInc.recorded s.manifest) s.files s'.files ∧ Good s' ∧ softwareInc.Installed s.files s')
      (fun _ _ s' => Untouched (softwareInc.recorded s.manifest) s.files s'.files ∧ Good s') := by
  have hstart : Untouched (softwareInc.recorded s.manifest) s.files s.files ∧ Good s := ⟨.refl _, hgood⟩
  unfold install
  refine .bind (ends_require (fun _ => ?_) hstart)
  refine .bind (ends_inspect (fun discovered => ?_) fun _ => hstart)
  refine .bind (.lift (fun _ _ => ?_) fun _ _ => hstart)
  refine .bind (ends_artifactIsFile (.bind (ends_require (fun _ => ?_) hstart)))
  refine .bind (ends_loadManifest ?_ fun _ => hstart)
  cases hs : s.manifest with
  | none => exact ends_installFresh hs
  | some m =>
    have hm := hgood m hs
    rw [hs, recorded_some hm] at hstart
    rw [recorded_some hm]
    refine .seq ends_verifyOwnedFile ?_ fun _ _ s' h => (show s' = s from h) ▸ hstart
    rintro _ _ s ⟨rfl, hv⟩
    refine .bind (.lift (fun _ _ => ?_) fun _ _ => hstart)
    refine .bind (ends_readArtifact (fun a ha => ?_) fun _ => hstart)
    refine .ite (fun _ => ends_upgradeOwnedBridge hv hgood) fun _ => ?_
    refine .bind (ends_look (.ite (fun hplaces => ?_) fun hno => .pure ⟨hstart.1, hgood, ?_⟩))
    · -- the plugin that was verified is the disabled one
      have henabled : s.files.isFile enabledPath = false := by
        have hnone := content?_of_present (by simpa using hplaces.2)
        unfold FileSystem.isFile
        rw [hnone]
        rfl
      have hcontent : s.files.content? (installedTarget s.files) = some m.artifactSha256 := hv
      rw [installedTarget_of_disabled henabled] at hcontent
      have hforeign : ¬Foreign [m.artifactSha256] s.files disabledPath :=
        not_foreign_of_recorded hcontent (List.mem_singleton.mpr rfl)
      refine .bind (ends_replace (fun _ _ => .pure ⟨?_, hgood, ?_⟩) fun _ => hstart)
      · exact (hstart.1.put (enabled_not_foreign hv)).put hforeign
      · have hmoved : ((s.put enabledPath (s.files disabledPath)).put disabledPath none).files enabledPath =
            s.files disabledPath := Machine.moved (by decide)
        have hcontent' : ((s.put enabledPath (s.files disabledPath)).put disabledPath none).files.content? enabledPath =
            some m.artifactSha256 := by
          rw [← hcontent]
          unfold FileSystem.content? FileSystem.target
          rw [hmoved]
        refine installed_of_content hs hm ?_ (.inl (isFile_iff.mpr ⟨_, hcontent'⟩))
        unfold Verified
        rw [installedTarget_of_enabled (isFile_iff.mpr ⟨_, hcontent'⟩)]
        exact hcontent'
    · refine installed_of_content hs hm hv ?_
      cases hen : s.files.isFile enabledPath with
      | true => exact .inl rfl
      | false =>
        have hcontent : s.files.content? (installedTarget s.files) = some m.artifactSha256 := hv
        rw [installedTarget_of_disabled hen] at hcontent
        exact .inr ⟨rfl, isFile_iff.mpr ⟨_, hcontent⟩⟩

theorem ends_disable (hgood : Good s) (hallowed : Unambiguous .disable s) : Py.Ends (world ships) disable st s
    (fun _ _ s' => Untouched (softwareInc.recorded s.manifest) s.files s'.files ∧ Good s')
    (fun _ _ s' => Untouched (softwareInc.recorded s.manifest) s.files s'.files ∧ Good s') := by
  have hstart : Untouched (softwareInc.recorded s.manifest) s.files s.files ∧ Good s := ⟨.refl _, hgood⟩
  unfold disable
  refine .bind (ends_inspect (fun discovered => ?_) fun _ => hstart)
  refine .bind (ends_require (fun _ => ?_) hstart)
  refine .bind (ends_requiredManifest (fun m hs => ?_) fun _ => hstart)
  have hm := hgood m hs
  refine .seq ends_verifyOwnedFile ?_ fun _ _ s' h => (show s' = s from h) ▸ hstart
  rintro _ _ s ⟨rfl, hv⟩
  refine .bind (ends_look (.ite (fun _ => .pure hstart) fun hplaces => ?_))
  refine .bind (ends_replace (fun _ hdirectory => .pure ⟨?_, hgood⟩) fun _ => hstart)
  rw [hs, recorded_some hm] at hstart ⊢
  refine (hstart.1.put ?_).put (enabled_not_foreign hv)
  cases hc : s.files.content? disabledPath with
  | none => exact not_foreign_of_none hc
  | some c =>
    refine not_foreign_of_recorded hc (List.mem_singleton.mpr ?_)
    cases hen : s.files.isFile enabledPath with
    | true => exact hallowed m hs hen c hc
    | false =>
      have hcontent : s.files.content? (installedTarget s.files) = some m.artifactSha256 := hv
      rw [installedTarget_of_disabled hen, hc] at hcontent
      injection hcontent

theorem ends_uninstall (hgood : Good s) : Py.Ends (world ships) uninstall st s
    (fun _ _ s' => Untouched (softwareInc.recorded s.manifest) s.files s'.files ∧ Good s')
    (fun _ _ s' => Untouched (softwareInc.recorded s.manifest) s.files s'.files ∧ Good s') := by
  have hstart : Untouched (softwareInc.recorded s.manifest) s.files s.files ∧ Good s := ⟨.refl _, hgood⟩
  unfold uninstall
  refine .bind (ends_inspect (fun discovered => ?_) fun _ => hstart)
  refine .bind (ends_require (fun _ => ?_) hstart)
  refine .bind (ends_requiredManifest (fun m hs => ?_) fun _ => hstart)
  have hm := hgood m hs
  refine .seq ends_verifyOwnedFile ?_ fun _ _ s' h => (show s' = s from h) ▸ hstart
  rintro _ _ s ⟨rfl, hv⟩
  refine .bind (ends_look (.bind (ends_unlink ?_ fun _ => hstart)))
  rw [hs, recorded_some hm] at hstart ⊢
  have hu : Untouched [m.artifactSha256] s.files (s.put (installedTarget s.files) none).files :=
    hstart.1.put (not_foreign_of_verified hv)
  have hgood₁ : Good (s.put (installedTarget s.files) none) := hgood
  generalize s.put (installedTarget s.files) none = s₁ at hu hgood₁ ⊢
  refine .bind (ends_descendants (fun below => ?_) fun _ => ⟨hu, hgood₁⟩)
  refine .bind (ends_look ?_)
  dsimp only
  have hlast : ∀ s₂ : Machine BridgeInstallManifest, Untouched [m.artifactSha256] s.files s₂.files → Good s₂ →
      Py.Ends (world ships) (do
        Disk.removeManifest
        Disk.removeToken
        Disk.suppress Disk.removeState
        return { operation := "uninstall", changed := true, affectedFiles := [installedTarget s.files],
                 preservedFiles := below.filter (s₁.files.isFile ·),
                 message := "removed the unchanged owned bridge and token; unrecognized files were preserved" } :
          Op BridgeInstallResult) st s₂
        (fun _ _ s' => Untouched [m.artifactSha256] s.files s'.files ∧ Good s')
        (fun _ _ s' => Untouched [m.artifactSha256] s.files s'.files ∧ Good s') := by
    intro s₂ hu₂ hgood₂
    refine .bind (ends_removeManifest ?_ fun _ => ⟨hu₂, hgood₂⟩)
    refine .bind (ends_removeToken ?_ fun _ => ⟨hu₂, good_of_none rfl⟩)
    exact .bind (ends_suppress (ends_removeState (.pure ⟨hu₂, good_of_none rfl⟩) fun _ => .pure ⟨hu₂, good_of_none rfl⟩))
  refine .ite (fun _ => .bind (ends_rmdir (fun hd => ?_) fun _ => ⟨hu, hgood₁⟩)) fun _ => hlast _ hu hgood₁
  exact hlast _ (hu.put (hu.not_foreign (not_foreign_of_none (content?_of_directory hd)))) hgood₁

/-! ## Runs -/

theorem respects_of_run {operation : Operation} {result : Except InstallError BridgeInstallResult} (hgood : Good s)
    (hallowed : Unambiguous operation s)
    (hrun : (softwareInc.run operation ()).Run (world ships) s (result, st) s') :
    softwareInc.Respects operation s result s' ∧ Good s' := by
  have hkept : Py.Ends (world ships) (softwareInc.run operation) () s
      (fun r _ s' => softwareInc.Respects operation s (.ok r) s' ∧ Good s')
      (fun e _ s' => softwareInc.Respects operation s (.error e) s' ∧ Good s') := by
    cases operation with
    | install approve =>
      refine (ends_install hgood).mono (fun r _ s' h => ?_) fun e _ s' h => ?_
      · exact ⟨⟨h.1, fun _ _ _ _ => h.2.2⟩, h.2.1⟩
      · exact ⟨⟨h.1, fun _ _ _ he => nomatch he⟩, h.2⟩
    | disable =>
      refine (ends_disable hgood hallowed).mono (fun r _ s' h => ?_) fun e _ s' h => ?_
      · exact ⟨⟨h.1, fun _ _ he => nomatch he⟩, h.2⟩
      · exact ⟨⟨h.1, fun _ _ he => nomatch he⟩, h.2⟩
    | uninstall =>
      refine (ends_uninstall hgood).mono (fun r _ s' h => ?_) fun e _ s' h => ?_
      · exact ⟨⟨h.1, fun _ _ he => nomatch he⟩, h.2⟩
      · exact ⟨⟨h.1, fun _ _ he => nomatch he⟩, h.2⟩
  cases result with
  | ok r => exact hkept.returns hrun
  | error e => exact hkept.raises hrun

end SimPilot.Installer.SoftwareInc
