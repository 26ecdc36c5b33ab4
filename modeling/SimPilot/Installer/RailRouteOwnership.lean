import SimPilot.Installer.Ownership
import SimPilot.Installer.RailRoute
import Mathlib.Data.List.Nodup
/-!
# The Rail Route installer touches what it owns

A manifest records the plugin once, every other path once, and not the disabled plugin. What
the operations check before they act is `Verified`; an `install` acts on the disabled plugin
beside an enabled one, which nothing has verified: there `Unambiguous` is needed.
-/

namespace SimPilot.Installer.RailRoute

open Effect Py

/-- Where a recorded file is expected. -/
def located (fs : FileSystem) (entry : OwnedFile) : Path :=
  if entry.relativePath = PLUGIN_RELATIVE_PATH ∧ fs.present PLUGIN_RELATIVE_PATH = false then DISABLED_PLUGIN_RELATIVE_PATH
  else entry.relativePath

def railRoute : BridgeInstaller BridgeInstallManifest (List String) Copied where
  run
    | .install _ => install
    | .disable => disable
    | .uninstall => uninstall
  locals := {}
  enabled := PLUGIN_RELATIVE_PATH
  disabled := DISABLED_PLUGIN_RELATIVE_PATH
  entries := (·.files)
  located

/-- Where an `install` of the recorded plugin finds it enabled, a disabled one is no other. -/
def Unambiguous : Operation → Machine BridgeInstallManifest → Prop
  | .install _, s => ∀ m, s.manifest = some m → s.artifact = some m.pluginSha256 →
      s.files.present PLUGIN_RELATIVE_PATH = true →
      ∀ c, s.files.content? DISABLED_PLUGIN_RELATIVE_PATH = some c → c = m.pluginSha256
  | _, _ => True

structure WellFormed (m : BridgeInstallManifest) : Prop where
  plugin : ⟨PLUGIN_RELATIVE_PATH, m.pluginSha256⟩ ∈ m.files
  distinct : (m.files.map (·.relativePath)).Nodup
  shipped : ∀ entry ∈ m.files, entry.relativePath ≠ DISABLED_PLUGIN_RELATIVE_PATH

def Good (s : Machine BridgeInstallManifest) : Prop := ∀ m, s.manifest = some m → WellFormed m

/-- What `_verify_owned_files` finds. -/
def Verified (m : BridgeInstallManifest) (fs : FileSystem) : Prop :=
  ∀ entry ∈ m.files, fs.isSymlink (located fs entry) = false ∧ fs.content? (located fs entry) = some entry.sha256

abbrev recordedOf (m : BridgeInstallManifest) : List Content := m.files.map (·.sha256)

variable {m : BridgeInstallManifest} {fs fs' before : FileSystem} {p q t : Path} {ships : Path → Prop} {st : Copied}
  {s s' : Machine BridgeInstallManifest} {r : OwnedFile} {a : Content}

theorem recorded_some : railRoute.recorded (some m) = recordedOf m := by
  simp [BridgeInstaller.recorded, railRoute]

/-! ## Verification -/

theorem safeTarget_eq_ok (h : safeTarget fs p = .ok t) : t = p ∧ fs.isSymlink p = false := by
  unfold safeTarget at h
  split at h
  · cases h
  · split at h
    · cases h
    · split at h
      · cases h
      · next hlink =>
        cases h
        exact ⟨rfl, by simpa using hlink⟩

theorem ownedTarget_eq_ok (h : ownedTarget fs r.relativePath = .ok t) : t = located fs r ∧ fs.isSymlink t = false := by
  unfold ownedTarget at h
  cases hsafe : safeTarget fs r.relativePath with
  | error e =>
    rw [hsafe] at h
    cases h
  | ok target =>
    rw [hsafe] at h
    obtain ⟨rfl, hlink⟩ := safeTarget_eq_ok hsafe
    unfold located
    change (if _ then _ else _) = _ at h
    split at h
    · next hdisabled =>
      obtain ⟨rfl, hlink⟩ := safeTarget_eq_ok h
      have habsent : fs.present PLUGIN_RELATIVE_PATH = false := by
        rw [← hdisabled.1]
        simpa using hdisabled.2
      rw [if_pos ⟨hdisabled.1, habsent⟩]
      exact ⟨rfl, hlink⟩
    · next hnot =>
      cases h
      rw [if_neg]
      · exact ⟨rfl, hlink⟩
      · rintro ⟨hplugin, habsent⟩
        rw [← hplugin] at habsent
        exact hnot ⟨hplugin, by simp [habsent]⟩

theorem ends_verifyOwnedFile : Py.Ends (world ships) (verifyOwnedFile r) st s
    (fun _ st' s' => st' = st ∧ s' = s ∧ s.files.isSymlink (located s.files r) = false ∧
      s.files.content? (located s.files r) = some r.sha256) (fun _ _ s' => s' = s) := by
  unfold verifyOwnedFile
  refine .bind (ends_look (.bind (.lift (fun target htarget => ?_) fun _ _ => rfl)))
  obtain ⟨rfl, hlink⟩ := ownedTarget_eq_ok htarget
  refine .bind (ends_require (fun _ => ?_) rfl)
  refine .bind (ends_read (fun sha hsha => ?_) fun _ => rfl)
  exact ends_require (fun heq => ⟨rfl, rfl, hlink, heq ▸ hsha⟩) rfl

theorem ends_verifyOwnedFiles : Py.Ends (world ships) (verifyOwnedFiles m) st s
    (fun _ st' s' => st' = st ∧ s' = s ∧ Verified m s.files) (fun _ _ s' => s' = s) := by
  let good (r : OwnedFile) : Prop :=
    s.files.isSymlink (located s.files r) = false ∧ s.files.content? (located s.files r) = some r.sha256
  refine (ends_each (I := fun rest st' s' => st' = st ∧ s' = s ∧ ∀ r ∈ m.files, r ∈ rest ∨ good r) ?_
    ⟨rfl, rfl, fun r hr => .inl hr⟩).mono (fun _ _ _ h => ⟨h.1, h.2.1, fun r hr => ?_⟩) fun _ _ _ h => h
  · rintro b bs st₁ s₁ ⟨rfl, rfl, hrest⟩
    refine ends_verifyOwnedFile.mono ?_ fun _ _ _ h => h
    rintro _ _ _ ⟨rfl, rfl, hb⟩
    refine ⟨rfl, rfl, fun r hr => ?_⟩
    rcases hrest r hr with hmem | hgood
    · rcases List.mem_cons.mp hmem with rfl | hmem
      · exact .inr hb
      · exact .inl hmem
    · exact .inr hgood
  · exact (h.2.2 r hr).resolve_left List.not_mem_nil

section
variable (hm : WellFormed m) (hv : Verified m fs)
include hm hv

theorem plugin_of_present (h : fs.present PLUGIN_RELATIVE_PATH = true) :
    fs.content? PLUGIN_RELATIVE_PATH = some m.pluginSha256 := by
  have hplugin := (hv _ hm.plugin).2
  unfold located at hplugin
  rwa [if_neg fun hn => by simp [h] at hn] at hplugin

theorem disabled_of_absent (h : fs.present PLUGIN_RELATIVE_PATH = false) :
    fs.content? DISABLED_PLUGIN_RELATIVE_PATH = some m.pluginSha256 := by
  have hplugin := (hv _ hm.plugin).2
  unfold located at hplugin
  rwa [if_pos ⟨rfl, h⟩] at hplugin

theorem plugin_not_foreign : ¬Foreign (recordedOf m) fs PLUGIN_RELATIVE_PATH := by
  cases h : fs.present PLUGIN_RELATIVE_PATH with
  | true => exact not_foreign_of_recorded (plugin_of_present hm hv h) (List.mem_map_of_mem hm.plugin)
  | false => exact not_foreign_of_none (content?_of_present h)

theorem disabled_not_foreign (h : fs.present PLUGIN_RELATIVE_PATH = false) :
    ¬Foreign (recordedOf m) fs DISABLED_PLUGIN_RELATIVE_PATH :=
  not_foreign_of_recorded (disabled_of_absent hm hv h) (List.mem_map_of_mem hm.plugin)

end

/-- The files beside the plugin are where they are recorded. -/
theorem content?_of_mem (hv : Verified m fs) (hr : r ∈ m.files) (hne : r.relativePath ≠ PLUGIN_RELATIVE_PATH) :
    fs.content? r.relativePath = some r.sha256 := by
  have h := (hv r hr).2
  unfold located at h
  rwa [if_neg fun hn => hne hn.1] at h

theorem WellFormed.sha256_eq (hm : WellFormed m) (hr : r ∈ m.files) (heq : r.relativePath = PLUGIN_RELATIVE_PATH) :
    r.sha256 = m.pluginSha256 := by
  have := List.inj_on_of_nodup_map hm.distinct hr hm.plugin heq
  rw [this]

/-! ## Upgrading -/

theorem WellFormed.updated (hm : WellFormed m) : WellFormed (m.updated a) where
  plugin := List.mem_map.mpr ⟨_, hm.plugin, if_pos rfl⟩
  distinct := by
    rw [BridgeInstallManifest.updated, List.map_map]
    convert hm.distinct using 2
    ext r
    simp only [Function.comp_apply]
    split <;> rfl
  shipped := by
    intro entry hentry
    obtain ⟨r, hr, rfl⟩ := List.mem_map.mp hentry
    split
    · exact hm.shipped r hr
    · exact hm.shipped r hr

/-- What the upgrade leaves where the plugin was replaced and its manifest written. -/
theorem installed_of_upgraded {paths : List Path} (hv : Verified m fs) (hpaths : ∀ r ∈ m.files,
      r.relativePath ≠ PLUGIN_RELATIVE_PATH → r.relativePath ∉ paths) (hsame : SameBut paths fs s'.files)
    (hplugin : s'.files.content? PLUGIN_RELATIVE_PATH = some a) (hmanifest : s'.manifest = some (m.updated a)) :
    railRoute.Installed fs s' := by
  refine ⟨_, hmanifest, fun entry hentry => ?_, .inl (isFile_iff.mpr ⟨a, hplugin⟩)⟩
  have hpresent := present_of_content? hplugin
  have hlocated : railRoute.located s'.files entry = entry.relativePath := if_neg fun hn => by simp [hpresent] at hn
  rw [hlocated]
  obtain ⟨r, hr, rfl⟩ := List.mem_map.mp hentry
  split
  · next heq =>
    change s'.files.content? r.relativePath = some a
    rw [heq]
    exact hplugin
  · next hne =>
    rw [content?_congr (hsame _ (hpaths r hr hne))]
    exact content?_of_mem hv hr hne

theorem ends_upgradeOwnedPlugin (hm : WellFormed m) (hv : Verified m s.files) (hgood : Good s) :
    Py.Ends (world ships) (upgradeOwnedPlugin m a) st s
      (fun _ _ s' => Untouched (recordedOf m) s.files s'.files ∧ Good s' ∧ railRoute.Installed s.files s')
      (fun _ _ s' => Untouched (recordedOf m) s.files s'.files ∧ Good s') := by
  unfold upgradeOwnedPlugin
  have hsame₀ : Untouched (recordedOf m) s.files s.files := .refl _
  refine .bind (ends_look (.bind (.lift (fun enabled henabled => ?_) fun _ _ => ⟨hsame₀, hgood⟩)))
  obtain ⟨rfl, hplink⟩ := safeTarget_eq_ok henabled
  refine .bind (.lift (fun disabled hdisabled => ?_) fun _ _ => ⟨hsame₀, hgood⟩)
  obtain ⟨rfl, -⟩ := safeTarget_eq_ok hdisabled
  dsimp only
  -- the plugin that was verified
  obtain ⟨target, htarget, hcase⟩ : ∃ target, (if s.files.isFile DISABLED_PLUGIN_RELATIVE_PATH = true ∧
      ¬s.files.present PLUGIN_RELATIVE_PATH = true then DISABLED_PLUGIN_RELATIVE_PATH else PLUGIN_RELATIVE_PATH) = target ∧
      (target = PLUGIN_RELATIVE_PATH ∨ target = DISABLED_PLUGIN_RELATIVE_PATH ∧ s.files.present PLUGIN_RELATIVE_PATH = false) := by
    refine ⟨_, rfl, ?_⟩
    split
    · next h => exact .inr ⟨rfl, by simpa using h.2⟩
    · exact .inl rfl
  rw [htarget]
  refine .bind (ends_require (fun hfile => ?_) ⟨hsame₀, hgood⟩)
  have htargetForeign : ¬Foreign (recordedOf m) s.files target := by
    rcases hcase with rfl | ⟨rfl, habsent⟩
    · exact plugin_not_foreign hm hv
    · exact disabled_not_foreign hm hv habsent
  refine .bind (ends_unusedPath (fun replacement hrnone hrname => ?_) fun _ => ⟨hsame₀, hgood⟩)
  have hrforeign : ¬Foreign (recordedOf m) s.files replacement := not_foreign_of_none (content?_of_none hrnone)
  refine .bind (ends_write (fun _ => ?_) (fun _ => ⟨hsame₀, hgood⟩) fun _ _ _ => ⟨hsame₀.put hrforeign, hgood⟩)
  refine .bind (ends_unusedPath (fun backup hbnone hbname => ?_) fun _ => ⟨hsame₀.put hrforeign, hgood⟩)
  have hne : backup ≠ replacement := by
    rintro rfl
    simp [Machine.put] at hbnone
  replace hbnone : s.files backup = none := by
    rw [← hbnone]
    exact (put_of_ne hne).symm
  have hrplugin : replacement ≠ PLUGIN_RELATIVE_PATH := hrname.ne (e := ["BepInEx", "plugins"]) (by decide) (by decide)
  have hbplugin : backup ≠ PLUGIN_RELATIVE_PATH := hbname.ne (e := ["BepInEx", "plugins"]) (by decide) (by decide)
  have htnone : s.files target ≠ none := fun hn => by
    obtain ⟨c, hc⟩ := isFile_iff.mp hfile
    rw [content?_of_none hn] at hc
    cases hc
  have hrt : replacement ≠ target := fun he => htnone (he ▸ hrnone)
  have hbt : backup ≠ target := fun he => htnone (he ▸ hbnone)
  -- only these paths are touched from here on
  let paths : List Path := [replacement, backup, target, PLUGIN_RELATIVE_PATH]
  have hpaths : ∀ p ∈ paths, ¬Foreign (recordedOf m) s.files p := by
    intro p hp
    simp only [paths, List.mem_cons, List.not_mem_nil, or_false] at hp
    rcases hp with rfl | rfl | rfl | rfl
    · exact hrforeign
    · exact not_foreign_of_none (content?_of_none hbnone)
    · exact htargetForeign
    · exact plugin_not_foreign hm hv
  have hr : replacement ∈ paths := List.mem_cons_self ..
  have hb : backup ∈ paths := by simp [paths]
  have ht : target ∈ paths := by simp [paths]
  have hp : PLUGIN_RELATIVE_PATH ∈ paths := by simp [paths]
  have hrecords : ∀ r ∈ m.files, r.relativePath ≠ PLUGIN_RELATIVE_PATH → r.relativePath ∉ paths := by
    intro r hmem hne hin
    have hcontent := content?_of_mem hv hmem hne
    simp only [paths, List.mem_cons, List.not_mem_nil, or_false] at hin
    rcases hin with hin | hin | hin | hin
    · rw [hin, content?_of_none hrnone] at hcontent
      cases hcontent
    · rw [hin, content?_of_none hbnone] at hcontent
      cases hcontent
    · rcases hcase with rfl | ⟨rfl, -⟩
      · exact hne hin
      · exact hm.shipped r hmem hin
    · exact hne hin
  let Q (s' : Machine BridgeInstallManifest) : Prop := SameBut paths s.files s'.files ∧ Good s'
  have hQ : ∀ {s'}, Q s' → Untouched (recordedOf m) s.files s'.files ∧ Good s' := fun h => ⟨h.1.untouched hpaths, h.2⟩
  have hQput : ∀ {s' : Machine BridgeInstallManifest} {p : Path} {n : Option Node}, Q s' → p ∈ paths → Q (s'.put p n) :=
    fun h hp => ⟨h.1.put hp, h.2⟩
  have hQ₁ : Q (s.put replacement (some (.plain (.file "")))) := hQput ⟨SameBut.refl _, hgood⟩ hr
  have hQ₂ : Q ((s.put replacement _).put backup (some (.plain (.file "")))) := hQput hQ₁ hb
  refine .bind (ends_write (fun _ => ?_) (fun _ => hQ hQ₁) fun _ _ _ => hQ (hQput hQ₁ hb))
  generalize (s.put replacement _).put backup _ = s₂ at hQ₂ ⊢
  refine .bind (.tryFinally (.weaken (fun _ _ s' => Q s' ∧ s'.files PLUGIN_RELATIVE_PATH = some (.plain (.file a)) ∧
      s'.manifest = some (m.updated a)) (fun _ _ s' => Q s') ?_ ?_ ?_))
  · refine .bind (ends_read (fun c _ => ?_) fun _ => hQ₂)
    refine .bind (ends_write (fun _ => ?_) (fun _ => hQ₂) fun _ _ _ => hQput hQ₂ hb)
    have hQ₃ : Q (s₂.put backup (some (.plain (.file c)))) := hQput hQ₂ hb
    generalize s₂.put backup _ = s₃ at hQ₃ ⊢
    refine .bind (ends_readArtifact (fun c' _ => ?_) fun _ => hQ₃)
    refine .bind (ends_write (fun _ => ?_) (fun _ => hQ₃) fun _ _ _ => hQput hQ₃ hr)
    have hQ₄ : Q (s₃.put replacement (some (.plain (.file c')))) := hQput hQ₃ hr
    have hfile : (s₃.put replacement (some (.plain (.file c')))).files replacement = some (.plain (.file c')) := put_self
    generalize s₃.put replacement _ = s₄ at hQ₄ hfile ⊢
    refine .bind (ends_chmod ?_ fun _ => hQ₄)
    refine .bind (ends_read (fun c'' hc'' => ?_) fun _ => hQ₄)
    refine .bind (ends_require (fun heq => ?_) hQ₄)
    -- what was read is what was written
    have hc : c' = a := by
      rw [content?_of_file hfile] at hc''
      cases hc''
      exact heq
    subst hc
    refine .bind (ends_replace (fun _ _ => ?_) fun _ => hQ₄)
    have hQ₅ : Q ((s₄.put target (s₄.files replacement)).put replacement none) := hQput (hQput hQ₄ ht) hr
    have htarget₅ : ((s₄.put target (s₄.files replacement)).put replacement none).files target = some (.plain (.file c')) := by
      rw [← hfile]
      exact (put_of_ne hrt.symm).trans put_self
    generalize (s₄.put target (s₄.files replacement)).put replacement none = s₅ at hQ₅ htarget₅ ⊢
    have hQ₆ : Q { s₅ with manifest := some (m.updated c') } := ⟨hQ₅.1, fun m' hm' => by cases hm'; exact hm.updated⟩
    have hrestore : ∀ {s₆ : Machine BridgeInstallManifest} {ok : Unit → Copied → Machine BridgeInstallManifest → Prop}
        (e : InstallError), Q s₆ → Py.Ends (world ships) (do Disk.replace backup target; Py.raise e : Op Unit) st s₆ ok
        (fun _ _ s' => Q s') := fun e h =>
      .bind (ends_replace (fun _ _ => .raise (hQput (hQput h ht) hb)) fun _ => h)
    refine .bind (.tryCatch (ends_writeManifest ?_ (fun e => hrestore e hQ₅) fun e => hrestore e hQ₆))
    refine .ite (fun hdisabled => ?_) fun henabled => .pure ⟨hQ₆, ?_, rfl⟩
    · subst hdisabled
      refine ends_replace (fun _ _ => ⟨hQput (hQput hQ₆ hp) ht, ?_, rfl⟩) fun _ => hQ₆
      exact (Machine.moved (by decide)).trans htarget₅
    · have : target = PLUGIN_RELATIVE_PATH := hcase.resolve_right fun h => henabled h.1
      rw [← this]
      exact htarget₅
  · rintro _ _ s₇ ⟨hQ₇, hplugin, hmanifest⟩
    refine .bind (ends_unlink ?_ fun _ => hQ hQ₇)
    refine ends_unlink ?_ fun _ => hQ (hQput hQ₇ hr)
    have hQ₉ : Q ((s₇.put replacement none).put backup none) := hQput (hQput hQ₇ hr) hb
    refine .pure ⟨(hQ hQ₉).1, (hQ hQ₉).2, installed_of_upgraded hv hrecords hQ₉.1 ?_ hmanifest⟩
    refine content?_of_file (Eq.trans ?_ hplugin)
    exact (put_of_ne hbplugin.symm).trans (put_of_ne hrplugin.symm)
  · intro _ _ s₇ hQ₇
    refine .bind (ends_unlink ?_ fun _ => hQ hQ₇)
    exact ends_unlink (hQ (hQput (hQput hQ₇ hr) hb)) fun _ => hQ (hQput hQ₇ hr)

/-! ## A fresh installation -/

theorem ends_removeEmptyOwnedDirectories {recorded : List Content} (h : Untouched recorded before s.files) :
    Py.Ends (world ships) removeEmptyOwnedDirectories st s
      (fun _ st' s' => st' = st ∧ Untouched recorded before s'.files ∧ s'.manifest = s.manifest)
      (fun _ _ _ => False) := by
  refine ends_each (I := fun _ st' s' => st' = st ∧ Untouched recorded before s'.files ∧ s'.manifest = s.manifest) ?_
    ⟨rfl, h, rfl⟩
  rintro d _ st₁ s₁ ⟨rfl, h₁, hmanifest⟩
  refine ends_suppress (ends_rmdir (fun hd => ?_) fun _ => ⟨rfl, h₁, hmanifest⟩)
  exact ⟨rfl, h₁.put (h₁.not_foreign (not_foreign_of_none (content?_of_directory hd))), hmanifest⟩

/-- What was copied stood where nothing was before. -/
structure Copying (plugin : Content) (content : Path → Content) (remaining all : List Path) (before : FileSystem)
    (copied : Copied) (s : Machine BridgeInstallManifest) : Prop where
  untouched : Untouched [] before s.files
  created : ∀ p ∈ copied.created, ¬Foreign [] before p
  artifact : s.artifact = some plugin
  manifest : s.manifest = none
  files : ∀ r ∈ copied.records, r.relativePath ∈ all ∧ r.sha256 = content r.relativePath ∧
    s.files r.relativePath = some (.plain (.file r.sha256))
  distinct : (copied.records.map (·.relativePath)).Nodup
  progress : ∀ p ∈ all, p ∈ remaining ∨ p ∈ copied.records.map (·.relativePath)

/-- What a failed installation leaves while it still may take something back. -/
structure Failing (before : FileSystem) (copied : Copied) (s : Machine BridgeInstallManifest) : Prop where
  untouched : Untouched [] before s.files
  created : ∀ p ∈ copied.created, ¬Foreign [] before p
  good : Good s

theorem Copying.failing {plugin : Content} {content : Path → Content} {remaining all : List Path}
    (h : Copying plugin content remaining all before st s) : Failing before st s :=
  ⟨h.untouched, h.created, fun m hm => by rw [h.manifest] at hm; cases hm⟩

theorem Failing.put {n : Option Node} (h : Failing before st s) (hp : ¬Foreign [] before p) :
    Failing before st (s.put p n) :=
  ⟨h.untouched.put hp, h.created, h.good⟩

theorem ends_takeBack {tokenCreated : Bool} {e : InstallError} {ok : Unit → Copied → Machine BridgeInstallManifest → Prop}
    (h : Failing before st s) :
    Py.Ends (world ships) (takeBack tokenCreated e) st s ok (fun _ _ s' => Untouched [] before s'.files ∧ Good s') := by
  unfold takeBack
  refine .bind (.locals ?_)
  have hunlink : Py.Ends (world ships) (Disk.each (Disk.unlink : Path → Op Unit) st.created.reverse) st s
      (fun _ st' s' => st' = st ∧ Untouched [] before s'.files ∧ Good s')
      (fun _ _ s' => Untouched [] before s'.files ∧ Good s') := by
    refine (ends_each (I := fun rest st' s' => st' = st ∧ (∀ p ∈ rest, ¬Foreign [] before p) ∧
      Untouched [] before s'.files ∧ Good s') ?_ ⟨rfl, by simpa using h.created, h.untouched, h.good⟩).mono
      (fun _ _ _ h => ⟨h.1, h.2.2⟩) fun _ _ _ h => h
    rintro p rest st₁ s₁ ⟨rfl, hrest, huntouched, hgood⟩
    refine ends_unlink ⟨rfl, fun q hq => hrest q (List.mem_cons_of_mem _ hq), ?_, hgood⟩ fun _ => ⟨huntouched, hgood⟩
    exact huntouched.put (hrest p (List.mem_cons_self ..))
  refine .seq hunlink ?_ fun _ _ _ h => h
  rintro _ _ s₁ ⟨rfl, huntouched, hgood⟩
  refine .seq (ends_removeEmptyOwnedDirectories huntouched) ?_ fun _ _ _ h => h.elim
  rintro _ _ s₂ ⟨rfl, huntouched₂, hmanifest⟩
  have hgood₂ : Good s₂ := fun m hm => hgood m (hmanifest ▸ hm)
  dsimp only
  refine .ite (fun _ => .bind (ends_removeToken ?_ fun _ => ⟨huntouched₂, hgood₂⟩)) fun _ => .raise ⟨huntouched₂, hgood₂⟩
  exact .raise ⟨huntouched₂, hgood₂⟩

theorem ends_copyFile {plugin : Content} {content : Path → Content} {remaining all : List Path} (hp : p ∈ all)
    (h : Copying plugin content (p :: remaining) all before st s) :
    Py.Ends (world ships) (copyFile content p) st s
      (fun _ st' s' => Copying plugin content remaining all before st' s') (fun _ st' s' => Failing before st' s') := by
  unfold copyFile
  refine .bind (ends_look (.bind (.lift (fun target htarget => ?_) fun _ _ => h.failing)))
  obtain ⟨rfl, hlink⟩ := safeTarget_eq_ok htarget
  refine .bind (ends_require (fun habsent => ?_) h.failing)
  have hnone : s.files target = none := eq_none_of_absent habsent.1 hlink
  refine .bind (ends_mkdir (fun _ => ?_) fun _ => h.failing)
  have hown : ¬Foreign [] before target := h.untouched.not_foreign (not_foreign_of_none (content?_of_none hnone))
  have hdir : Failing before st { s with files := s.files.withDirectory target.dropLast } :=
    ⟨h.untouched.withDirectory, h.created, h.failing.good⟩
  refine .bind (ends_write (fun _ => ?_) (fun _ => hdir) fun _ _ _ => hdir.put hown)
  have hwritten := hdir.put (n := some (.plain (.file (content target)))) hown
  refine .bind (ends_chmod ?_ fun _ => hwritten)
  refine .bind (.update ?_)
  have hcreated : ∀ p ∈ st.created ++ [target], ¬Foreign [] before p := by
    intro p hp
    rcases List.mem_append.mp hp with hp | hp
    · exact h.created p hp
    · rw [List.mem_singleton.mp hp]
      exact hown
  refine .bind (ends_read (fun sha hsha => ?_) fun _ => ⟨hwritten.untouched, hcreated, hwritten.good⟩)
  have hself : (s.files.withDirectory target.dropLast).put target (some (.plain (.file (content target)))) target =
      some (.plain (.file (content target))) := put_self
  obtain rfl : content target = sha := by
    have heq := (content?_of_file hself).symm.trans hsha
    injection heq
  -- nothing was recorded at the target before
  have hfresh : target ∉ st.records.map (·.relativePath) := by
    intro hmem
    obtain ⟨r, hr, heq⟩ := List.mem_map.mp hmem
    have hfile := (h.files r hr).2.2
    rw [heq, hnone] at hfile
    cases hfile
  exact .update
    { untouched := hwritten.untouched
      created := hcreated
      artifact := h.artifact
      manifest := h.manifest
      files := by
        intro r hr
        rcases List.mem_append.mp hr with hr | hr
        · obtain ⟨hall, hsha, hfile⟩ := h.files r hr
          refine ⟨hall, hsha, ?_⟩
          have hne : r.relativePath ≠ target := fun he => hfresh (he ▸ List.mem_map_of_mem hr)
          have hkept : s.files.withDirectory target.dropLast r.relativePath = s.files r.relativePath :=
            withDirectory_of_ne_none (by simp [hfile])
          exact (put_of_ne hne).trans (hkept.trans hfile)
        · rw [List.mem_singleton.mp hr]
          exact ⟨hp, rfl, hself⟩
      distinct := by
        rw [List.map_append]
        exact List.nodup_append.mpr ⟨h.distinct, List.nodup_singleton _, by
          rintro a ha b hb rfl
          rw [List.mem_singleton.mp hb] at ha
          exact hfresh ha⟩
      progress := by
        intro q hq
        rw [List.map_append]
        rcases h.progress q hq with hmem | hmem
        · rcases List.mem_cons.mp hmem with rfl | hmem
          · exact .inr (List.mem_append_right _ (List.mem_singleton.mpr rfl))
          · exact .inl hmem
        · exact .inr (List.mem_append_left _ hmem) }

/-- What the copied files leave where the manifest was written. -/
theorem Copying.wellFormed {plugin : Content} {loader : Extraction} {all : List Path}
    (h : Copying plugin (Function.update loader.content PLUGIN_RELATIVE_PATH plugin) [] all before st s)
    (hplugin : PLUGIN_RELATIVE_PATH ∈ all) (hall : ∀ p ∈ all, p ≠ DISABLED_PLUGIN_RELATIVE_PATH) :
    WellFormed ⟨plugin, st.records⟩ where
  plugin := by
    obtain ⟨r, hr, heq⟩ := List.mem_map.mp ((h.progress _ hplugin).resolve_left List.not_mem_nil)
    have hsha := (h.files r hr).2.1
    rw [heq, Function.update_self] at hsha
    rw [← heq, ← hsha]
    exact hr
  distinct := h.distinct
  shipped r hr := hall _ (h.files r hr).1

theorem good_of_none (h : s.manifest = none) : Good s := fun m hm => by
  rw [h] at hm
  cases hm

theorem installed_of_copied {plugin : Content} {content : Path → Content} {all : List Path}
    (h : Copying plugin content [] all before st s) (hplugin : PLUGIN_RELATIVE_PATH ∈ all) :
    railRoute.Installed before { s with manifest := some ⟨plugin, st.records⟩ } := by
  obtain ⟨r, hr, heq⟩ := List.mem_map.mp ((h.progress _ hplugin).resolve_left List.not_mem_nil)
  have hcontent := content?_of_file (h.files r hr).2.2
  rw [heq] at hcontent
  have hpresent : s.files.present PLUGIN_RELATIVE_PATH = true := present_of_content? hcontent
  refine ⟨_, rfl, fun entry hentry => ?_, .inl (isFile_iff.mpr ⟨_, hcontent⟩)⟩
  have hlocated : railRoute.located s.files entry = entry.relativePath := if_neg fun hn => by simp [hpresent] at hn
  refine Eq.trans ?_ (content?_of_file (h.files entry hentry).2.2)
  exact congrArg s.files.content? hlocated

theorem ends_ensureToken (hs : s.manifest = none) : Py.Ends (world ships) ensureToken st s
    (fun _ _ s' => s'.files = s.files ∧ s'.manifest = none) (fun _ _ s' => s'.files = s.files ∧ s'.manifest = none) := by
  unfold ensureToken
  refine .bind (ends_tokenIsSafe (fun safe _ => ?_) fun _ => ⟨rfl, hs⟩)
  cases safe with
  | some safe => exact .bind (ends_require (fun _ => .pure ⟨rfl, hs⟩) ⟨rfl, hs⟩)
  | none => exact .bind (ends_writeToken (.pure ⟨rfl, hs⟩) (fun _ => ⟨rfl, hs⟩) fun _ => ⟨rfl, hs⟩)

theorem ends_installFiles {tokenCreated : Bool} (hs : s.manifest = none)
    (hships : ∀ p, ships p → p ≠ DISABLED_PLUGIN_RELATIVE_PATH) :
    Py.Ends (world ships) (installFiles tokenCreated) st s
      (fun _ _ s' => Untouched [] s.files s'.files ∧ Good s' ∧ railRoute.Installed s.files s')
      (fun _ _ s' => Untouched [] s.files s'.files ∧ Good s') := by
  have hstart : Untouched [] s.files s.files ∧ Good s := ⟨.refl _, good_of_none hs⟩
  unfold installFiles
  refine .bind (ends_extract (fun loader hloader => ?_) fun _ => hstart)
  refine .bind (ends_readArtifact (fun plugin hplugin => ?_) fun _ => hstart)
  refine .bind (.setLocals ?_)
  let all := sortedByPosix (loader.files ++ [PLUGIN_RELATIVE_PATH])
  have hmem : ∀ p, p ∈ all ↔ p ∈ loader.files ∨ p = PLUGIN_RELATIVE_PATH := fun p => by
    simp only [all, sortedByPosix, List.mem_insertionSort, List.mem_append, List.mem_singleton]
  have hall : ∀ p ∈ all, p ≠ DISABLED_PLUGIN_RELATIVE_PATH := by
    intro p hp
    rcases (hmem p).mp hp with hp | rfl
    · exact hships p (hloader p hp)
    · decide
  let content := Function.update loader.content PLUGIN_RELATIVE_PATH plugin
  have hempty : Copying plugin content all all s.files {} s :=
    { untouched := .refl _
      created := fun _ hp => (List.not_mem_nil hp).elim
      artifact := hplugin
      manifest := hs
      files := fun _ hr => (List.not_mem_nil hr).elim
      distinct := List.nodup_nil
      progress := fun _ hp => .inl hp }
  have hcopy : Py.Ends (world ships) (Disk.each (copyFile content) all) {} s
      (fun _ st' s' => Copying plugin content [] all s.files st' s') (fun _ st' s' => Failing s.files st' s') := by
    refine (ends_each (I := fun rest st' s' => (∀ p ∈ rest, p ∈ all) ∧ Copying plugin content rest all s.files st' s') ?_
      ⟨fun _ hp => hp, hempty⟩).mono (fun _ _ _ h => h.2) fun _ _ _ h => h
    rintro p rest st₁ s₁ ⟨hrest, h₁⟩
    refine (ends_copyFile (hrest p (List.mem_cons_self ..)) h₁).mono (fun _ _ _ h => ⟨?_, h⟩) fun _ _ _ h => h
    exact fun q hq => hrest q (List.mem_cons_of_mem _ hq)
  refine .bind (.tryCatch (hcopy.mono (fun _ st₁ s₁ h₁ => ?_) fun _ _ _ h => ends_takeBack h))
  refine .bind (ends_readArtifact (fun sha hsha => ?_) fun _ => ⟨h₁.untouched, h₁.failing.good⟩)
  obtain rfl : plugin = sha := by
    rw [h₁.artifact] at hsha
    injection hsha
  refine .bind (.locals ?_)
  have hpluginMem : PLUGIN_RELATIVE_PATH ∈ all := (hmem _).mpr (.inr rfl)
  have hgood : Good { s₁ with manifest := some ⟨plugin, st₁.records⟩ } := fun m hm => by
    cases hm
    exact h₁.wellFormed hpluginMem hall
  refine .bind (.tryCatch (ends_writeManifest ?_ (fun e => ends_takeBack h₁.failing) fun e => ?_))
  · exact .pure ⟨h₁.untouched, hgood, installed_of_copied h₁ hpluginMem⟩
  · exact ends_takeBack ⟨h₁.untouched, h₁.created, hgood⟩

theorem ends_installFresh (hs : s.manifest = none) (hships : ∀ p, ships p → p ≠ DISABLED_PLUGIN_RELATIVE_PATH) :
    Py.Ends (world ships) installFresh st s
      (fun _ _ s' => Untouched [] s.files s'.files ∧ Good s' ∧ railRoute.Installed s.files s')
      (fun _ _ s' => Untouched [] s.files s'.files ∧ Good s') := by
  refine .seq (ends_ensureToken hs) ?_ ?_
  · rintro created st₁ s₁ ⟨hfiles, hmanifest⟩
    rw [← hfiles]
    exact ends_installFiles hmanifest hships
  · rintro _ _ s₁ ⟨hfiles, hmanifest⟩
    rw [hfiles]
    exact ⟨.refl _, good_of_none hmanifest⟩

/-! ## The operations -/

theorem ends_requiredManifest {ok : BridgeInstallManifest → Copied → Machine BridgeInstallManifest → Prop}
    {er : InstallError → Copied → Machine BridgeInstallManifest → Prop}
    (ho : ∀ m, s.manifest = some m → ok m st s) (he : ∀ e, er e st s) :
    Py.Ends (world ships) requiredManifest st s ok er := by
  unfold requiredManifest
  refine .bind (ends_loadManifest ?_ he)
  cases hm : s.manifest with
  | none => exact .raise (he _)
  | some m => exact .pure (ho m hm)

/-- The disabled plugin was renamed to the enabled one. -/
theorem installed_of_enabled (hm : WellFormed m) (hv : Verified m s.files) (hs : s.manifest = some m)
    (hdisabled : s.files.content? DISABLED_PLUGIN_RELATIVE_PATH = some m.pluginSha256) :
    railRoute.Installed before ((s.put PLUGIN_RELATIVE_PATH (s.files DISABLED_PLUGIN_RELATIVE_PATH)).put
      DISABLED_PLUGIN_RELATIVE_PATH none) := by
  generalize hs' : (s.put PLUGIN_RELATIVE_PATH (s.files DISABLED_PLUGIN_RELATIVE_PATH)).put
    DISABLED_PLUGIN_RELATIVE_PATH none = s'
  have hplugin : s'.files PLUGIN_RELATIVE_PATH = s.files DISABLED_PLUGIN_RELATIVE_PATH := by
    rw [← hs']
    exact Machine.moved (by decide)
  have hcontent : s'.files.content? PLUGIN_RELATIVE_PATH = some m.pluginSha256 := by
    rw [← hdisabled]
    unfold FileSystem.content? FileSystem.target
    rw [hplugin]
  have hpresent := present_of_content? hcontent
  have hmanifest : s'.manifest = some m := by
    subst hs'
    exact hs
  refine ⟨m, hmanifest, fun entry hentry => ?_, .inl (isFile_iff.mpr ⟨_, hcontent⟩)⟩
  have hlocated : railRoute.located s'.files entry = entry.relativePath := if_neg fun hn => by simp [hpresent] at hn
  rw [hlocated]
  by_cases heq : entry.relativePath = PLUGIN_RELATIVE_PATH
  · rw [heq, hm.sha256_eq hentry heq]
    exact hcontent
  · rw [← content?_of_mem hv hentry heq]
    rw [← hs']
    exact content?_congr (Machine.moved_other (hm.shipped entry hentry) heq)

theorem ends_install {approve : Bool} (hgood : Good s) (hallowed : Unambiguous (.install approve) s)
    (hships : ∀ p, ships p → p ≠ DISABLED_PLUGIN_RELATIVE_PATH) :
    Py.Ends (world ships) install st s
      (fun _ _ s' => Untouched (railRoute.recorded s.manifest) s.files s'.files ∧ Good s' ∧ railRoute.Installed s.files s')
      (fun _ _ s' => Untouched (railRoute.recorded s.manifest) s.files s'.files ∧ Good s') := by
  have hstart : Untouched (railRoute.recorded s.manifest) s.files s.files ∧ Good s := ⟨.refl _, hgood⟩
  unfold install
  refine .bind (ends_inspect (fun reasons => ?_) fun _ => hstart)
  refine .bind (ends_require (fun _ => ?_) hstart)
  refine .bind (ends_artifactIsFile (.bind (ends_require (fun _ => ?_) hstart)))
  refine .bind (ends_loadManifest ?_ fun _ => hstart)
  cases hs : s.manifest with
  | none => exact ends_installFresh hs hships
  | some m =>
    rw [recorded_some]
    replace hstart : Untouched (recordedOf m) s.files s.files ∧ Good s := ⟨.refl _, hgood⟩
    have hm := hgood m hs
    refine .seq ends_verifyOwnedFiles ?_ fun _ _ s' h => (show s' = s from h) ▸ hstart
    rintro _ _ s ⟨rfl, rfl, hv⟩
    refine .bind (ends_readArtifact (fun a ha => ?_) fun _ => hstart)
    refine .ite (fun _ => ends_upgradeOwnedPlugin hm hv hgood) fun hsame => ?_
    refine .bind (ends_look (.ite (fun hfile => ?_) fun hno => .pure ⟨hstart.1, hgood, m, hs, fun r hr => (hv r hr).2, ?_⟩))
    · -- what is renamed is the recorded plugin
      obtain ⟨c, hc⟩ := isFile_iff.mp hfile
      have hdisabled := hc
      obtain rfl : c = m.pluginSha256 := by
        cases hp : s.files.present PLUGIN_RELATIVE_PATH with
        | true => exact hallowed m hs (by rw [ha, not_not.mp hsame]) hp c hc
        | false =>
          rw [disabled_of_absent hm hv hp] at hc
          injection hc with hc
          exact hc.symm
      have hforeign : ¬Foreign (recordedOf m) s.files DISABLED_PLUGIN_RELATIVE_PATH :=
        not_foreign_of_recorded hdisabled (List.mem_map_of_mem hm.plugin)
      refine .bind (ends_replace (fun _ _ => .pure ⟨?_, hgood, ?_⟩) fun _ => hstart)
      · exact (hstart.1.put (plugin_not_foreign hm hv)).put hforeign
      · exact installed_of_enabled hm hv hs hdisabled
    · refine .inl (isFile_iff.mpr ⟨_, plugin_of_present hm hv ?_⟩)
      by_contra hp
      exact hno (isFile_iff.mpr ⟨_, disabled_of_absent hm hv (by simpa using hp)⟩)

theorem ends_disable (hgood : Good s) : Py.Ends (world ships) disable st s
    (fun _ _ s' => Untouched (railRoute.recorded s.manifest) s.files s'.files ∧ Good s')
    (fun _ _ s' => Untouched (railRoute.recorded s.manifest) s.files s'.files ∧ Good s') := by
  have hstart : Untouched (railRoute.recorded s.manifest) s.files s.files ∧ Good s := ⟨.refl _, hgood⟩
  unfold disable
  refine .bind (ends_requiredManifest (fun m hs => ?_) fun _ => hstart)
  have hm := hgood m hs
  refine .seq ends_verifyOwnedFiles ?_ fun _ _ s' h => (show s' = s from h) ▸ hstart
  rintro _ _ _ ⟨rfl, rfl, hv⟩
  refine .bind (ends_look (.bind (.lift (fun enabled henabled => ?_) fun _ _ => hstart)))
  obtain ⟨rfl, -⟩ := safeTarget_eq_ok henabled
  refine .bind (.lift (fun disabled hdisabled => ?_) fun _ _ => hstart)
  obtain ⟨rfl, -⟩ := safeTarget_eq_ok hdisabled
  refine .ite (fun _ => .pure hstart) fun _ => ?_
  refine .bind (ends_require (fun hplaces => ?_) hstart)
  refine .bind (ends_replace (fun _ _ => .pure ⟨?_, hgood⟩) fun _ => hstart)
  rw [hs, recorded_some] at hstart ⊢
  refine (hstart.1.put (not_foreign_of_none (content?_of_present hplaces.2))).put (plugin_not_foreign hm hv)

/-! ## Uninstalling -/

/-- While records remain, the plugin of a record that remains is where it was. -/
structure Removing (m : BridgeInstallManifest) (rest : List OwnedFile) (s s' : Machine BridgeInstallManifest) : Prop where
  owned : ∀ r ∈ rest, r ∈ m.files
  distinct : (rest.map (·.relativePath)).Nodup
  untouched : Untouched (recordedOf m) s.files s'.files
  manifest : s'.manifest = s.manifest
  plugin : PLUGIN_RELATIVE_PATH ∈ rest.map (·.relativePath) → s'.files PLUGIN_RELATIVE_PATH = s.files PLUGIN_RELATIVE_PATH

theorem present_congr (h : fs' p = fs p) : fs'.present p = fs.present p := by
  unfold FileSystem.present FileSystem.target
  rw [h]

theorem ends_removeFile {rest : List OwnedFile} (hm : WellFormed m) (hv : Verified m s.files)
    (h : Removing m (r :: rest) s s') :
    Py.Ends (world ships) (removeFile r) st s' (fun _ _ s₁ => Removing m rest s s₁)
      (fun _ _ s₁ => Untouched (recordedOf m) s.files s₁.files ∧ s₁.manifest = s.manifest) := by
  have hr := h.owned r (List.mem_cons_self ..)
  have hnodup := List.nodup_cons.mp h.distinct
  have hkept : Removing m rest s s' :=
    ⟨fun r hr => h.owned r (List.mem_cons_of_mem _ hr), hnodup.2, h.untouched, h.manifest,
      fun hmem => h.plugin (List.mem_cons_of_mem _ hmem)⟩
  have hfail : Untouched (recordedOf m) s.files s'.files ∧ s'.manifest = s.manifest := ⟨h.untouched, h.manifest⟩
  unfold removeFile
  refine .bind (ends_look (.bind (.lift (fun target htarget => ?_) fun _ _ => hfail)))
  obtain ⟨rfl, -⟩ := ownedTarget_eq_ok htarget
  refine .ite (fun _ => ?_) fun _ => .pure hkept
  -- the path of the record, or the disabled plugin where there was no enabled one
  have hforeign : ¬Foreign (recordedOf m) s.files (located s'.files r) := by
    unfold located
    split
    · next hcase =>
      rw [present_congr (h.plugin (List.mem_map.mpr ⟨r, List.mem_cons_self .., hcase.1⟩))] at hcase
      exact disabled_not_foreign hm hv hcase.2
    · by_cases heq : r.relativePath = PLUGIN_RELATIVE_PATH
      · rw [heq]
        exact plugin_not_foreign hm hv
      · exact not_foreign_of_recorded (content?_of_mem hv hr heq) (List.mem_map_of_mem hr)
  refine .bind (ends_unlink (.update ?_) fun _ => hfail)
  refine ⟨hkept.owned, hkept.distinct, h.untouched.put hforeign, h.manifest, fun hmem => ?_⟩
  refine (put_of_ne fun heq => ?_).trans (hkept.plugin hmem)
  -- only the record of the plugin is located at the plugin
  unfold located at heq
  split at heq
  · exact absurd heq (by decide)
  · rw [heq] at hmem
    exact hnodup.1 hmem

theorem ends_uninstall (hgood : Good s) : Py.Ends (world ships) uninstall st s
    (fun _ _ s' => Untouched (railRoute.recorded s.manifest) s.files s'.files ∧ Good s')
    (fun _ _ s' => Untouched (railRoute.recorded s.manifest) s.files s'.files ∧ Good s') := by
  have hstart : Untouched (railRoute.recorded s.manifest) s.files s.files ∧ Good s := ⟨.refl _, hgood⟩
  unfold uninstall
  refine .bind (ends_requiredManifest (fun m hs => ?_) fun _ => hstart)
  have hm := hgood m hs
  refine .seq ends_verifyOwnedFiles ?_ fun _ _ s' h => (show s' = s from h) ▸ hstart
  rintro _ _ s ⟨rfl, rfl, hv⟩
  rw [hs, recorded_some]
  have hmanifest : ∀ s' : Machine BridgeInstallManifest, s'.manifest = s.manifest → Good s' :=
    fun s' h m' hm' => hgood m' (h ▸ hm')
  refine .bind (.setLocals ?_)
  have hloop : Py.Ends (world ships) (Disk.each removeFile m.files.reverse) {} s (fun _ _ s' => Removing m [] s s')
      (fun _ _ s₁ => Untouched (recordedOf m) s.files s₁.files ∧ s₁.manifest = s.manifest) :=
    ends_each (I := fun rest _ s' => Removing m rest s s') (fun r rest st₁ s₁ h₁ => ends_removeFile hm hv h₁)
    { owned := fun r hr => List.mem_reverse.mp hr
      distinct := by
        rw [List.map_reverse]
        exact List.nodup_reverse.mpr hm.distinct
      untouched := .refl _
      manifest := rfl
      plugin := fun _ => rfl }
  refine .seq hloop (fun _ st₁ s₁ h₁ => ?_) fun _ _ _ h => ⟨h.1, hmanifest _ h.2⟩
  refine .seq (ends_removeEmptyOwnedDirectories h₁.untouched) ?_ fun _ _ _ h => h.elim
  rintro _ _ s₂ ⟨rfl, huntouched, hsame⟩
  have hgood₂ : Good s₂ := hmanifest _ (hsame.trans h₁.manifest)
  refine .bind (ends_removeManifest ?_ fun _ => ⟨huntouched, hgood₂⟩)
  have hnone : Good { s₂ with manifest := none } := good_of_none rfl
  refine .bind (ends_removeToken ?_ fun _ => ⟨huntouched, hnone⟩)
  refine .bind (ends_suppress (ends_removeState ?_ fun _ => ?_))
  · exact .bind (.locals (.pure ⟨huntouched, good_of_none rfl⟩))
  · exact .bind (.locals (.pure ⟨huntouched, good_of_none rfl⟩))

/-! ## Runs -/

theorem respects_of_run (hships : ∀ p, ships p → p ≠ DISABLED_PLUGIN_RELATIVE_PATH) {operation : Operation}
    {result : Except InstallError BridgeInstallResult} (hgood : Good s) (hallowed : Unambiguous operation s)
    (hrun : (railRoute.run operation {}).Run (world ships) s (result, st) s') :
    railRoute.Respects operation s result s' ∧ Good s' := by
  have hkept : Py.Ends (world ships) (railRoute.run operation) {} s
      (fun r _ s' => railRoute.Respects operation s (.ok r) s' ∧ Good s')
      (fun e _ s' => railRoute.Respects operation s (.error e) s' ∧ Good s') := by
    cases operation with
    | install approve =>
      refine (ends_install hgood hallowed hships).mono (fun r _ s' h => ?_) fun e _ s' h => ?_
      · exact ⟨⟨h.1, fun _ _ _ _ => h.2.2⟩, h.2.1⟩
      · exact ⟨⟨h.1, fun _ _ _ he => nomatch he⟩, h.2⟩
    | disable =>
      refine (ends_disable hgood).mono (fun r _ s' h => ?_) fun e _ s' h => ?_
      · exact ⟨⟨h.1, fun _ _ he => nomatch he⟩, h.2⟩
      · exact ⟨⟨h.1, fun _ _ he => nomatch he⟩, h.2⟩
    | uninstall =>
      refine (ends_uninstall hgood).mono (fun r _ s' h => ?_) fun e _ s' h => ?_
      · exact ⟨⟨h.1, fun _ _ he => nomatch he⟩, h.2⟩
      · exact ⟨⟨h.1, fun _ _ he => nomatch he⟩, h.2⟩
  cases result with
  | ok r => exact hkept.returns hrun
  | error e => exact hkept.raises hrun

end SimPilot.Installer.RailRoute
