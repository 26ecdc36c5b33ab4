import SimPilot.Installer.FileSystem
import Mathlib.Data.List.Sort
/-!
# The Rail Route bridge installer (rail_route/bridge/installer.py)

The pinned loader and the plugin are copied below the game directory and recorded in a
manifest. A later `install` upgrades or enables the plugin, `disable` renames it, `uninstall`
removes what is recorded.

| here | there |
|---|---|
| `install`, `installFresh` | `RailRouteBridgeInstaller.install` (installer.py:128) |
| `upgradeOwnedPlugin`, `disable`, `uninstall` | the methods of these names |
| `safeTarget`, `verifyOwnedFiles`, `removeEmptyOwnedDirectories` | `_safe_target`, `_verify_owned_files`, `_remove_empty_owned_directories` |
-/

namespace SimPilot.Installer.RailRoute

open Effect

/-- `BridgeInstallManifest` (models.py:37); what it says of the game and the loader are constants. -/
structure BridgeInstallManifest where
  pluginSha256 : Content
  files : List OwnedFile
  deriving DecidableEq, Repr

/-- What a fresh installation has copied so far. -/
structure Copied where
  created : List Path := []
  records : List OwnedFile := []

/-- An operation of the installer, whose diagnosis lists the reasons against compatibility. -/
abbrev Op (α : Type) : Type := Disk BridgeInstallManifest (List String) Copied α

def PLUGIN_RELATIVE_PATH : Path := ["BepInEx", "plugins", "SimPilot.RailRoute.Bridge.dll"]

def DISABLED_PLUGIN_RELATIVE_PATH : Path := ["BepInEx", "plugins", "SimPilot.RailRoute.Bridge.dll.disabled"]

/-- `relative.as_posix()` -/
def asPosix (relative : Path) : String := "/".intercalate relative

/-! ## Ownership -/

/-- The directories above a path, from the nearest on. -/
def parents (relative : Path) : List Path := (relative.inits.dropLast.drop 1).reverse

def safeTarget (fs : FileSystem) (relative : Path) : Except InstallError Path :=
  if ".." ∈ relative then .error (.install ("unsafe relative installation path: " ++ asPosix relative))
  else match (parents relative).find? fs.isSymlink with
    | some parent => .error (.install ("installation parent is a symlink: " ++ asPosix parent))
    | none =>
      if fs.isSymlink relative then .error (.install ("installation target is a symlink: " ++ asPosix relative))
      else .ok relative

/-- Where a recorded file is, `allow_disabled` as every caller sets it. -/
def ownedTarget (fs : FileSystem) (relative : Path) : Except InstallError Path := do
  let target ← safeTarget fs relative
  if relative = PLUGIN_RELATIVE_PATH ∧ ¬ fs.present target then safeTarget fs DISABLED_PLUGIN_RELATIVE_PATH
  else return target

def verifyOwnedFile (record : OwnedFile) : Op Unit := do
  let fs ← Disk.look
  let target ← Py.lift (ownedTarget fs record.relativePath)
  Disk.require (fs.isFile target = true) (.install ("manifest-owned file is missing: " ++ asPosix target))
  let sha256 ← Disk.read target
  Disk.require (sha256 = record.sha256)
    (.install ("manifest-owned file changed; refusing destructive operation: " ++ asPosix target))

def verifyOwnedFiles (manifest : BridgeInstallManifest) : Op Unit :=
  Disk.each verifyOwnedFile manifest.files

def ownedDirectories : List Path := [["BepInEx", "plugins"], ["BepInEx", "core"], ["BepInEx"]]

def removeEmptyOwnedDirectories : Op Unit :=
  Disk.each (fun directory => Disk.suppress (Disk.rmdir directory)) ownedDirectories

def requiredManifest : Op BridgeInstallManifest := do
  match ← Disk.loadManifest with
  | some manifest => return manifest
  | none => Py.raise (.install "no Sim Pilot bridge installation manifest exists")

/-! ## Installing -/

/-- The manifest with the checksum of another plugin (installer.py:274-287). -/
def BridgeInstallManifest.updated (manifest : BridgeInstallManifest) (artifactSha256 : Content) : BridgeInstallManifest where
  pluginSha256 := artifactSha256
  files := manifest.files.map fun record =>
    if record.relativePath = PLUGIN_RELATIVE_PATH then { record with sha256 := artifactSha256 } else record

/-- `_upgrade_owned_plugin` -/
def upgradeOwnedPlugin (manifest : BridgeInstallManifest) (artifactSha256 : Content) : Op BridgeInstallResult := do
  let fs ← Disk.look
  let enabled ← Py.lift (safeTarget fs PLUGIN_RELATIVE_PATH)
  let disabled ← Py.lift (safeTarget fs DISABLED_PLUGIN_RELATIVE_PATH)
  let target := if fs.isFile disabled ∧ ¬ fs.present enabled then disabled else enabled
  Disk.require (fs.isFile target = true) (.install "bridge plugin ownership state is inconsistent")
  let replacement ← Disk.unusedPath target.dropLast ".sim-pilot-plugin-" ".dll"
  Disk.write replacement ""
  let backup ← Disk.unusedPath target.dropLast ".sim-pilot-plugin-backup-" ".dll"
  Disk.write backup ""
  Py.tryFinally
    (do
      Disk.write backup (← Disk.read target)
      Disk.write replacement (← Disk.readArtifact)
      Disk.chmod replacement
      Disk.require ((← Disk.read replacement) = artifactSha256)
        (.install "copied bridge artifact checksum is inconsistent")
      Disk.replace replacement target
      Py.tryCatch (Disk.writeManifest (manifest.updated artifactSha256)) fun error => do
        Disk.replace backup target
        Py.raise error
      if target = disabled then Disk.replace disabled enabled)
    (do
      Disk.unlink replacement
      Disk.unlink backup)
  return { operation := "install", changed := true, affectedFiles := [PLUGIN_RELATIVE_PATH],
           message := "upgraded verified owned plugin to the read-only UI-observer bridge and enabled it" }

/-- One turn of the loop over the extracted files. -/
def copyFile (content : Path → Content) (relative : Path) : Op Unit := do
  let fs ← Disk.look
  let target ← Py.lift (safeTarget fs relative)
  Disk.require (fs.present target = false ∧ fs.isSymlink target = false)
    (.install ("refusing to overwrite existing unowned path: " ++ asPosix target))
  Disk.mkdir target.dropLast
  Disk.write target (content relative)
  Disk.chmod target
  Py.update fun copied => { copied with created := copied.created ++ [target] }
  let sha256 ← Disk.read target
  Py.update fun copied => { copied with records := copied.records ++ [⟨relative, sha256⟩] }

/-- What an installation that failed takes back. -/
def takeBack (tokenCreated : Bool) (error : InstallError) : Op Unit := do
  let copied ← Py.locals
  Disk.each Disk.unlink copied.created.reverse
  removeEmptyOwnedDirectories
  if tokenCreated then Disk.removeToken
  Py.raise error

/-- `sorted(files, key=lambda value: value.as_posix())` -/
def sortedByPosix (files : List Path) : List Path := files.insertionSort fun p q => asPosix p ≤ asPosix q

/-- Whether the token had to be created (installer.py:159-170). -/
def ensureToken : Op Bool := do
  match ← Disk.tokenIsSafe with
  | some safe =>
    Disk.require (safe = true) (.install "existing bridge authentication token is unsafe")
    return false
  | none =>
    Disk.writeToken
    return true

/-- The loader and the plugin are copied and recorded (installer.py:171-238). -/
def installFiles (tokenCreated : Bool) : Op BridgeInstallResult := do
  let loader ← Disk.extract
  let plugin ← Disk.readArtifact
  let content := Function.update loader.content PLUGIN_RELATIVE_PATH plugin
  Py.setLocals {}
  Py.tryCatch (Disk.each (copyFile content) (sortedByPosix (loader.files ++ [PLUGIN_RELATIVE_PATH])))
    (takeBack tokenCreated)
  let pluginSha256 ← Disk.readArtifact
  let copied ← Py.locals
  Py.tryCatch (Disk.writeManifest ⟨pluginSha256, copied.records⟩) (takeBack tokenCreated)
  return { operation := "install", changed := true, affectedFiles := copied.records.map (·.relativePath),
           message := "installed pinned BepInEx loader and read-only UI-observer bridge" }

/-- Without a manifest. -/
def installFresh : Op BridgeInstallResult := do
  installFiles (← ensureToken)

def install : Op BridgeInstallResult := do
  let reasons ← Disk.inspect
  Disk.require (reasons = []) (.compatibility ("; ".intercalate reasons))
  Disk.require ((← Disk.artifactIsFile) = true) (.install "bridge artifact missing; build the C# project first")
  match ← Disk.loadManifest with
  | none => installFresh
  | some existing =>
    verifyOwnedFiles existing
    let artifactSha256 ← Disk.readArtifact
    if existing.pluginSha256 ≠ artifactSha256 then upgradeOwnedPlugin existing artifactSha256 else
    let fs ← Disk.look
    if fs.isFile DISABLED_PLUGIN_RELATIVE_PATH then
      Disk.replace DISABLED_PLUGIN_RELATIVE_PATH PLUGIN_RELATIVE_PATH
      return { operation := "install", changed := true, affectedFiles := [PLUGIN_RELATIVE_PATH],
               message := "existing verified bridge installation enabled" }
    else
      return { operation := "install", changed := false, affectedFiles := [],
               message := "verified bridge installation already present" }

/-! ## Disabling and uninstalling -/

def disable : Op BridgeInstallResult := do
  let manifest ← requiredManifest
  verifyOwnedFiles manifest
  let fs ← Disk.look
  let enabled ← Py.lift (safeTarget fs PLUGIN_RELATIVE_PATH)
  let disabled ← Py.lift (safeTarget fs DISABLED_PLUGIN_RELATIVE_PATH)
  if fs.isFile disabled ∧ ¬ fs.present enabled then
    return { operation := "disable", changed := false, affectedFiles := []
             message := "bridge plugin is already disabled" }
  else
  Disk.require (fs.isFile enabled = true ∧ fs.present disabled = false)
    (.install "bridge plugin ownership state is inconsistent")
  Disk.replace enabled disabled
  return { operation := "disable", changed := true, affectedFiles := [DISABLED_PLUGIN_RELATIVE_PATH]
           message := "bridge plugin disabled; the screen-control slice is unchanged" }

/-- One turn of the loop of `uninstall`; the removed files are noted in the locals. -/
def removeFile (record : OwnedFile) : Op Unit := do
  let fs ← Disk.look
  let target ← Py.lift (ownedTarget fs record.relativePath)
  if fs.isFile target then
    Disk.unlink target
    Py.update fun removed => { removed with created := removed.created ++ [target] }

def uninstall : Op BridgeInstallResult := do
  let manifest ← requiredManifest
  verifyOwnedFiles manifest
  Py.setLocals {}
  Disk.each removeFile manifest.files.reverse
  removeEmptyOwnedDirectories
  Disk.removeManifest
  Disk.removeToken
  Disk.suppress Disk.removeState
  return { operation := "uninstall", changed := true, affectedFiles := (← Py.locals).created,
           message := "removed every unchanged manifest-owned file; generated or unrecognized files were preserved" }

end SimPilot.Installer.RailRoute
