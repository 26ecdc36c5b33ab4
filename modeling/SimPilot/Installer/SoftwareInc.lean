import SimPilot.Installer.FileSystem
/-!
# The Software Inc. bridge installer (software_inc/bridge/installer.py)

One compiled mod in a directory of its own below `DLLMods`, which is upgraded in place and
disabled by renaming it.

| here | there |
|---|---|
| `install`, `installFresh` | `SoftwareIncBridgeInstaller.install` (installer.py:120) |
| `upgradeOwnedBridge`, `disable`, `uninstall` | the methods of these names |
| `requireChangeable`, `verifyOwnedFile`, `verifyIdentity` | `_require_changeable`, `_verify_owned_file`, `_verify_identity` |
-/

namespace SimPilot.Installer.SoftwareInc

open Effect

/-- What the manifest of an installation says of the game, beside its root. -/
structure Identity where
  productVersion : Option String
  steamBuildId : String
  assemblyFingerprints : List (String × Content)
  deriving DecidableEq, Repr

/-- `BridgeInstallManifest` (models.py:21) -/
structure BridgeInstallManifest where
  artifactSha256 : Content
  identity : Identity
  files : List OwnedFile
  deriving DecidableEq, Repr

/-- What the installer reads of a `SoftwareIncDiscoveryResult`. -/
structure Discovery where
  installed : Bool
  running : Bool
  compatible : Bool
  /-- Whether both roots were found. -/
  rooted : Bool
  sameRoot : Bool
  identity : Identity
  deriving DecidableEq, Repr

abbrev Op (α : Type) : Type := Disk BridgeInstallManifest Discovery Unit α

def modRoot : Path := ["DLLMods"]

def BRIDGE_FILE_NAME : String := "SimPilot.SoftwareInc.Bridge.dll"

def BRIDGE_DISABLED_NAME : String := BRIDGE_FILE_NAME ++ ".disabled"

/-- `mod_root / BRIDGE_DIRECTORY_NAME` -/
def targetDirectory : Path := ["DLLMods", "SimPilotBridge"]

def enabledPath : Path := targetDirectory ++ [BRIDGE_FILE_NAME]

def disabledPath : Path := targetDirectory ++ [BRIDGE_DISABLED_NAME]

/-- The one path a manifest owns; a recorded path is one below the mod root. -/
def ownedPath : Path := ["SimPilotBridge", BRIDGE_FILE_NAME]

/-! ## Checks -/

def runningText : String := "Software Inc. is running; close it before changing bridge files"

def requireChangeable (discovered : Discovery) : Except InstallError Unit :=
  if discovered.installed = false then .error (.compatibility "Software Inc. is not installed")
  else if discovered.running then .error (.install runningText)
  else if discovered.compatible = false ∨ discovered.rooted = false then
    .error (.compatibility "Software Inc. installation is not compatible")
  else .ok ()

def installedName (fs : FileSystem) : String :=
  if fs.isFile enabledPath then BRIDGE_FILE_NAME else BRIDGE_DISABLED_NAME

/-- `enabled if enabled.is_file() else disabled` -/
def installedTarget (fs : FileSystem) : Path := targetDirectory ++ [installedName fs]

/-- `allow_disabled` as every caller sets it. -/
def verifyOwnedFile (manifest : BridgeInstallManifest) : Op Unit := do
  Disk.require (manifest.files.map (·.relativePath) = [ownedPath]) (.install "bridge manifest owns an unexpected path")
  let fs ← Disk.look
  let target := installedTarget fs
  Disk.require (fs.isSymlink target = false ∧ fs.isFile target = true)
    (.install "manifest-owned bridge is missing or changed")
  Disk.require ((← Disk.read target) = manifest.artifactSha256)
    (.install "manifest-owned bridge is missing or changed")

def verifyIdentity (manifest : BridgeInstallManifest) (discovered : Discovery) : Except InstallError Unit :=
  let productChanged := manifest.identity.productVersion.isSome ∧
    discovered.identity.productVersion ≠ manifest.identity.productVersion
  if discovered.sameRoot = false ∨ productChanged ∨ discovered.identity.steamBuildId ≠ manifest.identity.steamBuildId then
    .error (.install "installed bridge identity no longer matches Software Inc.")
  else if discovered.identity.assemblyFingerprints ≠ manifest.identity.assemblyFingerprints then
    .error (.install "Software Inc. managed assemblies changed")
  else .ok ()

def requiredManifest : Op BridgeInstallManifest := do
  match ← Disk.loadManifest with
  | some manifest => return manifest
  | none => Py.raise (.install "no bridge ownership manifest exists")

/-! ## Installing -/

/-- `_upgrade_owned_bridge` -/
def upgradeOwnedBridge (manifest : BridgeInstallManifest) (artifactSha256 : Content) : Op BridgeInstallResult := do
  let fs ← Disk.look
  let target := installedTarget fs
  let temporary ← Disk.unusedPath targetDirectory ("." ++ installedName fs ++ ".") ".tmp"
  let backup ← Disk.unusedPath targetDirectory ("." ++ installedName fs ++ ".") ".backup"
  Py.tryFinally
    (do
      Disk.write temporary (← Disk.readArtifact)
      Disk.chmod temporary
      Disk.require ((← Disk.read temporary) = artifactSha256) (.install "replacement bridge checksum changed")
      Disk.write backup (← Disk.read target)
      Disk.chmod backup
      Disk.replace temporary target
      let updated : BridgeInstallManifest :=
        { manifest with artifactSha256, files := [⟨ownedPath, artifactSha256⟩] }
      Py.tryCatch (Disk.writeManifest updated) fun error => do
        Disk.replace backup target
        Py.raise error
      Disk.unlink backup)
    (do
      Disk.unlink temporary
      Disk.unlink backup)
  return { operation := "install", changed := true, affectedFiles := [target]
           message := "upgraded the verified owned read-only bridge in place" }

/-- What an installation that failed takes back. -/
def takeBack (temporary : Path) (error : InstallError) : Op Unit := do
  Disk.unlink temporary
  Disk.unlink enabledPath
  Disk.suppress (Disk.rmdir targetDirectory)
  Py.raise error

/-- The bridge is copied into its directory and recorded (installer.py:175-208). -/
def installInto (discovered : Discovery) : Op BridgeInstallResult := do
  let temporary ← Disk.unusedPath targetDirectory ("." ++ BRIDGE_FILE_NAME ++ ".") ".tmp"
  Py.tryCatch
    (do
      Disk.write temporary (← Disk.readArtifact)
      Disk.chmod temporary
      Disk.replace temporary enabledPath
      let artifactSha256 ← Disk.read enabledPath
      Disk.writeManifest ⟨artifactSha256, discovered.identity, [⟨ownedPath, artifactSha256⟩]⟩)
    (takeBack temporary)
  return { operation := "install", changed := true, affectedFiles := [enabledPath]
           message := "installed the authenticated read-only bridge; enable it in Software Inc. " ++
             "and accept the documented access warning" }

/-- The token is there, or is created. -/
def ensureToken : Op Unit := do
  match ← Disk.tokenIsSafe with
  | some safe => Disk.require (safe = true) (.install "existing bridge authentication token is unsafe")
  | none => Disk.writeToken

/-- The directory holds nothing, or is not there yet. -/
def requireEmptyTarget (fs : FileSystem) : Op Unit :=
  if fs.present targetDirectory then do
    Disk.require ((← Disk.children targetDirectory) = []) (.install "bridge target contains unowned files")
  else pure ()

/-- Without a manifest (installer.py:155-174). -/
def installFresh (discovered : Discovery) : Op BridgeInstallResult := do
  let fs ← Disk.look
  Disk.require (fs.isSymlink modRoot = false) (.install "game or mod root is a symlink")
  Disk.require (fs.isSymlink targetDirectory = false) (.install "bridge target is a symlink")
  requireEmptyTarget fs
  ensureToken
  Disk.mkdir modRoot
  Disk.mkdir targetDirectory
  installInto discovered

def install (approveBroadAccess : Bool) : Op BridgeInstallResult := do
  Disk.require (approveBroadAccess = true)
    (.install ("compiled bridge needs Software Inc. GiveMeFreedom for owner-only token read " ++
      "and loopback networking; rerun with --approve-broad-access"))
  let discovered ← Disk.inspect
  Py.lift (requireChangeable discovered)
  Disk.require ((← Disk.artifactIsFile) = true) (.install "bridge artifact missing")
  match ← Disk.loadManifest with
  | none => installFresh discovered
  | some existing =>
    verifyOwnedFile existing
    Py.lift (verifyIdentity existing discovered)
    let artifactSha256 ← Disk.readArtifact
    if existing.artifactSha256 ≠ artifactSha256 then upgradeOwnedBridge existing artifactSha256 else
    let fs ← Disk.look
    if fs.isFile disabledPath ∧ ¬ fs.present enabledPath then
      Disk.replace disabledPath enabledPath
      return { operation := "install", changed := true, affectedFiles := [enabledPath]
               message := "enabled the verified read-only bridge" }
    else
      return { operation := "install", changed := false, affectedFiles := []
               message := "verified read-only bridge is already installed" }

/-! ## Disabling and uninstalling -/

def disable : Op BridgeInstallResult := do
  let discovered ← Disk.inspect
  Disk.require (discovered.running = false) (.install runningText)
  let manifest ← requiredManifest
  verifyOwnedFile manifest
  let fs ← Disk.look
  if fs.isFile disabledPath ∧ ¬ fs.present enabledPath then
    return { operation := "disable", changed := false, affectedFiles := []
             message := "read-only bridge is already disabled" }
  else
  Disk.replace enabledPath disabledPath
  return { operation := "disable", changed := true, affectedFiles := [disabledPath]
           message := "disabled the read-only bridge" }

def uninstall : Op BridgeInstallResult := do
  let discovered ← Disk.inspect
  Disk.require (discovered.running = false) (.install runningText)
  let manifest ← requiredManifest
  verifyOwnedFile manifest
  let target := installedTarget (← Disk.look)
  Disk.unlink target
  let below ← Disk.descendants targetDirectory
  let fs ← Disk.look
  let preserved := below.filter (fs.isFile ·)
  if preserved = [] then Disk.rmdir targetDirectory
  Disk.removeManifest
  Disk.removeToken
  Disk.suppress Disk.removeState
  return { operation := "uninstall", changed := true, affectedFiles := [target], preservedFiles := preserved
           message := "removed the unchanged owned bridge and token; unrecognized files were preserved" }

end SimPilot.Installer.SoftwareInc
