import SimPilot.Effect.Run
import Mathlib.Logic.Function.Basic
import Mathlib.Data.List.Infix
/-!
# The disk an installer works on

The files below a game directory, the ownership manifest and the token beside it, and the
calls of `pathlib`, `os` and `shutil` that the bridge installers make. Every call that
touches the disk may raise; one that writes may leave a part of what it wrote. A digest is the
content it is taken of.
-/

namespace SimPilot.Installer

open Effect Py

/-- The parts of a path below the game directory. -/
abbrev Path : Type := List String

abbrev Content : Type := String

inductive Target where
  | file (content : Content)
  | directory
  deriving DecidableEq, Repr

/-- A file, a directory, or a link and what it resolves to. -/
inductive Node where
  | plain (target : Target)
  | symlink (target : Option Target)
  deriving DecidableEq, Repr

def Node.target : Node → Option Target
  | plain t => some t
  | symlink t => t

abbrev FileSystem : Type := Path → Option Node

namespace FileSystem
variable (fs : FileSystem) (p : Path)

def target : Option Target := (fs p).bind Node.target

/-- `path.exists()` -/
def present : Bool := (fs.target p).isSome

def content? : Option Content :=
  match fs.target p with
  | some (.file c) => some c
  | _ => none

/-- `path.is_file()` -/
def isFile : Bool := (fs.content? p).isSome

def isSymlink : Bool :=
  match fs p with
  | some (.symlink _) => true
  | _ => false

def put (n : Option Node) : FileSystem := Function.update fs p n

end FileSystem

/-- A record of the ownership manifest. -/
structure OwnedFile where
  relativePath : Path
  sha256 : Content
  deriving DecidableEq, Repr

inductive InstallError where
  | compatibility (text : String)
  | install (text : String)
  /-- What a call that failed raises. -/
  | os
  deriving DecidableEq, Repr

structure BridgeInstallResult where
  operation : String
  changed : Bool
  affectedFiles : List Path
  preservedFiles : List Path := []
  message : String
  deriving DecidableEq, Repr

/-- What a loader archive holds once it is extracted. -/
structure Extraction where
  files : List Path
  content : Path → Content

/-- The disk, with a manifest `M`, and the artifact to be installed. -/
structure Machine (M : Type) where
  files : FileSystem
  manifest : Option M
  token : Bool
  artifact : Option Content

/-! ## Calls -/

/-- What an installer calls, where it inspects the game as a `D`. -/
inductive Call (M D : Type) where
  | inspect
  | look
  | children (directory : Path)
  | descendants (directory : Path)
  | artifactIsFile
  | readArtifact
  | extract
  | read (path : Path)
  | unusedPath (directory : Path) (before after : String)
  | mkdir (path : Path)
  | write (path : Path) (content : Content)
  | chmod (path : Path)
  | unlink (path : Path)
  | replace (source target : Path)
  | rmdir (path : Path)
  | loadManifest
  | writeManifest (manifest : M)
  | removeManifest
  | tokenIsSafe
  | writeToken
  | removeToken
  | removeState

variable {M D σ α : Type}

/-- `tokenIsSafe` replies `none` where there is no token. -/
@[reducible] def Reply : Call M D → Type
  | .inspect => Except InstallError D
  | .look => FileSystem
  | .children _ | .descendants _ => Except InstallError (List Path)
  | .artifactIsFile => Bool
  | .readArtifact | .read _ => Except InstallError Content
  | .extract => Except InstallError Extraction
  | .unusedPath _ _ _ => Except InstallError Path
  | .mkdir _ | .write _ _ | .chmod _ | .unlink _ | .replace _ _ | .rmdir _ => Except InstallError Unit
  | .loadManifest => Except InstallError (Option M)
  | .writeManifest _ | .removeManifest | .writeToken | .removeToken | .removeState => Except InstallError Unit
  | .tokenIsSafe => Except InstallError (Option Bool)

/-- An installer operation with locals `σ`. -/
abbrev Disk (M D σ α : Type) : Type := Py (Call M D) Reply InstallError σ α

namespace Disk

def inspect : Disk M D σ D := do
  Py.lift (← Py.perform Call.inspect)

def look : Disk M D σ FileSystem := Py.perform Call.look

def children (directory : Path) : Disk M D σ (List Path) := do
  Py.lift (← Py.perform (Call.children directory))

def descendants (directory : Path) : Disk M D σ (List Path) := do
  Py.lift (← Py.perform (Call.descendants directory))

def artifactIsFile : Disk M D σ Bool := Py.perform Call.artifactIsFile

def readArtifact : Disk M D σ Content := do
  Py.lift (← Py.perform Call.readArtifact)

def extract : Disk M D σ Extraction := do
  Py.lift (← Py.perform Call.extract)

def read (path : Path) : Disk M D σ Content := do
  Py.lift (← Py.perform (Call.read path))

def unusedPath (directory : Path) (before after : String) : Disk M D σ Path := do
  Py.lift (← Py.perform (Call.unusedPath directory before after))

def mkdir (path : Path) : Disk M D σ Unit := do
  Py.lift (← Py.perform (Call.mkdir path))

def write (path : Path) (content : Content) : Disk M D σ Unit := do
  Py.lift (← Py.perform (Call.write path content))

def chmod (path : Path) : Disk M D σ Unit := do
  Py.lift (← Py.perform (Call.chmod path))

/-- `path.unlink(missing_ok=True)` -/
def unlink (path : Path) : Disk M D σ Unit := do
  Py.lift (← Py.perform (Call.unlink path))

def replace (source target : Path) : Disk M D σ Unit := do
  Py.lift (← Py.perform (Call.replace source target))

def rmdir (path : Path) : Disk M D σ Unit := do
  Py.lift (← Py.perform (Call.rmdir path))

def loadManifest : Disk M D σ (Option M) := do
  Py.lift (← Py.perform Call.loadManifest)

def writeManifest (manifest : M) : Disk M D σ Unit := do
  Py.lift (← Py.perform (Call.writeManifest manifest))

def removeManifest : Disk M D σ Unit := do
  Py.lift (← Py.perform Call.removeManifest)

def tokenIsSafe : Disk M D σ (Option Bool) := do
  Py.lift (← Py.perform Call.tokenIsSafe)

def writeToken : Disk M D σ Unit := do
  Py.lift (← Py.perform Call.writeToken)

def removeToken : Disk M D σ Unit := do
  Py.lift (← Py.perform Call.removeToken)

def removeState : Disk M D σ Unit := do
  Py.lift (← Py.perform Call.removeState)

/-- `if not condition: raise error` -/
def require (condition : Prop) [Decidable condition] (error : InstallError) : Disk M D σ Unit :=
  if condition then pure () else Py.raise error

/-- `with suppress(OSError)` -/
def suppress (m : Disk M D σ Unit) : Disk M D σ Unit := Py.tryCatch m fun _ => pure ()

/-- The calls for every element, in their order. -/
def each {β : Type} (f : β → Disk M D σ Unit) : List β → Disk M D σ Unit
  | [] => pure ()
  | b :: bs => do
    f b
    each f bs

end Disk

/-! ## What the calls do -/

/-- A name that was just made up, between two given parts. -/
def namedBetween (directory : Path) (before after : String) (p : Path) : Prop :=
  ∃ middle, p = directory ++ [before ++ middle ++ after]

/-- A write needs a place that no directory and no link stands at. -/
def FileSystem.writable (fs : FileSystem) (p : Path) : Prop :=
  ∀ n, fs p = some n → ∃ c, n = .plain (.file c)

/-- The disk with a directory and those above it. -/
def FileSystem.withDirectory (fs : FileSystem) (d : Path) : FileSystem :=
  fun p => if p <+: d ∧ fs p = none then some (.plain .directory) else fs p

/-- What the calls do to a machine; `ships` says which paths the pinned loader holds. A call
that raises leaves the disk as it was, but a write that raises may leave another content. The
installers rename directories only over files, which raises. -/
def world (ships : Path → Prop) : Semantics (Call M D) Reply (Machine M)
  | .look, s, fs, s' => s' = s ∧ fs = s.files
  | .children d, s, .ok ps, s' => s' = s ∧ ∀ name, d ++ [name] ∈ ps ↔ s.files (d ++ [name]) ≠ none
  | .descendants d, s, .ok ps, s' => s' = s ∧ ∀ p ∈ ps, d <+: p ∧ p ≠ d
  | .artifactIsFile, s, r, s' => s' = s ∧ r = s.artifact.isSome
  | .readArtifact, s, .ok c, s' => s' = s ∧ s.artifact = some c
  | .extract, s, .ok x, s' => s' = s ∧ ∀ p ∈ x.files, ships p
  | .read p, s, .ok c, s' => s' = s ∧ s.files.content? p = some c
  | .unusedPath d before after, s, .ok p, s' => s' = s ∧ s.files p = none ∧ namedBetween d before after p
  | .mkdir d, s, .ok (), s' => s' = { s with files := s.files.withDirectory d } ∧
      (s.files d = none → ∀ p, d <+: p → s.files p = none)
  | .write p c, s, .ok (), s' => s.files.writable p ∧ s' = { s with files := s.files.put p (some (.plain (.file c))) }
  | .write p _, s, .error _, s' => s' = s ∨
      s.files.writable p ∧ ∃ c, s' = { s with files := s.files.put p (some (.plain (.file c))) }
  | .unlink p, s, .ok (), s' => s.files p ≠ some (.plain .directory) ∧ s' = { s with files := s.files.put p none }
  | .replace p q, s, .ok (), s' => s.files p ≠ none ∧ s.files p ≠ some (.plain .directory) ∧
      s.files q ≠ some (.plain .directory) ∧ s' = { s with files := (s.files.put q (s.files p)).put p none }
  | .rmdir p, s, .ok (), s' => s.files p = some (.plain .directory) ∧ s' = { s with files := s.files.put p none }
  | .loadManifest, s, .ok m, s' => s' = s ∧ m = s.manifest
  | .writeManifest m, s, .ok (), s' => s' = { s with manifest := some m }
  | .writeManifest m, s, .error _, s' => s' = s ∨ s' = { s with manifest := some m }
  | .removeManifest, s, .ok (), s' => s' = { s with manifest := none }
  | .tokenIsSafe, s, .ok r, s' => s' = s ∧ r.isSome = s.token
  | .writeToken, s, .ok (), s' => s' = { s with token := true }
  | .writeToken, s, .error _, s' => s' = s ∨ s' = { s with token := true }
  | .removeToken, s, .ok (), s' => s' = { s with token := false }
  | _, s, _, s' => s' = s

end SimPilot.Installer
