import SimPilot.Analysis.World
import SimPilot.Effect.Play
/-!
# The snapshot cache of the analysis processes (analysis/freshness.py)

Any number of processes ask for a snapshot at once; the cached one is served only under the
identity a process has just had verified, and the whole of check, probe, collection and
write stands under one lock of the operating system.

| here | there |
|---|---|
| `CacheOp`, `effect` | the lock, the cache file, the clock and the bridge, which the processes of a machine share |
| `SnapshotCacheLookup` | a lookup its validator accepts: a hit with its snapshot, or a miss without one |
| `analysisSnapshot` | `_analysis_snapshot` without `--snapshot` (`cli.py:3295-3335`) |
| `verificationFromHealth` | `_verification_from_health` (`cli.py:3168`) |
| `CacheOp.endProcess` | the system ends a process wherever it is, and its lock with it |

Times are microseconds; the digest of an entity id is a parameter.
-/

namespace SimPilot.Analysis.SnapshotCache
open Effect Relation

/-! ## Records -/

structure SnapshotIdentity where
  worldId : String
  saveGeneration : Nat
  capabilityFingerprint : String
  observerCompanyId : String
  bridgeCompanyContext : Nat
  deriving DecidableEq, Repr

/-- `SnapshotIdentity.from_snapshot` -/
def SnapshotIdentity.fromSnapshot (snapshot : WorldSnapshot) (bridgeCompanyContext : Nat) :
    Except PyError SnapshotIdentity :=
  match snapshot.metadata.observerCompanyId with
  | none => .error (.valueError "snapshot observer company identity is unavailable")
  | some observerCompanyId => .ok {
      worldId := snapshot.metadata.worldId
      saveGeneration := snapshot.metadata.saveGeneration
      capabilityFingerprint := snapshot.metadata.capabilityFingerprint
      observerCompanyId
      bridgeCompanyContext }

inductive VerifiedState where
  | identityVerified | synchronized
  deriving DecidableEq, Repr

structure SnapshotVerification where
  identity : SnapshotIdentity
  verifiedAt : Timestamp
  bridgeSequence : Nat
  synchronizationState : VerifiedState
  openttdVersion : String
  bridgeProtocolVersion : Nat
  scriptVersion : Nat
  deriving DecidableEq, Repr

/-- The identity is that of the metadata of the snapshot (`validate_identity_matches_snapshot`). -/
def SnapshotIdentity.Matches (identity : SnapshotIdentity) (metadata : WorldSnapshotMetadata) : Prop :=
  identity.worldId = metadata.worldId ∧ identity.saveGeneration = metadata.saveGeneration ∧
    identity.capabilityFingerprint = metadata.capabilityFingerprint ∧
    some identity.observerCompanyId = metadata.observerCompanyId

instance SnapshotIdentity.decidableMatches (identity : SnapshotIdentity) (metadata : WorldSnapshotMetadata) :
    Decidable (identity.Matches metadata) := inferInstanceAs (Decidable (_ ∧ _ ∧ _ ∧ _))

/-- A record `model_validate_json` accepts. -/
structure SnapshotCacheRecord where
  storedAt : Timestamp
  identity : SnapshotIdentity
  collectionDurationSeconds : Nat
  snapshot : WorldSnapshot
  identity_matches : identity.Matches snapshot.metadata

/-- What is at the path of the cache. -/
inductive CacheFile where
  | missing
  | corrupt
  | record (record : SnapshotCacheRecord)

inductive SnapshotCacheMiss where
  | requiresVerification | missing | corrupt | expired | incompatible | incomplete
  deriving DecidableEq, Repr

inductive SnapshotCacheLookup where
  | hit (snapshot : WorldSnapshot) (ageSeconds collectionDurationSeconds : Nat) (reason : String)
  | miss (status : SnapshotCacheMiss) (ageSeconds : Option Nat) (reason : String)

/-- The fields of the health of the bridge a verification reads. -/
structure BridgeHealth where
  openttdVersion : Option String := none
  bridgeProtocolVersion : Option Nat := none
  scriptVersion : Option Nat := none
  scriptInstanceId : Option String := none
  lastSequence : Option Nat := none
  activeCompanyContext : Option Nat := none
  capabilityFingerprint : Option String := none
  /-- `snapshot.save_generation` and `snapshot.company.company_id` -/
  snapshot : Option (Nat × Option Nat) := none
  deriving DecidableEq, Repr

inductive SnapshotSource where
  | freshCollection | compatibleCache
  deriving DecidableEq, Repr

structure AnalysisSnapshotAcquisition where
  snapshot : WorldSnapshot
  source : SnapshotSource
  maximumAcceptableAgeSeconds : Int
  collectionDurationSeconds : Nat
  verification : SnapshotVerification

/-! ## What the processes share -/

/-- What a command line asks for. -/
structure SnapshotRequest where
  live : Bool := false
  fresh : Bool := false
  maximumAgeSeconds : Option Int := none
  deriving DecidableEq, Repr

inductive CacheOp (Pid : Type) where
  | lock
  | unlock
  | now
  | perfCounter
  | readCache
  | writeCache (record : SnapshotCacheRecord)
  /-- `bridge.verify_identity()` -/
  | verifyIdentity
  /-- `_bridge_observation()`, with the world of the observation -/
  | bridgeObservation
  /-- The call has returned to the command. -/
  | answer (request : SnapshotRequest) (acquisition : AnalysisSnapshotAcquisition)
  | endProcess (q : Pid)

abbrev CacheRet {Pid : Type} : CacheOp Pid → Type
  | .lock => Except PyError Unit
  | .now => Timestamp
  | .perfCounter => Nat
  | .readCache => CacheFile
  | .writeCache _ => Except PyError Unit
  | .verifyIdentity => Except PyError BridgeHealth
  | .bridgeObservation => Except PyError (Option WorldSnapshot × BridgeHealth)
  | .unlock | .answer _ _ | .endProcess _ => Unit

/-- What a process is seen to do. -/
inductive CacheEvent where
  | locked
  | unlocked
  | clock (now : Timestamp)
  | read (file : CacheFile)
  | wrote (record : SnapshotCacheRecord)
  | probed (health : BridgeHealth)
  | collected (snapshot : WorldSnapshot) (health : BridgeHealth)
  | answered (request : SnapshotRequest) (acquisition : AnalysisSnapshotAcquisition)

/-- The machine: who holds the lock, which processes the system has ended, the cache, and
what has been done, the last first. -/
structure CacheState (Pid : Type) where
  holder : Option Pid := none
  ended : Pid → Bool := fun _ => false
  file : CacheFile
  trace : List (Pid × CacheEvent) := []

namespace CacheState
variable {Pid : Type}

def log (s : CacheState Pid) (p : Pid) (event : CacheEvent) : CacheState Pid :=
  { s with trace := (p, event) :: s.trace }

@[simp] theorem log_holder (s : CacheState Pid) (p : Pid) (e : CacheEvent) : (s.log p e).holder = s.holder := rfl
@[simp] theorem log_ended (s : CacheState Pid) (p : Pid) (e : CacheEvent) : (s.log p e).ended = s.ended := rfl
@[simp] theorem log_file (s : CacheState Pid) (p : Pid) (e : CacheEvent) : (s.log p e).file = s.file := rfl
@[simp] theorem log_trace (s : CacheState Pid) (p : Pid) (e : CacheEvent) :
    (s.log p e).trace = (p, e) :: s.trace := rfl

end CacheState

section
variable {Pid : Type} [DecidableEq Pid]

/-- What an operation of `p` does to the machine. A write that raises may have replaced the
file before it did; a file that is there may fail to be read. -/
def effect (p : Pid) : (o : CacheOp Pid) → CacheState Pid → CacheRet o → CacheState Pid → Prop
  | .lock, s, .ok (), s' => s.holder = none ∧ s' = { s with holder := some p }.log p .locked
  | .lock, s, .error _, s' => s' = s
  | .unlock, s, _, s' => s' = { s with holder := if s.holder = some p then none else s.holder }.log p .unlocked
  | .now, s, now, s' => s' = s.log p (.clock now)
  | .perfCounter, s, _, s' => s' = s
  | .readCache, s, file, s' => (file = s.file ∨ file = .corrupt) ∧ s' = s.log p (.read file)
  | .writeCache record, s, .ok (), s' => s' = { s with file := .record record }.log p (.wrote record)
  | .writeCache record, s, .error _, s' => s' = s ∨ s' = { s with file := .record record }.log p (.wrote record)
  | .verifyIdentity, s, .ok health, s' => s' = s.log p (.probed health)
  | .verifyIdentity, s, .error _, s' => s' = s
  | .bridgeObservation, s, .ok (some snapshot, health), s' => s' = s.log p (.collected snapshot health)
  | .bridgeObservation, s, _, s' => s' = s
  | .answer request acquisition, s, _, s' => s' = s.log p (.answered request acquisition)
  | .endProcess q, s, _, s' =>
    s' = { s with ended := Function.update s.ended q true, holder := if s.holder = some q then none else s.holder }

/-! ## The calls of a process -/

abbrev Cli (Pid : Type) : Type → Type := Py (CacheOp Pid) CacheRet PyError Unit

def perform (o : CacheOp Pid) : Cli Pid (CacheRet o) := Py.perform o

/-- An operation that may raise. -/
def attempt {α : Type} (m : Cli Pid (Except PyError α)) : Cli Pid α := do
  let reply ← m
  Py.lift reply

/-- `_verification_from_health` -/
def verificationFromHealth (digest : String → String) (health : BridgeHealth) (state : VerifiedState)
    (now : Timestamp) : Except PyError SnapshotVerification :=
  match health.scriptInstanceId, health.capabilityFingerprint, health.snapshot, health.activeCompanyContext,
    health.lastSequence, health.openttdVersion, health.bridgeProtocolVersion, health.scriptVersion with
  | some worldId, some capabilityFingerprint, some (saveGeneration, some companyId), some bridgeCompanyContext,
    some bridgeSequence, some openttdVersion, some bridgeProtocolVersion, some scriptVersion => .ok {
      identity := {
        worldId, saveGeneration, capabilityFingerprint, bridgeCompanyContext
        observerCompanyId := "company:" ++ digest (worldId ++ "|company|" ++ toString companyId) }
      verifiedAt := now
      bridgeSequence
      synchronizationState := state
      openttdVersion, bridgeProtocolVersion, scriptVersion }
  | _, _, _, _, _, _, _, _ => .error (.valueError "bridge identity and company compatibility could not be established")

def ttlSeconds : Int := 30000000

def DEFAULT_ANALYSIS_MAXIMUM_SNAPSHOT_AGE_SECONDS : Int := 5000000

/-- `_effective_age` -/
def effectiveAge (maximumAgeSeconds : Int) : Except PyError Int :=
  if maximumAgeSeconds < 0 then .error (.valueError "maximum snapshot age must not be negative")
  else .ok (min maximumAgeSeconds ttlSeconds)

/-- `_age` -/
def age (record : SnapshotCacheRecord) : Cli Pid Nat := do
  let now ← perform .now
  pure (now - record.snapshot.metadata.capturedAt)

/-- `_read` -/
def readRecord : Cli Pid (Except SnapshotCacheLookup SnapshotCacheRecord) := do
  let file : CacheFile ← perform .readCache
  match file with
  | .missing => pure (.error (.miss .missing none "snapshot cache does not exist"))
  | .corrupt => pure (.error (.miss .corrupt none "snapshot cache failed strict validation"))
  | .record record => pure (.ok record)

/-- The checks `candidate_status` and `load` make on a record of some age, and what follows them. -/
def checked (record : SnapshotCacheRecord) (maximumAgeSeconds : Int) (rest : Nat → SnapshotCacheLookup) :
    Cli Pid SnapshotCacheLookup := do
  let age ← age record
  if record.snapshot.metadata.complete = false then
    return .miss .incomplete (some age) "cached snapshot is incomplete"
  let bound ← Py.lift (effectiveAge maximumAgeSeconds)
  if bound < age then
    return .miss .expired (some age) "cached snapshot exceeds the freshness policy"
  return rest age

/-- What `candidate_status` answers for a record that is complete and young enough. -/
def candidate (age : Nat) : SnapshotCacheLookup :=
  .miss .requiresVerification (some age) "fresh candidate requires independent identity verification"

def candidateStatus (maximumAgeSeconds : Int) : Cli Pid SnapshotCacheLookup := do
  match ← readRecord with
  | .error failure => pure failure
  | .ok record => checked record maximumAgeSeconds candidate

/-- What `load` answers for a record that is complete and young enough. -/
def SnapshotCacheRecord.lookup (record : SnapshotCacheRecord) (verifiedIdentity : SnapshotIdentity) (age : Nat) :
    SnapshotCacheLookup :=
  if record.identity ≠ verifiedIdentity then
    .miss .incompatible (some age) "cached world, company, bridge generation, or capabilities changed"
  else .hit record.snapshot age record.collectionDurationSeconds
    "cached snapshot passed freshness and live identity verification"

def load (verifiedIdentity : Option SnapshotIdentity) (maximumAgeSeconds : Int) : Cli Pid SnapshotCacheLookup := do
  match verifiedIdentity with
  | none => pure (.miss .incompatible none "live snapshot identity was not independently verified")
  | some verifiedIdentity =>
    match ← readRecord with
    | .error failure => pure failure
    | .ok record => checked record maximumAgeSeconds (record.lookup verifiedIdentity)

def store (snapshot : WorldSnapshot) (identity : SnapshotIdentity) (collectionDurationSeconds : Nat) :
    Cli Pid Unit := do
  if snapshot.metadata.complete = false then return
  let now ← perform .now
  if h : identity.Matches snapshot.metadata then
    attempt (perform (.writeCache ⟨now, identity, collectionDurationSeconds, snapshot, h⟩))
  else Py.raise (.other "ValidationError" "cached identity does not match cached snapshot metadata")

variable (digest : String → String)

/-- `_probe_openttd_snapshot_identity` -/
def probe : Cli Pid SnapshotVerification := do
  let health : BridgeHealth ← attempt (perform .verifyIdentity)
  let now ← perform .now
  Py.lift (verificationFromHealth digest health .identityVerified now)

/-- `_collect_analysis_snapshot` -/
def collect : Cli Pid AnalysisSnapshotAcquisition := do
  let started ← perform .perfCounter
  let observed : Option WorldSnapshot × BridgeHealth ← attempt (perform .bridgeObservation)
  let finished ← perform .perfCounter
  match observed.1 with
  | none => Py.raise (.valueError "the running GameScript does not provide world snapshots")
  | some snapshot =>
    let now ← perform .now
    let verification ← Py.lift (verificationFromHealth digest observed.2 .synchronized now)
    let expected ← Py.lift (SnapshotIdentity.fromSnapshot snapshot verification.identity.bridgeCompanyContext)
    if expected ≠ verification.identity then
      Py.raise (.valueError "collected snapshot does not match synchronized bridge identity")
    else pure {
      snapshot, source := .freshCollection, maximumAcceptableAgeSeconds := 0
      collectionDurationSeconds := finished - started, verification }

def SnapshotRequest.maximumAge (request : SnapshotRequest) : Int :=
  request.maximumAgeSeconds.getD DEFAULT_ANALYSIS_MAXIMUM_SNAPSHOT_AGE_SECONDS

/-- The cache is not asked for a request that wants the world as it is. -/
def SnapshotRequest.Bypasses (request : SnapshotRequest) : Prop :=
  request.live = true ∨ request.fresh = true ∨ request.maximumAge = 0

instance SnapshotRequest.decidableBypasses (request : SnapshotRequest) : Decidable request.Bypasses :=
  inferInstanceAs (Decidable (_ ∨ _ ∨ _))

/-- The cached snapshot, when it may be served. -/
def cached (maximumAge : Int) : Cli Pid (Option AnalysisSnapshotAcquisition) := do
  match ← candidateStatus maximumAge with
  | .miss .requiresVerification _ _ =>
    let verification ← probe digest
    match ← load (some verification.identity) maximumAge with
    | .hit snapshot _ collectionDurationSeconds _ => pure (some {
        snapshot, source := .compatibleCache, maximumAcceptableAgeSeconds := maximumAge
        collectionDurationSeconds, verification })
    | .miss _ _ _ => pure none
  | _ => pure none

/-- A new snapshot, stored for the next. -/
def refreshed (request : SnapshotRequest) : Cli Pid AnalysisSnapshotAcquisition := do
  let acquired ← collect digest
  store acquired.snapshot acquired.verification.identity acquired.collectionDurationSeconds
  pure { acquired with
    maximumAcceptableAgeSeconds := if request.live ∨ request.fresh then 0 else request.maximumAge }

/-- `exclusive` -/
def exclusive {α : Type} (body : Cli Pid α) : Cli Pid α := do
  attempt (perform .lock)
  Py.tryFinally body (perform .unlock)

def lookedUp (request : SnapshotRequest) : Cli Pid AnalysisSnapshotAcquisition := do
  if request.Bypasses then refreshed digest request
  else match ← cached digest request.maximumAge with
    | some acquisition => pure acquisition
    | none => refreshed digest request

/-- `_analysis_snapshot` -/
def analysisSnapshot (request : SnapshotRequest) : Cli Pid AnalysisSnapshotAcquisition := do
  if request.maximumAgeSeconds.any (· < 0) then
    Py.raise (.valueError "maximum snapshot age must not be negative")
  else exclusive (lookedUp digest request)

/-- A command: it asks for a snapshot and goes on with the answer. -/
def command (request : SnapshotRequest) : Prog (CacheOp Pid) CacheRet Unit :=
  ((do let acquisition ← analysisSnapshot digest request
       perform (.answer request acquisition) : Cli Pid Unit) ()).bind fun _ => .ret ()

/-- The programs of a machine: commands, and the system ending a process. -/
inductive Started : Prog (CacheOp Pid) CacheRet Unit → Prop
  | command (request : SnapshotRequest) : Started (command digest request)
  | endProcess (q : Pid) : Started (.op (.endProcess q) .ret)

end

end SimPilot.Analysis.SnapshotCache
