import SimPilot.Domain.Models
/-!
# Failures (persistence/errors.py, runtime/errors.py, runtime/decision_errors.py)

`PyError` is what a call of the runtime can raise: an `Exception`, the
`SimulatedCrash` of a crash hook (a `BaseException`), or `diverged`, a loop of the
model running out of its bound.
-/

namespace SimPilot

inductive PersistenceError where
  | recordNotFound (message : String)
  | duplicateRecord (message : String)
  | sequenceConflict (message : String)
  | staleUpdate (message : String)
  | transaction (message : String)
  | unsupportedSchemaVersion (message : String)
  | invalidPersistedPayload (message : String)
  deriving DecidableEq, Repr

def PersistenceError.message : PersistenceError → String
  | recordNotFound m | duplicateRecord m | sequenceConflict m | staleUpdate m | transaction m
  | unsupportedSchemaVersion m | invalidPersistedPayload m => m

def PersistenceError.className : PersistenceError → String
  | recordNotFound _ => "RecordNotFoundError"
  | duplicateRecord _ => "DuplicateRecordError"
  | sequenceConflict _ => "SequenceConflictError"
  | staleUpdate _ => "StaleUpdateError"
  | transaction _ => "TransactionError"
  | unsupportedSchemaVersion _ => "UnsupportedSchemaVersionError"
  | invalidPersistedPayload _ => "InvalidPersistedPayloadError"

/-- `CrashPoint` (runtime/recovery.py:14). -/
inductive CrashPoint where
  | afterPrepared | beforeExecution | afterExecution | afterObservation | afterVerification | afterCommit
  deriving DecidableEq, Repr

inductive PyError where
  | durablePersistence (message : String)
  | reconstructionConsistency (message : String)
  | persistence (error : PersistenceError)
  | valueError (message : String)
  | scriptedDecisionExhausted (message : String)
  /-- A `DecisionProviderError` of class `cls`. -/
  | decisionProvider (cls message : String)
  /-- Any other `Exception`, of class `cls`. -/
  | other (cls message : String)
  | simulatedCrash (point : CrashPoint)
  | diverged
  deriving DecidableEq, Repr

namespace PyError

/-- `str(error)`. -/
def message : PyError → String
  | durablePersistence m | reconstructionConsistency m | valueError m | scriptedDecisionExhausted m
  | decisionProvider _ m | other _ m => m
  | persistence e => e.message
  | simulatedCrash _ | diverged => ""

/-- `type(error).__name__`. -/
def className : PyError → String
  | durablePersistence _ => "DurablePersistenceError"
  | reconstructionConsistency _ => "ReconstructionConsistencyError"
  | valueError _ => "ValueError"
  | scriptedDecisionExhausted _ => "ScriptedDecisionExhaustedError"
  | decisionProvider cls _ | other cls _ => cls
  | persistence e => e.className
  | simulatedCrash _ => "SimulatedCrash"
  | diverged => ""

/-- What `except Exception` catches. -/
def isException : PyError → Bool
  | simulatedCrash _ | diverged => false
  | _ => true

/-- A pydantic `ValidationError` about one field of a model, its text without the
bracketed tail. -/
def validation (model field problem : String) : PyError :=
  .other "ValidationError" s!"1 validation error for {model}\n{field}\n  {problem}"

end PyError

end SimPilot
