import SimPilot.Runtime.DecisionContext
import SimPilot.Runtime.ActionAttempts
import SimPilot.Domain.Text
/-!
# Validation of the decisions of a provider (runtime/decision_validation.py)

A provider checks its decision against the context before it returns it. A number is what it is
exactly, so one is always finite, and the check of the fingerprint's own form is left out.

| here | there |
|---|---|
| `validateParameter`, `validateParameters` | decision_validation.py:48-99 |
| `validateProviderDecision` | `validate_provider_decision` (decision_validation.py:16) |
-/

namespace SimPilot

def ActionParameterType.value : ActionParameterType → String
  | .integer => "integer"
  | .number => "number"
  | .string => "string"
  | .boolean => "boolean"

/-- The `valid_type` of `_validate_parameter`. -/
def ActionParameterType.takes : ActionParameterType → JsonValue → Bool
  | .integer, v => v.int?.isSome
  | .number, v => v.number?.isSome
  | .string, v => v.isStr
  | .boolean, v => v.bool?.isSome

namespace DecisionValidation

/-- `raise DecisionSemanticValidationError(text)` -/
def refuse {α : Type} (text : String) : Except PyError α :=
  .error (.decisionProvider "DecisionSemanticValidationError" text)

/-- The bounds of a parameter, for a number. -/
def validateBounds (schema : ActionParameterDefinition) (numeric : ℚ) : Except PyError Unit :=
  let beyond := "parameter " ++ schema.name ++ " must be "
  let belowMinimum (minimum : ℚ) : Bool := if schema.exclusiveMinimum then numeric ≤ minimum else numeric < minimum
  if schema.minimum.any belowMinimum then
    refuse (beyond ++ (if schema.exclusiveMinimum then "greater than " else "at least ") ++
      formatG (schema.minimum.getD 0))
  else if schema.maximum.any (· < numeric) then
    refuse (beyond ++ "at most " ++ formatG (schema.maximum.getD 0))
  else .ok ()

def validateParameter (value : JsonValue) (schema : ActionParameterDefinition) : Except PyError Unit :=
  if schema.type.takes value = false then
    refuse ("parameter " ++ schema.name ++ " must be " ++ schema.type.value)
  else if schema.allowedValues ≠ [] ∧ schema.allowedValues.any (JsonValue.pyEq · value) = false then
    refuse ("parameter " ++ schema.name ++ " is not an allowed value")
  else
    match value.number? with
    | some numeric => validateBounds schema numeric
    | none => .ok ()

/-- `schemas[name]`: the last definition of a name. -/
def schemaOf (definition : ActionDefinition) (name : String) : Option ActionParameterDefinition :=
  definition.parameters.reverse.find? (·.name = name)

def missing (parameters : Dict) (definition : ActionDefinition) : List String :=
  ((definition.parameters.filter fun p => p.required && !Assoc.contains parameters p.name).map (·.name)).insertionSort
    (· ≤ ·)

def unknown (parameters : Dict) (definition : ActionDefinition) : List String :=
  ((Assoc.keys parameters).dedup.filter fun name => (schemaOf definition name).isNone).insertionSort (· ≤ ·)

/-- The loop over the items. -/
def validateItems (definition : ActionDefinition) : Dict → Except PyError Unit
  | [] => .ok ()
  | (name, value) :: rest =>
    match schemaOf definition name with
    | some schema => do
      validateParameter value schema
      validateItems definition rest
    | none => .error (.other "KeyError" name)

def validateParameters (parameters : Dict) (definition : ActionDefinition) : Except PyError Unit :=
  if missing parameters definition ≠ [] then
    refuse ("action " ++ definition.type ++ " is missing parameters: " ++
      ", ".intercalate (missing parameters definition))
  else if unknown parameters definition ≠ [] then
    refuse ("action " ++ definition.type ++ " has unknown parameters: " ++
      ", ".intercalate (unknown parameters definition))
  else validateItems definition parameters

/-- `definitions.get(type)`: the last definition of a type. -/
def definitionOf (availableActions : List ActionDefinition) (type : String) : Option ActionDefinition :=
  availableActions.reverse.find? (·.type = type)

/-- What is asked of the action of a decision. -/
def validateDecidedAction (action : Action) (context : DecisionContext) : Except PyError Unit :=
  let restrictions := context.pendingRestrictions
  if action.type.val ∈ restrictions.rejectedActions ++ restrictions.deniedActions then
    refuse ("action was previously rejected or denied: " ++ action.type.val)
  else
    match definitionOf context.availableActions action.type.val with
    | none => refuse ("action is not advertised by the adapter: " ++ action.type.val)
    | some definition => validateParameters action.parameters definition

/-- The fingerprint of the action, or `"no-action"`. -/
def validateProviderDecision (decision : Decision) (context : DecisionContext) : Except PyError JsonValue :=
  if decision.type = .complete ∧ context.progress.complete = false then
    refuse "completion is not confirmed by the deterministic evaluator"
  else if decision.type = .blocked ∧ strip decision.reason.val = "" then
    refuse "blocked decision requires a reason"
  else
    match decision.action with
    | none => .ok (.str "no-action")
    | some action => do
      validateDecidedAction action context
      return actionFingerprint action

end DecisionValidation

end SimPilot
