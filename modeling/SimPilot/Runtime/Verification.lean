import SimPilot.Runtime.Models
/-!
# `ActionVerifier` (runtime/verification.py)
-/

namespace SimPilot
namespace ActionVerifier

/-- `state.get(key)`, with `None` for a missing key. -/
def stateItem (o : Observation) (key : String) : JsonValue := (o.state.get key).getD .null

/-- `changed`. -/
def changed (before after : Observation) (key : String) : Bool :=
  ! (stateItem before key).pyEq (stateItem after key)

/-- `_resource`. -/
def resource (o : Observation) (name : String) : JsonValue :=
  match stateItem o "resources" with
  | .dict resources => (Assoc.get resources name).getD .null
  | _ => stateItem o name

/-- The value of an `int` or a `float`, and a bool is an int. -/
def numeric : JsonValue → Option ℚ
  | .bool b => some (if b then 1 else 0)
  | v => v.number?

/-- `_numeric_increased`. -/
def numericIncreased (before after : Observation) (key : String) : Bool :=
  match numeric (stateItem before key), numeric (stateItem after key) with
  | some left, some right => left < right
  | _, _ => false

/-- `_numeric_decreased`. -/
def numericDecreased (before after : Observation) (key : String) : Bool :=
  match numeric (stateItem before key), numeric (stateItem after key) with
  | some left, some right => right < left
  | _, _ => false

/-- A requested name that was not there before and is there after. -/
def renamed (before after : Observation) (action : Action) (name : String) : Bool :=
  match action.parameters.get "name" with
  | some requested => requested.isStr && !(resource before name).pyEq requested && (resource after name).pyEq requested
  | none => false

/-- `effect`: what the action's type promises of the two observations. -/
def effect (before : Observation) (action : Action) (after : Observation) : Bool :=
  match action.type.val with
  | "advance_time" => before.tick < after.tick
  | "build_housing" | "build_power" =>
    match stateItem before "active_projects", stateItem after "active_projects" with
    | .list beforeItems, .list afterItems => afterItems.length = beforeItems.length + 1
    | _, _ => false
  | "repair" => numericIncreased before after "infrastructure"
  | "set_maintenance" => changed before after "maintenance_level"
  | "take_loan" => numericIncreased before after "debt"
  | "repay_loan" => numericDecreased before after "debt"
  | "pause" => stateItem after "paused" = .bool true
  | "resume" => stateItem before "paused" = .bool true && stateItem after "paused" = .bool false
  | "set_server_name" => renamed before after action "server_name"
  | "set_company_name" => renamed before after action "company_name"
  | _ => false

/-- `before.state != after.state or before.tick != after.tick`. -/
def stateChanged (before after : Observation) : Bool :=
  !Dict.pyEq before.state after.state || before.tick ≠ after.tick

/-- The reasons every result is checked for (verification.py:25-29). -/
def reportReasons (before : Observation) (result : ExecutionResult) (after : Observation) (expectedCost : ℚ) :
    List String :=
  (if result.stateChanged ≠ stateChanged before after then
      ["reported state_changed does not match observations"] else [])
    ++ if 1 / 1000000 < |result.cost - expectedCost| then ["execution cost does not match validated cost"] else []

def reasons (before : Observation) (action : Action) (result : ExecutionResult) (after : Observation)
    (expectedCost : ℚ) : List String :=
  reportReasons before result after expectedCost ++
    if result.success then
      (if stateChanged before after then [] else ["successful execution did not change state"]) ++
        if effect before action after then []
        else [s!"expected effect was not observed for action: {action.type.val}"]
    else if stateChanged before after then ["failed execution unexpectedly mutated state"] else []

def verify (before : Observation) (action : Action) (result : ExecutionResult) (after : Observation)
    (expectedCost : ℚ) : VerificationResult :=
  let reasons := reasons before action result after expectedCost
  { verified := reasons = [], reasons }

/-- A verified result reports the change the observations show, at its validated cost. -/
theorem of_verified {before after : Observation} {action : Action} {result : ExecutionResult} {expectedCost : ℚ}
    (h : (verify before action result after expectedCost).verified = true) :
    result.stateChanged = stateChanged before after ∧ |result.cost - expectedCost| ≤ 1 / 1000000 := by
  simp only [verify, reasons, reportReasons, decide_eq_true_eq, List.append_eq_nil_iff] at h
  obtain ⟨⟨hc, hcost⟩, -⟩ := h
  refine ⟨?_, ?_⟩
  · by_contra hne
    rw [if_pos hne] at hc
    exact List.cons_ne_nil _ _ hc
  · by_contra hgt
    rw [if_pos (not_le.1 hgt)] at hcost
    exact List.cons_ne_nil _ _ hcost

end ActionVerifier

end SimPilot
