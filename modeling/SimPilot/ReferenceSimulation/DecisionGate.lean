import SimPilot.ReferenceSimulation.Verified
import SimPilot.Runtime.DecisionValidation
import Mathlib.Data.List.Dedup
/-!
# The gate of the providers and the reference adapter (adapters/reference/adapter.py)

A provider asks of a decision what the definitions of `available_actions` say, the adapter parses
the action of the same decision with its own models. An int is never beyond the range of a float.

| here | there |
|---|---|
| `actionDefinitions` | `ACTION_DEFINITIONS` (adapter.py:19) |
| `availableActions` | `available_actions` (adapter.py:132) |
-/

namespace SimPilot

open DecisionValidation

/-! ## The advertised actions -/

def advertised (type : String) (parameters : List ActionParameterDefinition) (description : String) : ActionDefinition :=
  { type, parameters, description }

/-- `ACTION_DEFINITIONS` (adapter.py:19) -/
def actionDefinitions : List ActionDefinition := [
  advertised "advance_time" [{ name := "ticks", type := .integer, minimum := some 1 }]
    "Advance the simulation by one or more ticks.",
  advertised "build_housing" [{ name := "units", type := .integer, minimum := some 1 }]
    "Start a housing construction project.",
  advertised "build_power" [{ name := "capacity", type := .integer, minimum := some 1 }]
    "Start a power construction project.",
  advertised "repair" [{ name := "amount", type := .number, minimum := some 0, exclusiveMinimum := true }]
    "Repair infrastructure immediately.",
  advertised "set_maintenance" [{ name := "level", type := .number, allowedValues := [.float 0, .float (1 / 2), .float 1] }]
    "Set the recurring maintenance level.",
  advertised "take_loan" [{ name := "amount", type := .number, minimum := some 10000, maximum := some 500000 }]
    "Take a loan within the debt limits.",
  advertised "repay_loan" [{ name := "amount", type := .number, minimum := some 0, exclusiveMinimum := true }]
    "Repay outstanding debt from cash.",
  advertised "pause" [] "Pause simulation progression.",
  advertised "resume" [] "Resume simulation progression."]

/-- `available_actions` -/
def ReferenceSimulationAdapter.availableActions (adapter : ReferenceSimulationAdapter) :
    Except PyError (List ActionDefinition) := do
  adapter.requireInitialized
  return actionDefinitions

/-! ## Parameters -/

section Parameters
variable {parameters : Dict} {definition : ActionDefinition} {p : ActionParameterDefinition} {field type : String}

/-- New keys are set behind the ones there are. -/
theorem foldl_set {f : Dict → String × JsonValue → Dict} (hf : ∀ payload kv, f payload kv = Assoc.set payload kv.1 kv.2) :
    ∀ {payload : Dict}, (Assoc.keys (payload ++ parameters)).Nodup →
      parameters.foldl f payload = payload ++ parameters := by
  induction parameters with
  | nil =>
    intro payload _
    rw [List.append_nil]
    rfl
  | cons kv rest ih =>
    intro payload hn
    have hnew : kv.1 ∉ Assoc.keys payload := by
      simp only [Assoc.keys, List.map_append, List.map_cons, List.nodup_append] at hn
      exact fun hmem => hn.2.2 kv.1 hmem kv.1 (List.mem_cons_self ..) rfl
    rw [List.foldl_cons, hf, Assoc.set_of_not_mem hnew, ih (by rw [List.append_assoc]; exact hn), List.append_assoc]
    rfl

/-- The one item of a dictionary of one key. -/
theorem eq_singleton {v : JsonValue} (hn : (Assoc.keys parameters).Nodup) (honly : ∀ k ∈ Assoc.keys parameters, k = field)
    (hget : Assoc.get parameters field = some v) : parameters = [(field, v)] := by
  cases parameters with
  | nil => cases hget
  | cons kv rest =>
    obtain ⟨k, w⟩ := kv
    obtain rfl : k = field := honly k (List.mem_cons_self ..)
    have hrest : rest = [] := by
      cases rest with
      | nil => rfl
      | cons kv' rest' =>
        exfalso
        have hsame : kv'.1 = k := honly kv'.1 (List.mem_cons_of_mem _ (List.mem_cons_self ..))
        exact (List.nodup_cons.1 hn).1 (hsame ▸ List.mem_cons_self ..)
    subst hrest
    rw [Assoc.get_cons, if_pos rfl, Option.some.injEq] at hget
    rw [hget]

theorem schemaOf_single (hp : definition.parameters = [p]) (name : String) :
    schemaOf definition name = if p.name = name then some p else none := by
  unfold schemaOf
  rw [hp, List.reverse_singleton, List.find?_singleton]
  simp only [decide_eq_true_eq]

/-- An action of one parameter is given with that parameter alone. -/
theorem validateParameters_single (hp : definition.parameters = [p]) (hrequired : p.required = true)
    (hn : (Assoc.keys parameters).Nodup) : validateParameters parameters definition = .ok () ↔
      ∃ v, parameters = [(p.name, v)] ∧ validateParameter v p = .ok () := by
  constructor
  · intro h
    unfold validateParameters at h
    split at h
    · cases h
    next hmissing =>
      split at h
      · cases h
      next hunknown =>
        rw [not_not] at hmissing hunknown
        have hgiven : Assoc.contains parameters p.name = true := by
          by_contra hno
          rw [Bool.not_eq_true] at hno
          have hlist := List.perm_nil.1 ((List.perm_insertionSort (· ≤ ·) _).symm.trans (List.Perm.of_eq hmissing))
          simp only [hp, List.filter_cons, hrequired, hno, Bool.not_false, Bool.and_self, if_true, List.map_cons,
            reduceCtorEq] at hlist
        have honly : ∀ k ∈ Assoc.keys parameters, k = p.name := by
          intro k hk
          by_contra hne
          have hlist := List.perm_nil.1 ((List.perm_insertionSort (· ≤ ·) _).symm.trans (List.Perm.of_eq hunknown))
          have hmem : k ∈ (Assoc.keys parameters).dedup.filter fun name => (schemaOf definition name).isNone := by
            rw [List.mem_filter, List.mem_dedup, schemaOf_single hp, if_neg fun heq => hne heq.symm]
            exact ⟨hk, rfl⟩
          rw [hlist] at hmem
          cases hmem
        obtain ⟨v, hget⟩ := Option.isSome_iff_exists.1 hgiven
        have hsingle := eq_singleton hn honly hget
        refine ⟨v, hsingle, ?_⟩
        rw [hsingle, validateItems, schemaOf_single hp, if_pos rfl] at h
        cases hvalue : validateParameter v p with
        | ok u => rfl
        | error e =>
          simp only [hvalue] at h
          cases h
  · rintro ⟨v, rfl, hvalue⟩
    have hmissing : missing [(p.name, v)] definition = [] := by
      unfold missing
      rw [hp, List.filter_singleton]
      simp [Assoc.contains]
    have hunknown : unknown [(p.name, v)] definition = [] := by
      unfold unknown
      have hname : [p.name].dedup = [p.name] := List.dedup_eq_self.2 (List.nodup_singleton _)
      simp [Assoc.keys, schemaOf_single hp, hname]
    unfold validateParameters
    rw [if_neg (not_not.2 hmissing), if_neg (not_not.2 hunknown), validateItems, schemaOf_single hp, if_pos rfl]
    simp only [hvalue]
    rfl

/-- An action without parameters is given without any. -/
theorem validateParameters_none (hp : definition.parameters = []) :
    validateParameters parameters definition = .ok () ↔ parameters = [] := by
  have hschema : ∀ name, schemaOf definition name = none := by
    intro name
    unfold schemaOf
    rw [hp]
    rfl
  constructor
  · intro h
    unfold validateParameters at h
    split at h
    · cases h
    next =>
      split at h
      · cases h
      next hunknown =>
        cases parameters with
        | nil => rfl
        | cons kv rest =>
          rw [validateItems, hschema] at h
          cases h
  · rintro rfl
    unfold validateParameters missing unknown
    rw [hp]
    rfl

end Parameters

/-! ## Values -/

section Values
variable {v : JsonValue} {name : String}

theorem validate_bounds_ok {schema : ActionParameterDefinition} {numeric : ℚ} : validateBounds schema numeric = .ok () ↔
    (∀ m, schema.minimum = some m → if schema.exclusiveMinimum then m < numeric else m ≤ numeric) ∧
      ∀ m, schema.maximum = some m → numeric ≤ m := by
  unfold validateBounds
  cases hmin : schema.minimum with
  | none => cases hmax : schema.maximum <;> simp [refuse]
  | some low =>
    cases hexclusive : schema.exclusiveMinimum <;> cases hmax : schema.maximum <;>
      simp only [Option.any_some, Option.any_none, refuse, decide_eq_true_eq, if_true, if_false, Bool.false_eq_true] <;>
      split <;> simp_all [not_le, not_lt]

/-- A whole number from one on. -/
theorem validate_units : validateParameter v { name, type := .integer, minimum := some 1 } = .ok () ↔
    ∃ n, v.int? = some n ∧ 0 < n.toNat := by
  unfold validateParameter
  cases v with
  | int i =>
    rw [if_neg (by simp [ActionParameterType.takes, JsonValue.int?]), if_neg (by simp)]
    simp only [JsonValue.number?, validate_bounds_ok, JsonValue.int?, Option.some.injEq, Bool.false_eq_true, if_false,
      forall_eq', reduceCtorEq, false_implies, implies_true, and_true, exists_eq_left']
    rw [Int.lt_toNat]
    norm_cast
  | _ => simp [ActionParameterType.takes, JsonValue.int?, refuse]

/-- A number between bounds. -/
theorem validate_number {schema : ActionParameterDefinition} (htype : schema.type = .number)
    (hvalues : schema.allowedValues = []) : validateParameter v schema = .ok () ↔
      ∃ q, v.number? = some q ∧ validateBounds schema q = .ok () := by
  unfold validateParameter
  rw [htype, hvalues]
  cases hq : v.number? with
  | none => simp [ActionParameterType.takes, hq, refuse]
  | some q => simp [ActionParameterType.takes, hq]

/-- One of the three levels. -/
theorem validate_level {schema : ActionParameterDefinition} (htype : schema.type = .number)
    (hvalues : schema.allowedValues = [.float 0, .float (1 / 2), .float 1]) (hmin : schema.minimum = none)
    (hmax : schema.maximum = none) : validateParameter v schema = .ok () ↔
      ∃ q, v.number? = some q ∧ (q = 0 ∨ q = 1 / 2 ∨ q = 1) := by
  have hbounds : ∀ q, validateBounds schema q = .ok () := by
    intro q
    rw [validate_bounds_ok, hmin, hmax]
    exact ⟨(fun _ h => by cases h), (fun _ h => by cases h)⟩
  unfold validateParameter
  rw [htype]
  cases hq : v.number? with
  | none => simp [ActionParameterType.takes, hq, refuse]
  | some q =>
    have hcanon : v.canon = .float q := by
      cases v with
      | int i =>
        cases hq
        rfl
      | float r =>
        cases hq
        rfl
      | _ => cases hq
    have hany : schema.allowedValues.any (JsonValue.pyEq · v) = true ↔ (q = 0 ∨ q = 1 / 2 ∨ q = 1) := by
      rw [hvalues]
      simp only [List.any_cons, List.any_nil, JsonValue.pyEq, hcanon, JsonValue.canon, Bool.or_false, Bool.or_eq_true,
        decide_eq_true_eq, JsonValue.float.injEq]
      exact or_congr eq_comm (or_congr eq_comm eq_comm)
    have htakes : ActionParameterType.takes .number v = true := by
      rw [ActionParameterType.takes, hq]
      rfl
    rw [if_neg (by rw [htakes]; exact fun h => by cases h)]
    by_cases hlevel : q = 0 ∨ q = 1 / 2 ∨ q = 1
    · rw [if_neg fun h => by rw [hany.2 hlevel] at h; cases h.2]
      exact ⟨fun _ => ⟨q, rfl, hlevel⟩, fun _ => hbounds q⟩
    · have hno : schema.allowedValues.any (JsonValue.pyEq · v) = false :=
        Bool.eq_false_iff.2 fun h => hlevel (hany.1 h)
      rw [if_pos ⟨by rw [hvalues]; exact List.cons_ne_nil _ _, hno⟩]
      constructor
      · intro h
        cases h
      · rintro ⟨_, hr, h⟩
        cases hr
        exact absurd h hlevel

end Values

/-! ## The gate and the adapter -/

/-- What the adapter parses and the gate turns away: a loan the simulation refuses. -/
def LoanInRange : SimulationAction → Prop
  | .takeLoan amount _ => minimumLoan ≤ amount ∧ amount ≤ maximumLoan
  | _ => True

section Gate
variable {parameters : Dict} {type field : String} {α : Type} {read : JsonValue → Option α}
  {make : α → SimulationAction}

/-- A payload of one field behind its type. -/
def readField (read : JsonValue → Option α) (make : α → SimulationAction) (field : String) (payload : Dict) :
    Option SimulationAction :=
  ((Assoc.get payload field).bind read).bind fun x =>
    if SimulationAction.hasOnly payload [field] then some (make x) else none

theorem readField_iff (hn : (Assoc.keys parameters).Nodup) (htype : "type" ∉ Assoc.keys parameters)
    (hfield : "type" ≠ field) {parsed : SimulationAction} :
    readField read make field (("type", .str type) :: parameters) = some parsed ↔
      ∃ v x, parameters = [(field, v)] ∧ read v = some x ∧ make x = parsed := by
  constructor
  · intro h
    unfold readField at h
    rw [Assoc.get_cons, if_neg hfield] at h
    obtain ⟨x, hread, hmake⟩ := Option.bind_eq_some_iff.1 h
    obtain ⟨v, hget, hx⟩ := Option.bind_eq_some_iff.1 hread
    split at hmake
    next honly =>
      refine ⟨v, x, eq_singleton hn (fun k hk => ?_) hget, hx, Option.some.inj hmake⟩
      have hmem := of_decide_eq_true (List.all_eq_true.1 honly k (List.mem_cons_of_mem _ hk))
      rcases List.mem_cons.1 hmem with rfl | hmem
      · exact absurd hk htype
      · exact List.mem_singleton.1 hmem
    next => cases hmake
  · rintro ⟨v, x, rfl, hx, rfl⟩
    unfold readField
    rw [Assoc.get_cons, if_neg hfield, Assoc.get_cons, if_pos rfl, Option.bind_some, hx, Option.bind_some]
    rw [if_pos (by simp [SimulationAction.hasOnly, Assoc.keys])]

/-- The gate and the adapter agree on an action of one parameter. -/
theorem gate_field (read : JsonValue → Option α) (make : α → SimulationAction) {definition : ActionDefinition}
    {p : ActionParameterDefinition} (hp : definition.parameters = [p]) (hrequired : p.required = true)
    (hn : (Assoc.keys parameters).Nodup) (htype : "type" ∉ Assoc.keys parameters) (hfield : "type" ≠ p.name)
    (hread : SimulationAction.validatePython (("type", .str type) :: parameters) =
      readField read make p.name (("type", .str type) :: parameters))
    (hvalue : ∀ v, validateParameter v p = .ok () ↔ ∃ x, read v = some x ∧ LoanInRange (make x)) :
    validateParameters parameters definition = .ok () ↔
      ∃ parsed, SimulationAction.validatePython (("type", .str type) :: parameters) = some parsed ∧
        LoanInRange parsed := by
  rw [validateParameters_single hp hrequired hn, hread]
  constructor
  · rintro ⟨v, hsingle, hv⟩
    obtain ⟨x, hx, hloan⟩ := (hvalue v).1 hv
    exact ⟨make x, (readField_iff hn htype hfield).2 ⟨v, x, hsingle, hx, rfl⟩, hloan⟩
  · rintro ⟨parsed, hparsed, hloan⟩
    obtain ⟨v, x, hsingle, hx, rfl⟩ := (readField_iff hn htype hfield).1 hparsed
    exact ⟨v, hsingle, (hvalue v).2 ⟨x, hx, hloan⟩⟩

/-- And on an action without parameters. -/
theorem gate_bare (action : SimulationAction) {definition : ActionDefinition} (hp : definition.parameters = [])
    (htype : "type" ∉ Assoc.keys parameters) (hloan : LoanInRange action)
    (hread : SimulationAction.validatePython (("type", .str type) :: parameters) =
      if SimulationAction.hasOnly (("type", .str type) :: parameters) [] then some action else none) :
    validateParameters parameters definition = .ok () ↔
      ∃ parsed, SimulationAction.validatePython (("type", .str type) :: parameters) = some parsed ∧
        LoanInRange parsed := by
  rw [validateParameters_none hp, hread]
  constructor
  · rintro rfl
    exact ⟨action, if_pos rfl, hloan⟩
  · rintro ⟨parsed, hparsed, -⟩
    split at hparsed
    next honly =>
      cases parameters with
      | nil => rfl
      | cons kv rest =>
        exfalso
        have hmem := of_decide_eq_true (List.all_eq_true.1 honly kv.1 (List.mem_cons_of_mem _ (List.mem_cons_self ..)))
        exact htype (List.mem_singleton.1 hmem ▸ List.mem_cons_self ..)
    next => cases hparsed

end Gate

section Agreement
variable {parameters : Dict}

/-- `int?` behind which the number is positive. -/
def readPositive (v : JsonValue) : Option { n : Nat // 0 < n } :=
  v.int?.bind fun n => if h : 0 < n.toNat then some ⟨n.toNat, h⟩ else none

def readAmount (v : JsonValue) : Option { q : ℚ // 0 < q } :=
  v.number?.bind fun q => if h : 0 < q then some ⟨q, h⟩ else none

def readLevel (v : JsonValue) : Option MaintenanceLevel :=
  v.number?.bind fun q =>
    if q = MaintenanceLevel.zero.value then some .zero
    else if q = MaintenanceLevel.half.value then some .half
    else if q = MaintenanceLevel.full.value then some .full
    else none

theorem units_agree {name : String} (v : JsonValue) {make : { n : Nat // 0 < n } → SimulationAction}
    (hloan : ∀ x, LoanInRange (make x)) : validateParameter v { name, type := .integer, minimum := some 1 } = .ok () ↔
      ∃ x, readPositive v = some x ∧ LoanInRange (make x) := by
  rw [validate_units]
  unfold readPositive
  constructor
  · rintro ⟨n, hn, hpositive⟩
    exact ⟨⟨n.toNat, hpositive⟩, by rw [hn, Option.bind_some, dif_pos hpositive], hloan _⟩
  · rintro ⟨x, hx, -⟩
    obtain ⟨n, hn, hx⟩ := Option.bind_eq_some_iff.1 hx
    split at hx
    next hpositive => exact ⟨n, hn, hpositive⟩
    next => cases hx

theorem amount_agree {schema : ActionParameterDefinition} (htype : schema.type = .number)
    (hvalues : schema.allowedValues = []) (v : JsonValue) {make : { q : ℚ // 0 < q } → SimulationAction}
    (hbounds : ∀ q, validateBounds schema q = .ok () ↔ ∃ h : 0 < q, LoanInRange (make ⟨q, h⟩)) :
    validateParameter v schema = .ok () ↔ ∃ x, readAmount v = some x ∧ LoanInRange (make x) := by
  rw [validate_number htype hvalues]
  unfold readAmount
  constructor
  · rintro ⟨q, hq, hb⟩
    obtain ⟨hpositive, hloan⟩ := (hbounds q).1 hb
    exact ⟨⟨q, hpositive⟩, by rw [hq, Option.bind_some, dif_pos hpositive], hloan⟩
  · rintro ⟨x, hx, hloan⟩
    obtain ⟨q, hq, hx⟩ := Option.bind_eq_some_iff.1 hx
    split at hx
    next hpositive =>
      obtain rfl := Option.some.inj hx
      exact ⟨q, hq, (hbounds q).2 ⟨hpositive, hloan⟩⟩
    next => cases hx

theorem level_agree {schema : ActionParameterDefinition} (htype : schema.type = .number)
    (hvalues : schema.allowedValues = [.float 0, .float (1 / 2), .float 1]) (hmin : schema.minimum = none)
    (hmax : schema.maximum = none) (v : JsonValue) : validateParameter v schema = .ok () ↔
      ∃ x, readLevel v = some x ∧ LoanInRange (.setMaintenance x) := by
  rw [validate_level htype hvalues hmin hmax]
  unfold readLevel
  constructor
  · rintro ⟨q, hq, hlevel⟩
    rw [hq]
    rcases hlevel with rfl | rfl | rfl
    · exact ⟨.zero, rfl, trivial⟩
    · refine ⟨.half, ?_, trivial⟩
      rw [Option.bind_some, if_neg (by decide +kernel), if_pos (by decide +kernel)]
    · refine ⟨.full, ?_, trivial⟩
      rw [Option.bind_some, if_neg (by decide +kernel), if_neg (by decide +kernel), if_pos (by decide +kernel)]
  · rintro ⟨x, hx, -⟩
    obtain ⟨q, hq, hx⟩ := Option.bind_eq_some_iff.1 hx
    refine ⟨q, hq, ?_⟩
    split at hx
    next h => exact .inl h
    next =>
      split at hx
      next h => exact .inr (.inl h)
      next =>
        split at hx
        next h => exact .inr (.inr h)
        next => cases hx

/-- The types of the advertised actions. -/
theorem definitionOf_advertised {type : String} {definition : ActionDefinition}
    (h : definitionOf actionDefinitions type = some definition) : definition ∈ actionDefinitions ∧ definition.type = type := by
  unfold definitionOf at h
  have htype := List.find?_some h
  rw [decide_eq_true_eq] at htype
  exact ⟨List.mem_reverse.1 (List.mem_of_find?_eq_some h), htype⟩

/-- The gate lets the parameters through exactly where the adapter parses them, but for the loans. -/
theorem gate_iff {definition : ActionDefinition} (h : definition ∈ actionDefinitions)
    (hn : (Assoc.keys parameters).Nodup) (htype : "type" ∉ Assoc.keys parameters) :
    validateParameters parameters definition = .ok () ↔
      ∃ parsed, SimulationAction.validatePython (("type", .str definition.type) :: parameters) = some parsed ∧
        LoanInRange parsed := by
  simp only [actionDefinitions, List.mem_cons, List.not_mem_nil, or_false] at h
  rcases h with rfl | rfl | rfl | rfl | rfl | rfl | rfl | rfl | rfl
  · exact gate_field readPositive (fun x => .advanceTime x.1 x.2) rfl rfl hn htype (by decide) rfl
      fun v => units_agree v fun _ => trivial
  · exact gate_field readPositive (fun x => .buildHousing x.1 x.2) rfl rfl hn htype (by decide) rfl
      fun v => units_agree v fun _ => trivial
  · exact gate_field readPositive (fun x => .buildPower x.1 x.2) rfl rfl hn htype (by decide) rfl
      fun v => units_agree v fun _ => trivial
  · refine gate_field readAmount (fun x => .repairInfrastructure x.1 x.2) rfl rfl hn htype (by decide)
      rfl fun v => amount_agree rfl rfl v fun q => ?_
    rw [validate_bounds_ok]
    simp [LoanInRange]
  · exact gate_field readLevel .setMaintenance rfl rfl hn htype (by decide) rfl
      fun v => level_agree rfl rfl rfl rfl v
  · refine gate_field readAmount (fun x => .takeLoan x.1 x.2) rfl rfl hn htype (by decide)
      rfl fun v => amount_agree rfl rfl v fun q => ?_
    rw [validate_bounds_ok]
    simp only [LoanInRange, minimumLoan, maximumLoan]
    constructor
    · rintro ⟨hlow, hhigh⟩
      have hlow : (10000 : ℚ) ≤ q := hlow 10000 rfl
      exact ⟨by linarith, hlow, hhigh 500000 rfl⟩
    · rintro ⟨-, hlow, hhigh⟩
      refine ⟨fun m hm => ?_, fun m hm => ?_⟩
      · obtain rfl := Option.some.inj hm
        exact hlow
      · obtain rfl := Option.some.inj hm
        exact hhigh
  · refine gate_field readAmount (fun x => .repayLoan x.1 x.2) rfl rfl hn htype (by decide)
      rfl fun v => amount_agree rfl rfl v fun q => ?_
    rw [validate_bounds_ok]
    simp [LoanInRange]
  · exact gate_bare .pause rfl htype trivial rfl
  · exact gate_bare .resume rfl htype trivial rfl

/-- What the adapter parses is advertised. -/
theorem advertised_of_parsed {type : String} {parsed : SimulationAction}
    (h : SimulationAction.validatePython (("type", .str type) :: parameters) = some parsed) :
    ∃ definition, definitionOf actionDefinitions type = some definition := by
  unfold SimulationAction.validatePython at h
  obtain ⟨value, hvalue, h⟩ := Option.bind_eq_some_iff.1 h
  rw [Assoc.get_cons, if_pos rfl, Option.some.injEq] at hvalue
  split at h
  case h_10 => cases h
  all_goals
    obtain rfl := JsonValue.str.inj hvalue
    exact ⟨_, rfl⟩

/-- The gate lets no parameter through that is not advertised. -/
theorem known_of_validateParameters {definition : ActionDefinition}
    (h : validateParameters parameters definition = .ok ()) {name : String} (hname : name ∈ Assoc.keys parameters) :
    (schemaOf definition name).isSome = true := by
  unfold validateParameters at h
  split at h
  · cases h
  next =>
    split at h
    · cases h
    next hunknown =>
      rw [not_not] at hunknown
      have hlist := List.perm_nil.1 ((List.perm_insertionSort (· ≤ ·) _).symm.trans (List.Perm.of_eq hunknown))
      by_contra hno
      have hmem : name ∈ (Assoc.keys parameters).dedup.filter fun name => (schemaOf definition name).isNone := by
        rw [List.mem_filter, List.mem_dedup, Option.isNone_iff_eq_none]
        exact ⟨hname, Option.not_isSome_iff_eq_none.1 hno⟩
      rw [hlist] at hmem
      cases hmem

theorem untyped_of_validateParameters {definition : ActionDefinition} (hd : definition ∈ actionDefinitions)
    (h : validateParameters parameters definition = .ok ()) : "type" ∉ Assoc.keys parameters := by
  intro hmem
  have hnone : (schemaOf definition "type").isSome = false := by
    simp only [actionDefinitions, List.mem_cons, List.not_mem_nil, or_false] at hd
    rcases hd with rfl | rfl | rfl | rfl | rfl | rfl | rfl | rfl | rfl <;> rfl
  rw [known_of_validateParameters h hmem] at hnone
  cases hnone

end Agreement

namespace ReferenceSimulationAdapter
variable {adapter : ReferenceSimulationAdapter} {action : Action} {context : DecisionContext} {decision : Decision}

theorem parseAction_iff (hn : (Assoc.keys action.parameters).Nodup) (htype : "type" ∉ Assoc.keys action.parameters)
    {parsed : SimulationAction} : parseAction action = .ok parsed ↔
      SimulationAction.validatePython (("type", .str action.type.val) :: action.parameters) = some parsed := by
  have hnew : (Assoc.keys ([("type", JsonValue.str action.type.val)] ++ action.parameters)).Nodup :=
    List.nodup_cons.2 ⟨htype, hn⟩
  unfold parseAction
  rw [foldl_set (fun _ _ => rfl) hnew, List.singleton_append]
  constructor
  · intro h
    dsimp only at h
    split at h
    next hparsed =>
      cases h
      exact hparsed
    next => cases h
  · intro h
    dsimp only
    rw [h]

/-- A loan the simulation grants is in the range the gate asks for. -/
theorem loanInRange_of_valid {state : SimulationState} {parsed : SimulationAction}
    (h : (validateAction state parsed).valid = true) : LoanInRange parsed := by
  cases parsed with
  | takeLoan amount positive =>
    unfold validateAction at h
    split at h
    · cases h
    next =>
      dsimp only at h
      split at h
      · cases h
      next hlow =>
        split at h
        · cases h
        next hhigh => exact ⟨not_lt.1 hlow, not_lt.1 hhigh⟩
  | _ => trivial

/-- The action was not turned away before. -/
def Unrestricted (action : Action) (context : DecisionContext) : Prop :=
  action.type.val ∉ context.pendingRestrictions.rejectedActions ++ context.pendingRestrictions.deniedActions

/-- The gate of a provider, for a decision with an action. -/
theorem validateProviderDecision_iff (hactions : context.availableActions = actionDefinitions)
    (haction : decision.action = some action) (hn : (Assoc.keys action.parameters).Nodup) :
    validateProviderDecision decision context = .ok (actionFingerprint action) ↔
      Unrestricted action context ∧ "type" ∉ Assoc.keys action.parameters ∧
        ∃ parsed, parseAction action = .ok parsed ∧ LoanInRange parsed := by
  have hpresence : decision.type = .execute ∨ decision.type = .approvalRequired := by
    have h := decision.action_presence
    rw [haction, Option.isSome_some, eq_comm, Bool.or_eq_true, decide_eq_true_eq, decide_eq_true_eq] at h
    exact h
  have hgate : validateProviderDecision decision context = .ok (actionFingerprint action) ↔
      validateDecidedAction action context = .ok () := by
    unfold validateProviderDecision
    rw [if_neg (by rcases hpresence with h | h <;> simp [h]), if_neg (by rcases hpresence with h | h <;> simp [h]),
      haction]
    dsimp only
    cases validateDecidedAction action context with
    | ok u => exact ⟨fun _ => rfl, fun _ => rfl⟩
    | error e => exact ⟨(fun h => by cases h), (fun h => by cases h)⟩
  rw [hgate]
  unfold validateDecidedAction
  rw [hactions]
  constructor
  · intro h
    dsimp only at h
    split at h
    · cases h
    next hunrestricted =>
      split at h
      · cases h
      next definition hdefinition =>
        obtain ⟨hd, htype⟩ := definitionOf_advertised hdefinition
        have huntyped := untyped_of_validateParameters hd h
        obtain ⟨parsed, hparsed, hloan⟩ := (gate_iff hd hn huntyped).1 h
        rw [htype] at hparsed
        exact ⟨hunrestricted, huntyped, parsed, (parseAction_iff hn huntyped).2 hparsed, hloan⟩
  · rintro ⟨hunrestricted, huntyped, parsed, hparsed, hloan⟩
    rw [parseAction_iff hn huntyped] at hparsed
    obtain ⟨definition, hdefinition⟩ := advertised_of_parsed hparsed
    obtain ⟨hd, htype⟩ := definitionOf_advertised hdefinition
    dsimp only
    rw [if_neg hunrestricted, hdefinition]
    refine (gate_iff hd hn huntyped).2 ⟨parsed, ?_, hloan⟩
    rw [htype]
    exact hparsed

section Example

/-- A context of the started adapter: nothing spent, nothing turned away. -/
def startedContext : DecisionContext where
  taskId := .int 1
  specification := { objective := { type := .reachResource }, authority := {} }
  observation := ⟨2, 2, 0, ⟨"A started city.", by decide, by decide⟩, []⟩
  previousObservation := none
  availableActions := actionDefinitions
  recentEvents := []
  accumulatedSpend := 0
  remainingAuthority := ⟨none, none, none, [], []⟩
  pendingRestrictions := ⟨[], [], [], [], []⟩
  previousExecution := none
  safeguards := ⟨0, 0, 0, 0, 0, none⟩
  progress := ⟨.running, false, "Nothing yet.", false, none⟩

def repairDecision : Decision where
  type := .execute
  reason := ⟨"It is worn.", by decide, by decide⟩
  action := some (repairBy 5)

end Example

end ReferenceSimulationAdapter

end SimPilot
