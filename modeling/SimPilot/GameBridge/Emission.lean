import SimPilot.GameBridge.Protocol
import SimPilot.GameBridge.Models
/-!
# What the bridge emits, as the client reads it

Each value the bridge writes is read by the client's model exactly when it fits: its texts
have the lengths of the model's fields and its lists ascend in the order of the model. One
lemma for each level says so, from the identities up to the envelope.
-/

namespace SimPilot.GameBridge

open TextOrder

theorem guard_eq_some {p : Prop} [Decidable p] {u : Unit} : (guard p : Option Unit) = some u ↔ p := by
  by_cases h : p <;> simp [guard, h]

theorem guard_eq_ite {p : Prop} [Decidable p] : (guard p : Option Unit) = if p then some () else none := by
  by_cases h : p <;> simp [guard, h]

theorem guard_bind {p : Prop} [Decidable p] {α : Type} {f : Unit → Option α} :
    (guard p : Option Unit).bind f = if p then f () else none := by
  by_cases h : p <;> simp [guard, h]

theorem ite_bind {p : Prop} [Decidable p] {α β : Type} {a : α} {f : α → Option β} :
    (if p then some a else none).bind f = if p then f a else none := by
  by_cases h : p <;> simp [h]

/-- Nested tests are one. -/
theorem ite_ite {p q : Prop} [Decidable p] [Decidable q] {α : Type} {x : Option α} :
    (if p then if q then x else none else none) = if p ∧ q then x else none := by
  by_cases hp : p <;> by_cases hq : q <;> simp [hp, hq]

section Bind
variable {α β : Type} {x : Option α} {f : α → Option β} {a : α} {y : Option β}

theorem bind_of_some (hx : x = some a) (hf : f a = y) : (x >>= f) = y := by
  rw [hx]
  exact hf

/-- A field read under a condition. -/
theorem bind_of_cond {p : Prop} [Decidable p] (hx : x = if p then some a else none) (hf : f a = y) :
    (x >>= f) = if p then y else none := by
  by_cases hp : p
  · rw [hx, if_pos hp, if_pos hp]
    exact hf
  · rw [hx, if_neg hp, if_neg hp]
    rfl

/-- A field read under a condition, and the rest under another. -/
theorem bind_of_ite {p q : Prop} [Decidable p] [Decidable q] (hx : x = if p then some a else none)
    (hf : f a = if q then y else none) : (x >>= f) = if p ∧ q then y else none := by
  rw [bind_of_cond hx hf, ite_ite]

end Bind

theorem mapM_ite {α β γ : Type} {xs : List α} {read : β → Option γ} {write : α → β} {p : α → Bool} {f : α → γ}
    (h : ∀ x ∈ xs, read (write x) = if p x then some (f x) else none) :
    (xs.map write).mapM read = if xs.all p then some (xs.map f) else none := by
  induction xs with
  | nil => rfl
  | cons x xs ih =>
    rw [List.map_cons, List.mapM_cons, h x (List.mem_cons_self ..), ih fun y hy => h y (List.mem_cons_of_mem _ hy)]
    by_cases hx : p x = true <;> by_cases hxs : xs.all p = true <;> simp [hx, hxs]

theorem strTuple_strings {xs : List String} : strTuple (Core.strings xs) = some xs := by
  have h : (xs.map JsonValue.string).mapM JsonValue.string? =
      if xs.all fun _ => true then some (xs.map fun s => s) else none := mapM_ite fun x _ => rfl
  simpa [strTuple, Core.strings, JsonValue.array?] using h

/-! ## Fields -/

section Fields
variable {minimum maximum : Nat} {o : Members} {key : String}

theorem strField_string {s : String} (h : o.get key = some (.string s)) :
    strField minimum maximum o key = if sized minimum maximum s then some s else none := by
  by_cases hs : sized minimum maximum s = true <;> simp [strField, h, JsonValue.string?, guard, hs]

theorem optionalField_ofOption {s : Option String} (h : o.get key = some (.ofOption s)) :
    optionalField minimum maximum o key = if s.all (sized minimum maximum) then some s else none := by
  cases s with
  | none => simp [optionalField, h, JsonValue.ofOption]
  | some s =>
    have hfield : strField minimum maximum o key = if sized minimum maximum s then some s else none :=
      strField_string h
    by_cases hs : sized minimum maximum s = true <;> simp [optionalField, hfield, h, JsonValue.ofOption, hs]

theorem enumField_string {α : Type} {parse : String → Option α} {s : String} (h : o.get key = some (.string s)) :
    enumField parse o key = parse s := by
  simp [enumField, h, JsonValue.string?]

theorem intField_integer {m i : Int} (h : o.get key = some (.integer i)) :
    intField m o key = if m ≤ i then some i else none := by
  by_cases hi : m ≤ i <;> simp [intField, h, JsonValue.integer?, guard, hi]

end Fields

/-! ## Identities -/

namespace Core.Identity

/-- The lengths the client takes. -/
def fits (i : Identity) : Bool :=
  i.value.all (sized 1 256) && i.label.all (sized 1 256) && i.detail.all (sized 1 512)

/-- The identity as the client reads it. -/
def model (i : Identity) : GameBridge.Identity where
  status := if i.status = "observed" then .observed else .unavailable
  value := i.value
  label := i.label
  detail := i.detail

end Core.Identity

theorem status_valid {i : Core.Identity} (hv : i.valid = true) :
    IdentityStatus.parse i.status = some i.model.status ∧ i.model.valid = true := by
  simp only [Core.Identity.valid, Bool.and_eq_true, Bool.or_eq_true, beq_iff_eq, Bool.not_eq_true'] at hv
  obtain ⟨⟨h | h, hobserved⟩, hunavailable⟩ := hv
  · have hvalue : i.value.isSome = true := by
      cases hvalue : i.value <;> simp_all
    simp [h, IdentityStatus.parse, Core.Identity.model, Identity.valid, hvalue]
  · have hvalue : i.value.isNone = true := by simpa [h] using hunavailable
    simp [h, IdentityStatus.parse, Core.Identity.model, Identity.valid, hvalue]

/-- An identity the bridge takes for valid is read when its texts have the lengths. -/
theorem parse_identity {i : Core.Identity} (hv : i.valid = true) :
    Identity.parse i.tree = if i.fits then some i.model else none := by
  have hkeys : fieldsOf ["status"] ["value", "label", "detail"] i.tree =
      some [("status", .string i.status), ("value", .ofOption i.value), ("label", .ofOption i.label),
        ("detail", .ofOption i.detail)] := by
    simp [fieldsOf, Core.Identity.tree, JsonValue.object?, Assoc.keys, Assoc.contains, guard]
  obtain ⟨hstatus, hvalid⟩ := status_valid hv
  rw [Identity.parse, hkeys]
  simp only [Option.bind_eq_bind, Option.bind_some]
  rw [enumField_string (s := i.status) (by simp), hstatus, optionalField_ofOption (s := i.value) (by simp),
    optionalField_ofOption (s := i.label) (by simp), optionalField_ofOption (s := i.detail) (by simp)]
  have hmodel : (⟨i.model.status, i.value, i.label, i.detail⟩ : Identity) = i.model := rfl
  simp only [Option.bind_some, ite_bind, guard_bind, hmodel, hvalid, ite_ite]
  simp [Core.Identity.fits, and_assoc]

/-! ## Surfaces -/

namespace Core

def ObservedEntityState.fits (e : ObservedEntityState) : Bool := sized 1 128 e.entityType && sized 1 256 e.entityId

def ObservedEntityState.model (e : ObservedEntityState) : ObservedEntity := ⟨e.entityType, e.entityId, e.values⟩

def CoverageStatus.model : CoverageStatus → GameBridge.CoverageStatus
  | observedComplete => .observedComplete
  | observedPartial => .observedPartial
  | unsupported => .unsupported
  | unavailable => .unavailable
  | failed => .failed

/-- The coverage of a surface that was not observed. -/
def CoverageStatus.unobserved (status : CoverageStatus) : Bool := status ∈ [unsupported, unavailable, failed]

theorem CoverageStatus.model_unobserved {status : CoverageStatus} :
    status.model ∈ [GameBridge.CoverageStatus.unsupported, .unavailable, .failed] ↔ status.unobserved = true := by
  cases status <;> decide

/-- The lengths and the orders the client takes. -/
def ObservationSurfaceState.fits (s : ObservationSurfaceState) : Bool :=
  sized 1 128 s.surface && sized 1 1024 s.detail && decide (s.fields.Pairwise (· < ·)) && s.entities.all (·.fits) &&
    (!s.status.unobserved || s.entities.isEmpty) && decide ((s.entities.map (·.model.key)).Pairwise (· < ·))

def ObservationSurfaceState.coverage (s : ObservationSurfaceState) : FieldCoverage where
  surface := s.surface
  status := s.status.model
  fields := s.fields
  detail := some s.detail

def ObservationSurfaceState.model (s : ObservationSurfaceState) : ObservationSurface where
  coverage := s.coverage
  entities := s.entities.map (·.model)

end Core

theorem parse_entity {e : Core.ObservedEntityState} :
    ObservedEntity.parse e.json = if e.fits then some e.model else none := by
  have hkeys : fieldsOf ["entity_type", "entity_id", "values"] [] e.json = some
      [("entity_type", .string e.entityType), ("entity_id", .string e.entityId), ("values", .object e.values)] := by
    simp [fieldsOf, Core.ObservedEntityState.json, JsonValue.object?, Assoc.keys, Assoc.contains, guard]
  rw [ObservedEntity.parse, hkeys]
  simp only [Option.bind_eq_bind, Option.bind_some]
  rw [strField_string (s := e.entityType) (by simp), strField_string (s := e.entityId) (by simp)]
  simp only [ite_bind]
  simp [JsonValue.object?, Core.ObservedEntityState.fits, Core.ObservedEntityState.model, ite_ite]

theorem coverage_parse {status : Core.CoverageStatus} :
    CoverageStatus.parse status.name = some status.model := by
  cases status <;> rfl

theorem parse_coverage {s : Core.ObservationSurfaceState} :
    FieldCoverage.parse (.object [("surface", .string s.surface), ("status", .string s.status.name),
        ("fields", Core.strings s.fields), ("detail", .string s.detail)]) =
      if sized 1 128 s.surface ∧ sized 1 1024 s.detail ∧ s.fields.Pairwise (· < ·) then some s.coverage else none := by
  have hkeys : fieldsOf ["surface", "status"] ["fields", "detail"]
      (.object [("surface", .string s.surface), ("status", .string s.status.name), ("fields", Core.strings s.fields),
        ("detail", .string s.detail)]) = some
      [("surface", .string s.surface), ("status", .string s.status.name), ("fields", Core.strings s.fields),
        ("detail", .string s.detail)] := by
    simp [fieldsOf, JsonValue.object?, Assoc.keys, Assoc.contains, guard]
  rw [FieldCoverage.parse, hkeys]
  simp only [Option.bind_eq_bind, Option.bind_some]
  have hfields : strTupleField [("surface", .string s.surface), ("status", .string s.status.name),
      ("fields", Core.strings s.fields), ("detail", .string s.detail)] "fields" = some s.fields := by
    simp [strTupleField, strTuple_strings]
  rw [strField_string (s := s.surface) (by simp), enumField_string (s := s.status.name) (by simp), coverage_parse,
    hfields, optionalField_ofOption (s := some s.detail) (by simp [JsonValue.ofOption])]
  simp only [Option.bind_some, ite_bind, guard_bind, ite_ite, sortedSet_eq]
  rfl

theorem parse_surface {s : Core.ObservationSurfaceState} :
    ObservationSurface.parse s.json = if s.fits then some s.model else none := by
  have hkeys : ∀ coverage entities, fieldsOf ["coverage"] ["entities"]
      (.object [("coverage", coverage), ("entities", entities)]) =
        some [("coverage", coverage), ("entities", entities)] := by
    intro coverage entities
    simp [fieldsOf, JsonValue.object?, Assoc.keys, Assoc.contains, guard]
  have hentities : (s.entities.map (·.json)).mapM ObservedEntity.parse =
      if s.entities.all (·.fits) then some (s.entities.map (·.model)) else none :=
    mapM_ite fun e _ => parse_entity
  have hstatus : ¬ (s.coverage.status ∈ [CoverageStatus.unsupported, .unavailable, .failed] ∧
      (s.entities.map (·.model)).length ≠ 0) ↔ (!s.status.unobserved || s.entities.isEmpty) = true := by
    rw [Core.ObservationSurfaceState.coverage, Core.CoverageStatus.model_unobserved]
    cases s.status.unobserved <;> simp
  have hget : ∀ coverage entities : JsonValue,
      Assoc.get [("coverage", coverage), ("entities", entities)] "entities" = some entities := by
    intro coverage entities
    simp
  rw [ObservationSurface.parse, Core.ObservationSurfaceState.json, hkeys]
  simp only [Option.bind_eq_bind, Option.bind_some]
  simp only [hget, Assoc.get_cons, if_true, Option.bind_some, parse_coverage, ite_bind, Option.getD_some,
    JsonValue.array?, hentities, guard_bind, hstatus, sortedSet_eq, ite_ite]
  refine if_congr ?_ rfl rfl
  simp only [Core.ObservationSurfaceState.fits, Bool.and_eq_true, decide_eq_true_eq, and_assoc, List.map_map,
    Function.comp_def]

/-! ## Snapshots -/

namespace Core

variable (contract : BridgeContractDescriptor) (state : RuntimeSnapshot) (bridgeId : String)
  (surfaces : List ObservationSurfaceState)

/-- The lengths and the orders the client takes. -/
def snapshotFits : Bool :=
  sized 1 128 bridgeId && sized 1 128 state.gameSessionId && sized 1 128 contract.gameId &&
    sized 1 128 state.gameVersion && sized 1 128 contract.adapterVersion && state.mapIdentity.fits &&
    state.saveIdentity.fits && surfaces.all (·.fits) && decide ((surfaces.map (·.surface)).Pairwise (· < ·))

/-- The members of the game state as they are written. -/
def gameStateMembers : Members :=
  match state.gameStateValues with
  | some values => values
  | none =>
    [("paused", (state.paused.map JsonValue.boolean).getD .null), ("current_time", .ofOption state.currentTime),
      ("simulation_speed", .ofOption state.simulationSpeed), ("game_mode", .ofOption state.gameMode)]

theorem gameState_eq {state : RuntimeSnapshot} : gameState state = .object (gameStateMembers state) := by
  rw [gameState, gameStateMembers]
  cases state.gameStateValues <;> rfl

/-- The snapshot as the client reads it. -/
def snapshotModel (sequence : Int) (captured : DateTimeOffset) (platform : Platform) (architecture : Architecture) :
    GameSnapshot where
  captureTimestamp := time captured
  captureStartedMarker := "single-main-thread-sample"
  captureCompletedMarker := "single-main-thread-sample"
  bridgeSequence := sequence
  bridgeInstanceId := bridgeId
  gameSessionId := state.gameSessionId
  gameId := contract.gameId
  gameVersion := state.gameVersion
  adapterVersion := contract.adapterVersion
  platform
  architecture
  mapIdentity := state.mapIdentity.model
  saveIdentity := state.saveIdentity.model
  gameState := gameStateMembers state
  surfaces := surfaces.map (·.model)
  warnings := state.warnings
  limitations := state.limitations

end Core

theorem fieldsOf_object {required optional : List String} {o : Members}
    (hknown : (o.keys.all fun key => decide (key ∈ required ∨ key ∈ optional)) = true)
    (hrequired : (required.all fun key => o.contains key) = true) :
    fieldsOf required optional (.object o) = some o := by
  simp only [fieldsOf, JsonValue.object?, Option.bind_eq_bind, Option.bind_some, guard_bind]
  rw [if_pos hknown, if_pos hrequired]
  rfl

theorem parse_snapshot {pydantic : Pydantic} {contract : Core.BridgeContractDescriptor} {state : Core.RuntimeSnapshot}
    {bridgeId : String} {sequence : Int} {captured : Core.DateTimeOffset}
    {surfaces : List Core.ObservationSurfaceState} {platform : Platform} {architecture : Architecture}
    (htime : pydantic.awareDatetime (Core.time captured) = true) (hsequence : 1 ≤ sequence)
    (hmap : state.mapIdentity.valid = true) (hsave : state.saveIdentity.valid = true)
    (hplatform : Platform.parse state.platform = some platform)
    (harchitecture : Architecture.parse state.architecture = some architecture) :
    GameSnapshot.parse pydantic (.object (Core.snapshotMembers contract state bridgeId sequence captured surfaces)) =
      if Core.snapshotFits contract state bridgeId surfaces then
        some (Core.snapshotModel contract state bridgeId surfaces sequence captured platform architecture)
      else none := by
  have hsurfaces : (surfaces.map (·.json)).mapM ObservationSurface.parse =
      if surfaces.all (·.fits) then some (surfaces.map (·.model)) else none :=
    mapM_ite fun s _ => parse_surface
  have hparse : GameSnapshot.parse pydantic
      (.object (Core.snapshotMembers contract state bridgeId sequence captured surfaces)) =
      if 1 ≤ sequence ∧ sized 1 128 bridgeId ∧ sized 1 128 state.gameSessionId ∧ sized 1 128 contract.gameId ∧
          sized 1 128 state.gameVersion ∧ sized 1 128 contract.adapterVersion ∧ state.mapIdentity.fits ∧
          state.saveIdentity.fits ∧ surfaces.all (·.fits) ∧ (surfaces.map (·.surface)).Pairwise (· < ·) then
        some (Core.snapshotModel contract state bridgeId surfaces sequence captured platform architecture)
      else none := by
    refine bind_of_some (fieldsOf_object rfl rfl) ?_
    refine bind_of_some (a := ()) rfl ?_
    refine bind_of_some (a := .string (Core.time captured)) rfl ?_
    refine bind_of_some (a := Core.time captured) rfl ?_
    refine bind_of_some (a := ()) (guard_eq_some.2 htime) ?_
    refine bind_of_some (a := "single-main-thread-sample") rfl ?_
    refine bind_of_some (a := "single-main-thread-sample") rfl ?_
    refine bind_of_ite (intField_integer (by rfl)) ?_
    refine bind_of_ite (strField_string (by rfl)) ?_
    refine bind_of_ite (strField_string (by rfl)) ?_
    refine bind_of_ite (strField_string (by rfl)) ?_
    refine bind_of_ite (strField_string (by rfl)) ?_
    refine bind_of_ite (strField_string (by rfl)) ?_
    refine bind_of_some ((enumField_string (by rfl)).trans hplatform) ?_
    refine bind_of_some ((enumField_string (by rfl)).trans harchitecture) ?_
    refine bind_of_some rfl (bind_of_ite (parse_identity hmap) ?_)
    refine bind_of_some rfl (bind_of_ite (parse_identity hsave) ?_)
    refine bind_of_some rfl (bind_of_some (congrArg JsonValue.object? Core.gameState_eq) ?_)
    refine bind_of_some rfl (bind_of_some rfl (bind_of_ite hsurfaces ?_))
    refine bind_of_some strTuple_strings (bind_of_some strTuple_strings ?_)
    simp only [sortedSet_eq, List.map_map]
    exact guard_bind
  rw [hparse]
  refine if_congr ?_ rfl rfl
  simp only [Core.snapshotFits, Bool.and_eq_true, decide_eq_true_eq, and_assoc, hsequence, true_and]

/-! ## Envelopes -/

namespace Core

def MessageType.model : MessageType → GameBridge.MessageType
  | clientHello => .clientHello
  | bridgeHello => .bridgeHello
  | authenticationFailure => .authenticationFailure
  | heartbeat => .heartbeat
  | capabilityManifest => .capabilityManifest
  | fullSnapshotRequest => .fullSnapshotRequest
  | fullSnapshotResponse => .fullSnapshotResponse
  | resynchronizationRequest => .resynchronizationRequest
  | protocolError => .protocolError

/-- The version and the lengths the client takes. -/
def Envelope.fits (e : Envelope) : Bool :=
  e.protocolVersion == 3 && sized 1 128 e.adapterVersion && sized 1 128 e.gameId && sized 1 128 e.gameVersion &&
    sized 1 128 e.bridgeInstanceId && sized 1 128 e.gameSessionId && e.mapIdentity.fits && e.saveIdentity.fits &&
    sized 1 128 e.messageId && e.correlationId.all (sized 1 128)

/-- The envelope as the client reads it. -/
def Envelope.model (e : Envelope) (platform : Platform) (architecture : Architecture) (payload : BridgePayload) :
    BridgeEnvelope where
  adapterVersion := e.adapterVersion
  gameId := e.gameId
  gameVersion := e.gameVersion
  platform
  architecture
  bridgeInstanceId := e.bridgeInstanceId
  gameSessionId := e.gameSessionId
  mapIdentity := e.mapIdentity.model
  saveIdentity := e.saveIdentity.model
  messageId := e.messageId
  correlationId := e.correlationId
  bridgeSequence := e.bridgeSequence
  messageType := e.messageType.model
  timestamp := time e.timestamp
  payload

end Core

theorem messageType_parse {type : Core.MessageType} : MessageType.parse type.name = some type.model := by
  cases type <;> rfl

theorem literalField_integer {m i : Int} {o : Members} {key : String} (h : o.get key = some (.integer i)) :
    literalField (isInteger m) o key = if i = m then some () else none := by
  by_cases hi : i = m <;> simp [literalField, h, isInteger, JsonValue.integer?, guard, hi]

/-- An envelope of the bridge is read when it fits and its payload is read. -/
theorem parse_envelope {pydantic : Pydantic} {e : Core.Envelope} {platform : Platform} {architecture : Architecture}
    {payload : BridgePayload} {p : Prop} [Decidable p]
    (htime : pydantic.awareDatetime (Core.time e.timestamp) = true) (hsequence : 1 ≤ e.bridgeSequence)
    (hmap : e.mapIdentity.valid = true) (hsave : e.saveIdentity.valid = true)
    (hplatform : Platform.parse e.platform = some platform)
    (harchitecture : Architecture.parse e.architecture = some architecture)
    (hpayload : BridgePayload.parse pydantic e.messageType.model e.payload = if p then some payload else none)
    (hcorrelated : e.messageType.model.correlated = true → e.correlationId ≠ none) :
    BridgeEnvelope.parse pydantic (.object e.members) =
      if e.fits ∧ p then some (e.model platform architecture payload) else none := by
  have hguard : ¬ (e.messageType.model.correlated = true ∧ e.correlationId = none) := fun h => hcorrelated h.1 h.2
  have hparse : BridgeEnvelope.parse pydantic (.object e.members) =
      if (e.protocolVersion : Int) = 3 ∧ sized 1 128 e.adapterVersion ∧ sized 1 128 e.gameId ∧
          sized 1 128 e.gameVersion ∧ sized 1 128 e.bridgeInstanceId ∧ sized 1 128 e.gameSessionId ∧
          e.mapIdentity.fits ∧ e.saveIdentity.fits ∧ sized 1 128 e.messageId ∧ e.correlationId.all (sized 1 128) ∧
          1 ≤ e.bridgeSequence ∧ p then
        some (e.model platform architecture payload)
      else none := by
    refine bind_of_some (fieldsOf_object rfl rfl) ?_
    refine bind_of_ite (literalField_integer rfl) ?_
    refine bind_of_ite (strField_string (by rfl)) ?_
    refine bind_of_ite (strField_string (by rfl)) ?_
    refine bind_of_ite (strField_string (by rfl)) ?_
    refine bind_of_some ((enumField_string (by rfl)).trans hplatform) ?_
    refine bind_of_some ((enumField_string (by rfl)).trans harchitecture) ?_
    refine bind_of_ite (strField_string (by rfl)) ?_
    refine bind_of_ite (strField_string (by rfl)) ?_
    refine bind_of_some rfl (bind_of_ite (parse_identity hmap) ?_)
    refine bind_of_some rfl (bind_of_ite (parse_identity hsave) ?_)
    refine bind_of_ite (strField_string (by rfl)) ?_
    refine bind_of_ite (optionalField_ofOption (by rfl)) ?_
    refine bind_of_ite (intField_integer (by rfl)) ?_
    refine bind_of_some ((enumField_string (by rfl)).trans messageType_parse) ?_
    refine bind_of_some (a := .string (Core.time e.timestamp)) rfl ?_
    refine bind_of_some (a := Core.time e.timestamp) rfl ?_
    refine bind_of_some (a := ()) (guard_eq_some.2 htime) ?_
    refine bind_of_some rfl ?_
    by_cases hp : p
    · rw [hpayload, if_pos hp, if_pos hp]
      exact bind_of_some (a := ()) (guard_eq_some.2 hguard) rfl
    · rw [hpayload, if_neg hp, if_neg hp]
      rfl
  have hversion : (e.protocolVersion : Int) = 3 ↔ e.protocolVersion = 3 := by omega
  rw [hparse]
  refine if_congr ?_ rfl rfl
  simp only [Core.Envelope.fits, Bool.and_eq_true, beq_iff_eq, and_assoc, hsequence, true_and, hversion]

end SimPilot.GameBridge
