import SimPilot.GameBridge.Emission
/-!
# When the client takes what the bridge emits

The bridge checks that texts are there and that lists ascend by UTF-16 code units; the client
bounds every text and wants the lists to ascend by code points. `Acceptable` is the difference.

| here | there |
|---|---|
| `validateSnapshot_members` | what `ValidateSnapshot` (Protocol.cs:236) ensures |
| `snapshot_accepted_iff` | `parse_envelope` (models.py:296) of a written snapshot |
-/

namespace SimPilot.GameBridge

open TextOrder

namespace Core

/-! ## What the bridge checks -/

theorem text_string {o : Members} {key s : String} (h : o.get key = some (.string s)) :
    text o key = if ¬ isBlank s then some s else none := by
  by_cases hs : isBlank s = true <;> simp [text, h, JsonValue.string?, guard, hs]

theorem optionalText_ofOption {o : Members} {key : String} {s : Option String} (h : o.get key = some (.ofOption s)) :
    optionalText o key = if s.all (!isBlank ·) then some s else none := by
  cases s with
  | none => simp [optionalText, h, JsonValue.ofOption]
  | some s =>
    have htext : text o key = if ¬ isBlank s then some s else none := text_string h
    by_cases hs : isBlank s = true <;> simp [optionalText, htext, h, JsonValue.ofOption, hs]

theorem integer_integer {o : Members} {key : String} {minimum maximum i : Int} (h : o.get key = some (.integer i)) :
    integer o key minimum maximum = if minimum ≤ i ∧ i ≤ maximum then some i else none := by
  by_cases hi : minimum ≤ i ∧ i ≤ maximum <;> simp [integer, h, JsonValue.integer?, guard, hi]

/-- A text the bridge takes is as long as the client wants it when it is not longer. -/
theorem sized_iff {n : Nat} {s : String} (h : isBlank s = false) : sized 1 n s = true ↔ s.length ≤ n := by
  have hne : s.length ≠ 0 := by
    intro hs
    rw [String.length_eq_zero_iff] at hs
    subst hs
    exact absurd h (by decide)
  simp only [sized, Bool.and_eq_true, decide_eq_true_eq]
  omega

theorem all_sized_iff {n : Nat} {s : Option String} (h : s.all (!isBlank ·) = true) :
    s.all (sized 1 n) = true ↔ ∀ t ∈ s, t.length ≤ n := by
  cases s with
  | none => simp
  | some s =>
    have hs : isBlank s = false := by simpa using h
    simp [sized_iff hs]

/-- The texts of an identity that is read again (`ParseIdentity`). -/
def Identity.written (i : Identity) : Bool :=
  i.value.all (!isBlank ·) && i.label.all (!isBlank ·) && i.detail.all (!isBlank ·)

theorem parse_tree {i : Identity} (hv : i.valid = true) :
    Identity.parse i.tree = if i.written then some i else none := by
  have hparse : Identity.parse i.tree = if i.value.all (!isBlank ·) ∧ i.label.all (!isBlank ·) ∧
      i.detail.all (!isBlank ·) then some i else none := by
    refine bind_of_some rfl (bind_of_some (a := ()) rfl ?_)
    refine bind_of_some (a := .string i.status) rfl (bind_of_some (a := i.status) rfl ?_)
    refine bind_of_ite (optionalText_ofOption (by rfl)) ?_
    refine bind_of_ite (optionalText_ofOption (by rfl)) ?_
    refine bind_of_cond (optionalText_ofOption (by rfl)) ?_
    exact bind_of_some (a := ()) (guard_eq_some.2 hv) rfl
  rw [hparse]
  refine if_congr ?_ rfl rfl
  simp only [Identity.written, Bool.and_eq_true, and_assoc]

/-- The lengths of an identity the bridge writes. -/
structure Identity.Within (i : Identity) : Prop where
  value : ∀ s ∈ i.value, s.length ≤ 256
  label : ∀ s ∈ i.label, s.length ≤ 256
  detail : ∀ s ∈ i.detail, s.length ≤ 512

theorem identity_fits_iff {i : Identity} (h : i.written = true) : i.fits = true ↔ i.Within := by
  simp only [Identity.written, Bool.and_eq_true] at h
  obtain ⟨⟨hvalue, hlabel⟩, hdetail⟩ := h
  simp only [Identity.fits, Bool.and_eq_true, all_sized_iff hvalue, all_sized_iff hlabel, all_sized_iff hdetail]
  exact ⟨fun h => ⟨h.1.1, h.1.2, h.2⟩, fun h => ⟨⟨h.value, h.label⟩, h.detail⟩⟩

/-! ## Surfaces -/

/-- The text an entity is ordered by (Protocol.cs:257). -/
def ObservedEntityState.joined (e : ObservedEntityState) : String := e.entityType ++ "\x00" ++ e.entityId

theorem ascends_pairwise {prior : Option String} {xs : List String} (h : ascends prior xs = true) :
    xs.Pairwise OrdinalLt ∧ ∀ p ∈ prior, ∀ x ∈ xs, OrdinalLt p x := by
  induction xs generalizing prior with
  | nil => simp
  | cons x xs ih =>
    simp only [ascends, Bool.and_eq_true] at h
    obtain ⟨hrest, hx⟩ := ih h.2
    have hprior : ∀ p ∈ prior, OrdinalLt p x := by
      intro p hp
      rw [Option.mem_def] at hp
      simpa [hp] using h.1
    refine ⟨List.pairwise_cons.2 ⟨fun y hy => hx x rfl y hy, hrest⟩, fun p hp y hy => ?_⟩
    rcases List.mem_cons.1 hy with rfl | hy
    · exact hprior p hp
    · exact lt_trans (hprior p hp) (hx x rfl y hy)

theorem validateEntities_some {prior : Option String} {es : List ObservedEntityState}
    (h : validateEntities prior (es.map (·.json)) = some ()) :
    (∀ e ∈ es, isBlank e.entityType = false ∧ isBlank e.entityId = false) ∧
      ascends prior (es.map (·.joined)) = true := by
  induction es generalizing prior with
  | nil => simp [ascends]
  | cons e es ih =>
    have hstep : validateEntities prior ((e :: es).map (·.json)) =
        if ¬ isBlank e.entityType ∧ ¬ isBlank e.entityId ∧ (prior.all fun p => OrdinalLt p e.joined) then
          validateEntities (some e.joined) (es.map (·.json)) else none := by
      refine bind_of_some rfl (bind_of_some (a := ()) rfl ?_)
      refine bind_of_ite (text_string (by rfl)) (bind_of_ite (text_string (by rfl)) ?_)
      refine bind_of_cond guard_eq_ite ?_
      exact bind_of_some (a := .object e.values) rfl (bind_of_some rfl rfl)
    rw [hstep] at h
    split_ifs at h with hc
    obtain ⟨htype, hid, hprior⟩ := hc
    obtain ⟨hblank, hascends⟩ := ih h
    refine ⟨fun d hd => ?_, ?_⟩
    · rcases List.mem_cons.1 hd with rfl | hd
      · exact ⟨by simpa using htype, by simpa using hid⟩
      · exact hblank d hd
    · simp only [List.map_cons, ascends, Bool.and_eq_true]
      exact ⟨hprior, hascends⟩

theorem unit_eq_ite {x : Option Unit} : x = if x = some () then some () else none := by
  cases x <;> simp

theorem stringArray_strings {xs : List String} : stringArray (strings xs) = some xs := strTuple_strings

theorem sortedStrings_strings {xs : List String} :
    sortedStrings (strings xs) = if ascends none xs then some () else none := by
  rw [sortedStrings, stringArray_strings]
  exact guard_eq_ite

theorem CoverageStatus.name_unobserved {status : CoverageStatus} :
    status.name ∈ ["unsupported", "unavailable", "failed"] ↔ status.unobserved = true := by
  cases status <;> decide

/-- What `ValidateSnapshot` ensures of a surface. -/
structure ObservationSurfaceState.Written (s : ObservationSurfaceState) : Prop where
  surface : isBlank s.surface = false
  detail : isBlank s.detail = false
  fields : s.fields.Pairwise OrdinalLt
  observed : s.status.unobserved = true → s.entities = []
  entities : ∀ e ∈ s.entities, isBlank e.entityType = false ∧ isBlank e.entityId = false
  keys : (s.entities.map (·.joined)).Pairwise OrdinalLt

theorem validateSurfaces_some {prior : Option String} {surfaces : List ObservationSurfaceState}
    (h : validateSurfaces prior (surfaces.map (·.json)) = some ()) :
    (∀ s ∈ surfaces, s.Written) ∧ ascends prior (surfaces.map (·.surface)) = true := by
  induction surfaces generalizing prior with
  | nil => simp [ascends]
  | cons s surfaces ih =>
    have hstep : validateSurfaces prior ((s :: surfaces).map (·.json)) =
        if ¬ isBlank s.surface ∧ (prior.all fun p => OrdinalLt p s.surface) ∧ ascends none s.fields ∧
            (some s.detail).all (!isBlank ·) ∧ (s.status.unobserved = true → s.entities = []) ∧
            validateEntities none (s.entities.map (·.json)) = some () then
          validateSurfaces (some s.surface) (surfaces.map (·.json)) else none := by
      refine bind_of_some rfl (bind_of_some (a := ()) rfl ?_)
      refine bind_of_some rfl (bind_of_some rfl (bind_of_some (a := ()) rfl ?_))
      refine bind_of_ite (text_string (by rfl)) (bind_of_ite guard_eq_ite ?_)
      refine bind_of_some (a := .string s.status.name) rfl (bind_of_some (a := s.status.name) rfl ?_)
      refine bind_of_some (a := ()) (guard_eq_some.2 (by cases s.status <;> decide)) ?_
      refine bind_of_some rfl (bind_of_ite sortedStrings_strings ?_)
      refine bind_of_ite (optionalText_ofOption (by rfl)) ?_
      refine bind_of_some rfl (bind_of_some (a := s.entities.map (·.json)) rfl ?_)
      refine bind_of_ite (a := ()) ?_ (bind_of_cond unit_eq_ite rfl)
      rw [guard_eq_ite]
      refine if_congr ?_ rfl rfl
      rw [CoverageStatus.name_unobserved]
      simp
    rw [hstep] at h
    split_ifs at h with hc
    obtain ⟨hsurface, hprior, hfields, hdetail, hobserved, hentities⟩ := hc
    obtain ⟨hwritten, hascends⟩ := ih h
    obtain ⟨hblank, hkeys⟩ := validateEntities_some hentities
    refine ⟨fun d hd => ?_, ?_⟩
    · rcases List.mem_cons.1 hd with rfl | hd
      · exact
          { surface := by simpa using hsurface
            detail := by simpa using hdetail
            fields := (ascends_pairwise hfields).1
            observed := hobserved
            entities := hblank
            keys := (ascends_pairwise hkeys).1 }
      · exact hwritten d hd
    · simp only [List.map_cons, ascends, Bool.and_eq_true]
      exact ⟨hprior, hascends⟩

/-! ## Snapshots -/

/-- What `ValidateSnapshot` ensures of a snapshot. -/
structure SnapshotWritten (contract : BridgeContractDescriptor) (state : RuntimeSnapshot) (bridgeId : String)
    (sequence : Int) (surfaces : List ObservationSurfaceState) : Prop where
  sequence : 1 ≤ sequence
  bridgeId : isBlank bridgeId = false
  gameSessionId : isBlank state.gameSessionId = false
  gameId : isBlank contract.gameId = false
  gameVersion : isBlank state.gameVersion = false
  adapterVersion : isBlank contract.adapterVersion = false
  mapIdentity : state.mapIdentity.written = true
  saveIdentity : state.saveIdentity.written = true
  written : ∀ s ∈ surfaces, s.Written
  names : (surfaces.map (·.surface)).Pairwise OrdinalLt

theorem validateSnapshot_members {contract : BridgeContractDescriptor} {state : RuntimeSnapshot} {bridgeId : String}
    {sequence : Int} {captured : DateTimeOffset} {surfaces : List ObservationSurfaceState}
    (hmap : state.mapIdentity.valid = true) (hsave : state.saveIdentity.valid = true)
    (h : validateSnapshot (snapshotMembers contract state bridgeId sequence captured surfaces) = some ()) :
    SnapshotWritten contract state bridgeId sequence surfaces := by
  have hstep : validateSnapshot (snapshotMembers contract state bridgeId sequence captured surfaces) =
      if ¬ isBlank (time captured) ∧ (1 ≤ sequence ∧ sequence ≤ longMaxValue) ∧ ¬ isBlank bridgeId ∧
          ¬ isBlank state.gameSessionId ∧ ¬ isBlank contract.gameId ∧ ¬ isBlank state.gameVersion ∧
          ¬ isBlank contract.adapterVersion ∧ ¬ isBlank state.platform ∧ ¬ isBlank state.architecture ∧
          state.mapIdentity.written ∧ state.saveIdentity.written then
        validateSurfaces none (surfaces.map (·.json)) else none := by
    refine bind_of_some (a := ()) rfl (bind_of_some (a := 1) rfl ?_)
    refine bind_of_ite (text_string (by rfl)) ?_
    refine bind_of_some (a := "single-main-thread-sample") rfl ?_
    refine bind_of_some (a := "single-main-thread-sample") rfl ?_
    refine bind_of_ite (integer_integer (by rfl)) ?_
    refine bind_of_ite (text_string (by rfl)) (bind_of_ite (text_string (by rfl)) ?_)
    refine bind_of_ite (text_string (by rfl)) (bind_of_ite (text_string (by rfl)) ?_)
    refine bind_of_ite (text_string (by rfl)) (bind_of_ite (text_string (by rfl)) ?_)
    refine bind_of_ite (text_string (by rfl)) ?_
    refine bind_of_some rfl (bind_of_ite (parse_tree hmap) ?_)
    refine bind_of_some rfl (bind_of_cond (parse_tree hsave) ?_)
    refine bind_of_some rfl (bind_of_some (congrArg JsonValue.object? gameState_eq) ?_)
    refine bind_of_some rfl (bind_of_some stringArray_strings ?_)
    refine bind_of_some rfl (bind_of_some stringArray_strings ?_)
    exact bind_of_some rfl (bind_of_some rfl rfl)
  rw [hstep] at h
  split_ifs at h with hc
  obtain ⟨-, hsequence, hbridge, hsession, hgame, hversion, hadapter, -, -, hmap, hsave⟩ := hc
  obtain ⟨hsurfaces, hnames⟩ := validateSurfaces_some h
  exact
    { sequence := hsequence.1
      bridgeId := by simpa using hbridge
      gameSessionId := by simpa using hsession
      gameId := by simpa using hgame
      gameVersion := by simpa using hversion
      adapterVersion := by simpa using hadapter
      mapIdentity := hmap
      saveIdentity := hsave
      written := hsurfaces
      names := (ascends_pairwise hnames).1 }

/-! ## What the bridge does not check -/

/-- The lengths of a surface the bridge writes, and the order of its fields and entities. -/
structure ObservationSurfaceState.Within (s : ObservationSurfaceState) : Prop where
  detail : s.detail.length ≤ 1024
  entities : ∀ e ∈ s.entities, e.entityType.length ≤ 128 ∧ e.entityId.length ≤ 256
  fields : OrdersAgree s.fields
  keys : ∀ a ∈ s.entities, ∀ b ∈ s.entities, OrdinalLt a.joined b.joined → a.model.key < b.model.key

theorem surface_fits_iff {s : ObservationSurfaceState} (h : s.Written) :
    s.fits = true ↔ s.surface.length ≤ 128 ∧ s.Within := by
  have hentities : s.entities.all (·.fits) = true ↔
      ∀ e ∈ s.entities, e.entityType.length ≤ 128 ∧ e.entityId.length ≤ 256 := by
    rw [List.all_eq_true]
    refine forall₂_congr fun e he => ?_
    rw [ObservedEntityState.fits, Bool.and_eq_true, sized_iff (h.entities e he).1, sized_iff (h.entities e he).2]
  have hobserved : (!s.status.unobserved || s.entities.isEmpty) = true := by
    have hs := h.observed
    cases hu : s.status.unobserved
    · rfl
    · simpa using hs hu
  have hkeys : (s.entities.map (·.model.key)).Pairwise (· < ·) ↔
      ∀ a ∈ s.entities, ∀ b ∈ s.entities, OrdinalLt a.joined b.joined → a.model.key < b.model.key := by
    have hp : s.entities.Pairwise fun a b => OrdinalLt a.joined b.joined := List.pairwise_map.1 h.keys
    rw [List.pairwise_map]
    exact pairwise_iff_agree (fun a b hab => lt_asymm hab) hp
  simp only [ObservationSurfaceState.fits, Bool.and_eq_true, decide_eq_true_eq, sized_iff h.surface,
    sized_iff h.detail, pairwise_lt_iff h.fields, hentities, hobserved, hkeys, and_true]
  constructor
  · rintro ⟨⟨⟨⟨hsurface, hdetail⟩, hfields⟩, hents⟩, hks⟩
    exact ⟨hsurface, hdetail, hents, hfields, hks⟩
  · rintro ⟨hsurface, hdetail, hents, hfields, hks⟩
    exact ⟨⟨⟨⟨hsurface, hdetail⟩, hfields⟩, hents⟩, hks⟩

/-- What the client wants of a snapshot beyond what the bridge checks. -/
structure Acceptable (contract : BridgeContractDescriptor) (state : RuntimeSnapshot)
    (bridgeInstanceId messageId : String) (correlationId : Option String) : Prop where
  protocolVersion : contract.protocolVersion = 3
  adapterVersion : contract.adapterVersion.length ≤ 128
  gameId : contract.gameId.length ≤ 128
  gameVersion : contract.supportedGameVersion.length ≤ 128
  bridgeInstanceId : bridgeInstanceId.length ≤ 128
  gameSessionId : state.gameSessionId.length ≤ 128
  messageId : messageId.length ≤ 128
  correlationId : ∀ s ∈ correlationId, 1 ≤ s.length ∧ s.length ≤ 128
  mapIdentity : state.mapIdentity.Within
  saveIdentity : state.saveIdentity.Within
  names : ∀ name ∈ contract.observationSurfaces, name.length ≤ 128
  namesOrder : OrdersAgree ("game_state" :: contract.observationSurfaces)
  gameStateDetail : state.gameStateDetail.length ≤ 1024
  gameStateFields : state.gameStateAvailable = true → ∀ values ∈ state.gameStateValues, OrdersAgree values.keys
  surfaces : ∀ s ∈ state.semanticSurfaces, s.surface ∈ contract.observationSurfaces → s.surface ≠ "game_state" →
    s.Within

theorem surfaceOf_surface {state : RuntimeSnapshot} {name : String} : (surfaceOf state name).surface = name := by
  rw [surfaceOf]
  cases h : state.semanticSurfaces.find? (·.surface = name) with
  | none => rfl
  | some s => simpa using List.find?_some h

/-- The surfaces that are written, up to their order. -/
theorem surfaceStates_perm {contract : BridgeContractDescriptor} {state : RuntimeSnapshot}
    {surfaces : List ObservationSurfaceState} (h : surfaceStates contract state = some surfaces) :
    (state.semanticSurfaces.map (·.surface)).Nodup ∧ List.Perm surfaces
      (gameStateSurface state :: (contract.observationSurfaces.filter (· ≠ "game_state")).map (surfaceOf state)) := by
  simp only [surfaceStates, Option.bind_eq_bind, guard_bind] at h
  split_ifs at h with hnodup
  obtain rfl := Option.some.inj h
  exact ⟨hnodup, List.perm_insertionSort ..⟩

theorem surfaceOf_mem {state : RuntimeSnapshot} (hnodup : (state.semanticSurfaces.map (·.surface)).Nodup)
    {s : ObservationSurfaceState} (hs : s ∈ state.semanticSurfaces) : surfaceOf state s.surface = s := by
  rw [surfaceOf]
  cases h : state.semanticSurfaces.find? (·.surface = s.surface) with
  | none => simpa using List.find?_eq_none.1 h s hs
  | some t =>
    have hsurface : t.surface = s.surface := by simpa using List.find?_some h
    exact List.inj_on_of_nodup_map hnodup (List.mem_of_find?_eq_some h) hs hsurface

theorem surfaceOf_within {contract : BridgeContractDescriptor} {state : RuntimeSnapshot}
    (hnodup : (state.semanticSurfaces.map (·.surface)).Nodup) :
    (∀ name ∈ contract.observationSurfaces, name ≠ "game_state" → (surfaceOf state name).Within) ↔
      ∀ s ∈ state.semanticSurfaces, s.surface ∈ contract.observationSurfaces → s.surface ≠ "game_state" →
        s.Within := by
  constructor
  · intro h s hs hname hne
    rw [← surfaceOf_mem hnodup hs]
    exact h _ hname hne
  · intro h name hname hne
    have hsurface : (surfaceOf state name).surface = name := surfaceOf_surface
    rw [surfaceOf] at hsurface ⊢
    cases hfind : state.semanticSurfaces.find? (·.surface = name) with
    | none =>
      have hdetail : "field semantics have not been live-proven".length ≤ 1024 := by decide
      exact ⟨hdetail, by simp, by simp [OrdersAgree], by simp⟩
    | some s =>
      rw [hfind, Option.getD_some] at hsurface
      exact h s (List.mem_of_find?_eq_some hfind) (hsurface ▸ hname) (hsurface ▸ hne)

theorem gameStateSurface_within {state : RuntimeSnapshot} :
    (gameStateSurface state).Within ↔ state.gameStateDetail.length ≤ 1024 ∧
      (state.gameStateAvailable = true → ∀ values ∈ state.gameStateValues, OrdersAgree values.keys) := by
  have hfields : OrdersAgree (gameStateFields state) ↔
      (state.gameStateAvailable = true → ∀ values ∈ state.gameStateValues, OrdersAgree values.keys) := by
    rw [gameStateFields]
    by_cases havailable : state.gameStateAvailable = true
    · simp only [havailable, not_true, if_false, forall_true_left]
      cases state.gameStateValues with
      | some values =>
        rw [ordersAgree_congr fun a => (List.perm_insertionSort _ values.keys).mem_iff]
        simp
      | none =>
        -- the four names are of ASCII letters
        have hlow : ∀ x ∈ ["current_time", "game_mode", "paused", "simulation_speed"], Low x := by simp [Low]
        refine iff_of_true (ordersAgree_of_low fun x hx => hlow x ?_) (by simp)
        simp only [List.mem_append] at hx
        rcases hx with ((hx | hx) | hx) | hx <;> split at hx <;> simp_all
    · simp [havailable, OrdersAgree]
  constructor
  · intro h
    exact ⟨h.detail, hfields.1 h.fields⟩
  · rintro ⟨hdetail, h⟩
    exact ⟨hdetail, by simp [gameStateSurface], hfields.2 h, by simp [gameStateSurface]⟩

theorem surfaces_fit_iff {contract : BridgeContractDescriptor} {state : RuntimeSnapshot}
    {surfaces : List ObservationSurfaceState} (h : surfaceStates contract state = some surfaces)
    (hwritten : ∀ s ∈ surfaces, s.Written) :
    surfaces.all (·.fits) = true ↔
      (gameStateSurface state).Within ∧ (∀ name ∈ contract.observationSurfaces, name.length ≤ 128) ∧
        ∀ s ∈ state.semanticSurfaces, s.surface ∈ contract.observationSurfaces → s.surface ≠ "game_state" →
          s.Within := by
  obtain ⟨hnodup, hperm⟩ := surfaceStates_perm h
  rw [List.all_eq_true, ← surfaceOf_within hnodup]
  calc (∀ s ∈ surfaces, s.fits = true)
      ↔ ∀ s ∈ surfaces, s.surface.length ≤ 128 ∧ s.Within := forall₂_congr fun s hs => surface_fits_iff (hwritten s hs)
    _ ↔ (gameStateSurface state).Within ∧ ∀ name ∈ contract.observationSurfaces, name ≠ "game_state" →
          name.length ≤ 128 ∧ (surfaceOf state name).Within := by
      have hlength : (gameStateSurface state).surface.length ≤ 128 := by
        show "game_state".length ≤ 128
        decide
      simp only [hperm.mem_iff, List.forall_mem_cons, List.forall_mem_map, List.mem_filter, decide_eq_true_eq, and_imp,
        surfaceOf_surface, hlength, true_and]
    _ ↔ _ := by
      have hgame : "game_state".length ≤ 128 := by decide
      refine and_congr_right fun _ => ⟨fun h => ⟨fun name hname => ?_, fun name hname hne => (h name hname hne).2⟩,
        fun h name hname hne => ⟨h.1 name hname, h.2 name hname hne⟩⟩
      by_cases hne : name = "game_state"
      · rw [hne]
        exact hgame
      · exact (h name hname hne).1

theorem names_ascend_iff {contract : BridgeContractDescriptor} {state : RuntimeSnapshot}
    {surfaces : List ObservationSurfaceState} (h : surfaceStates contract state = some surfaces)
    (hnames : (surfaces.map (·.surface)).Pairwise OrdinalLt) :
    (surfaces.map (·.surface)).Pairwise (· < ·) ↔ OrdersAgree ("game_state" :: contract.observationSurfaces) := by
  obtain ⟨-, hperm⟩ := surfaceStates_perm h
  rw [pairwise_lt_iff hnames]
  refine ordersAgree_congr fun a => ?_
  rw [(hperm.map _).mem_iff, List.map_cons, List.map_map, List.mem_cons, List.mem_cons]
  have hmap : ((fun s : ObservationSurfaceState => s.surface) ∘ surfaceOf state) = id :=
    funext fun name => surfaceOf_surface
  rw [hmap, List.map_id, List.mem_filter]
  show a = "game_state" ∨ _ ↔ _
  by_cases ha : a = "game_state" <;> simp [ha]

/-! ## Envelopes -/

/-- What `ValidateEnvelope` ensures. -/
structure EnvelopeWritten (contract : BridgeContractDescriptor) (e : Envelope) : Prop where
  protocolVersion : e.protocolVersion = contract.protocolVersion
  gameVersion : e.gameVersion = contract.supportedGameVersion
  platform : ∃ platform, Platform.parse e.platform = some platform
  architecture : ∃ architecture, Architecture.parse e.architecture = some architecture
  bridgeInstanceId : isBlank e.bridgeInstanceId = false
  gameSessionId : isBlank e.gameSessionId = false
  messageId : isBlank e.messageId = false
  sequence : 1 ≤ e.bridgeSequence
  mapIdentity : e.mapIdentity.valid = true
  saveIdentity : e.saveIdentity.valid = true
  correlated : e.messageType.model.correlated = true → e.correlationId ≠ none

theorem envelope_written {contract : BridgeContractDescriptor} {e : Envelope}
    (h : validateEnvelope contract e = true) : EnvelopeWritten contract e := by
  simp only [validateEnvelope, Bool.and_eq_true, beq_iff_eq, Bool.or_eq_true, Bool.not_eq_true', decide_eq_true_eq,
    decide_eq_false_iff_not] at h
  obtain ⟨⟨⟨⟨⟨⟨⟨⟨⟨⟨⟨⟨⟨⟨hversion, -⟩, -⟩, hgame⟩, hplatform⟩, harchitecture⟩, hbridge⟩, hsession⟩, hmessage⟩, hsequence⟩,
    hmap⟩, hsave⟩, -⟩, -⟩, hcorrelated⟩ := h
  refine ⟨hversion, hgame, ?_, ?_, hbridge, hsession, hmessage, hsequence, hmap, hsave, ?_⟩
  · rcases hplatform with (hp | hp) | hp <;> simp [hp, Platform.parse]
  · rcases harchitecture with ha | ha <;> simp [ha, Architecture.parse]
  · intro htype hnone
    rcases hcorrelated with hc | hc
    · revert htype hc
      cases e.messageType <;> decide
    · simp [hnone] at hc

theorem envelope_fits_iff {contract : BridgeContractDescriptor} {e : Envelope} (h : EnvelopeWritten contract e)
    (hadapter : isBlank e.adapterVersion = false) (hgame : isBlank e.gameId = false)
    (hversion : isBlank e.gameVersion = false) (hmap : e.mapIdentity.written = true)
    (hsave : e.saveIdentity.written = true) :
    e.fits = true ↔ contract.protocolVersion = 3 ∧ e.adapterVersion.length ≤ 128 ∧ e.gameId.length ≤ 128 ∧
      contract.supportedGameVersion.length ≤ 128 ∧ e.bridgeInstanceId.length ≤ 128 ∧ e.gameSessionId.length ≤ 128 ∧
      e.messageId.length ≤ 128 ∧ (∀ s ∈ e.correlationId, 1 ≤ s.length ∧ s.length ≤ 128) ∧ e.mapIdentity.Within ∧
      e.saveIdentity.Within := by
  have hcorrelation : e.correlationId.all (sized 1 128) = true ↔
      ∀ s ∈ e.correlationId, 1 ≤ s.length ∧ s.length ≤ 128 := by
    cases e.correlationId <;> simp [sized]
  rw [← h.gameVersion, ← h.protocolVersion]
  simp only [Envelope.fits, Bool.and_eq_true, beq_iff_eq, sized_iff hadapter, sized_iff hgame, sized_iff hversion,
    sized_iff h.bridgeInstanceId, sized_iff h.gameSessionId, sized_iff h.messageId, identity_fits_iff hmap,
    identity_fits_iff hsave, hcorrelation]
  tauto

end Core

open Core

theorem snapshotResponsePayload_some {contract : BridgeContractDescriptor} {state : RuntimeSnapshot}
    {bridgeId : String} {sequence : Int} {captured : DateTimeOffset} {payload : JsonValue}
    (h : snapshotResponsePayload contract state bridgeId sequence captured = some payload) :
    ∃ surfaces, surfaceStates contract state = some surfaces ∧
      payload = .object [("snapshot", .object (snapshotMembers contract state bridgeId sequence captured surfaces))] := by
  simp only [snapshotResponsePayload, Option.bind_eq_bind, guard_bind] at h
  split_ifs at h
  obtain ⟨surfaces, hsurfaces, h⟩ := Option.bind_eq_some_iff.1 h
  exact ⟨surfaces, hsurfaces, (Option.some.inj h).symm⟩

theorem serializeEnvelope_some {contract : BridgeContractDescriptor} {e : Envelope} {j : JsonValue}
    (h : serializeEnvelope contract e = some j) :
    EnvelopeWritten contract e ∧
      (∃ o, e.payload.object? = some o ∧ validatePayload contract e.messageType o = some ()) ∧ j = .object e.members := by
  simp only [serializeEnvelope, Option.bind_eq_bind, guard_bind] at h
  split_ifs at h with hvalid
  obtain ⟨o, ho, h⟩ := Option.bind_eq_some_iff.1 h
  obtain ⟨_, hpayload, h⟩ := Option.bind_eq_some_iff.1 h
  exact ⟨envelope_written hvalid, ⟨o, ho, hpayload⟩, (Option.some.inj h).symm⟩

/-- How the client reads a snapshot response the bridge writes. -/
theorem parse_snapshot_response {pydantic : Pydantic} {contract : BridgeContractDescriptor} {state : RuntimeSnapshot}
    {bridgeId : String} {sequence : Int} {captured : DateTimeOffset} {surfaces : List ObservationSurfaceState}
    {e : Envelope} (htype : e.messageType = .fullSnapshotResponse)
    (hpayload : e.payload =
      .object [("snapshot", .object (snapshotMembers contract state bridgeId sequence captured surfaces))])
    (hplatform : e.platform = state.platform) (harchitecture : e.architecture = state.architecture)
    (htime : ∀ t, pydantic.awareDatetime (time t) = true) (he : EnvelopeWritten contract e)
    (hmap : state.mapIdentity.valid = true) (hsave : state.saveIdentity.valid = true) (hsequence : 1 ≤ sequence) :
    ∃ platform architecture, BridgeEnvelope.parse pydantic (.object e.members) =
      if e.fits ∧ snapshotFits contract state bridgeId surfaces then
        some (e.model platform architecture (.fullSnapshotResponse
          (snapshotModel contract state bridgeId surfaces sequence captured platform architecture)))
      else none := by
  obtain ⟨platform, hp⟩ := he.platform
  obtain ⟨architecture, ha⟩ := he.architecture
  have hsnapshot : BridgePayload.parse pydantic e.messageType.model e.payload =
      if snapshotFits contract state bridgeId surfaces then
        some (.fullSnapshotResponse
          (snapshotModel contract state bridgeId surfaces sequence captured platform architecture))
      else none := by
    rw [htype, hpayload]
    refine bind_of_some (fieldsOf_object rfl rfl) (bind_of_some rfl (bind_of_cond ?_ rfl))
    exact parse_snapshot (htime captured) hsequence hmap hsave (hplatform ▸ hp) (harchitecture ▸ ha)
  exact ⟨platform, architecture,
    parse_envelope (htime e.timestamp) he.sequence he.mapIdentity he.saveIdentity hp ha hsnapshot he.correlated⟩

/-- The envelope and the snapshot fit when what the bridge does not check holds. -/
theorem fits_iff_acceptable {contract : BridgeContractDescriptor} {state : RuntimeSnapshot}
    {bridgeInstanceId messageId : String} {correlationId : Option String} {sequence responseSequence : Int}
    {timestamp : DateTimeOffset} {type : Core.MessageType} {payload : JsonValue}
    {surfaces : List ObservationSurfaceState} (hsurfaces : surfaceStates contract state = some surfaces)
    (he : EnvelopeWritten contract
      (envelopeOf contract state bridgeInstanceId messageId sequence type correlationId timestamp payload))
    (hw : SnapshotWritten contract state bridgeInstanceId responseSequence surfaces) :
    ((envelopeOf contract state bridgeInstanceId messageId sequence type correlationId timestamp payload).fits = true ∧
        snapshotFits contract state bridgeInstanceId surfaces = true) ↔
      Acceptable contract state bridgeInstanceId messageId correlationId := by
  have hversion : state.gameVersion = contract.supportedGameVersion := he.gameVersion
  have hsnapshot : snapshotFits contract state bridgeInstanceId surfaces = true ↔
      bridgeInstanceId.length ≤ 128 ∧ state.gameSessionId.length ≤ 128 ∧ contract.gameId.length ≤ 128 ∧
        contract.supportedGameVersion.length ≤ 128 ∧ contract.adapterVersion.length ≤ 128 ∧
        state.mapIdentity.Within ∧ state.saveIdentity.Within ∧ surfaces.all (·.fits) = true ∧
        (surfaces.map (·.surface)).Pairwise (· < ·) := by
    rw [← hversion]
    simp only [snapshotFits, Bool.and_eq_true, decide_eq_true_eq, sized_iff hw.bridgeId, sized_iff hw.gameSessionId,
      sized_iff hw.gameId, sized_iff hw.gameVersion, sized_iff hw.adapterVersion, identity_fits_iff hw.mapIdentity,
      identity_fits_iff hw.saveIdentity, and_assoc]
  rw [envelope_fits_iff he hw.adapterVersion hw.gameId hw.gameVersion hw.mapIdentity hw.saveIdentity, hsnapshot,
    surfaces_fit_iff hsurfaces hw.written, names_ascend_iff hsurfaces hw.names, gameStateSurface_within]
  constructor
  · rintro ⟨⟨hprotocol, hadapter, hgame, hgv, hbridge, hsession, hmessage, hcorrelation, hmap, hsave⟩,
      -, -, -, -, -, -, -, ⟨⟨hdetail, hfields⟩, hnames, hrest⟩, horder⟩
    exact ⟨hprotocol, hadapter, hgame, hgv, hbridge, hsession, hmessage, hcorrelation, hmap, hsave, hnames, horder,
      hdetail, hfields, hrest⟩
  · intro h
    exact ⟨⟨h.protocolVersion, h.adapterVersion, h.gameId, h.gameVersion, h.bridgeInstanceId, h.gameSessionId,
        h.messageId, h.correlationId, h.mapIdentity, h.saveIdentity⟩,
      h.bridgeInstanceId, h.gameSessionId, h.gameId, h.gameVersion, h.adapterVersion, h.mapIdentity, h.saveIdentity,
      ⟨⟨h.gameStateDetail, h.gameStateFields⟩, h.names, h.surfaces⟩, h.namesOrder⟩

/-- A snapshot response the bridge writes is accepted by the client when the texts have the
client's lengths and both sides order them alike. -/
theorem snapshot_accepted_iff {pydantic : Pydantic} {contract : BridgeContractDescriptor} {state : RuntimeSnapshot}
    {bridgeInstanceId messageId : String} {correlationId : Option String} {sequence responseSequence : Int}
    {timestamp captured : DateTimeOffset} {payload j : JsonValue}
    (htime : ∀ t, pydantic.awareDatetime (time t) = true)
    (hpayload : snapshotResponsePayload contract state bridgeInstanceId responseSequence captured = some payload)
    (hj : serializeEnvelope contract (envelopeOf contract state bridgeInstanceId messageId sequence
      .fullSnapshotResponse correlationId timestamp payload) = some j) :
    (parseEnvelope pydantic j).isSome = true ↔
      pydantic.reads j = true ∧ Acceptable contract state bridgeInstanceId messageId correlationId := by
  obtain ⟨surfaces, hsurfaces, hpay⟩ := snapshotResponsePayload_some hpayload
  obtain ⟨he, ⟨o, ho, hvalid⟩, hmembers⟩ := serializeEnvelope_some hj
  have hobject : o =
      [("snapshot", .object (snapshotMembers contract state bridgeInstanceId responseSequence captured surfaces))] := by
    rw [show Envelope.payload _ = payload from rfl, hpay] at ho
    exact (Option.some.inj ho).symm
  have hsnapshot : validateSnapshot
      (snapshotMembers contract state bridgeInstanceId responseSequence captured surfaces) = some () := by
    rw [hobject] at hvalid
    exact hvalid
  have hw := validateSnapshot_members he.mapIdentity he.saveIdentity hsnapshot
  obtain ⟨platform, architecture, hparse⟩ :=
    parse_snapshot_response rfl hpay rfl rfl htime he he.mapIdentity he.saveIdentity hw.sequence
  rw [← fits_iff_acceptable hsurfaces he hw, hmembers]
  simp only [parseEnvelope, Option.bind_eq_bind, guard_bind, hparse, ite_ite]
  split_ifs with hc <;> simp [hc]

section Example

/-- A reader that takes every text. -/
def lenient : Pydantic where
  reads _ := true
  awareDatetime _ := true

def noon : DateTimeOffset where
  year := 2026
  month := 1
  day := 1
  hour := 12
  minute := 0
  second := 0
  ticks := 0
  date_valid := by decide
  time_valid := by decide

/-- A rail network under a name. -/
def named (label : String) : RuntimeSnapshot where
  gameVersion := "2.3.24"
  gameSessionId := "session"
  mapIdentity := { status := "observed", value := some "map", label := some label }

/-- The response to the first snapshot request, as it is written. -/
def response (label : String) : Option JsonValue := do
  let payload ← snapshotResponsePayload railRoute (named label) "bridge" 3 noon
  serializeEnvelope railRoute
    (envelopeOf railRoute (named label) "bridge" "bridge:3" 3 .fullSnapshotResponse (some "client:1") noon payload)

set_option maxRecDepth 8000 in
theorem snapshot_accepted_iff_network : ∃ payload j,
    snapshotResponsePayload railRoute (named "network") "bridge" 3 noon = some payload ∧
    serializeEnvelope railRoute (envelopeOf railRoute (named "network") "bridge" "bridge:3" 3 .fullSnapshotResponse
      (some "client:1") noon payload) = some j ∧
    ((parseEnvelope lenient j).isSome = true ↔
      lenient.reads j = true ∧ Acceptable railRoute (named "network") "bridge" "bridge:3" (some "client:1")) := by
  have hsome : (response "network").isSome = true := by decide +kernel
  obtain ⟨j, hresponse⟩ := Option.isSome_iff_exists.1 hsome
  rw [response] at hresponse
  obtain ⟨payload, hpayload, hj⟩ := Option.bind_eq_some_iff.1 hresponse
  exact ⟨payload, j, hpayload, hj, snapshot_accepted_iff (fun _ => rfl) hpayload hj⟩

set_option maxRecDepth 8000 in
/-- A label of 257 characters is written and not read. -/
theorem long_label_refused : ∃ payload j,
    snapshotResponsePayload railRoute (named (String.ofList (List.replicate 257 'x'))) "bridge" 3 noon = some payload ∧
    serializeEnvelope railRoute (envelopeOf railRoute (named (String.ofList (List.replicate 257 'x'))) "bridge"
      "bridge:3" 3 .fullSnapshotResponse (some "client:1") noon payload) = some j ∧
    lenient.reads j = true ∧ parseEnvelope lenient j = none := by
  have hany : (response (String.ofList (List.replicate 257 'x'))).any
      (fun j => (parseEnvelope lenient j).isNone) = true := by
    decide +kernel
  obtain ⟨j, hresponse, hnone⟩ := (Option.any_eq_true _ _).1 hany
  rw [response] at hresponse
  obtain ⟨payload, hpayload, hj⟩ := Option.bind_eq_some_iff.1 hresponse
  exact ⟨payload, j, hpayload, hj, rfl, Option.isNone_iff_eq_none.1 hnone⟩

end Example

end SimPilot.GameBridge
