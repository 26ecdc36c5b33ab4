import SimPilot.SoftwareInc.Workstation.Catalog
/-!
# The plan of one workstation (software_inc/ui/workstation.py)

The room that is chosen for a team, what is bought for it, and what is verified of the result.
A plan whose room stayed with its team and kept a valid workstation is not made twice: the next
plan buys at most a trashcan.

| here | there |
|---|---|
| `WorkstationPlan` | workstation.py:90-139 |
| `buildWorkstationPlan` | workstation.py:189-340 |
| `verifyWorkstationResult` | workstation.py:449-479 |
| `requiresTrashcanCorrection`, `resumeBundle` | workstation.py:525, :554 |

The fingerprint of a plan, and the id derived from it, are the material they are taken of.
-/

namespace SimPilot.SoftwareInc.Workstation

open GameBridge

/-! ## Plans -/

structure WorkstationIntent where
  teamName : String
  minimumCashReserve : ℚ
  team_sized : sized 1 64 teamName = true
  reserve_nonneg : 0 ≤ minimumCashReserve

structure WorkstationLineItem where
  sequence : Nat
  purpose : Purpose
  catalogItem : FurnitureCatalogItem
  deriving DecidableEq

/-- The cash an item costs: none where the inventory has one. -/
def FurnitureCatalogItem.charge (i : FurnitureCatalogItem) : ℚ := if 0 < i.inventoryCount then 0 else i.oneTimeCost

/-- `expected_cash_charge` -/
def WorkstationLineItem.expectedCashCharge (line : WorkstationLineItem) : ℚ := line.catalogItem.charge

structure WorkstationReusedComponent where
  purpose : Purpose
  equipmentId : String
  prefabName : String
  displayName : String
  deriving DecidableEq, Repr

/-- What the fingerprint of a plan is taken of (workstation.py:286-299). -/
structure Material where
  assignRoomToTeam : Bool
  gameSessionId : String
  items : List WorkstationLineItem
  reusedComponents : List WorkstationReusedComponent
  minimumCashReserve : ℚ
  expectedRoomProblemCleared : Bool
  roomId : String
  roomTeams : List String
  saveIdentity : String
  sourceFrameId : String
  sourceProjectionId : String
  teamId : String
  deriving DecidableEq

structure WorkstationPlan where
  fingerprint : Material
  gameSessionId : String
  saveIdentity : String
  teamId : String
  teamName : String
  roomId : String
  assignRoomToTeam : Bool
  previousRoomTeams : List String
  initialValidWorkstations : Int
  expectedValidWorkstations : Int
  expectedRoomProblemCleared : Bool
  reusedComponents : List WorkstationReusedComponent
  lineItems : List WorkstationLineItem
  totalOneTimeCost : ℚ
  observedVariableWattage : ℚ
  observedCash : ℚ
  projectedCashAfter : ℚ
  minimumCashReserve : ℚ
  sourceBridgeSequence : Int
  sourceFrameId : String
  sourceProjectionId : String
  createdAt : Timestamp
  expiresAt : Timestamp
  materialUnknowns : List String
  deriving DecidableEq

/-- The fields of `WorkstationPlan` and `validate_commitment`. -/
def WorkstationPlan.valid (p : WorkstationPlan) : Bool :=
  0 ≤ p.initialValidWorkstations && 1 ≤ p.expectedValidWorkstations && 0 ≤ p.totalOneTimeCost &&
    0 ≤ p.observedVariableWattage && 0 ≤ p.minimumCashReserve && 1 ≤ p.sourceBridgeSequence &&
    p.totalOneTimeCost = (p.lineItems.map (·.expectedCashCharge)).sum &&
    (p.reusedComponents.map (·.purpose) ++ p.lineItems.map (·.purpose)).Nodup &&
    p.projectedCashAfter = p.observedCash - p.totalOneTimeCost && p.minimumCashReserve ≤ p.projectedCashAfter &&
    p.createdAt < p.expiresAt

/-- `_PLAN_TTL`, in seconds. -/
def planTtl : Nat := 300

/-! ## Rooms -/

/-- `_cash` -/
def cash (snapshot : GameSnapshot) : Except UIError ℚ :=
  match surfacesNamed snapshot "finances" with
  | [finances] =>
    if finances.coverage.status ∈ [.observedComplete, .observedPartial] then
      match finances.entities.filter (·.entityType = "company_finances") with
      | [company] => do
        let cents := roundEven ((← planning.decimal company "cash") * 100)
        -- more digits than the context of `quantize` has
        demand (|cents| < 10 ^ 28) .external
        return cents / 100
      | _ => .error (.validation "company finance entity did not resolve once")
    else unobserved
  | _ => unobserved
where
  unobserved : Except UIError ℚ := .error (.validation "observed company cash is required")

/-- `_entity` -/
def entityOf (surface : ObservationSurface) (entityType entityId : String) : Except UIError ObservedEntity :=
  match surface.entities.filter fun e => e.entityType = entityType ∧ e.entityId = entityId with
  | [e] => .ok e
  | _ => .error (.validation (entityType ++ " " ++ strRepr entityId ++ " did not resolve once"))

section
variable (fold : String → String)

/-- `_has_team` -/
def hasTeam (teamName : String) (room : ObservedEntity) : Except UIError Bool := do
  return fold teamName ∈ (← roomTeams room).map fold

/-- `existing_capacity` -/
def hasCapacity (room : ObservedEntity) : Except UIError Bool := do
  return 1 ≤ (← planning.integer room "valid_workstations")

def isSafe (room : ObservedEntity) : Except UIError Bool := do
  return !(← planning.boolean room "major_problem")

/-- The condition of `unassigned`. -/
def isFree (room : ObservedEntity) : Except UIError Bool := do
  if (← roomTeams room) = [] then isSafe room else return false

/-- `existing_capacity or safe_assigned or unassigned` (workstation.py:212-224) -/
def candidateRooms (teamName : String) (rooms : List ObservedEntity) : Except UIError (List ObservedEntity) := do
  let assigned ← listing (hasTeam fold teamName) rooms
  let existingCapacity ← listing hasCapacity assigned
  let safeAssigned ← listing isSafe assigned
  let unassigned ← listing isFree rooms
  return if existingCapacity ≠ [] then existingCapacity else if safeAssigned ≠ [] then safeAssigned else unassigned

/-- The key a room is chosen by (workstation.py:231). -/
def roomOrder (room : ObservedEntity) : Except UIError (ℚ ×ₗ ℚ ×ₗ String) := do
  let workstations ← planning.integer room "valid_workstations"
  return toLex ((workstations : ℚ), toLex (← planning.decimal room "area", room.entityId))

/-- `max(candidates, key=…)` -/
def chosenRoom (candidates : List ObservedEntity) : Except UIError ObservedEntity := do
  let keyed ← candidates.mapM fun room => do return (room, ← roomOrder room)
  match keyed.argmax (·.2) with
  | some (room, _) => return room
  | none => .error (.validation "no assigned or empty room is available; Sim Pilot will not evict another team")

/-- `_requires_trashcan_correction` -/
def requiresTrashcanCorrection (room : ObservedEntity) (equipment : List ObservedEntity) : Except UIError Bool := do
  if !(← planning.boolean room "major_problem") then return false
  if (← planning.integer room "problem_count") ≠ 1 then return false
  let hasComputer ← equipment.anyM fun item => do return fold (← text item "function_category" true) = "computer"
  let hasTrashcan ← equipment.anyM fun item => do return fold (← text item "type" true) = "trashcan"
  return hasComputer && !hasTrashcan

/-! ## Purchases -/

/-- `_trashcan` -/
def trashcan (catalog : List FurnitureCatalogItem) : Except UIError FurnitureCatalogItem :=
  firstInOrder ((uniqueSearchTitles fold catalog).filter fun item => fold item.furnitureType = "trashcan")
    ("the computer room lacks trash capacity, but no unique enabled Trashcan catalog " ++
      "item is currently observable")

/-- A piece of equipment that an item of the bundle need not be bought for. -/
def reusable (item : FurnitureCatalogItem) (e : ObservedEntity) : Bool :=
  stringAt e.values "prefab_name" = some item.prefabName && flagAt e.values "valid" = some true &&
    flagAt e.values "blocked" = some false

/-- The loop of `_resume_bundle`: what is reused, and what is missing. -/
def resume (remaining : List ObservedEntity) :
    List (Purpose × FurnitureCatalogItem) → List WorkstationReusedComponent × List (Purpose × FurnitureCatalogItem)
  | [] => ([], [])
  | (purpose, item) :: rest =>
    match remaining.find? (reusable item) with
    | none =>
      let (reused, missing) := resume remaining rest
      (reused, (purpose, item) :: missing)
    | some found =>
      let (reused, missing) := resume (remaining.eraseP (reusable item)) rest
      (⟨purpose, found.entityId, item.prefabName, item.displayName⟩ :: reused, missing)

/-- `_resume_bundle` -/
def resumeBundle (bundle : List (Purpose × FurnitureCatalogItem)) (equipment : List ObservedEntity) :
    List WorkstationReusedComponent × List WorkstationLineItem :=
  let (reused, missing) := resume (equipment.insertionSort fun a b => a.entityId ≤ b.entityId) bundle
  (reused, missing.zipIdx.map fun ((purpose, item), index) => ⟨index + 1, purpose, item⟩)

/-- What a plan buys for its room, and what the room has of it. -/
structure Purchases where
  bundle : List (Purpose × FurnitureCatalogItem)
  reused : List WorkstationReusedComponent
  lines : List WorkstationLineItem
  missingTrashcan : Bool

/-- Lines 240-279 of `build_workstation_plan`. -/
def purchasesFor (snapshot : GameSnapshot) (room : ObservedEntity) (equipment : List ObservedEntity)
    (initialCapacity : Int) : Except UIError Purchases := do
  let bought : Purchases ←
    if 1 ≤ initialCapacity then pure ⟨[], [], [], false⟩
    else do
      let bundle ← minimalBundle fold (← availableCatalog snapshot)
      let (reused, lines) := resumeBundle bundle equipment
      pure ⟨bundle, reused, lines, false⟩
  if ← requiresTrashcanCorrection fold room equipment then do
    let item ← trashcan fold (← availableCatalog snapshot)
    return { bought with
      lines := bought.lines ++ [⟨bought.lines.length + 1, .trashcan, item⟩]
      missingTrashcan := true }
  else return bought

/-! ## Planning -/

def unknownUtilities : String :=
  "Software Inc. exposes equipment wattage but not a deterministic monthly utility " ++
    "charge for this placement; approval covers exact purchase prices, not unknown " ++ "usage-based electricity."

def trashcanRule : String :=
  "The observed room has a computer, no trashcan, and one major problem. " ++
    "Software Inc. 1.8.41's verified room rule requires trash capacity for a " ++
    "computer room; the room problem must clear after this one-item correction."

def reserveBroken (total projected reserve : ℚ) : UIError :=
  .validation ("exact workstation cost $" ++ usd total ++ " would leave $" ++ usd projected ++
    ", below the requested $" ++ usd reserve ++ " reserve")

def buildWorkstationPlan (intent : WorkstationIntent) (o : Observation) (now : Timestamp) :
    Except UIError WorkstationPlan := do
  let snapshot := o.semanticAfter
  let team ← planning.uniqueNamed fold (← complete snapshot "teams") "team" "name" intent.teamName
  demand (1 ≤ (← planning.integer team "employee_count"))
    (.validation "a workstation requires at least one observed team member")
  let offices ← complete snapshot "offices"
  let rooms := offices.entities.filter (·.entityType = "office_room")
  demand (rooms ≠ []) (.validation "no safe player-owned indoor room is observable")
  let room ← chosenRoom (← candidateRooms fold intent.teamName rooms)
  let initialCapacity ← planning.integer room "valid_workstations"
  let equipment := offices.entities.filter fun e =>
    e.entityType = "office_equipment" ∧ stringAt e.values "room_id" = some room.entityId
  let bought ← purchasesFor fold snapshot room equipment initialCapacity
  let cash ← cash snapshot
  let total := (bought.lines.map (·.expectedCashCharge)).sum
  let projected := cash - total
  demand (intent.minimumCashReserve ≤ projected) (reserveBroken total projected intent.minimumCashReserve)
  let previousTeams ← roomTeams room
  let assigned ← hasTeam fold intent.teamName room
  let teamName ← text team "name" false
  let saveIdentity := saveIdentityText snapshot.saveIdentity
  let plan : WorkstationPlan :=
    { fingerprint :=
        { assignRoomToTeam := !assigned, gameSessionId := snapshot.gameSessionId, items := bought.lines
          reusedComponents := bought.reused, minimumCashReserve := intent.minimumCashReserve
          expectedRoomProblemCleared := bought.missingTrashcan, roomId := room.entityId, roomTeams := previousTeams
          saveIdentity, sourceFrameId := o.frame.frameId, sourceProjectionId := o.projectionId
          teamId := team.entityId }
      gameSessionId := snapshot.gameSessionId
      saveIdentity
      teamId := team.entityId
      teamName
      roomId := room.entityId
      assignRoomToTeam := !assigned
      previousRoomTeams := previousTeams
      initialValidWorkstations := initialCapacity
      expectedValidWorkstations := max 1 initialCapacity
      expectedRoomProblemCleared := bought.missingTrashcan
      reusedComponents := bought.reused
      lineItems := bought.lines
      totalOneTimeCost := total
      observedVariableWattage := (bought.bundle.map (·.2.wattage)).sum
      observedCash := cash
      projectedCashAfter := projected
      minimumCashReserve := intent.minimumCashReserve
      sourceBridgeSequence := snapshot.bridgeSequence
      sourceFrameId := o.frame.frameId
      sourceProjectionId := o.projectionId
      createdAt := now
      expiresAt := now + planTtl
      materialUnknowns := unknownUtilities :: if bought.missingTrashcan then [trashcanRule] else [] }
  demand plan.valid .model
  return plan

end

def verifyWorkstationResult (before after : GameSnapshot) (plan : WorkstationPlan) : Except UIError Unit := do
  demand (before.gameSessionId = after.gameSessionId) (.verification "game session changed during workstation setup")
  let beforeRoom ← entityOf (← complete before "offices") "office_room" plan.roomId
  let afterRoom ← entityOf (← complete after "offices") "office_room" plan.roomId
  let afterTeams ← roomTeams afterRoom
  demand (plan.teamName ∈ afterTeams) (.verification "target room was not assigned to the requested team")
  demand (afterTeams.all fun team => team ∈ plan.previousRoomTeams ∨ team = plan.teamName)
    (.verification "an unrelated team was assigned to the target room")
  demand (plan.expectedValidWorkstations ≤ (← planning.integer afterRoom "valid_workstations"))
    (.verification "one valid workstation was not observed after setup")
  if plan.expectedRoomProblemCleared then do
    demand (!(← planning.boolean afterRoom "major_problem")) problemStays
    demand ((← planning.integer afterRoom "problem_count") = 0) problemStays
  demand ((← planning.integer beforeRoom "valid_workstations") = plan.initialValidWorkstations)
    (.verification "initial room capacity no longer matches the plan")
  let delta := (← cash before) - (← cash after)
  demand (delta = plan.totalOneTimeCost)
    (.verification ("cash changed by $" ++ usd delta ++ "; exact approved purchase total was $" ++
      usd plan.totalOneTimeCost))
where
  problemStays : UIError :=
    .verification "the approved trash-capacity correction did not clear the room problem"

/-! ## A room that stays prepared -/

section
variable {fold : String → String}

/-- The room of a plan is the team's and has a valid workstation. -/
def RoomKept (fold : String → String) (plan : WorkstationPlan) (snapshot : GameSnapshot) : Prop :=
  ∃ offices ∈ surfacesNamed snapshot "offices", ∃ room ∈ offices.entities,
    room.entityType = "office_room" ∧ room.entityId = plan.roomId ∧ hasTeam fold plan.teamName room = .ok true ∧
      hasCapacity room = .ok true

theorem complete_unique {snapshot : GameSnapshot} {name : String} {surface : ObservationSurface}
    (h : complete snapshot name = .ok surface) : surfacesNamed snapshot name = [surface] := by
  unfold complete at h
  split at h
  · rename_i s hs
    split_ifs at h
    · cases h
    · cases h
      exact hs
  · cases h

theorem hasTeam_congr {s t : String} (h : fold s = fold t) (room : ObservedEntity) :
    hasTeam fold s room = hasTeam fold t room := by
  unfold hasTeam
  rw [h]

/-- Where a room of the team has a valid workstation, only such rooms are candidates. -/
theorem candidateRooms_of_capacity {teamName : String} {rooms candidates : List ObservedEntity} {room : ObservedEntity}
    (h : candidateRooms fold teamName rooms = .ok candidates) (hroom : room ∈ rooms)
    (hteam : hasTeam fold teamName room = .ok true) (hcapacity : hasCapacity room = .ok true) :
    ∀ r ∈ candidates, hasTeam fold teamName r = .ok true ∧ hasCapacity r = .ok true := by
  obtain ⟨assigned, hassigned, h⟩ := Except.bind_eq_ok.mp h
  obtain ⟨existing, hexisting, h⟩ := Except.bind_eq_ok.mp h
  obtain ⟨safe, -, h⟩ := Except.bind_eq_ok.mp h
  obtain ⟨free, -, h⟩ := Except.bind_eq_ok.mp h
  cases h
  have hin : room ∈ existing :=
    (mem_listing hexisting room).mpr ⟨(mem_listing hassigned room).mpr ⟨hroom, hteam⟩, hcapacity⟩
  rw [if_pos (List.ne_nil_of_mem hin)]
  intro r hr
  obtain ⟨hr, hvalid⟩ := (mem_listing hexisting r).mp hr
  exact ⟨((mem_listing hassigned r).mp hr).2, hvalid⟩

theorem chosenRoom_mem {candidates : List ObservedEntity} {room : ObservedEntity}
    (h : chosenRoom candidates = .ok room) : room ∈ candidates := by
  obtain ⟨keyed, hkeyed, h⟩ := Except.bind_eq_ok.mp h
  cases hmax : keyed.argmax (·.2) with
  | none =>
    rw [hmax] at h
    cases h
  | some best =>
    rw [hmax] at h
    cases h
    obtain ⟨r, hr, hread⟩ := (Except.mem_mapM hkeyed best).mp (List.argmax_mem hmax)
    obtain ⟨key, -, heq⟩ := Except.bind_eq_ok.mp hread
    cases heq
    exact hr

/-- For a room with a valid workstation nothing but a trashcan is bought. -/
theorem purchasesFor_of_capacity {snapshot : GameSnapshot} {room : ObservedEntity} {equipment : List ObservedEntity}
    {n : Int} {bought : Purchases} (hn : 1 ≤ n) (h : purchasesFor fold snapshot room equipment n = .ok bought) :
    ∀ line ∈ bought.lines, line.purpose = .trashcan := by
  unfold purchasesFor at h
  rw [if_pos hn] at h
  obtain ⟨first, hfirst, h⟩ := Except.bind_eq_ok.mp h
  cases hfirst
  obtain ⟨missing, -, h⟩ := Except.bind_eq_ok.mp h
  cases missing with
  | false =>
    cases h
    simp
  | true =>
    obtain ⟨items, -, h⟩ := Except.bind_eq_ok.mp h
    obtain ⟨item, -, h⟩ := Except.bind_eq_ok.mp h
    cases h
    simp

/-- What a plan takes from the room that is chosen. -/
theorem buildWorkstationPlan_ok {intent : WorkstationIntent} {o : Observation} {now : Timestamp}
    {plan : WorkstationPlan} (h : buildWorkstationPlan fold intent o now = .ok plan) :
    ∃ offices candidates room initialCapacity equipment bought assigned,
      complete o.semanticAfter "offices" = .ok offices ∧
        candidateRooms fold intent.teamName (offices.entities.filter (·.entityType = "office_room")) = .ok candidates ∧
        chosenRoom candidates = .ok room ∧ planning.integer room "valid_workstations" = .ok initialCapacity ∧
        purchasesFor fold o.semanticAfter room equipment initialCapacity = .ok bought ∧
        hasTeam fold intent.teamName room = .ok assigned ∧ plan.assignRoomToTeam = !assigned ∧
        plan.lineItems = bought.lines := by
  simp only [buildWorkstationPlan, Except.bind_eq_ok] at h
  obtain ⟨_, -, team, -, _, -, -, -, offices, hoffices, -, -, candidates, hcandidates, room, hroom, n, hn, bought,
    hbought, cash, -, -, -, previous, -, assigned, hassigned, name, -, -, -, h⟩ := h
  cases h
  exact ⟨offices, candidates, room, n, _, bought, assigned, hoffices, hcandidates, hroom, hn, hbought, hassigned, rfl,
    rfl⟩

/-- A workstation that was prepared, and stayed, is not prepared again: the next plan for the
team assigns no room, and buys no desk, computer or chair. -/
theorem prepared_workstation_kept {plan : WorkstationPlan} {before after : GameSnapshot}
    (_ : verifyWorkstationResult before after plan = .ok ()) {intent : WorkstationIntent}
    (hteam : fold intent.teamName = fold plan.teamName) {o : Observation} (hkept : RoomKept fold plan o.semanticAfter)
    {now : Timestamp} {next : WorkstationPlan} (hnext : buildWorkstationPlan fold intent o now = .ok next) :
    next.assignRoomToTeam = false ∧ ∀ line ∈ next.lineItems, line.purpose = .trashcan := by
  obtain ⟨offices, candidates, room, n, equipment, bought, assigned, hoffices, hcandidates, hroom, hn, hbought,
    hassigned, hassign, hlines⟩ := buildWorkstationPlan_ok hnext
  obtain ⟨surface, hsurface, kept, hkept, htype, -, hkeptTeam, hkeptCapacity⟩ := hkept
  rw [complete_unique hoffices, List.mem_singleton] at hsurface
  subst hsurface
  have hin : kept ∈ surface.entities.filter (·.entityType = "office_room") :=
    List.mem_filter.mpr ⟨hkept, decide_eq_true htype⟩
  rw [← hasTeam_congr hteam] at hkeptTeam
  obtain ⟨hroomTeam, hroomCapacity⟩ :=
    candidateRooms_of_capacity hcandidates hin hkeptTeam hkeptCapacity room (chosenRoom_mem hroom)
  constructor
  · rw [hassign, Except.ok.inj (hassigned.symm.trans hroomTeam)]
    rfl
  · have hcapacity : 1 ≤ n := by
      unfold hasCapacity at hroomCapacity
      rw [hn] at hroomCapacity
      exact of_decide_eq_true (Except.ok.inj hroomCapacity)
    rw [hlines]
    exact purchasesFor_of_capacity hcapacity hbought

end

section Example

def core : ObservedEntity := ⟨"team", "core", [("name", .string "Core"), ("employee_count", .integer 1)]⟩

/-- A room with this many valid workstations and problems. -/
def room (name teams : String) (workstations problems : Int) : ObservedEntity where
  entityType := "office_room"
  entityId := name
  values :=
    [("assigned_teams", .string teams), ("valid_workstations", .integer workstations),
      ("major_problem", .boolean (problems ≠ 0)), ("problem_count", .integer problems), ("area", .integer 40)]

def money (amount : ℚ) : ObservationSurface :=
  observed "finances" [⟨"company_finances", "company", [("cash", .number amount)]⟩]

/-- The team "Core", these rooms, what is on sale at the desk shop, and the cash. -/
def officesShown (rooms : List ObservedEntity) (amount : ℚ) : Observation where
  semanticAfter := gameShowing
    [observed "build_catalog"
        [entry "Desk" "Desk" 50 0 "" "Desktop|Seat", entry "Stool" "Chair" 20 0 "Seat" "",
          entry "Tower" "Computer" 110 0 "Desktop" ""],
      money amount, observed "offices" rooms, observed "teams" [core]]
  frame := ⟨"f", 1, "window"⟩
  scene := .gameplayPaused
  modalState := .none
  projectionId := "p"
  targets := []

def prepareCore : WorkstationIntent where
  teamName := "core"
  minimumCashReserve := 0
  team_sized := by decide
  reserve_nonneg := by norm_num

/-- The workstation of 180 that was built in the cellar. -/
def cellarPlan : WorkstationPlan where
  fingerprint :=
    { assignRoomToTeam := true, gameSessionId := "session"
      items := [⟨1, .workSurface, desk⟩, ⟨2, .computer, tower⟩, ⟨3, .chair, stool⟩], reusedComponents := []
      minimumCashReserve := 0, expectedRoomProblemCleared := false, roomId := "cellar", roomTeams := []
      saveIdentity := "save", sourceFrameId := "f", sourceProjectionId := "p", teamId := "core" }
  gameSessionId := "session"
  saveIdentity := "save"
  teamId := "core"
  teamName := "Core"
  roomId := "cellar"
  assignRoomToTeam := true
  previousRoomTeams := []
  initialValidWorkstations := 0
  expectedValidWorkstations := 1
  expectedRoomProblemCleared := false
  reusedComponents := []
  lineItems := [⟨1, .workSurface, desk⟩, ⟨2, .computer, tower⟩, ⟨3, .chair, stool⟩]
  totalOneTimeCost := 180
  observedVariableWattage := 0
  observedCash := 500
  projectedCashAfter := 320
  minimumCashReserve := 0
  sourceBridgeSequence := 7
  sourceFrameId := "f"
  sourceProjectionId := "p"
  createdAt := 0
  expiresAt := 300
  materialUnknowns := [unknownUtilities]

/-- Later the room has problems, and a better one is free. -/
def atticFree : Observation := officesShown [room "attic" "" 3 0, room "cellar" "Core" 1 2] 320

theorem cellar_verified : verifyWorkstationResult (officesShown [room "cellar" "" 0 0] 500).semanticAfter
    (officesShown [room "cellar" "Core" 1 0] 320).semanticAfter cellarPlan = .ok () :=
  eq_ok_of_toOption (by decide +kernel)

theorem cellar_kept : RoomKept asciiFold cellarPlan atticFree.semanticAfter :=
  ⟨observed "offices" [room "attic" "" 3 0, room "cellar" "Core" 1 2], List.mem_singleton.mpr rfl,
    room "cellar" "Core" 1 2, List.mem_cons_of_mem _ (List.mem_cons_self ..), rfl, rfl,
    eq_ok_of_toOption (by decide +kernel), rfl⟩

theorem attic_planned : (buildWorkstationPlan asciiFold prepareCore atticFree 600).isOk = true := by decide +kernel

theorem prepared_workstation_kept_cellar :
    ∃ next, buildWorkstationPlan asciiFold prepareCore atticFree 600 = .ok next ∧ next.assignRoomToTeam = false ∧
      ∀ line ∈ next.lineItems, line.purpose = .trashcan := by
  obtain ⟨next, hnext⟩ := Except.exists_ok attic_planned
  have hteam : asciiFold prepareCore.teamName = asciiFold cellarPlan.teamName := by decide +kernel
  exact ⟨next, hnext, prepared_workstation_kept cellar_verified hteam cellar_kept hnext⟩

end Example

end SimPilot.SoftwareInc.Workstation
