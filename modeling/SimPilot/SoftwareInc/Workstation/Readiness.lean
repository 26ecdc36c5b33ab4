import SimPilot.SoftwareInc.Workstation.Catalog
import Mathlib.Algebra.BigOperators.Group.Finset.Basic
import Mathlib.Algebra.Order.BigOperators.Group.Finset
/-!
# The readiness of a team's offices (software_inc/ui/office.py)

What a team lacks in workstations, where free ones are, and what the missing ones cost. The
cost covers the need unless free rooms are too few for it, or one item of the bundle serves two
purposes and the inventory counts for both.

| here | there |
|---|---|
| `RoomReadiness`, …, `TeamOfficeReadiness` | office.py:64-134 |
| `projectTeamReadiness` | office.py:228-327 |
| `roomReadiness`, `server`, `equipmentReadiness`, `cash` | office.py:408-484 |
-/

namespace SimPilot.SoftwareInc.Workstation.Office

open GameBridge
open Contracts (decimalOf)

/-- The readers of office.py. -/
def readiness : Reader where
  notInteger := "is not an observed integer"
  notBoolean := "is not an observed boolean"
  notNumeric := "is not an observed number"
  invalid := "is not a finite number"
  missing := "does not exist"
  ambiguous := "is ambiguous"

/-! ## What is read -/

structure RoomReadiness where
  roomId : String
  floor : Int
  assignedTeams : List String
  assignableWorkstations : Int
  validWorkstations : Int
  availableWorkstations : Int
  totalFurniture : Int
  majorProblem : Bool
  problemCount : Int
  isLit : Bool
  environment : ℚ
  temperature : ℚ
  acoustics : ℚ
  deriving DecidableEq, Repr

def RoomReadiness.valid (r : RoomReadiness) : Bool :=
  0 ≤ r.assignableWorkstations && 0 ≤ r.validWorkstations && 0 ≤ r.availableWorkstations && 0 ≤ r.totalFurniture &&
    0 ≤ r.problemCount

structure EquipmentReadiness where
  equipmentId : String
  roomId : String
  name : String
  assignable : Bool
  needsChair : Bool
  actions : List String
  categories : List String
  functionCategory : String
  valid : Bool
  blocked : Bool
  ownerEmployeeId : Option String
  ownerEmployeeName : Option String
  oneTimeCost : ℚ
  currentWattage : ℚ
  computerPower : ℚ
  comfort : ℚ
  environment : ℚ
  deriving DecidableEq, Repr

structure ServerReadiness where
  serverId : String
  name : String
  displayName : String
  isCloud : Bool
  available : ℚ
  broken : Bool
  serverCount : Int
  itemCount : Int
  recurringCost : ℚ
  totalPower : ℚ
  deriving DecidableEq, Repr

structure TeamOfficeReadiness where
  teamId : String
  teamName : String
  employeeCount : Int
  workStart : ℚ
  workEnd : ℚ
  currentCapacity : Int
  requiredCapacity : Int
  missingWorkstations : Int
  assignedRooms : List RoomReadiness
  assignedEquipment : List EquipmentReadiness
  cheaperExistingCapacity : List String
  exactMissingResource : Option String
  expectedBenefit : String
  oneTimeCost : Option ℚ
  recurringCost : Option ℚ
  observedCash : Option ℚ
  cashReserveAfterPurchase : Option ℚ
  servers : List ServerReadiness
  materialUnknowns : List String
  deriving DecidableEq, Repr

/-- `_room` -/
def roomReadiness (e : ObservedEntity) : Except UIError RoomReadiness := do
  let room : RoomReadiness :=
    { roomId := e.entityId
      floor := ← readiness.integer e "floor"
      assignedTeams := ← roomTeams e
      assignableWorkstations := ← readiness.integer e "assignable_workstations"
      validWorkstations := ← readiness.integer e "valid_workstations"
      availableWorkstations := ← readiness.integer e "available_workstations"
      totalFurniture := ← readiness.integer e "total_furniture"
      majorProblem := ← readiness.boolean e "major_problem"
      problemCount := ← readiness.integer e "problem_count"
      isLit := ← readiness.boolean e "is_lit"
      environment := ← readiness.decimal e "environment"
      temperature := ← readiness.decimal e "temperature"
      acoustics := ← readiness.decimal e "acoustics" }
  demand room.valid .model
  return room

/-- `_server` -/
def server (e : ObservedEntity) : Except UIError ServerReadiness := do
  let read : ServerReadiness :=
    { serverId := e.entityId
      name := ← text e "name" false
      displayName := ← text e "display_name" false
      isCloud := ← readiness.boolean e "is_cloud"
      available := ← readiness.decimal e "available"
      broken := ← readiness.boolean e "broken"
      serverCount := ← readiness.integer e "server_count"
      itemCount := ← readiness.integer e "item_count"
      recurringCost := ← readiness.decimal e "recurring_cost"
      totalPower := ← readiness.decimal e "total_power" }
  demand (0 ≤ read.serverCount && 0 ≤ read.itemCount && 0 ≤ read.recurringCost && 0 ≤ read.totalPower) .model
  return read

/-- `_text(entity, field, allow_empty=True) or None` -/
def optionalText (e : ObservedEntity) (field : String) : Except UIError (Option String) := do
  let s ← text e field true
  return if s = "" then none else some s

/-- `_equipment` -/
def equipmentReadiness (e : ObservedEntity) : Except UIError EquipmentReadiness := do
  let read : EquipmentReadiness :=
    { equipmentId := e.entityId
      roomId := ← text e "room_id" false
      name := ← text e "name" false
      assignable := ← readiness.boolean e "assignable"
      needsChair := ← readiness.boolean e "needs_chair"
      actions := splitParts '|' (← text e "actions" true)
      categories := splitParts '|' (← text e "category" true)
      functionCategory := ← text e "function_category" true
      valid := ← readiness.boolean e "valid"
      blocked := ← readiness.boolean e "blocked"
      ownerEmployeeId := ← optionalText e "owner_employee_id"
      ownerEmployeeName := ← optionalText e "owner_employee_name"
      oneTimeCost := ← readiness.decimal e "one_time_cost"
      currentWattage := ← readiness.decimal e "current_wattage"
      computerPower := ← readiness.decimal e "computer_power"
      comfort := ← readiness.decimal e "comfort"
      environment := ← readiness.decimal e "environment" }
  demand (0 ≤ read.oneTimeCost && 0 ≤ read.currentWattage && 0 ≤ read.computerPower) .model
  return read

/-- `_cash`. A cash that is not finite is refused by the model of the result. -/
def cash (snapshot : GameSnapshot) : Except UIError (Option ℚ) :=
  match surfacesNamed snapshot "finances" with
  | [finances] => match finances.entities with
    | [company] => match numberAt company.values "cash", stringAt company.values "cash" with
      | some q, _ => .ok (some q)
      | none, some s => match decimalOf s with
        | .finite q => .ok (some q)
        | .special => .error .model
        | .invalid => .ok none
      | none, none => .ok none
    | _ => .ok none
  | _ => .ok none

/-- The rooms among the offices. -/
def rooms (offices : ObservationSurface) : Except UIError (List RoomReadiness) :=
  (offices.entities.filter (·.entityType = "office_room")).mapM roomReadiness

/-- The employees of the team that is asked for. -/
def employees (fold : String → String) (snapshot : GameSnapshot) (teamName : String) : Except UIError Int := do
  let team ← readiness.uniqueNamed fold (← complete snapshot "teams") "team" "name" teamName
  readiness.integer team "employee_count"

/-! ## The need -/

/-- `_matches` -/
def RoomReadiness.assignedTo (fold : String → String) (teamName : String) (r : RoomReadiness) : Bool :=
  fold teamName ∈ r.assignedTeams.map fold

/-- The condition of `alternatives`. -/
def RoomReadiness.isAlternative (fold : String → String) (teamName : String) (r : RoomReadiness) : Bool :=
  !r.assignedTo fold teamName && r.assignedTeams = [] && 0 < r.availableWorkstations

/-- The valid workstations of the team's rooms. -/
def capacity (fold : String → String) (teamName : String) (rooms : List RoomReadiness) : Int :=
  ((rooms.filter (·.assignedTo fold teamName)).map (·.validWorkstations)).sum

/-- What the bundles for the missing workstations cost (office.py:291-294). -/
def purchaseCost (missing : Int) (bundle : List (Purpose × FurnitureCatalogItem)) : ℚ :=
  (bundle.map fun (_, item) => item.oneTimeCost * (max 0 (missing - item.inventoryCount) : Int)).sum

/-- A line of `parts` (office.py:295-299). -/
def partText (missing : Int) (item : FurnitureCatalogItem) : String :=
  let inventory := min missing item.inventoryCount
  toString missing ++ "x " ++ item.displayName ++
    if inventory ≠ 0 then " (" ++ toString inventory ++ " from inventory)" else ""

def unknownUtilities : String :=
  "Furniture utility draw is observed, but a complete monthly utility-cost projection " ++ "is not verified."

def unknownServers : String :=
  "No universal source-control-server prerequisite is verified for teams in Software " ++ "Inc. 1.8.41."

def unknownProblem : String :=
  "At least one assigned room reports a problem; its localized problem text is " ++ "not observed."

def unknownPlacement : String :=
  "Final purchase remains contingent on a green live placement preview in the " ++ "exact target room."

/-- What a team lacks, and at what cost it comes (office.py:270-306). -/
structure Need where
  oneTimeCost : Option ℚ
  reserve : Option ℚ
  missingResource : Option String
  unknowns : List String

/-- The branches of `project_team_readiness` on the missing workstations and the free rooms. -/
def needOf (fold : String → String) (snapshot : GameSnapshot) (missing : Int) (alternatives : List String)
    (cash : Option ℚ) (unknowns : List String) : Except UIError Need :=
  if missing = 0 then .ok ⟨some 0, cash, none, unknowns⟩
  else if alternatives ≠ [] then
    .ok ⟨some 0, cash, some ("assign " ++ toString missing ++ " existing valid workstation(s) from empty room(s) " ++
      ", ".intercalate alternatives), unknowns⟩
  else match selectWorkstationCatalog fold snapshot with
    | .ok bundle =>
      let cost := purchaseCost missing bundle
      .ok ⟨some cost, cash.map (· - cost), some ("; ".intercalate (bundle.map fun (_, item) => partText missing item)),
        unknownPlacement :: unknowns⟩
    | .error (.validation message) =>
      .ok ⟨none, none, some (toString missing ++ " valid assignable workstation(s)"),
        ("Exact workstation catalog bundle is unavailable: " ++ message ++ ".") :: unknowns⟩
    | .error e => .error e

/-- The ids of the free rooms. -/
def alternatives (fold : String → String) (teamName : String) (rooms : List RoomReadiness) : List String :=
  (rooms.filter (·.isAlternative fold teamName)).map (·.roomId)

def projectTeamReadiness (fold : String → String) (snapshot : GameSnapshot) (teamName : String) :
    Except UIError TeamOfficeReadiness := do
  let team ← readiness.uniqueNamed fold (← complete snapshot "teams") "team" "name" teamName
  let offices ← complete snapshot "offices"
  let infrastructure ← complete snapshot "infrastructure"
  let rooms ← rooms offices
  let assigned := rooms.filter (·.assignedTo fold teamName)
  let equipment ← (offices.entities.filter (·.entityType = "office_equipment")).mapM fun e => do
    if (← text e "room_id" false) ∈ assigned.map (·.roomId) then return some (← equipmentReadiness e) else return none
  let required ← readiness.integer team "employee_count"
  let missing := max 0 (required - capacity fold teamName rooms)
  let servers ← (infrastructure.entities.filter (·.entityType = "server_group")).mapM server
  let cash ← cash snapshot
  let problem := assigned.any fun room => room.majorProblem || room.problemCount ≠ 0
  let need ← needOf fold snapshot missing (alternatives fold teamName rooms) cash
    ([unknownUtilities, unknownServers] ++ if problem then [unknownProblem] else [])
  let result : TeamOfficeReadiness :=
    { teamId := team.entityId
      teamName := ← text team "name" false
      employeeCount := required
      workStart := ← readiness.decimal team "work_start"
      workEnd := ← readiness.decimal team "work_end"
      currentCapacity := capacity fold teamName rooms
      requiredCapacity := required
      missingWorkstations := missing
      assignedRooms := assigned
      assignedEquipment := equipment.filterMap id
      cheaperExistingCapacity := alternatives fold teamName rooms
      exactMissingResource := need.missingResource
      expectedBenefit :=
        if missing = 0 then "Observed valid workstation capacity meets the team's employee count."
        else "Provide one valid assignable workstation per currently observed team member."
      oneTimeCost := need.oneTimeCost
      -- both are known in the same branches, and no recurring cost is known but none
      recurringCost := need.oneTimeCost.map fun _ => 0
      observedCash := cash
      cashReserveAfterPurchase := need.reserve
      servers
      materialUnknowns := need.unknowns }
  demand (0 ≤ required && 0 ≤ result.currentCapacity && result.oneTimeCost.all (0 ≤ ·)) .model
  return result

/-! ## What a cost pays for -/

/-- The price of `n` workstations: each takes the items of the bundle, the inventory comes first. -/
def priceOf (bundle : List (Purpose × FurnitureCatalogItem)) (n : Nat) : ℚ :=
  let items := bundle.map (·.2)
  ∑ item ∈ items.toFinset, item.oneTimeCost * (max 0 ((n * items.count item : Nat) - (item.inventoryCount : Int)) : Int)

/-- `n` workstations of the selected bundle are paid for. -/
def Paid (fold : String → String) (snapshot : GameSnapshot) (cost : ℚ) (n : Nat) : Prop :=
  n = 0 ∨ ∃ bundle, selectWorkstationCatalog fold snapshot = .ok bundle ∧ priceOf bundle n ≤ cost

/-- The workstations of the rooms with these ids. -/
def availableIn (ids : List String) (rooms : List RoomReadiness) : Int :=
  ((rooms.filter (·.roomId ∈ ids)).map (·.availableWorkstations)).sum

/-- A cost that is given, with the rooms that are listed, makes up for what the team lacks, and
is what the cash is less by. -/
def NeverUnderstates (fold : String → String) (snapshot : GameSnapshot) (rooms : List RoomReadiness)
    (r : TeamOfficeReadiness) : Prop :=
  ∀ cost, r.oneTimeCost = some cost →
    (∃ n : Nat, Paid fold snapshot cost n ∧
      r.employeeCount ≤
        ((r.assignedRooms.map (·.validWorkstations)).sum + availableIn r.cheaperExistingCapacity rooms + n)) ∧
    ∀ cash, r.observedCash = some cash → r.cashReserveAfterPurchase = some (cash - cost)

/-- The inventory holds the items of `n` workstations. -/
def Stocked (fold : String → String) (snapshot : GameSnapshot) (n : Nat) : Prop :=
  n = 0 ∨ ∃ bundle, selectWorkstationCatalog fold snapshot = .ok bundle ∧
    ∀ item ∈ bundle.map (·.2), n * (bundle.map (·.2)).count item ≤ item.inventoryCount

/-- Of an item that a workstation takes twice, the inventory has none, or all that are needed. -/
def InventoryUnshared (fold : String → String) (snapshot : GameSnapshot) (missing : Int) : Prop :=
  ∀ bundle, selectWorkstationCatalog fold snapshot = .ok bundle → ∀ item ∈ bundle.map (·.2),
    (bundle.map (·.2)).count item = 1 ∨ item.inventoryCount = 0 ∨
      missing * (bundle.map (·.2)).count item ≤ item.inventoryCount

/-- Nothing is missing; or there are free rooms, and these and the inventory have enough; or
there are none, and the inventory is not counted twice. -/
def NeedCovered (fold : String → String) (snapshot : GameSnapshot) (teamName : String) (rooms : List RoomReadiness)
    (employees : Int) : Prop :=
  let missing := employees - capacity fold teamName rooms
  let free := rooms.filter (·.isAlternative fold teamName)
  missing ≤ 0 ∨
    (free ≠ [] ∧ ∃ n, Stocked fold snapshot n ∧ missing ≤ (free.map (·.availableWorkstations)).sum + n) ∨
    (free = [] ∧ InventoryUnshared fold snapshot missing)

/-! ## The cost and the price -/

/-- What `c` pieces a workstation cost apart, each after the inventory, and together. -/
theorem apart_le_together (m c v : Nat) (hc : 1 ≤ c) :
    (c : Int) * max 0 ((m : Int) - v) ≤ max 0 ((m * c : Nat) - (v : Int)) := by
  push_cast
  have hv : (v : Int) ≤ c * v := by nlinarith
  rcases le_total (m : Int) v with h | h
  · rw [max_eq_left (by omega)]
    simp
  · rw [max_eq_right (by omega)]
    refine le_max_of_le_right ?_
    nlinarith

theorem together_le_apart_iff {m c v : Nat} (hc : 1 ≤ c) (hm : 1 ≤ m) :
    max 0 ((m * c : Nat) - (v : Int)) ≤ (c : Int) * max 0 ((m : Int) - v) ↔ c = 1 ∨ v = 0 ∨ (m : Int) * c ≤ v := by
  push_cast
  have hmc : (m : Int) ≤ m * c := by nlinarith
  constructor
  · intro h
    by_cases hstocked : (m : Int) * c ≤ v
    · exact .inr (.inr hstocked)
    · rw [max_eq_right (by omega)] at h
      rcases le_total (m : Int) v with hmv | hmv
      · rw [max_eq_left (by omega)] at h
        exact absurd h (by simp; omega)
      · rw [max_eq_right (by omega)] at h
        have hcv : ((c : Int) - 1) * v ≤ 0 := by nlinarith
        by_cases hone : c = 1
        · exact .inl hone
        · right
          left
          by_contra hv
          have : (1 : Int) ≤ ((c : Int) - 1) * v := by
            have h1 : (1 : Int) ≤ (c : Int) - 1 := by omega
            have h2 : (1 : Int) ≤ v := by omega
            nlinarith
          omega
  · rintro (hone | hnone | hstocked)
    · subst hone
      simp
    · subst hnone
      rw [Nat.cast_zero, sub_zero, sub_zero, max_eq_right (by positivity), max_eq_right (by positivity), mul_comm]
    · rw [max_eq_left (by omega), max_eq_left (by omega)]
      simp

section
variable {fold : String → String} {snapshot : GameSnapshot} {bundle : List (Purpose × FurnitureCatalogItem)}

theorem purchaseCost_eq (m : Nat) : purchaseCost m bundle =
    ∑ item ∈ (bundle.map (·.2)).toFinset,
      item.oneTimeCost * (((bundle.map (·.2)).count item * max 0 ((m : Int) - item.inventoryCount) : Int) : ℚ) := by
  have hmap : purchaseCost m bundle = ((bundle.map (·.2)).map fun item =>
      item.oneTimeCost * ((max 0 ((m : Int) - item.inventoryCount) : Int) : ℚ)).sum := by
    unfold purchaseCost
    rw [List.map_map]
    rfl
  rw [hmap, Finset.sum_list_map_count]
  refine Finset.sum_congr rfl fun item _ => ?_
  rw [nsmul_eq_mul]
  push_cast
  ring

theorem count_pos {item : FurnitureCatalogItem} (h : item ∈ (bundle.map (·.2)).toFinset) :
    1 ≤ (bundle.map (·.2)).count item := List.count_pos_iff.mpr (List.mem_toFinset.mp h)

/-- The cost pays for the missing workstations exactly where the inventory is not counted twice. -/
theorem priceOf_le_purchaseCost_iff {m : Nat} (hm : 1 ≤ m) :
    priceOf bundle m ≤ purchaseCost m bundle ↔ ∀ item ∈ bundle.map (·.2),
      (bundle.map (·.2)).count item = 1 ∨ item.inventoryCount = 0 ∨
        (m : Int) * (bundle.map (·.2)).count item ≤ item.inventoryCount := by
  have hle : ∀ item ∈ (bundle.map (·.2)).toFinset,
      item.oneTimeCost * (((bundle.map (·.2)).count item * max 0 ((m : Int) - item.inventoryCount) : Int) : ℚ) ≤
        item.oneTimeCost * (max 0 ((m * (bundle.map (·.2)).count item : Nat) - (item.inventoryCount : Int)) : Int) := by
    intro item hitem
    have hint := apart_le_together m _ item.inventoryCount (count_pos hitem)
    exact mul_le_mul_of_nonneg_left (by exact_mod_cast hint) item.cost_pos.le
  rw [purchaseCost_eq]
  unfold priceOf
  constructor
  · intro h item hitem
    have hin := List.mem_toFinset.mpr hitem
    have heq := (Finset.sum_eq_sum_iff_of_le hle).mp (le_antisymm (Finset.sum_le_sum hle) h) item hin
    have hint := mul_left_cancel₀ item.cost_pos.ne' heq
    rw [← together_le_apart_iff (count_pos hin) hm]
    exact le_of_eq (by exact_mod_cast hint.symm)
  · intro h
    refine Finset.sum_le_sum fun item hitem => ?_
    have hint := (together_le_apart_iff (count_pos hitem) hm).mpr (h item (List.mem_toFinset.mp hitem))
    exact mul_le_mul_of_nonneg_left (by exact_mod_cast hint) item.cost_pos.le

theorem priceOf_mono {m n : Nat} (h : m ≤ n) : priceOf bundle m ≤ priceOf bundle n := by
  refine Finset.sum_le_sum fun item _ => mul_le_mul_of_nonneg_left ?_ item.cost_pos.le
  have hmul : m * (bundle.map (·.2)).count item ≤ n * (bundle.map (·.2)).count item := Nat.mul_le_mul_right _ h
  have hint : max 0 ((m * (bundle.map (·.2)).count item : Nat) - (item.inventoryCount : Int)) ≤
      max 0 ((n * (bundle.map (·.2)).count item : Nat) - (item.inventoryCount : Int)) := by omega
  exact_mod_cast hint

/-- What costs nothing comes out of the inventory. -/
theorem priceOf_nonpos_iff {n : Nat} : priceOf bundle n ≤ 0 ↔
    ∀ item ∈ bundle.map (·.2), n * (bundle.map (·.2)).count item ≤ item.inventoryCount := by
  have hnonneg : ∀ item ∈ (bundle.map (·.2)).toFinset, (0 : ℚ) ≤
      item.oneTimeCost * (max 0 ((n * (bundle.map (·.2)).count item : Nat) - (item.inventoryCount : Int)) : Int) :=
    fun item _ => mul_nonneg item.cost_pos.le (by exact_mod_cast le_max_left _ _)
  constructor
  · intro h item hitem
    have hzero := (Finset.sum_eq_zero_iff_of_nonneg hnonneg).mp (le_antisymm h (Finset.sum_nonneg hnonneg)) item
      (List.mem_toFinset.mpr hitem)
    have hmax := (mul_eq_zero.mp hzero).resolve_left item.cost_pos.ne'
    have hint : max 0 ((n * (bundle.map (·.2)).count item : Nat) - (item.inventoryCount : Int)) = 0 := by
      exact_mod_cast hmax
    omega
  · intro h
    refine Finset.sum_nonpos fun item hitem => ?_
    have hstocked := h item (List.mem_toFinset.mp hitem)
    have hint : max 0 ((n * (bundle.map (·.2)).count item : Nat) - (item.inventoryCount : Int)) = 0 := by omega
    rw [hint]
    simp

theorem paid_zero_iff {n : Nat} : Paid fold snapshot 0 n ↔ Stocked fold snapshot n := by
  unfold Paid Stocked
  simp only [priceOf_nonpos_iff]

end

/-! ## The need -/

/-- What a need costs makes up for the missing workstations, with those that are available. -/
def Need.Covers (fold : String → String) (snapshot : GameSnapshot) (cash : Option ℚ) (missing available : Int)
    (need : Need) : Prop :=
  ∀ cost, need.oneTimeCost = some cost →
    (∃ n : Nat, Paid fold snapshot cost n ∧ missing ≤ available + n) ∧
    ∀ amount, cash = some amount → need.reserve = some (amount - cost)

section
variable {fold : String → String} {snapshot : GameSnapshot} {missing available : Int} {free : List String}
  {cash : Option ℚ} {unknowns : List String} {need : Need}

theorem covers_of_enough (hneed : needOf fold snapshot (max 0 missing) free cash unknowns = .ok need)
    (henough : missing ≤ 0) (havailable : 0 ≤ available) : need.Covers fold snapshot cash missing available := by
  unfold needOf at hneed
  rw [if_pos (max_eq_left henough)] at hneed
  cases hneed
  intro cost hcost
  cases hcost
  refine ⟨⟨0, .inl rfl, by omega⟩, fun amount hamount => ?_⟩
  rw [hamount, sub_zero]

/-- The free rooms are taken to suffice. -/
theorem covers_free_iff (hneed : needOf fold snapshot (max 0 missing) free cash unknowns = .ok need)
    (hmissing : 1 ≤ missing) (hfree : free ≠ []) :
    need.Covers fold snapshot cash missing available ↔ ∃ n, Stocked fold snapshot n ∧ missing ≤ available + n := by
  unfold needOf at hneed
  rw [if_neg (by omega), if_pos hfree] at hneed
  cases hneed
  constructor
  · intro hcovers
    obtain ⟨⟨n, hpaid, hn⟩, -⟩ := hcovers 0 rfl
    exact ⟨n, paid_zero_iff.mp hpaid, hn⟩
  · rintro ⟨n, hstocked, hn⟩ cost hcost
    cases hcost
    refine ⟨⟨n, paid_zero_iff.mpr hstocked, hn⟩, fun amount hamount => ?_⟩
    rw [hamount, sub_zero]

theorem paid_purchaseCost_iff {bundle : List (Purpose × FurnitureCatalogItem)} {m : Nat}
    (hselect : selectWorkstationCatalog fold snapshot = .ok bundle) (hm : 1 ≤ m) :
    (∃ n : Nat, Paid fold snapshot (purchaseCost m bundle) n ∧ (m : Int) ≤ 0 + n) ↔
      priceOf bundle m ≤ purchaseCost m bundle := by
  constructor
  · rintro ⟨n, hpaid, hn⟩
    rcases hpaid with hn0 | ⟨bundle', hbundle', hprice⟩
    · omega
    · cases hselect.symm.trans hbundle'
      exact le_trans (priceOf_mono (by omega)) hprice
  · intro hprice
    exact ⟨m, .inr ⟨bundle, hselect, hprice⟩, by omega⟩

/-- Without free rooms the workstations are bought, where a bundle is for sale. -/
theorem covers_bought_iff (hneed : needOf fold snapshot (max 0 missing) [] cash unknowns = .ok need)
    (hmissing : 1 ≤ missing) :
    need.Covers fold snapshot cash missing 0 ↔ InventoryUnshared fold snapshot missing := by
  obtain ⟨m, rfl⟩ : ∃ m : Nat, missing = m := ⟨missing.toNat, by omega⟩
  unfold needOf at hneed
  rw [if_neg (by omega), if_neg (not_not_intro rfl), max_eq_right (by omega)] at hneed
  cases hselect : selectWorkstationCatalog fold snapshot with
  | error e =>
    have hunshared : InventoryUnshared fold snapshot m := fun bundle hbundle => by
      rw [hselect] at hbundle
      cases hbundle
    rw [hselect] at hneed
    cases e with
    | validation message =>
      cases hneed
      exact ⟨fun _ => hunshared, fun _ cost hcost => by cases hcost⟩
    | _ => cases hneed
  | ok bundle =>
    have hunshared : InventoryUnshared fold snapshot m ↔ priceOf bundle m ≤ purchaseCost m bundle := by
      rw [priceOf_le_purchaseCost_iff (by omega)]
      constructor
      · intro h
        exact h bundle hselect
      · intro h bundle' hbundle'
        cases hselect.symm.trans hbundle'
        exact h
    rw [hselect] at hneed
    cases hneed
    rw [hunshared, ← paid_purchaseCost_iff hselect (by omega)]
    constructor
    · intro hcovers
      exact (hcovers _ rfl).1
    · intro hpaid cost hcost
      cases hcost
      refine ⟨hpaid, fun amount hamount => ?_⟩
      rw [hamount]
      rfl

end

/-! ## The result -/

section
variable {fold : String → String} {snapshot : GameSnapshot} {teamName : String} {offices : ObservationSurface}
  {shown : List RoomReadiness} {count : Int} {r : TeamOfficeReadiness}

theorem roomReadiness_roomId {e : ObservedEntity} {room : RoomReadiness} (h : roomReadiness e = .ok room) :
    room.roomId = e.entityId := by
  simp only [roomReadiness, Except.bind_eq_ok] at h
  obtain ⟨_, -, _, -, _, -, _, -, _, -, _, -, _, -, _, -, _, -, _, -, _, -, _, -, -, -, h⟩ := h
  cases h
  rfl

theorem roomIds_nodup (hkeys : (offices.entities.map ObservedEntity.key).Nodup) (h : rooms offices = .ok shown) :
    (shown.map (·.roomId)).Nodup := by
  rw [Except.map_of_mapM (k := (·.entityId)) (fun _ _ => roomReadiness_roomId) h]
  exact nodup_entityIds (fun e he => of_decide_eq_true (List.mem_filter.mp he).2)
    (hkeys.sublist (List.Sublist.map _ List.filter_sublist))

/-- The rooms that are listed are the free ones. -/
theorem availableIn_alternatives (h : (shown.map (·.roomId)).Nodup) :
    availableIn (alternatives fold teamName shown) shown =
      ((shown.filter (·.isAlternative fold teamName)).map (·.availableWorkstations)).sum := by
  have hfilter : shown.filter (fun r => decide (r.roomId ∈ alternatives fold teamName shown)) =
      shown.filter (·.isAlternative fold teamName) := by
    refine List.filter_congr fun room hroom => ?_
    unfold alternatives
    rw [Bool.eq_iff_iff, decide_eq_true_iff, List.mem_map]
    constructor
    · rintro ⟨free, hfree, hid⟩
      obtain ⟨hin, halternative⟩ := List.mem_filter.mp hfree
      rw [← List.inj_on_of_nodup_map h hin hroom hid]
      exact halternative
    · intro halternative
      exact ⟨room, List.mem_filter.mpr ⟨hroom, halternative⟩, rfl⟩
  unfold availableIn
  rw [hfilter]

theorem alternatives_eq_nil : alternatives fold teamName shown = [] ↔
    shown.filter (·.isAlternative fold teamName) = [] := List.map_eq_nil_iff

theorem projectTeamReadiness_ok (hoffices : complete snapshot "offices" = .ok offices)
    (hshown : rooms offices = .ok shown) (hcount : employees fold snapshot teamName = .ok count)
    (h : projectTeamReadiness fold snapshot teamName = .ok r) :
    r.employeeCount = count ∧ r.assignedRooms = shown.filter (·.assignedTo fold teamName) ∧
      r.cheaperExistingCapacity = alternatives fold teamName shown ∧
      ∃ need unknowns, needOf fold snapshot (max 0 (count - capacity fold teamName shown))
          (alternatives fold teamName shown) r.observedCash unknowns = .ok need ∧
        r.oneTimeCost = need.oneTimeCost ∧ r.cashReserveAfterPurchase = need.reserve := by
  simp only [employees, Except.bind_eq_ok] at hcount
  obtain ⟨teams, hteams, team, hteam, hcount⟩ := hcount
  simp only [projectTeamReadiness, Except.bind_eq_ok] at h
  obtain ⟨teams', hteams', team', hteam', offices', hoffices', _, -, shown', hshown', equipment, -, required, hrequired,
    servers, -, cash, -, need, hneed, name, -, start, -, stop, -, -, -, h⟩ := h
  cases hteams.symm.trans hteams'
  cases hteam.symm.trans hteam'
  cases hoffices.symm.trans hoffices'
  cases hshown.symm.trans hshown'
  cases hcount.symm.trans hrequired
  cases h
  exact ⟨rfl, rfl, rfl, need, _, hneed, rfl, rfl⟩

theorem available_nonneg : 0 ≤ ((shown.filter (·.isAlternative fold teamName)).map (·.availableWorkstations)).sum := by
  refine List.sum_nonneg fun x hx => ?_
  obtain ⟨room, hroom, rfl⟩ := List.mem_map.mp hx
  have halternative := (List.mem_filter.mp hroom).2
  simp only [RoomReadiness.isAlternative, Bool.and_eq_true, decide_eq_true_eq] at halternative
  exact halternative.2.le

/-- A given cost covers the need exactly where nothing is missing, the free rooms and the
inventory have enough, or, without free rooms, the inventory is counted once. -/
theorem never_understates_iff (hoffices : complete snapshot "offices" = .ok offices)
    (hkeys : (offices.entities.map ObservedEntity.key).Nodup) (hshown : rooms offices = .ok shown)
    (hcount : employees fold snapshot teamName = .ok count) (h : projectTeamReadiness fold snapshot teamName = .ok r) :
    NeverUnderstates fold snapshot shown r ↔ NeedCovered fold snapshot teamName shown count := by
  obtain ⟨hemployees, hassigned, hlisted, need, unknowns, hneed, hcost, hreserve⟩ :=
    projectTeamReadiness_ok hoffices hshown hcount h
  have hcovers : NeverUnderstates fold snapshot shown r ↔ need.Covers fold snapshot r.observedCash
      (count - capacity fold teamName shown)
      ((shown.filter (·.isAlternative fold teamName)).map (·.availableWorkstations)).sum := by
    unfold NeverUnderstates Need.Covers
    rw [hemployees, hassigned, hlisted, availableIn_alternatives (roomIds_nodup hkeys hshown), hcost, hreserve]
    refine forall_congr' fun cost => imp_congr_right fun _ =>
      and_congr_left' (exists_congr fun n => and_congr_right' ?_)
    unfold capacity
    omega
  rw [hcovers]
  unfold NeedCovered
  by_cases henough : count - capacity fold teamName shown ≤ 0
  · exact ⟨fun _ => .inl henough, fun _ => covers_of_enough hneed henough available_nonneg⟩
  · by_cases hfree : alternatives fold teamName shown = []
    · have hempty := alternatives_eq_nil.mp hfree
      rw [hfree] at hneed
      rw [hempty, List.map_nil, List.sum_nil, covers_bought_iff hneed (by omega)]
      constructor
      · intro hunshared
        exact .inr (.inr ⟨rfl, hunshared⟩)
      · rintro (hle | ⟨hsome, -⟩ | ⟨-, hunshared⟩)
        · exact absurd hle henough
        · exact absurd rfl hsome
        · exact hunshared
    · have hsome := mt alternatives_eq_nil.mpr hfree
      rw [covers_free_iff hneed (by omega) hfree]
      constructor
      · intro hstocked
        exact .inr (.inl ⟨hsome, hstocked⟩)
      · rintro (hle | ⟨-, hstocked⟩ | ⟨hempty, -⟩)
        · exact absurd hle henough
        · exact hstocked
        · exact absurd hempty hsome

end

section Example

/-- An empty room with one workstation. -/
def attic : ObservedEntity where
  entityType := "office_room"
  entityId := "attic"
  values :=
    [("floor", .integer 0), ("assigned_teams", .string ""), ("assignable_workstations", .integer 1),
      ("valid_workstations", .integer 1), ("available_workstations", .integer 1), ("total_furniture", .integer 3),
      ("major_problem", .boolean false), ("problem_count", .integer 0), ("is_lit", .boolean true),
      ("environment", .integer 1), ("temperature", .integer 21), ("acoustics", .integer 1)]

def atticOffices : ObservationSurface := observed "offices" [attic]

/-- A team of five without a room. -/
def crowd : GameSnapshot := gameShowing
  [observed "finances" [⟨"company_finances", "company", [("cash", .integer 320)]⟩], observed "infrastructure" [],
    atticOffices,
    observed "teams" [⟨"team", "core", [("name", .string "Core"), ("employee_count", .integer 5),
      ("work_start", .integer 8), ("work_end", .integer 16)]⟩]]

theorem crowd_projected : ∃ r, projectTeamReadiness asciiFold crowd "core" = .ok r :=
  Except.exists_ok (by decide +kernel)

theorem crowd_shown : ∃ shown, rooms atticOffices = .ok shown := Except.exists_ok (by decide +kernel)

theorem never_understates_iff_crowd : ∃ r shown, projectTeamReadiness asciiFold crowd "core" = .ok r ∧
    (NeverUnderstates asciiFold crowd shown r ↔ NeedCovered asciiFold crowd "core" shown 5) := by
  obtain ⟨r, hr⟩ := crowd_projected
  obtain ⟨shown, hshown⟩ := crowd_shown
  have hoffices : complete crowd "offices" = .ok atticOffices := rfl
  exact ⟨r, shown, hr, never_understates_iff hoffices (by decide +kernel) hshown
    (eq_ok_of_toOption (by decide +kernel)) hr⟩

/-- Five places are missing, the one free room has one, and the cost is given as nothing. -/
theorem not_never_understates_crowd : ∃ r shown, projectTeamReadiness asciiFold crowd "core" = .ok r ∧
    rooms atticOffices = .ok shown ∧ ¬ NeverUnderstates asciiFold crowd shown r := by
  obtain ⟨r, hr⟩ := crowd_projected
  obtain ⟨shown, hshown⟩ := crowd_shown
  have hfacts : (projectTeamReadiness asciiFold crowd "core").toOption.map
      (fun r => (r.oneTimeCost, r.employeeCount, r.assignedRooms, r.cheaperExistingCapacity)) =
        some (some 0, 5, [], ["attic"]) := by decide +kernel
  have havailable : (rooms atticOffices).toOption.map (availableIn ["attic"]) = some 1 := by decide +kernel
  have hr' := Except.apply_of_map hr hfacts
  simp only [Prod.mk.injEq] at hr'
  obtain ⟨hcost, hcount, hassigned, hlisted⟩ := hr'
  have hone := Except.apply_of_map hshown havailable
  refine ⟨r, shown, hr, hshown, fun hnever => ?_⟩
  obtain ⟨⟨n, hpaid, hn⟩, -⟩ := hnever 0 hcost
  rw [hcount, hassigned, hlisted, hone] at hn
  rcases hpaid with hn0 | ⟨bundle, hbundle, -⟩
  · subst hn0
    exact absurd hn (by decide)
  · -- no catalog is observed
    cases hbundle

end Example

end SimPilot.SoftwareInc.Workstation.Office
