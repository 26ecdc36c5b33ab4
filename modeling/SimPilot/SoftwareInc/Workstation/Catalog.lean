import SimPilot.SoftwareInc.Contracts.Workflow
import Mathlib.Data.List.MinMax
/-!
# The furniture catalog and the bundle of a workstation (software_inc/ui/workstation.py)

What the planners of workstations and offices read from a snapshot, the items of the build
catalog, and the choice of a computer, a desk or table and a chair.

| here | there |
|---|---|
| `text`, …, `uniqueNamed` | `_text`, …, `_unique_named` (workstation.py:633-758, office.py:393-516) |
| `catalogAvailable`, `catalogItem` | workstation.py:608-656 |
| `minimalBundle`, `selectWorkstationCatalog` | workstation.py:482, :343 |

`fold` is `str.casefold`. `_integer`, `_boolean`, `_decimal` and `_unique_named` are written in
both files and differ in their texts alone, which `Reader` holds.
-/

namespace SimPilot.SoftwareInc.Workstation

open GameBridge
open Contracts (decimalOf DecimalText)

/-! ## Reading -/

/-- The texts of one file's readers. -/
structure Reader where
  notInteger : String
  notBoolean : String
  notNumeric : String
  invalid : String
  missing : String
  ambiguous : String

def unread {α : Type} (e : ObservedEntity) (field complaint : String) : Except UIError α :=
  .error (.validation (e.entityId ++ "." ++ field ++ " " ++ complaint))

/-- `if not holds: raise error` -/
def demand (holds : Bool) (error : UIError) : Except UIError Unit := if holds then .ok () else .error error

/-- `_text` -/
def text (e : ObservedEntity) (field : String) (allowEmpty : Bool) : Except UIError String :=
  match stringAt e.values field with
  | some s => if allowEmpty = false ∧ s = "" then unread e field "is not observed text" else .ok s
  | none => unread e field "is not observed text"

/-- `tuple(sorted(filter(None, text.split("|"))))` -/
def sortedParts (value : String) : List String := (splitParts '|' value).insertionSort (· ≤ ·)

/-- `_strings` -/
def strings (e : ObservedEntity) (field : String) : Except UIError (List String) := do
  return sortedParts (← text e field true)

/-- `_room_teams` -/
def roomTeams (room : ObservedEntity) : Except UIError (List String) := strings room "assigned_teams"

namespace Reader

variable (r : Reader)

/-- `_integer` -/
def integer (e : ObservedEntity) (field : String) : Except UIError Int :=
  match integerAt e.values field with
  | some i => .ok i
  | none => unread e field r.notInteger

/-- `_boolean` -/
def boolean (e : ObservedEntity) (field : String) : Except UIError Bool :=
  match flagAt e.values field with
  | some b => .ok b
  | none => unread e field r.notBoolean

/-- `_decimal` -/
def decimal (e : ObservedEntity) (field : String) : Except UIError ℚ :=
  match numberAt e.values field, stringAt e.values field with
  | some q, _ => .ok q
  | none, some s => match decimalOf s with
    | .finite q => .ok q
    | .special => unread e field "is not finite"
    | .invalid => unread e field r.invalid
  | none, none => unread e field r.notNumeric

end Reader

/-- `_complete` -/
def complete (snapshot : GameSnapshot) (name : String) : Except UIError ObservationSurface :=
  match surfacesNamed snapshot name with
  | [s] => if s.coverage.status ≠ .observedComplete then required else .ok s
  | _ => required
where
  required : Except UIError ObservationSurface :=
    .error (.validation ("complete " ++ name ++ " observation is required"))

/-- `[e for e in es if condition(e)]` of a condition that may raise. -/
def listing (condition : ObservedEntity → Except UIError Bool) (es : List ObservedEntity) :
    Except UIError (List ObservedEntity) := do
  let judged ← es.mapM fun e => do return (e, ← condition e)
  return (judged.filter (·.2)).map (·.1)

theorem mem_listing {condition : ObservedEntity → Except UIError Bool} {es found : List ObservedEntity}
    (h : listing condition es = .ok found) (e : ObservedEntity) :
    e ∈ found ↔ e ∈ es ∧ condition e = .ok true := by
  obtain ⟨judged, hjudged, h⟩ := Except.bind_eq_ok.mp h
  cases h
  have hmem := Except.mem_mapM hjudged
  simp only [List.mem_map, List.mem_filter]
  constructor
  · rintro ⟨⟨e', b⟩, ⟨hin, hb⟩, rfl⟩
    obtain ⟨x, hx, hread⟩ := (hmem _).mp hin
    obtain ⟨b', hb', heq⟩ := Except.bind_eq_ok.mp hread
    cases heq
    have htrue : b = true := hb
    exact ⟨hx, htrue ▸ hb'⟩
  · rintro ⟨hin, hcondition⟩
    refine ⟨(e, true), ⟨(hmem _).mpr ⟨e, hin, ?_⟩, rfl⟩, rfl⟩
    rw [hcondition]
    rfl

/-- `_unique_named`, where `fold` is `str.casefold` -/
def Reader.uniqueNamed (r : Reader) (fold : String → String) (surface : ObservationSurface)
    (entityType field requested : String) : Except UIError ObservedEntity := do
  match ← listing (fun e => do return fold (← text e field false) = fold requested)
    (surface.entities.filter (·.entityType = entityType)) with
  | [e] => return e
  | [] => .error (.validation (entityType ++ " " ++ strRepr requested ++ " " ++ r.missing))
  | _ => .error (.validation (entityType ++ " " ++ strRepr requested ++ " " ++ r.ambiguous))

/-- The readers of workstation.py. -/
def planning : Reader where
  notInteger := "is not observed integer"
  notBoolean := "is not observed boolean"
  notNumeric := "is not observed numeric"
  invalid := "is invalid"
  missing := "did not resolve once"
  ambiguous := "did not resolve once"

/-- The entities of one type, under different keys, have different ids. -/
theorem nodup_entityIds {es : List ObservedEntity} {type : String} (htype : ∀ e ∈ es, e.entityType = type)
    (hkeys : (es.map ObservedEntity.key).Nodup) : (es.map (·.entityId)).Nodup := by
  refine List.Nodup.of_map (fun name => toLex (type, name)) ?_
  have hmap : (es.map (·.entityId)).map (fun name => toLex (type, name)) = es.map ObservedEntity.key := by
    rw [List.map_map]
    refine List.map_congr_left fun e he => ?_
    show toLex (type, e.entityId) = toLex (e.entityType, e.entityId)
    rw [htype e he]
  rw [hmap]
  exact hkeys

/-! ## The catalog -/

@[ext] structure FurnitureCatalogItem where
  itemId : String
  displayName : String
  prefabName : String
  furnitureType : String
  searchTitle : String
  oneTimeCost : ℚ
  wattage : ℚ
  computerPower : ℚ
  inventoryCount : Nat
  canAssign : Bool
  needsChair : Bool
  isSnapping : Bool
  snapsTo : List String
  snapPoints : List String
  categories : List String
  functionCategory : String
  cost_pos : 0 < oneTimeCost

instance : DecidableEq FurnitureCatalogItem := fun _ _ => decidable_of_iff _ FurnitureCatalogItem.ext_iff.symm

/-- `_catalog_available` -/
def catalogAvailable (e : ObservedEntity) : Bool :=
  e.entityType = "furniture_catalog_item" && flagAt e.values "searchable" = some true &&
    flagAt e.values "search_enabled" = some true && flagAt e.values "construction" = some false &&
    flagAt e.values "valid_indoors" = some true && (numberAt e.values "one_time_cost").any (0 < ·)

/-- `_catalog_item` -/
def catalogItem (e : ObservedEntity) : Except UIError FurnitureCatalogItem := do
  demand (e.entityType = "furniture_catalog_item") (.validation "build catalog contains an unexpected entity type")
  demand (← planning.boolean e "searchable") unsearchable
  demand (← planning.boolean e "search_enabled") unsearchable
  demand (!(← planning.boolean e "construction")) unsupported
  demand (← planning.boolean e "valid_indoors") unsupported
  let cost ← planning.decimal e "one_time_cost"
  if hcost : 0 < cost then
    let displayName ← text e "display_name" false
    let prefabName ← text e "prefab_name" false
    let furnitureType ← text e "type" true
    let searchTitle ← text e "search_title" false
    let wattage ← planning.decimal e "wattage"
    let computerPower ← planning.decimal e "computer_power"
    let inventoryCount ← planning.integer e "inventory_count"
    let canAssign ← planning.boolean e "can_assign"
    let needsChair ← planning.boolean e "needs_chair"
    let isSnapping ← planning.boolean e "is_snapping"
    let snapsTo ← strings e "snaps_to"
    let snapPoints ← strings e "snap_points"
    let categories ← strings e "categories"
    let functionCategory ← text e "function_category" true
    demand (0 ≤ inventoryCount) .model
    return { itemId := e.entityId, displayName, prefabName, furnitureType, searchTitle, oneTimeCost := cost
             wattage := max 0 wattage, computerPower := max 0 computerPower, inventoryCount := inventoryCount.toNat
             canAssign, needsChair, isSnapping, snapsTo, snapPoints, categories, functionCategory
             cost_pos := hcost }
  else .error (refusal "does not expose a positive exact price")
where
  refusal (complaint : String) : UIError := .validation ("catalog item " ++ e.entityId ++ " " ++ complaint)
  unsearchable : UIError := refusal "is not currently available through global search"
  unsupported : UIError := refusal "is not supported indoor furniture"

/-- The items the catalog offers now. -/
def availableCatalog (snapshot : GameSnapshot) : Except UIError (List FurnitureCatalogItem) := do
  ((← complete snapshot "build_catalog").entities.filter catalogAvailable).mapM catalogItem

/-! ## The bundle -/

inductive Purpose where
  | workSurface | computer | chair | trashcan
  deriving DecidableEq, Repr

/-- `_catalog_order` -/
def catalogOrder (i : FurnitureCatalogItem) : ℚ ×ₗ ℚ ×ₗ String := toLex (i.oneTimeCost, toLex (i.wattage, i.itemId))

/-- The first of the items in catalog order. -/
def firstInOrder (items : List FurnitureCatalogItem) (complaint : String) : Except UIError FurnitureCatalogItem :=
  match items.argmin catalogOrder with
  | some item => .ok item
  | none => .error (.validation complaint)

/-- The part stands free, or has a snap point on the base. -/
def snapsOnto (part base : FurnitureCatalogItem) : Bool := part.snapsTo = [] || part.snapsTo.any (· ∈ base.snapPoints)

section
variable (fold : String → String)

/-- `_unique_search_titles` -/
def uniqueSearchTitles (catalog : List FurnitureCatalogItem) : List FurnitureCatalogItem :=
  catalog.filter fun item => (catalog.filter fun other => fold other.searchTitle = fold item.searchTitle).length = 1

def isComputer (i : FurnitureCatalogItem) : Bool := fold i.furnitureType = "computer" && i.canAssign && i.needsChair

def isSurfaceFor (computer i : FurnitureCatalogItem) : Bool :=
  fold i.furnitureType ∈ ["desk", "table"] && snapsOnto computer i

def isChairFor (surface i : FurnitureCatalogItem) : Bool :=
  (inText "chair" (fold i.furnitureType) || inText "chair" (fold i.displayName)) && snapsOnto i surface

/-- `_minimal_bundle` -/
def minimalBundle (catalog : List FurnitureCatalogItem) : Except UIError (List (Purpose × FurnitureCatalogItem)) := do
  let unique := uniqueSearchTitles fold catalog
  let computer ← firstInOrder (unique.filter (isComputer fold))
    "no unique, enabled Computer catalog item exposes the verified workstation contract"
  let surface ← firstInOrder (unique.filter (isSurfaceFor fold computer))
    "no unique searchable desk/table exposes a compatible Computer snap point"
  let chair ← firstInOrder (unique.filter (isChairFor fold surface))
    "no unique searchable chair exposes a compatible desk/table snap point"
  return [(.workSurface, surface), (.computer, computer), (.chair, chair)]

def selectWorkstationCatalog (snapshot : GameSnapshot) : Except UIError (List (Purpose × FurnitureCatalogItem)) := do
  minimalBundle fold (← availableCatalog snapshot)

/-! ## What is cheapest -/

/-- The items among which a bundle is chosen: those that can be read, of the available ones. -/
def offered (catalog : ObservationSurface) : List FurnitureCatalogItem :=
  uniqueSearchTitles fold ((catalog.entities.filter catalogAvailable).filterMap fun e => (catalogItem e).toOption)

/-- Three items that make a workstation. -/
structure Compatible (items : List FurnitureCatalogItem) (surface computer chair : FurnitureCatalogItem) : Prop where
  surface_mem : surface ∈ items
  computer_mem : computer ∈ items
  chair_mem : chair ∈ items
  computes : isComputer fold computer = true
  carries : isSurfaceFor fold computer surface = true
  seats : isChairFor fold surface chair = true

/-- The price of three items. -/
def price (surface computer chair : FurnitureCatalogItem) : ℚ :=
  surface.oneTimeCost + computer.oneTimeCost + chair.oneTimeCost

/-- Where the items offered make a workstation, one of the cheapest is selected. -/
def SelectsCheapest (snapshot : GameSnapshot) (catalog : ObservationSurface) : Prop :=
  (∃ surface computer chair, Compatible fold (offered fold catalog) surface computer chair) →
    ∃ surface computer chair,
      selectWorkstationCatalog fold snapshot =
          .ok [(.workSurface, surface), (.computer, computer), (.chair, chair)] ∧
        Compatible fold (offered fold catalog) surface computer chair ∧
        ∀ surface' computer' chair', Compatible fold (offered fold catalog) surface' computer' chair' →
          price surface computer chair ≤ price surface' computer' chair'

/-- The item comes first, in catalog order, of those offered that meet the condition. -/
structure Foremost (items : List FurnitureCatalogItem) (meets : FurnitureCatalogItem → Bool)
    (item : FurnitureCatalogItem) : Prop where
  mem : item ∈ items
  suits : meets item = true
  first : ∀ other ∈ items, meets other = true → catalogOrder item ≤ catalogOrder other

/-- Every available entry reads as an item, the foremost computer fits a desk or table, the
foremost of these takes a chair, and no other workstation saves on the computer, the desk and
the chair together what it loses against the foremost of each. -/
structure StepwiseCheapest (catalog : ObservationSurface) : Prop where
  readable : ∀ e ∈ catalog.entities, catalogAvailable e = true → (catalogItem e).isOk = true
  cheapest : ∃ surface computer chair,
    Foremost (offered fold catalog) (isComputer fold) computer ∧
      Foremost (offered fold catalog) (isSurfaceFor fold computer) surface ∧
      Foremost (offered fold catalog) (isChairFor fold surface) chair ∧
      ∀ surface' computer' chair', Compatible fold (offered fold catalog) surface' computer' chair' →
        (surface.oneTimeCost - surface'.oneTimeCost) + (chair.oneTimeCost - chair'.oneTimeCost) ≤
          computer'.oneTimeCost - computer.oneTimeCost

end

/-! ## The items -/

theorem catalogItem_itemId {e : ObservedEntity} {i : FurnitureCatalogItem} (h : catalogItem e = .ok i) :
    i.itemId = e.entityId := by
  simp only [catalogItem, Except.bind_eq_ok] at h
  obtain ⟨-, -, _, -, -, -, _, -, -, -, _, -, -, -, _, -, -, -, cost, -, h⟩ := h
  split_ifs at h with hcost
  simp only [Except.bind_eq_ok] at h
  obtain ⟨_, -, _, -, _, -, _, -, _, -, _, -, _, -, _, -, _, -, _, -, _, -, _, -, _, -, _, -, _, -, h⟩ := h
  cases h
  rfl

/-- An available entry is of the one type of the catalog. -/
theorem entityType_of_available {e : ObservedEntity} (h : catalogAvailable e = true) :
    e.entityType = "furniture_catalog_item" := by
  simp only [catalogAvailable, Bool.and_eq_true, decide_eq_true_eq] at h
  exact h.1.1.1.1.1

section
variable {fold : String → String} {snapshot : GameSnapshot} {catalog : ObservationSurface}

/-- The items offered have different ids, as the entries of a surface have different keys. -/
theorem offered_itemIds (hkeys : (catalog.entities.map ObservedEntity.key).Nodup) :
    ((offered fold catalog).map (·.itemId)).Nodup := by
  have hsub : ∀ es : List ObservedEntity,
      ((es.filterMap fun e => (catalogItem e).toOption).map (·.itemId)).Sublist (es.map (·.entityId)) := by
    intro es
    induction es with
    | nil => exact List.Sublist.slnil
    | cons e es ih =>
      cases he : catalogItem e with
      | error x =>
        rw [List.filterMap_cons, he]
        exact List.Sublist.cons _ ih
      | ok i =>
        rw [List.filterMap_cons, he, List.map_cons]
        show (i.itemId :: _).Sublist _
        rw [catalogItem_itemId he]
        exact List.Sublist.cons_cons _ ih
  have hids := nodup_entityIds (fun e he => entityType_of_available (List.mem_filter.mp he).2)
    (hkeys.sublist (List.Sublist.map _ (List.filter_sublist (p := catalogAvailable))))
  exact ((hsub _).nodup hids).sublist (List.Sublist.map _ List.filter_sublist)

/-- Where every available entry reads as an item, the catalog is what they read as. -/
theorem availableCatalog_eq (hcomplete : complete snapshot "build_catalog" = .ok catalog)
    (hread : ∀ e ∈ catalog.entities, catalogAvailable e = true → (catalogItem e).isOk = true) :
    ∃ items, availableCatalog snapshot = .ok items ∧ uniqueSearchTitles fold items = offered fold catalog := by
  obtain ⟨items, hitems⟩ := Except.mapM_ok_of_forall
    fun e (he : e ∈ catalog.entities.filter catalogAvailable) =>
      hread e (List.mem_filter.mp he).1 (List.mem_filter.mp he).2
  refine ⟨items, ?_, ?_⟩
  · unfold availableCatalog
    rw [hcomplete]
    exact hitems
  · unfold offered
    rw [Except.filterMap_toOption hitems]

theorem readable_of_availableCatalog {items : List FurnitureCatalogItem}
    (hcomplete : complete snapshot "build_catalog" = .ok catalog) (h : availableCatalog snapshot = .ok items) :
    ∀ e ∈ catalog.entities, catalogAvailable e = true → (catalogItem e).isOk = true := by
  intro e he havailable
  unfold availableCatalog at h
  rw [hcomplete] at h
  obtain ⟨i, hi⟩ := Except.exists_of_mapM h (List.mem_filter.mpr ⟨he, havailable⟩)
  rw [hi]
  rfl

end

/-! ## The choices -/

theorem firstInOrder_eq_ok {items : List FurnitureCatalogItem} {complaint : String} {i : FurnitureCatalogItem} :
    firstInOrder items complaint = .ok i ↔ items.argmin catalogOrder = some i := by
  unfold firstInOrder
  cases h : items.argmin catalogOrder with
  | none => simp
  | some j => simp

theorem foremost_of_firstInOrder {items : List FurnitureCatalogItem} {meets : FurnitureCatalogItem → Bool}
    {complaint : String} {i : FurnitureCatalogItem} (h : firstInOrder (items.filter meets) complaint = .ok i) :
    Foremost items meets i := by
  have hmin := firstInOrder_eq_ok.mp h
  have hmem := List.mem_filter.mp (List.argmin_mem hmin)
  exact ⟨hmem.1, hmem.2, fun other hother hmeets =>
    List.le_of_mem_argmin (List.mem_filter.mpr ⟨hother, hmeets⟩) hmin⟩

/-- The foremost item is the one chosen: no other has its place in the order. -/
theorem firstInOrder_of_foremost {items : List FurnitureCatalogItem} {meets : FurnitureCatalogItem → Bool}
    {i : FurnitureCatalogItem} (hids : (items.map (·.itemId)).Nodup) (h : Foremost items meets i) (complaint : String) :
    firstInOrder (items.filter meets) complaint = .ok i := by
  rw [firstInOrder_eq_ok]
  cases hmin : (items.filter meets).argmin catalogOrder with
  | none =>
    have hempty := List.argmin_eq_none.mp hmin
    have hi : i ∈ items.filter meets := List.mem_filter.mpr ⟨h.mem, h.suits⟩
    rw [hempty] at hi
    cases hi
  | some j =>
    have hj := List.mem_filter.mp (List.argmin_mem hmin)
    have hle : catalogOrder j ≤ catalogOrder i := List.le_of_mem_argmin (List.mem_filter.mpr ⟨h.mem, h.suits⟩) hmin
    have heq : catalogOrder j = catalogOrder i := le_antisymm hle (h.first j hj.1 hj.2)
    have hid : j.itemId = i.itemId := congrArg (fun order => (ofLex (ofLex order).2).2) heq
    rw [List.inj_on_of_nodup_map hids hj.1 h.mem hid]

section
variable {fold : String → String} {snapshot : GameSnapshot} {catalog : ObservationSurface}

/-- A bundle holds the foremost computer, the foremost desk or table it fits and the foremost
chair of that. -/
theorem minimalBundle_ok {items : List FurnitureCatalogItem} {bundle : List (Purpose × FurnitureCatalogItem)}
    (h : minimalBundle fold items = .ok bundle) :
    ∃ surface computer chair, bundle = [(.workSurface, surface), (.computer, computer), (.chair, chair)] ∧
      Foremost (uniqueSearchTitles fold items) (isComputer fold) computer ∧
        Foremost (uniqueSearchTitles fold items) (isSurfaceFor fold computer) surface ∧
          Foremost (uniqueSearchTitles fold items) (isChairFor fold surface) chair := by
  simp only [minimalBundle, Except.bind_eq_ok] at h
  obtain ⟨computer, hcomputer, surface, hsurface, chair, hchair, h⟩ := h
  cases h
  exact ⟨surface, computer, chair, rfl, foremost_of_firstInOrder hcomputer, foremost_of_firstInOrder hsurface,
    foremost_of_firstInOrder hchair⟩

theorem minimalBundle_of_foremost {items : List FurnitureCatalogItem} {surface computer chair : FurnitureCatalogItem}
    (hids : ((uniqueSearchTitles fold items).map (·.itemId)).Nodup)
    (hcomputer : Foremost (uniqueSearchTitles fold items) (isComputer fold) computer)
    (hsurface : Foremost (uniqueSearchTitles fold items) (isSurfaceFor fold computer) surface)
    (hchair : Foremost (uniqueSearchTitles fold items) (isChairFor fold surface) chair) :
    minimalBundle fold items = .ok [(.workSurface, surface), (.computer, computer), (.chair, chair)] := by
  unfold minimalBundle
  simp only [Except.bind_eq_ok]
  exact ⟨computer, firstInOrder_of_foremost hids hcomputer _, surface, firstInOrder_of_foremost hids hsurface _, chair,
    firstInOrder_of_foremost hids hchair _, rfl⟩

end

/-! ## A computer that fits the dear desk alone -/

section Example

/-- `str.casefold` of ASCII text. -/
def asciiFold (s : String) : String := String.ofList (s.toList.map Char.toLower)

def observed (name : String) (entities : List ObservedEntity) : ObservationSurface where
  coverage := { surface := name, status := .observedComplete, fields := [], detail := none }
  entities

/-- A game in which these surfaces are observed. -/
def gameShowing (surfaces : List ObservationSurface) : GameSnapshot where
  captureTimestamp := "2026-01-01T12:00:00Z"
  captureStartedMarker := "sample"
  captureCompletedMarker := "sample"
  bridgeSequence := 7
  bridgeInstanceId := "bridge"
  gameSessionId := "session"
  gameId := "software-inc"
  gameVersion := "1.8.41"
  adapterVersion := "software-inc-v1"
  platform := .macos
  architecture := .x86_64
  mapIdentity := ⟨.unavailable, none, none, none⟩
  saveIdentity := ⟨.observed, some "save", none, none⟩
  gameState := []
  surfaces
  warnings := []
  limitations := []

/-- An entry of the catalog under its name. -/
def entry (name type : String) (cost : Int) (inventory : Int) (snapsTo snapPoints : String) : ObservedEntity where
  entityType := "furniture_catalog_item"
  entityId := name
  values :=
    [("searchable", .boolean true), ("search_enabled", .boolean true), ("construction", .boolean false),
      ("valid_indoors", .boolean true), ("one_time_cost", .integer cost), ("display_name", .string name),
      ("prefab_name", .string name), ("type", .string type), ("search_title", .string name), ("wattage", .integer 0),
      ("computer_power", .integer 0), ("inventory_count", .integer inventory), ("can_assign", .boolean true),
      ("needs_chair", .boolean true), ("is_snapping", .boolean true), ("snaps_to", .string snapsTo),
      ("snap_points", .string snapPoints), ("categories", .string ""), ("function_category", .string "")]

/-- The item of such an entry. -/
def itemOf (name type : String) (cost : ℚ) (inventory : Nat) (snapsTo snapPoints : List String) (hcost : 0 < cost) :
    FurnitureCatalogItem where
  itemId := name
  displayName := name
  prefabName := name
  furnitureType := type
  searchTitle := name
  oneTimeCost := cost
  wattage := 0
  computerPower := 0
  inventoryCount := inventory
  canAssign := true
  needsChair := true
  isSnapping := true
  snapsTo
  snapPoints
  categories := []
  functionCategory := ""
  cost_pos := hcost

/-- The cheaper of two computers needs a rack, the other stands on a desk. -/
def rackCatalog : ObservationSurface :=
  observed "build_catalog"
    [entry "Blade" "Computer" 100 0 "Rack" "", entry "Desk" "Desk" 50 0 "" "Desktop|Seat",
      entry "Rack" "Table" 1000 0 "" "Rack|Seat", entry "Stool" "Chair" 20 0 "Seat" "",
      entry "Tower" "Computer" 110 0 "Desktop" ""]

def desk : FurnitureCatalogItem := itemOf "Desk" "Desk" 50 0 [] ["Desktop", "Seat"] (by norm_num)

def stool : FurnitureCatalogItem := itemOf "Stool" "Chair" 20 0 ["Seat"] [] (by norm_num)

def tower : FurnitureCatalogItem := itemOf "Tower" "Computer" 110 0 ["Desktop"] [] (by norm_num)

end Example

end SimPilot.SoftwareInc.Workstation
