import SimPilot.Data.Ranking
import SimPilot.Data.TextOrder
import SimPilot.OpenTTD.World
/-!
# Differences of two worlds (openttd/world_diff.py)

`diff_world` compares six collections by the ids and by the fields that are tracked. Everything
that is said about its records comes from two lemmas on one collection: which records there are
(`mem_compare`), and that none is there twice (`compare_nodup`).

| here | there |
|---|---|
| `Item` | what `_compare` reads of an element: its id, and `getattr` |
| `Collection` | the arguments of a call of `_compare` (world_diff.py:37-83) |
| `statusOf` | the dictionaries of the coverage (world_diff.py:29-30) |
-/

namespace SimPilot.OpenTTD
open TextOrder

/-! ## The collections -/

structure Item where
  id : String
  getattr : String → FieldValue

namespace FieldValue

def ofOption {α : Type} (f : α → FieldValue) : Option α → FieldValue
  | Option.none => none
  | some a => f a

def nat (n : Nat) : FieldValue := int n

end FieldValue

def Company.item (c : Company) : Item where
  id := c.id
  getattr
    | "name" => .str c.name
    | "cash" => .int c.cash
    | "loan" => .nat c.loan
    | "company_value" => .ofOption .int c.companyValue
    | "income" => .ofOption .int c.income
    | "expenses" => .ofOption .int c.expenses
    | "station_count" => .nat c.stationCount
    | _ => .none

def Town.item (t : Town) : Item where
  id := t.id
  getattr
    | "name" => .str t.name
    | "population" => .nat t.population
    | "station_count" => .ofOption .nat t.stationCount
    | "growth_rate_days" => .ofOption .nat t.growthRateDays
    | "growth_state" => .ofOption .str t.growthState
    | _ => .none

def Industry.item (i : Industry) : Item where
  id := i.id
  getattr
    | "name" => .str i.name
    | "type" => .str i.type
    | "nearby_station_count" => .ofOption .nat i.nearbyStationCount
    | _ => .none

def Station.item (s : Station) : Item where
  id := s.id
  getattr
    | "name" => .str s.name
    | "vehicle_count" => .nat s.vehicleCount
    | _ => .none

def Vehicle.item (v : Vehicle) : Item where
  id := v.id
  getattr
    | "name" => .str v.name
    | "running_state" => .str v.runningState
    | "profit_this_year" => .int v.profitThisYear
    | "profit_last_year" => .int v.profitLastYear
    | "route_id" => .ofOption .str v.routeId
    | "in_depot" => .bool v.inDepot
    | _ => .none

def Route.item (r : Route) : Item where
  id := r.id
  getattr
    | "estimated_distance" => .ofOption .nat r.estimatedDistance
    | "inferred_route_type" => .str r.inferredRouteType
    | _ => .none

/-- A collection that is compared. -/
structure Collection where
  entityType : String
  category : String
  items : WorldSnapshot → List Item
  fields : List String

def collections : List Collection :=
  [⟨"company", "companies", (·.companies.map Company.item),
      ["name", "cash", "loan", "company_value", "income", "expenses", "station_count"]⟩,
    ⟨"town", "towns", (·.towns.map Town.item),
      ["name", "population", "station_count", "growth_rate_days", "growth_state"]⟩,
    ⟨"industry", "industries", (·.industries.map Industry.item), ["name", "type", "nearby_station_count"]⟩,
    ⟨"station", "stations", (·.stations.map Station.item), ["name", "vehicle_count"]⟩,
    ⟨"vehicle", "vehicles", (·.vehicles.map Vehicle.item),
      ["name", "running_state", "profit_this_year", "profit_last_year", "route_id", "in_depot"]⟩,
    ⟨"route", "routes", (·.routes.map Route.item), ["estimated_distance", "inferred_route_type"]⟩]

/-! ## The comparison -/

/-- The keys of `{_identifier(item): item for item in items}`. -/
def ids (items : List Item) : List String := (items.map (·.id)).dedup

/-- The item under an id: of two with one id the later. -/
def lookup (items : List Item) (id : String) : Option Item := items.reverse.find? (·.id = id)

/-- A field of the items under an id in both. -/
def fieldChange (entityType id field : String) (before after : Item) : Option WorldChange :=
  if before.getattr field ≠ after.getattr field then
    some (.fieldChanged entityType id field (before.getattr field) (after.getattr field))
  else none

/-- `_compare` -/
def compare (entityType : String) (previous current : List Item) (fields : List String) (complete : Bool) :
    List WorldChange :=
  (if complete then
    (sortedSet ((ids current).filter (· ∉ ids previous))).map (.entityAdded entityType) ++
      (sortedSet ((ids previous).filter (· ∉ ids current))).map (.entityRemoved entityType)
  else []) ++
  (sortedSet ((ids previous).filter (· ∈ ids current))).flatMap fun id =>
    match lookup previous id, lookup current id with
    | some before, some after => fields.filterMap fun field => fieldChange entityType id field before after
    | _, _ => []

/-- `_complete` -/
def complete (previous current : WorldSnapshot) (category : String) : Bool :=
  previous.metadata.complete && current.metadata.complete &&
    ((previous.coverage.find? (·.category = category)).map (·.status) ≠ some .unavailable) &&
    ((current.coverage.find? (·.category = category)).map (·.status) ≠ some .unavailable)

def categories (s : WorldSnapshot) : List String := (s.coverage.map (·.category)).dedup

/-- The status of a category: of two under one name the later. -/
def statusOf (s : WorldSnapshot) (category : String) : Option CoverageStatus :=
  (s.coverage.reverse.find? (·.category = category)).map (·.status)

def coverageChanges (previous current : WorldSnapshot) : List WorldChange :=
  (sortedSet ((categories previous).filter (· ∈ categories current))).filterMap fun category =>
    match statusOf previous category, statusOf current category with
    | some before, some after => if before ≠ after then some (.coverageChanged category before after) else none
    | _, _ => none

/-- `_sort_key` -/
def WorldChange.sortKey : WorldChange → List String
  | entityAdded entityType entityId => ["entity_added", entityType, entityId, ""]
  | entityRemoved entityType entityId => ["entity_removed", entityType, entityId, ""]
  | fieldChanged entityType entityId field _ _ => ["field_changed", entityType, entityId, field]
  | coverageChanged category _ _ => ["coverage_changed", category, "", ""]

/-- The records in the order they are found. -/
def worldChanges (previous current : WorldSnapshot) : List WorldChange :=
  coverageChanges previous current ++ collections.flatMap fun c =>
    compare c.entityType (c.items previous) (c.items current) c.fields (complete previous current c.category)

inductive WorldDiffError where
  | value (text : String)
  deriving DecidableEq, Repr

def diffWorld (previous current : WorldSnapshot) : Except WorldDiffError WorldSnapshot :=
  if previous.metadata.worldId ≠ current.metadata.worldId then
    .error (.value "cannot diff snapshots from different worlds")
  else .ok
    { current with
      changesFromSnapshotId := some previous.metadata.snapshotId
      changes := Ranking.ranked WorldChange.sortKey (worldChanges previous current) }

/-! ## One collection -/

section Items
variable {items previous current : List Item} {id : String}

theorem mem_ids : id ∈ ids items ↔ ∃ item ∈ items, item.id = id := by
  rw [ids, List.mem_dedup, List.mem_map]

theorem mem_ids_iff_lookup : id ∈ ids items ↔ ∃ item, lookup items id = some item := by
  rw [mem_ids, ← Option.isSome_iff_exists, lookup, List.find?_isSome]
  simp

theorem lookup_eq_some (hids : (items.map (·.id)).Nodup) {item : Item} :
    lookup items id = some item ↔ item ∈ items ∧ item.id = id := by
  constructor
  · intro h
    exact ⟨List.mem_reverse.mp (List.mem_of_find?_eq_some h), by simpa using List.find?_some h⟩
  · rintro ⟨hin, rfl⟩
    obtain ⟨found, hfound⟩ := mem_ids_iff_lookup.mp (mem_ids.mpr ⟨item, hin, rfl⟩)
    have hmem : found ∈ items := List.mem_reverse.mp (List.mem_of_find?_eq_some hfound)
    have hid : found.id = item.id := by simpa using List.find?_some hfound
    rw [hfound, List.inj_on_of_nodup_map hids hmem hin hid]

theorem fieldChange_eq_some {entityType field : String} {before after : Item} {change : WorldChange} :
    fieldChange entityType id field before after = some change ↔ before.getattr field ≠ after.getattr field ∧
      change = .fieldChanged entityType id field (before.getattr field) (after.getattr field) := by
  unfold fieldChange
  split_ifs with h
  · simp [h, eq_comm]
  · simp [h]

/-- The records of a collection. -/
theorem mem_compare {entityType : String} {fields : List String} {complete : Bool} {change : WorldChange} :
    change ∈ compare entityType previous current fields complete ↔
      (complete = true ∧ ∃ id, change = .entityAdded entityType id ∧ id ∈ ids current ∧ id ∉ ids previous) ∨
      (complete = true ∧ ∃ id, change = .entityRemoved entityType id ∧ id ∈ ids previous ∧ id ∉ ids current) ∨
      ∃ id field before after, lookup previous id = some before ∧ lookup current id = some after ∧ field ∈ fields ∧
        before.getattr field ≠ after.getattr field ∧
        change = .fieldChanged entityType id field (before.getattr field) (after.getattr field) := by
  have hfields : (change ∈ (sortedSet ((ids previous).filter (· ∈ ids current))).flatMap fun id =>
      match lookup previous id, lookup current id with
      | some before, some after => fields.filterMap fun field => fieldChange entityType id field before after
      | _, _ => []) ↔
      ∃ id field before after, lookup previous id = some before ∧ lookup current id = some after ∧ field ∈ fields ∧
        before.getattr field ≠ after.getattr field ∧
        change = .fieldChanged entityType id field (before.getattr field) (after.getattr field) := by
    rw [List.mem_flatMap]
    constructor
    · rintro ⟨id, hid, hchange⟩
      rw [mem_sortedSet, List.mem_filter, decide_eq_true_eq] at hid
      obtain ⟨before, hbefore⟩ := mem_ids_iff_lookup.mp hid.1
      obtain ⟨after, hafter⟩ := mem_ids_iff_lookup.mp hid.2
      rw [hbefore, hafter] at hchange
      obtain ⟨field, hfield, heq⟩ := List.mem_filterMap.mp hchange
      obtain ⟨hne, heq⟩ := fieldChange_eq_some.mp heq
      exact ⟨id, field, before, after, hbefore, hafter, hfield, hne, heq⟩
    · rintro ⟨id, field, before, after, hbefore, hafter, hfield, hne, rfl⟩
      refine ⟨id, ?_, ?_⟩
      · rw [mem_sortedSet, List.mem_filter, decide_eq_true_eq]
        exact ⟨mem_ids_iff_lookup.mpr ⟨before, hbefore⟩, mem_ids_iff_lookup.mpr ⟨after, hafter⟩⟩
      · rw [hbefore, hafter]
        exact List.mem_filterMap.mpr ⟨field, hfield, fieldChange_eq_some.mpr ⟨hne, rfl⟩⟩
  unfold compare
  rw [List.mem_append, hfields]
  cases complete with
  | false => simp
  | true =>
    simp only [if_true, List.mem_append, List.mem_map, mem_sortedSet, List.mem_filter, decide_eq_true_eq, true_and,
      or_assoc]
    have hadded : (∃ a, (a ∈ ids current ∧ a ∉ ids previous) ∧ WorldChange.entityAdded entityType a = change) ↔
        ∃ id, change = .entityAdded entityType id ∧ id ∈ ids current ∧ id ∉ ids previous :=
      exists_congr fun a => ⟨fun h => ⟨h.2.symm, h.1⟩, fun h => ⟨h.2, h.1.symm⟩⟩
    have hremoved : (∃ a, (a ∈ ids previous ∧ a ∉ ids current) ∧ WorldChange.entityRemoved entityType a = change) ↔
        ∃ id, change = .entityRemoved entityType id ∧ id ∈ ids previous ∧ id ∉ ids current :=
      exists_congr fun a => ⟨fun h => ⟨h.2.symm, h.1⟩, fun h => ⟨h.2, h.1.symm⟩⟩
    rw [hadded, hremoved]

/-- No record of a collection is there twice. -/
theorem compare_nodup (entityType : String) {fields : List String} (hfields : fields.Nodup) (complete : Bool) :
    (compare entityType previous current fields complete).Nodup := by
  have hchanged : ((sortedSet ((ids previous).filter (· ∈ ids current))).flatMap fun id =>
      match lookup previous id, lookup current id with
      | some before, some after => fields.filterMap fun field => fieldChange entityType id field before after
      | _, _ => []).Nodup := by
    rw [List.nodup_flatMap]
    have hid : ∀ (id : String) (change : WorldChange), (change ∈ match lookup previous id, lookup current id with
        | some before, some after => fields.filterMap fun field => fieldChange entityType id field before after
        | _, _ => []) → ∃ field before after, change = .fieldChanged entityType id field before after := by
      intro id change h
      split at h
      · obtain ⟨field, -, heq⟩ := List.mem_filterMap.mp h
        exact ⟨field, _, _, (fieldChange_eq_some.mp heq).2⟩
      · cases h
    refine ⟨fun id _ => ?_, (nodup_sortedSet _).imp fun {a b} hne => ?_⟩
    · split
      · refine hfields.filterMap fun field field' change h h' => ?_
        have heq := (fieldChange_eq_some.mp h).2
        rw [(fieldChange_eq_some.mp h').2] at heq
        cases heq
        rfl
      · exact List.nodup_nil
    · intro change ha hb
      obtain ⟨_, _, _, rfl⟩ := hid a change ha
      obtain ⟨_, _, _, heq⟩ := hid b _ hb
      cases heq
      exact hne rfl
  unfold compare
  rw [List.nodup_append]
  refine ⟨?_, hchanged, ?_⟩
  · split_ifs
    · rw [List.nodup_append]
      refine ⟨(nodup_sortedSet _).map fun a b h => by cases h; rfl,
        (nodup_sortedSet _).map fun a b h => by cases h; rfl,
        ?_⟩
      rintro _ hadded _ hremoved rfl
      obtain ⟨_, -, rfl⟩ := List.mem_map.mp hadded
      obtain ⟨_, -, heq⟩ := List.mem_map.mp hremoved
      cases heq
    · exact List.nodup_nil
  · rintro change hids _ hfield rfl
    obtain ⟨id, -, hmatch⟩ := List.mem_flatMap.mp hfield
    split at hmatch
    · obtain ⟨field, -, heq⟩ := List.mem_filterMap.mp hmatch
      obtain ⟨-, rfl⟩ := fieldChange_eq_some.mp heq
      split_ifs at hids
      · simp at hids
      · cases hids
    · cases hmatch

end Items

end SimPilot.OpenTTD
