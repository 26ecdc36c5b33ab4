import SimPilot.Data.Except
import SimPilot.OpenTTD.Translation
/-!
# The world of a translation hangs together

| here | there |
|---|---|
| `Named` | the ids of a collection are the canonical ids of the source, none lost, none made up |
| `Coherent` | references lead to entities of the world and counts count them |
| `NoCollision` | the digests of the ids of one capture differ where the ids do |

Only `NoCollision` is assumed of the digest, and only for the ids of the source.
-/

namespace SimPilot.OpenTTD.Translation
open TextOrder

/-! ## The property -/

/-- The ids the translation makes, with their kind. -/
def BridgeWorldSnapshot.keys (source : BridgeWorldSnapshot) : List (String × Nat) :=
  source.companies.map (("company", ·.id)) ++ source.vehicles.map (("company", ·.owner)) ++
    source.towns.map (("town", ·.id)) ++ source.industries.map (("industry", ·.id)) ++
    source.stations.map (("station", ·.id)) ++ source.vehicles.map (("vehicle", ·.id)) ++
    source.cargos.filterMap fun item => item.scopeEntityId.map fun id => (item.scope.value, id)

/-- No two ids of the source have one digest. -/
def NoCollision (digest : Digest) (worldId : String) (source : BridgeWorldSnapshot) : Prop :=
  ∀ a ∈ source.keys, ∀ b ∈ source.keys,
    digest (keyText worldId a.1 a.2) = digest (keyText worldId b.1 b.2) →
      keyText worldId a.1 a.2 = keyText worldId b.1 b.2

instance NoCollision.decidable (digest : Digest) (worldId : String) (source : BridgeWorldSnapshot) :
    Decidable (NoCollision digest worldId source) := inferInstanceAs (Decidable (∀ _ ∈ _, _))

/-- `ids` are the canonical ids of `sourceIds`, as many and no others, and differ where these do. -/
structure Named (digest : Digest) (worldId kind : String) (sourceIds : List Nat) (ids : List String) : Prop where
  perm : ids.Perm (sourceIds.map (canonicalEntityId digest worldId kind))
  nodup : sourceIds.Nodup → ids.Nodup

/-- The vehicles of an owner and a type. -/
def WorldSnapshot.countVehicles (world : WorldSnapshot) (ownerId type : String) : Nat :=
  world.vehicles.countP fun vehicle => vehicle.ownerId = ownerId ∧ vehicle.type = type

/-- The flows of an entity. -/
def WorldSnapshot.flows (world : WorldSnapshot) (scope : CargoFlowScope) (id : String) : List CargoFlow :=
  world.cargoSummary.filter fun flow => flow.scope = scope ∧ flow.entityId = some id

structure Coherent (digest : Digest) (worldId : String) (source : BridgeWorldSnapshot) (world : WorldSnapshot) :
    Prop where
  companies : Named digest worldId "company" (source.companies.map (·.id)) (world.companies.map (·.id))
  towns : Named digest worldId "town" (source.towns.map (·.id)) (world.towns.map (·.id))
  industries : Named digest worldId "industry" (source.industries.map (·.id)) (world.industries.map (·.id))
  stations : Named digest worldId "station" (source.stations.map (·.id)) (world.stations.map (·.id))
  vehicles : Named digest worldId "vehicle" (source.vehicles.map (·.id)) (world.vehicles.map (·.id))
  destination : ∀ vehicle ∈ world.vehicles, ∀ id ∈ vehicle.destinationIds, ∃ station ∈ world.stations, station.id = id
  current : ∀ vehicle ∈ world.vehicles, ∀ order ∈ vehicle.currentOrder, order ∈ vehicle.orders
  served_town : ∀ station ∈ world.stations, ∀ id, id ∈ station.servedTownIds ↔
    ∃ town ∈ world.towns, town.id = id ∧ manhattan station.coordinates town.coordinates ≤ 12
  served_industry : ∀ station ∈ world.stations, ∀ id, id ∈ station.servedIndustryIds ↔
    ∃ industry ∈ world.industries, industry.id = id ∧ manhattan station.coordinates industry.coordinates ≤ 8
  nearby_station : ∀ industry ∈ world.industries, ∀ id, id ∈ industry.nearbyStationIds ↔
    ∃ station ∈ world.stations, station.id = id ∧ industry.id ∈ station.servedIndustryIds
  station_count : ∀ town ∈ world.towns,
    town.stationCount = some (world.stations.countP (town.id ∈ ·.servedTownIds))
  vehicle_count : ∀ station ∈ world.stations,
    station.vehicleCount = world.vehicles.countP (station.id ∈ ·.destinationIds)
  vehicle_counts : ∀ company ∈ world.companies, company.vehicleCounts =
    { rail := world.countVehicles company.id "rail", road := world.countVehicles company.id "road"
      water := world.countVehicles company.id "water", air := world.countVehicles company.id "air" }
  town_flows : ∀ town ∈ world.towns, town.cargoFlows = world.flows .town town.id
  industry_flows : ∀ industry ∈ world.industries, industry.production = world.flows .industry industry.id
  station_flows : ∀ station ∈ world.stations, station.waitingCargo = world.flows .station station.id
  served_cargo : ∀ town ∈ world.towns, ∀ id, id ∈ town.servedCargoIds ↔ ∃ flow ∈ town.cargoFlows, flow.cargoId = id
  route_of_vehicle : ∀ vehicle ∈ world.vehicles, ∀ id ∈ vehicle.routeId, ∃ route ∈ world.routes,
    route.id = id ∧ vehicle.id ∈ route.vehicleIds
  vehicle_of_route : ∀ route ∈ world.routes, ∀ id ∈ route.vehicleIds, ∃ vehicle ∈ world.vehicles,
    vehicle.id = id ∧ vehicle.ownerId = route.ownerId ∧ vehicle.type = route.inferredRouteType

/-! ## Ids -/

variable {digest : Digest} {worldId kind : String} {source : BridgeWorldSnapshot} {a b : Nat}

theorem keyText_inj (h : keyText worldId kind a = keyText worldId kind b) : a = b := by
  have hlist := congrArg String.toList h
  simp only [keyText, String.toList_append] at hlist
  exact Digits.toString_inj (String.toList_inj.1 (List.append_cancel_left hlist))

theorem canonicalEntityId_inj (h : NoCollision digest worldId source) (ha : (kind, a) ∈ source.keys)
    (hb : (kind, b) ∈ source.keys) :
    canonicalEntityId digest worldId kind a = canonicalEntityId digest worldId kind b ↔ a = b := by
  constructor
  · intro heq
    have hlist := congrArg String.toList heq
    simp only [canonicalEntityId, String.toList_append] at hlist
    exact keyText_inj (h _ ha _ hb (String.toList_inj.1 (List.append_cancel_left hlist)))
  · rintro rfl
    rfl

/-- A sorted collection, translated item by item. -/
theorem named_map {α β : Type} {items : List α} {sourceId : α → Nat} {translate : α → β} {id : β → String}
    (h : NoCollision digest worldId source) (hmem : ∀ item ∈ items, (kind, sourceId item) ∈ source.keys)
    (hid : ∀ item, id (translate item) = canonicalEntityId digest worldId kind (sourceId item)) :
    Named digest worldId kind (items.map sourceId)
      (((Ranking.ranked sourceId items).map translate).map id) := by
  have hperm : (((Ranking.ranked sourceId items).map translate).map id).Perm
      ((items.map sourceId).map (canonicalEntityId digest worldId kind)) := by
    rw [List.map_map, List.map_map, show id ∘ translate = canonicalEntityId digest worldId kind ∘ sourceId from
      funext hid]
    exact (Ranking.perm_ranked sourceId items).map _
  refine ⟨hperm, fun hnodup => hperm.nodup_iff.2 (hnodup.map_on fun a ha b hb heq => ?_)⟩
  obtain ⟨x, hx, rfl⟩ := List.mem_map.1 ha
  obtain ⟨y, hy, rfl⟩ := List.mem_map.1 hb
  exact (canonicalEntityId_inj h (hmem x hx) (hmem y hy)).1 heq

/-! ## Counts -/

theorem counted_apply {α κ : Type} [DecidableEq κ] (keys : α → List κ) (items : List α) (key : κ) :
    counted keys items key = items.countP (key ∈ keys ·) := by
  have hfold : ∀ (items : List α) (counter : κ → Nat),
      items.foldl (fun counter item key => counter key + if key ∈ keys item then 1 else 0) counter key =
        counter key + items.countP (key ∈ keys ·) := by
    intro items
    induction items with
    | nil => exact fun _ => rfl
    | cons item items ih =>
      intro counter
      rw [List.foldl_cons, ih, List.countP_cons]
      simp only [decide_eq_true_eq]
      omega
  simpa [counted] using hfold items fun _ => 0

theorem vehicleTypeName_inj {type : Nat} {name : String} {code : Nat}
    (hname : (code, name) ∈ [(0, "rail"), (1, "road"), (2, "water"), (3, "air")]) :
    vehicleTypeName type = name ↔ type = code := by
  have hunknown : ∀ n : Nat, ∀ rest ∈ ["rail", "road", "water", "air"], "unknown:" ++ toString n ≠ rest := by
    intro n rest hrest heq
    have hhead := congrArg (fun text => text.toList.head?) heq
    simp only [String.toList_append] at hhead
    simp only [List.mem_cons, List.not_mem_nil, or_false] at hrest
    rcases hrest with rfl | rfl | rfl | rfl <;> simp at hhead
  simp only [List.mem_cons, Prod.mk.injEq, List.not_mem_nil, or_false] at hname
  obtain _ | _ | _ | _ | n := type
  case succ.succ.succ.succ =>
    refine iff_of_false (hunknown (n + 4) name ?_) ?_
    · rcases hname with ⟨rfl, rfl⟩ | ⟨rfl, rfl⟩ | ⟨rfl, rfl⟩ | ⟨rfl, rfl⟩ <;> simp
    · omega
  all_goals rcases hname with ⟨rfl, rfl⟩ | ⟨rfl, rfl⟩ | ⟨rfl, rfl⟩ | ⟨rfl, rfl⟩ <;> simp [vehicleTypeName]

/-! ## The relations -/

section
variable {stations : List Station} {towns : List Town} {industries : List Industry} {made : List Vehicle}

/-- What `_relationships` says of the collections it returns. -/
structure Related (vehicles : List Vehicle) (stations : List Station) (towns : List Town)
    (industries : List Industry) : Prop where
  served_town : ∀ station ∈ stations, ∀ id, id ∈ station.servedTownIds ↔
    ∃ town ∈ towns, town.id = id ∧ manhattan station.coordinates town.coordinates ≤ 12
  served_industry : ∀ station ∈ stations, ∀ id, id ∈ station.servedIndustryIds ↔
    ∃ industry ∈ industries, industry.id = id ∧ manhattan station.coordinates industry.coordinates ≤ 8
  nearby_station : ∀ industry ∈ industries, ∀ id, id ∈ industry.nearbyStationIds ↔
    ∃ station ∈ stations, station.id = id ∧ industry.id ∈ station.servedIndustryIds
  station_count : ∀ town ∈ towns, town.stationCount = some (stations.countP (town.id ∈ ·.servedTownIds))
  vehicle_count : ∀ station ∈ stations, station.vehicleCount = vehicles.countP (station.id ∈ ·.destinationIds)

theorem related_relationships : Related made (relationships stations towns industries made).1
    (relationships stations towns industries made).2.1 (relationships stations towns industries made).2.2 where
  served_town station hstation id := by
    obtain ⟨before, -, rfl⟩ := List.mem_map.1 hstation
    simp [relationships, and_comm, and_left_comm]
  served_industry station hstation id := by
    obtain ⟨before, -, rfl⟩ := List.mem_map.1 hstation
    simp [relationships, and_comm, and_left_comm]
  nearby_station industry hindustry id := by
    obtain ⟨before, -, rfl⟩ := List.mem_map.1 hindustry
    simp [relationships, and_comm, and_left_comm]
  station_count town htown := by
    obtain ⟨before, -, rfl⟩ := List.mem_map.1 htown
    rfl
  vehicle_count station hstation := by
    obtain ⟨before, -, rfl⟩ := List.mem_map.1 hstation
    exact counted_apply ..

end

/-! ## Vehicles -/

section
variable {width : Nat} {made : List Vehicle} {orders : List (Nat × VehicleOrder)}

theorem destination_of_vehicleOrder {item : BridgeOrderEntity} {order : Nat × VehicleOrder}
    (h : vehicleOrder digest worldId width source item = .ok order) {id : String}
    (hid : order.2.destinationId = some id) :
    ∃ stop ∈ source.stations, id = canonicalEntityId digest worldId "station" stop.id := by
  obtain ⟨kind, -, h⟩ := Except.bind_eq_ok.1 h
  cases h
  obtain ⟨stationId, hstation, rfl⟩ := Option.map_eq_some_iff.1 hid
  have hmem := (Option.filter_eq_some_iff.1 hstation).2
  obtain ⟨stop, hstop, rfl⟩ := List.mem_map.1 (of_decide_eq_true hmem)
  exact ⟨stop, hstop, rfl⟩

/-- The vehicles of a source and their orders: every destination is a station of the source. -/
theorem vehicles_ok (h : vehicles digest worldId width source = .ok made) :
    ∃ orders, made = (Ranking.ranked (·.id) source.vehicles).map (vehicle digest worldId width orders) ∧
      ∀ vehicle ∈ made, ∀ id ∈ vehicle.destinationIds,
        ∃ stop ∈ source.stations, id = canonicalEntityId digest worldId "station" stop.id := by
  obtain ⟨orders, horders, h⟩ := Except.bind_eq_ok.1 h
  cases h
  refine ⟨orders, rfl, fun v hv id hid => ?_⟩
  obtain ⟨item, -, rfl⟩ := List.mem_map.1 hv
  obtain ⟨order, horder, hdestination⟩ := List.mem_filterMap.1 hid
  obtain ⟨entry, hentry, rfl⟩ := List.mem_map.1 (show order ∈ ordersOf orders item.id from horder)
  obtain ⟨bridgeOrder, -, htranslated⟩ := (Except.mem_mapM horders entry).1 (List.mem_of_mem_filter hentry)
  exact destination_of_vehicleOrder htranslated hdestination

@[simp] theorem map_id_routed : (routed digest made).map (·.id) = made.map (·.id) := by
  simp [routed, Function.comp_def]

/-- The vehicles of an owner and a type are counted under the type the bridge gives them. -/
theorem countVehicles_eq (h : NoCollision digest worldId source) {world : WorldSnapshot}
    (hworld : world.vehicles =
      routed digest ((Ranking.ranked (·.id) source.vehicles).map (vehicle digest worldId width orders)))
    {item : BridgeCompanyEntity} (hitem : item ∈ source.companies) {code : Nat} {name : String}
    (hname : (code, name) ∈ [(0, "rail"), (1, "road"), (2, "water"), (3, "air")]) :
    counted (fun vehicle : BridgeVehicleEntity => [(vehicle.owner, vehicle.vehicleType)]) source.vehicles
        (item.id, code) =
      world.countVehicles (canonicalEntityId digest worldId "company" item.id) name := by
  rw [counted_apply, WorldSnapshot.countVehicles, hworld, routed, List.countP_map, List.countP_map,
    (Ranking.perm_ranked (·.id) source.vehicles).countP_eq]
  refine List.countP_congr fun v hv => ?_
  have howner : canonicalEntityId digest worldId "company" v.owner =
      canonicalEntityId digest worldId "company" item.id ↔ v.owner = item.id :=
    canonicalEntityId_inj h (by simp only [BridgeWorldSnapshot.keys, List.mem_append, List.mem_map]; grind)
      (by simp only [BridgeWorldSnapshot.keys, List.mem_append, List.mem_map]; grind)
  simp only [List.mem_singleton, Prod.mk.injEq, Function.comp_apply, vehicle, decide_eq_true_eq, howner,
    vehicleTypeName_inj hname]
  exact ⟨fun ⟨ho, ht⟩ => ⟨ho.symm, ht.symm⟩, fun ⟨ho, ht⟩ => ⟨ho.symm, ht.symm⟩⟩

end

/-! ## Cargo -/

/-- The flows of an entity are those the summary has under its id. -/
theorem flowsOf_eq (h : NoCollision digest worldId source) {scope : CargoFlowScope} {id : Nat}
    (hid : (scope.value, id) ∈ source.keys) : flowsOf digest worldId source scope id =
      (source.cargos.map (cargoFlow digest worldId (cargoIds digest worldId source))).filter fun flow =>
        flow.scope = scope ∧ flow.entityId = some (canonicalEntityId digest worldId scope.value id) := by
  rw [flowsOf, List.filter_map]
  congr 1
  refine List.filter_congr fun item hitem => decide_eq_decide.2 ?_
  simp only [cargoFlow]
  refine and_congr_right fun hscope => ?_
  cases hentity : item.scopeEntityId with
  | none => simp
  | some entity =>
    have hkey : (scope.value, entity) ∈ source.keys := by
      refine List.mem_append_right _ (List.mem_filterMap.2 ⟨item, hitem, ?_⟩)
      rw [hentity, hscope]
      rfl
    rw [Option.map_some, Option.some_inj, Option.some_inj, hscope, canonicalEntityId_inj h hkey hid]

/-! ## Routes -/

theorem mem_routes_of_routeForVehicle {observed : List OpenTTD.Vehicle} {stops : List OpenTTD.Station}
    {id route : String} (h : routeForVehicle digest observed id = some route) :
    ∃ r ∈ (inferRoutes digest observed stops).2, r.id = route ∧ id ∈ r.vehicleIds := by
  obtain ⟨key, hkey, rfl⟩ := Option.map_eq_some_iff.1 h
  have hmember : id ∈ (groupMembers observed key).map (·.id) := by simpa using List.find?_some hkey
  refine ⟨inferredRoute digest observed stops key, List.mem_map.2 ⟨key, ?_, rfl⟩, rfl, ?_⟩
  · exact List.mem_reverse.1 (List.mem_of_find?_eq_some hkey)
  · exact ((List.perm_insertionSort _ _).mem_iff).2 hmember

theorem vehicle_of_mem_route {observed : List OpenTTD.Vehicle} {stops : List OpenTTD.Station} {r : Route} {id : String}
    (hr : r ∈ (inferRoutes digest observed stops).2) (hid : id ∈ r.vehicleIds) :
    ∃ v ∈ observed, v.id = id ∧ v.ownerId = r.ownerId ∧ v.type = r.inferredRouteType := by
  obtain ⟨key, -, rfl⟩ := List.mem_map.1 hr
  obtain ⟨v, hv, hgroup, rfl⟩ := (mem_vehicleIds digest stops).1 hid
  obtain ⟨-, rfl⟩ := group_eq_some hgroup
  exact ⟨v, hv, rfl, rfl, rfl⟩

/-! ## The world -/

section
variable {state : OpenTTDState} {health : BridgeHealth} {fingerprint : String} {capturedAt : Timestamp}
  {made : List Vehicle}

theorem assembled_coherent (h : NoCollision digest worldId source)
    (hmade : vehicles digest worldId state.width source = .ok made) :
    Coherent digest worldId source (assembled digest worldId state health fingerprint capturedAt source made) := by
  obtain ⟨orders, hvehicles, hdestinations⟩ := vehicles_ok hmade
  let world := assembled digest worldId state health fingerprint capturedAt source made
  have hrelated : Related made world.stations world.towns world.industries := related_relationships
  have hcompany : ∀ item ∈ source.companies, ("company", item.id) ∈ source.keys := fun item hitem => by
    simp only [BridgeWorldSnapshot.keys, List.mem_append, List.mem_map]
    grind
  have htown : ∀ item ∈ source.towns, ("town", item.id) ∈ source.keys := fun item hitem => by
    simp only [BridgeWorldSnapshot.keys, List.mem_append, List.mem_map]
    grind
  have hindustry : ∀ item ∈ source.industries, ("industry", item.id) ∈ source.keys := fun item hitem => by
    simp only [BridgeWorldSnapshot.keys, List.mem_append, List.mem_map]
    grind
  have hstation : ∀ item ∈ source.stations, ("station", item.id) ∈ source.keys := fun item hitem => by
    simp only [BridgeWorldSnapshot.keys, List.mem_append, List.mem_map]
    grind
  have hvehicle : ∀ item ∈ source.vehicles, ("vehicle", item.id) ∈ source.keys := fun item hitem => by
    simp only [BridgeWorldSnapshot.keys, List.mem_append, List.mem_map]
    grind
  -- what `_relationships` and `infer_routes` add leaves the ids and the orders as they are
  have hstations : world.stations.map (·.id) = ((Ranking.ranked (·.id) source.stations).map
      (station digest worldId state.width source)).map (·.id) := by simp [world, assembled, relationships]
  have hvehicleIds : world.vehicles.map (·.id) = made.map (·.id) := map_id_routed
  refine
    { companies := named_map h hcompany fun _ => rfl
      towns := ?towns, industries := ?industries, stations := ?stations, vehicles := ?vehicles
      destination := fun v hv id hid => ?destination
      current := fun v hv order horder => ?current
      served_town := hrelated.served_town
      served_industry := hrelated.served_industry
      nearby_station := hrelated.nearby_station
      station_count := hrelated.station_count
      vehicle_count := fun s hs => ?vehicle_count
      vehicle_counts := fun c hc => ?vehicle_counts
      town_flows := fun t ht => ?town_flows
      industry_flows := fun i hi => ?industry_flows
      station_flows := fun s hs => ?station_flows
      served_cargo := fun t ht id => ?served_cargo
      route_of_vehicle := fun v hv id hid => ?route_of_vehicle
      vehicle_of_route := fun r hr id hid => ?vehicle_of_route }
  case towns =>
    have hids : world.towns.map (·.id) = ((Ranking.ranked (·.id) source.towns).map
        (town digest worldId state.width source)).map (·.id) := by simp [world, assembled, relationships]
    exact hids ▸ named_map h htown fun _ => rfl
  case industries =>
    have hids : world.industries.map (·.id) = ((Ranking.ranked (·.id) source.industries).map
        (industry digest worldId state.width source)).map (·.id) := by simp [world, assembled, relationships]
    exact hids ▸ named_map h hindustry fun _ => rfl
  case stations => exact hstations ▸ named_map h hstation fun _ => rfl
  case vehicles =>
    rw [hvehicleIds, hvehicles]
    exact named_map h hvehicle fun _ => rfl
  case destination =>
    obtain ⟨before, hbefore, rfl⟩ := List.mem_map.1 hv
    obtain ⟨stop, hstop, rfl⟩ := hdestinations before hbefore id hid
    have hmem : canonicalEntityId digest worldId "station" stop.id ∈ world.stations.map (·.id) := by
      rw [hstations]
      exact List.mem_map.2 ⟨_, List.mem_map.2 ⟨stop, by simpa using hstop, rfl⟩, rfl⟩
    exact List.mem_map.1 hmem
  case current =>
    obtain ⟨before, hbefore, rfl⟩ := List.mem_map.1 hv
    rw [hvehicles] at hbefore
    obtain ⟨item, -, rfl⟩ := List.mem_map.1 hbefore
    exact List.mem_of_find?_eq_some horder
  case vehicle_count =>
    rw [hrelated.vehicle_count s hs]
    change _ = (routed digest made).countP _
    rw [routed, List.countP_map]
    rfl
  case vehicle_counts =>
    obtain ⟨item, hitem, rfl⟩ := List.mem_map.1 hc
    have hitem : item ∈ source.companies := by simpa using hitem
    have hworld : world.vehicles = routed digest ((Ranking.ranked (·.id) source.vehicles).map
        (vehicle digest worldId state.width orders)) := hvehicles ▸ rfl
    simp only [company, vehicleCounts, VehicleCounts.mk.injEq]
    exact ⟨countVehicles_eq h hworld hitem (by simp), countVehicles_eq h hworld hitem (by simp),
      countVehicles_eq h hworld hitem (by simp), countVehicles_eq h hworld hitem (by simp)⟩
  case town_flows =>
    obtain ⟨before, hbefore, rfl⟩ := List.mem_map.1 ht
    obtain ⟨item, hitem, rfl⟩ := List.mem_map.1 hbefore
    exact flowsOf_eq h (htown item (by simpa using hitem))
  case industry_flows =>
    obtain ⟨before, hbefore, rfl⟩ := List.mem_map.1 hi
    obtain ⟨item, hitem, rfl⟩ := List.mem_map.1 hbefore
    exact flowsOf_eq h (hindustry item (by simpa using hitem))
  case station_flows =>
    obtain ⟨before, hbefore, rfl⟩ := List.mem_map.1 hs
    obtain ⟨item, hitem, rfl⟩ := List.mem_map.1 hbefore
    exact flowsOf_eq h (hstation item (by simpa using hitem))
  case served_cargo =>
    obtain ⟨before, hbefore, rfl⟩ := List.mem_map.1 ht
    obtain ⟨item, -, rfl⟩ := List.mem_map.1 hbefore
    exact mem_sortedSet.trans List.mem_map
  case route_of_vehicle =>
    obtain ⟨before, -, rfl⟩ := List.mem_map.1 hv
    exact mem_routes_of_routeForVehicle hid
  case vehicle_of_route =>
    obtain ⟨observed, hobserved, rfl, howner, htype⟩ := vehicle_of_mem_route hr hid
    obtain ⟨before, hbefore, rfl⟩ := List.mem_map.1 hobserved
    exact ⟨_, List.mem_map.2 ⟨before, hbefore, rfl⟩, rfl, howner, htype⟩

end

namespace BusLine

def capture : BridgeWorldSnapshot where
  snapshotId := "world-1"
  captureStartedGameDate := 700000
  captureCompletedGameDate := 700000
  companies := [{ id := 0, name := "Buses", cash := 5000, loan := 0 }]
  towns := [{ id := 3, name := "Old Town", population := 900, tile := 130 }]
  industries := [{ id := 2, industryType := 1, name := "Mine", tile := 135, nearbyStationCount := 1 }]
  stations := [{ id := 5, name := "Market", owner := 0, tile := 131 }]
  vehicles := [{ id := 7, owner := 0, vehicleType := 1, engineType := 4, name := "Bus 1", ageDays := 10
                 profitThisYear := 40, profitLastYear := 30, state := 0, inDepot := false
                 currentOrderIndex := some 1 }]
  orders := [
    { vehicleId := 7, index := 1, kind := "station", destinationTile := some 800, destinationStationId := some 9 },
    { vehicleId := 7, index := 0, kind := "station", destinationTile := some 131, destinationStationId := some 5 }]
  cargos := [{ id := 0, name := "Passengers" },
    { id := 0, name := "Passengers", scope := .town, scopeEntityId := some 3, produced := some 100 },
    { id := 0, name := "Passengers", scope := .station, scopeEntityId := some 5, waiting := some 12 }]

def state : OpenTTDState where
  openttdVersion := "15.3"
  width := 64
  width_pos := Nat.succ_pos 63
  gameDateRaw := 700000
  companyId := 0
  cash := 5000
  loan := 0
  companyValueLastQuarter := 8000
  performanceLastQuarter := 300
  isAi := false

def health : BridgeHealth where
  scriptInstanceId := some "save-1"
  lastSequence := some 9
  capabilityFingerprint := some "capabilities"
  saveGeneration := some 0
  worldSnapshot := some capture

/-- The digests of the texts of this world. -/
def sha256 (text : String) : String :=
  ([("save-1|company|0", "7f698436247f4c0cf4715877"),
    ("save-1|town|3", "af722555aae06ab6080c8077"),
    ("save-1|industry|2", "50e9be9d389e54dd6e43380c"),
    ("save-1|station|5", "0f3a0e1bb4a5a36ecdec14a4"),
    ("save-1|vehicle|7", "482787ce4d61d4b83acf7474"),
    ("save-1|cargo|0", "5f7546c300e22f80860a3648"),
    ("company:7f698436247f4c0cf4715877|road|station|32,12||station|station:0f3a0e1bb4a5a36ecdec14a4|",
      "fd4ef1a4f08a57c016be1db9")]
    |>.find? (·.1 = text)).elim text (·.2)

end BusLine

end SimPilot.OpenTTD.Translation
