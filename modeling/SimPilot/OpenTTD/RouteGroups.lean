import SimPilot.OpenTTD.RouteInference
/-!
# What the inferred routes group

The routes are exact (`RoutesExact`) when they group the vehicles by owner, type and orders up
to rotation, list each vehicle in the route it points to and no other, and give a distance that no
rotation changes. They are so exactly where nothing is merged (`Unmerged`): vehicles of one id
belong together, and so do vehicles whose owner, type and tokens are one text when they are joined.
Without bars in owners, types and destinations the texts are never merged.
-/

namespace SimPilot.OpenTTD
open Cyclic TextOrder

/-! ## Groups -/

/-- Vehicles that belong on one route. -/
def SameRoute (v w : Vehicle) : Prop := v.ownerId = w.ownerId ∧ v.type = w.type ∧ v.tokens ~r w.tokens

def Vehicle.key (v : Vehicle) : GroupKey := groupKey v.ownerId v.type (normalizedSignature v)

section
variable {v w : Vehicle} {vehicles : List Vehicle} {key : GroupKey} {id : String}

theorem key_eq_iff : v.key = w.key ↔ SameRoute v w := by
  unfold Vehicle.key groupKey SameRoute
  rw [← normalizedSignature_eq_iff]
  simp

theorem normalizedSignature_eq_nil : normalizedSignature v = [] ↔ v.orders = [] := by
  constructor
  · intro h
    by_contra hne
    exact least_ne_nil (by simpa [Vehicle.tokens] using hne) h
  · intro h
    simp [normalizedSignature, Vehicle.tokens, h]

theorem group_eq_none : v.group = none ↔ v.orders = [] := by
  rw [← normalizedSignature_eq_nil, Vehicle.group]
  split_ifs with h
  · simp [h]
  · simp [h]

theorem group_of_orders (h : v.orders ≠ []) : v.group = some v.key := if_neg (mt normalizedSignature_eq_nil.mp h)

theorem group_eq_some (h : v.group = some key) : v.orders ≠ [] ∧ v.key = key := by
  have hne : v.orders ≠ [] := by
    intro hnil
    rw [group_eq_none.mpr hnil] at h
    cases h
  exact ⟨hne, Option.some.inj ((group_of_orders hne).symm.trans h)⟩

theorem mem_groupKeys : key ∈ groupKeys vehicles ↔ ∃ v ∈ vehicles, v.group = some key := by
  rw [groupKeys, mem_sortedSet, List.mem_filterMap]

theorem mem_vehicleIds (digest : Digest) (stations : List Station) :
    id ∈ (inferredRoute digest vehicles stations key).vehicleIds ↔ ∃ v ∈ vehicles, v.group = some key ∧ v.id = id := by
  simp only [inferredRoute]
  rw [(List.perm_insertionSort ..).mem_iff]
  simp only [groupMembers, List.mem_map, List.mem_filter, decide_eq_true_eq, and_assoc]

end

/-! ## The conditions -/

def IdsTogether (vehicles : List Vehicle) : Prop :=
  ∀ v ∈ vehicles, ∀ w ∈ vehicles, v.id = w.id → v.orders ≠ [] → w.orders ≠ [] ∧ SameRoute v w

/-- Vehicles of one id belong together, and so do vehicles whose routes are one text. -/
structure Unmerged (vehicles : List Vehicle) : Prop where
  ids : IdsTogether vehicles
  texts : ∀ v ∈ vehicles, ∀ w ∈ vehicles, v.orders ≠ [] → w.orders ≠ [] → v.key.text = w.key.text → SameRoute v w

/-- The vehicles and the routes of an inference are exact. -/
structure RoutesExact (vehicles : List Vehicle) (routes : List Route) (stations : List Station) : Prop where
  grouped : ∀ v ∈ vehicles, ∀ w ∈ vehicles, v.orders ≠ [] → w.orders ≠ [] → (v.routeId = w.routeId ↔ SameRoute v w)
  listed : ∀ v ∈ vehicles, v.orders ≠ [] → (∃ route ∈ routes, v.routeId = some route.id) ∧
    ∀ route ∈ routes, v.id ∈ route.vehicleIds ↔ v.routeId = some route.id
  unlisted : ∀ v ∈ vehicles, v.orders = [] → ∀ route ∈ routes, v.id ∉ route.vehicleIds
  distance : ∀ v ∈ vehicles, v.orders ≠ [] → ∀ route ∈ routes, v.routeId = some route.id →
    ∀ signature, v.tokens.map OrderToken.text ~r signature →
      routeDistance (stationIds signature) stations = route.estimatedDistance

/-! ## Distances -/

theorem isRotated_filterMap {α β : Type} (f : α → Option β) {l r : List α} (h : l ~r r) :
    l.filterMap f ~r r.filterMap f := by
  obtain ⟨n, rfl⟩ := h
  rw [List.rotate_eq_drop_append_take_mod, List.filterMap_append]
  conv_lhs => rw [← List.take_append_drop (n % l.length) l, List.filterMap_append]
  exact List.isRotated_append

theorem mapM_eq_some {α β : Type} {f : α → Option β} {l : List α} :
    l.mapM f = if l.all fun a => (f a).isSome then some (l.filterMap f) else none := by
  induction l with
  | nil => rfl
  | cons a l ih =>
    rw [List.mapM_cons, ih]
    cases ha : f a with
    | none => simp [ha]
    | some b =>
      by_cases hall : (l.all fun a => (f a).isSome) = true
      · simp [ha, hall]
      · simp [ha, hall]

/-- The distance of a cyclic sequence of stations. -/
theorem routeDistance_isRotated {a b : List String} (h : a ~r b) (stations : List Station) :
    routeDistance a stations = routeDistance b stations := by
  unfold routeDistance
  have hall : (a.all fun id => ((stationById stations id).map (·.coordinates)).isSome) =
      b.all fun id => ((stationById stations id).map (·.coordinates)).isSome := by
    rw [Bool.eq_iff_iff, List.all_eq_true, List.all_eq_true]
    simp only [h.mem_iff]
  rw [h.perm.length_eq, mapM_eq_some, mapM_eq_some, hall]
  split_ifs
  · rfl
  · exact congrArg some (sum_neighbours (isRotated_filterMap _ h) _)
  · rfl

theorem routeDistance_signature {texts signature : List String} (h : texts ~r signature) (stations : List Station) :
    routeDistance (stationIds signature) stations = routeDistance (stationIds (least texts)) stations :=
  routeDistance_isRotated (isRotated_filterMap stationOf (h.symm.trans (isRotated_least texts))) stations

/-! ## The route of a vehicle -/

section
variable {digest : Digest} {vehicles : List Vehicle} {stations : List Station} {v w : Vehicle}

/-- A vehicle with orders points to the route of its group. -/
theorem routeForVehicle_of_orders (h : IdsTogether vehicles) (hv : v ∈ vehicles) (horders : v.orders ≠ []) :
    routeForVehicle digest vehicles v.id = some (routeId digest v.key) := by
  have hgroup : ∀ key, v.id ∈ (groupMembers vehicles key).map (·.id) → key = v.key := by
    intro key hmem
    obtain ⟨w, hw, hid⟩ := List.mem_map.mp hmem
    rw [groupMembers, List.mem_filter, decide_eq_true_eq] at hw
    rw [← (group_eq_some hw.2).2]
    exact (key_eq_iff.mpr (h v hv w hw.1 hid.symm horders).2).symm
  unfold routeForVehicle
  cases hfind : (groupKeys vehicles).reverse.find? fun key => v.id ∈ (groupMembers vehicles key).map (·.id) with
  | none =>
    rw [List.find?_eq_none] at hfind
    have hin : v.key ∈ (groupKeys vehicles).reverse :=
      List.mem_reverse.mpr (mem_groupKeys.mpr ⟨v, hv, group_of_orders horders⟩)
    have hmember : v ∈ groupMembers vehicles v.key :=
      List.mem_filter.mpr ⟨hv, decide_eq_true (group_of_orders horders)⟩
    exact absurd (decide_eq_true (List.mem_map_of_mem hmember)) (hfind v.key hin)
  | some key =>
    rw [hgroup key (by simpa using List.find?_some hfind)]
    rfl

theorem routeForVehicle_eq_iff (h : IdsTogether vehicles)
    (hdigest : ∀ v ∈ vehicles, ∀ w ∈ vehicles, digest v.key.text = digest w.key.text → v.key.text = w.key.text)
    (hv : v ∈ vehicles) (hw : w ∈ vehicles) (hvo : v.orders ≠ []) :
    routeForVehicle digest vehicles v.id = some (routeId digest w.key) ↔ v.key.text = w.key.text := by
  rw [routeForVehicle_of_orders h hv hvo, Option.some_inj, routeId, routeId, String.append_right_inj]
  exact ⟨hdigest v hv w hw, congrArg digest⟩

/-- Where the routes are exact, nothing is merged. -/
theorem unmerged_of_routesExact
    (hdigest : ∀ v ∈ vehicles, ∀ w ∈ vehicles, digest v.key.text = digest w.key.text → v.key.text = w.key.text)
    (h : RoutesExact (inferRoutes digest vehicles stations).1 (inferRoutes digest vehicles stations).2 stations) :
    Unmerged vehicles := by
  unfold inferRoutes at h
  simp only at h
  have hout : ∀ v ∈ vehicles, { v with routeId := routeForVehicle digest vehicles v.id } ∈
      vehicles.map fun v => { v with routeId := routeForVehicle digest vehicles v.id } := fun v hv =>
    List.mem_map_of_mem (f := fun v : Vehicle => { v with routeId := routeForVehicle digest vehicles v.id }) hv
  have hids : IdsTogether vehicles := by
    intro v hv w hw hid horders
    have hw' : w.orders ≠ [] := by
      intro hnil
      obtain ⟨⟨route, hroute, hpoints⟩, hin⟩ := h.listed _ (hout v hv) horders
      exact h.unlisted _ (hout w hw) hnil route hroute (hid ▸ (hin route hroute).mpr hpoints)
    refine ⟨hw', (h.grouped _ (hout v hv) _ (hout w hw) horders hw').mp ?_⟩
    simp only [hid]
  refine ⟨hids, fun v hv w hw hvo hwo htext => (h.grouped _ (hout v hv) _ (hout w hw) hvo hwo).mp ?_⟩
  simp only [routeForVehicle_of_orders hids hw hwo]
  exact (routeForVehicle_eq_iff hids hdigest hv hw hvo).mpr htext

/-- Where nothing is merged, the routes are exact. -/
theorem routesExact_of_unmerged
    (hdigest : ∀ v ∈ vehicles, ∀ w ∈ vehicles, digest v.key.text = digest w.key.text → v.key.text = w.key.text)
    (h : Unmerged vehicles) :
    RoutesExact (inferRoutes digest vehicles stations).1 (inferRoutes digest vehicles stations).2 stations := by
  unfold inferRoutes
  simp only
  have hroute : ∀ route ∈ (groupKeys vehicles).map (inferredRoute digest vehicles stations), ∃ w ∈ vehicles,
      w.orders ≠ [] ∧ route = inferredRoute digest vehicles stations w.key := by
    intro route hroute
    obtain ⟨key, hkey, rfl⟩ := List.mem_map.mp hroute
    obtain ⟨w, hw, hgroup⟩ := mem_groupKeys.mp hkey
    obtain ⟨hwo, rfl⟩ := group_eq_some hgroup
    exact ⟨w, hw, hwo, rfl⟩
  refine ⟨?_, ?_, ?_, ?_⟩
  · intro v' hv' w' hw' hvo hwo
    obtain ⟨v, hv, rfl⟩ := List.mem_map.mp hv'
    obtain ⟨w, hw, rfl⟩ := List.mem_map.mp hw'
    simp only [routeForVehicle_of_orders h.ids hw hwo]
    rw [routeForVehicle_eq_iff h.ids hdigest hv hw hvo]
    exact ⟨h.texts v hv w hw hvo hwo, fun hsame => congrArg GroupKey.text (key_eq_iff.mpr hsame)⟩
  · intro v' hv' hvo
    obtain ⟨v, hv, rfl⟩ := List.mem_map.mp hv'
    refine ⟨⟨_, List.mem_map_of_mem (mem_groupKeys.mpr ⟨v, hv, group_of_orders hvo⟩),
      routeForVehicle_of_orders h.ids hv hvo⟩, fun route hin => ?_⟩
    obtain ⟨w, hw, hwo, rfl⟩ := hroute route hin
    rw [mem_vehicleIds]
    refine Iff.trans ?_ (routeForVehicle_eq_iff h.ids hdigest hv hw hvo).symm
    constructor
    · rintro ⟨u, hu, hgroup, hid⟩
      obtain ⟨huo, hkey⟩ := group_eq_some hgroup
      have hsame := (h.ids u hu v hv hid huo).2
      rw [← hkey, key_eq_iff.mpr hsame]
    · intro htext
      have hsame := h.texts v hv w hw hvo hwo htext
      exact ⟨v, hv, by rw [show v.group = some v.key from group_of_orders hvo, key_eq_iff.mpr hsame], rfl⟩
  · intro v' hv' hvo route hin
    obtain ⟨v, hv, rfl⟩ := List.mem_map.mp hv'
    obtain ⟨w, hw, hwo, rfl⟩ := hroute route hin
    rw [mem_vehicleIds]
    rintro ⟨u, hu, hgroup, hid⟩
    exact (h.ids u hu v hv hid (group_eq_some hgroup).1).1 hvo
  · intro v' hv' hvo route hin hpoints signature hrotated
    obtain ⟨v, hv, rfl⟩ := List.mem_map.mp hv'
    obtain ⟨w, hw, hwo, rfl⟩ := hroute route hin
    have hsame := h.texts v hv w hw hvo hwo ((routeForVehicle_eq_iff h.ids hdigest hv hw hvo).mp hpoints)
    rw [← key_eq_iff.mpr hsame]
    exact routeDistance_signature hrotated stations

end

/-! ## Texts without bars -/

/-- No bar in the owner, the type and the destinations of a vehicle. -/
structure Barless (v : Vehicle) : Prop where
  ownerId : '|' ∉ v.ownerId.toList
  type : '|' ∉ v.type.toList
  destinations : ∀ token ∈ v.tokens, '|' ∉ token.destination.toList

/-- The end of a text, or the next bar. -/
theorem append_end_inj {a b x y : List Char} (ha : '|' ∉ a) (hb : '|' ∉ b) (hx : x = [] ∨ ∃ r, x = '|' :: r)
    (hy : y = [] ∨ ∃ r, y = '|' :: r) (h : a ++ x = b ++ y) : a = b ∧ x = y := by
  rcases hx with rfl | ⟨r, rfl⟩
  · rcases hy with rfl | ⟨s, rfl⟩
    · simpa using h
    · rw [List.append_nil] at h
      exact absurd (h ▸ List.mem_append_right b List.mem_cons_self) ha
  · rcases hy with rfl | ⟨s, rfl⟩
    · rw [List.append_nil] at h
      exact absurd (h ▸ List.mem_append_right a List.mem_cons_self) hb
    · obtain ⟨rfl, rfl⟩ := append_bar_inj ha hb h
      exact ⟨rfl, rfl⟩

/-- What stands behind the first of some joined texts. -/
def behind : List String → List Char
  | [] => []
  | s :: ss => '|' :: ("|".intercalate (s :: ss)).toList

theorem behind_cases (ss : List String) : behind ss = [] ∨ ∃ r, behind ss = '|' :: r := by
  cases ss with
  | nil => exact .inl rfl
  | cons s ss => exact .inr ⟨_, rfl⟩

theorem toList_intercalate (s : String) (ss : List String) :
    ("|".intercalate (s :: ss)).toList = s.toList ++ behind ss := by
  cases ss with
  | nil => simp [behind]
  | cons s' ss => simp [String.intercalate_cons_cons, behind]

theorem tokens_of_joined {ts us : List OrderToken} (hts : ∀ t ∈ ts, '|' ∉ t.destination.toList)
    (hus : ∀ u ∈ us, '|' ∉ u.destination.toList)
    (h : behind (ts.map OrderToken.text) = behind (us.map OrderToken.text)) : ts = us := by
  induction ts generalizing us with
  | nil =>
    cases us with
    | nil => rfl
    | cons u us => cases h
  | cons t ts ih =>
    cases us with
    | nil => cases h
    | cons u us =>
      have hlist := (List.cons.inj h).2
      rw [toList_intercalate, toList_intercalate, OrderToken.toList_text, OrderToken.toList_text] at hlist
      simp only [List.append_assoc, List.cons_append] at hlist
      obtain ⟨hkind, hrest⟩ := append_bar_inj (bar_not_mem_kind _) (bar_not_mem_kind _) hlist
      obtain ⟨hdestination, hrest⟩ := append_bar_inj (hts t List.mem_cons_self) (hus u List.mem_cons_self) hrest
      obtain ⟨hflags, htail⟩ := append_end_inj (bar_not_mem_flagsText _) (bar_not_mem_flagsText _)
        (behind_cases _) (behind_cases _) hrest
      have hsame : t = u := by
        apply OrderToken.text_inj
        rw [← String.toList_inj, OrderToken.toList_text, OrderToken.toList_text, hkind, hdestination, hflags]
      rw [hsame, ih (fun t ht => hts t (List.mem_cons_of_mem _ ht))
        (fun u hu => hus u (List.mem_cons_of_mem _ hu)) htail]

section
variable {v w : Vehicle} {vehicles : List Vehicle}

theorem toList_text_key (v : Vehicle) : v.key.text.toList =
    v.ownerId.toList ++ '|' :: (v.type.toList ++ behind (normalizedSignature v)) := by
  show ("|".intercalate (v.ownerId :: v.type :: normalizedSignature v)).toList = _
  rw [toList_intercalate, behind, toList_intercalate]

/-- The signature of a vehicle is written from a rotation of its tokens. -/
theorem exists_signature (v : Vehicle) : ∃ ts, v.tokens ~r ts ∧ normalizedSignature v = ts.map OrderToken.text := by
  obtain ⟨n, hn⟩ := isRotated_least (v.tokens.map OrderToken.text)
  exact ⟨v.tokens.rotate n, ⟨n, rfl⟩, by rw [normalizedSignature, ← hn, List.map_rotate]⟩

theorem sameRoute_of_text (hv : Barless v) (hw : Barless w) (h : v.key.text = w.key.text) : SameRoute v w := by
  obtain ⟨ts, hts, hvsig⟩ := exists_signature v
  obtain ⟨us, hus, hwsig⟩ := exists_signature w
  have hlist := congrArg String.toList h
  rw [toList_text_key, toList_text_key] at hlist
  obtain ⟨howner, hrest⟩ := append_bar_inj hv.ownerId hw.ownerId hlist
  obtain ⟨htype, htail⟩ := append_end_inj hv.type hw.type (behind_cases _) (behind_cases _) hrest
  rw [hvsig, hwsig] at htail
  have hsame := tokens_of_joined (fun t ht => hv.destinations t (hts.mem_iff.mpr ht))
    (fun u hu => hw.destinations u (hus.mem_iff.mpr hu)) htail
  exact ⟨String.toList_inj.mp howner, String.toList_inj.mp htype, hts.trans (hsame ▸ hus.symm)⟩

/-- Without bars, only vehicles of one id are merged. -/
theorem unmerged_of_barless (h : ∀ v ∈ vehicles, Barless v) (hids : IdsTogether vehicles) : Unmerged vehicles :=
  ⟨hids, fun v hv w hw _ _ => sameRoute_of_text (h v hv) (h w hw)⟩

end

/-! ## Vehicles that are merged -/

section Example

def road (id : String) (orders : List VehicleOrder) : Vehicle where
  id := id
  type := "road"
  name := "Bus"
  profitThisYear := 0
  profitLastYear := 0
  runningState := "running"
  orders := orders
  inDepot := false
  ownerId := "company:0"

def stop (destination : String) (flags : Nat) : VehicleOrder where
  kind := .station
  destinationId := some destination
  flags := some flags

/-- Two buses between two stations. -/
def buses : List Vehicle := [road "1" [stop "a" 1, stop "b" 2], road "2" [stop "b" 2, stop "a" 1]]

/-- A bus with the two stations, and one whose only destination is written like both. -/
def mergedBuses : List Vehicle := [road "1" [stop "a" 1, stop "b" 2], road "2" [stop "a|1|station|b" 2]]

end Example

end SimPilot.OpenTTD
