import Mathlib.Data.String.Basic
import Mathlib.Data.Prod.Lex
import SimPilot.Data.Cyclic
import SimPilot.Data.Digits
import SimPilot.Data.TextOrder
import SimPilot.OpenTTD.World
/-!
# Routes from the orders of the vehicles (openttd/route_inference.py)

Vehicles of one owner and one type whose orders are the same up to rotation share a route. The
route is named by a digest of its owner, its type and its tokens, joined by bars; a bar in one of
these can make two different routes one text, and a vehicle is known by its id only.

| here | there |
|---|---|
| `Digest` | `hashlib.sha256(….encode()).hexdigest()[:24]` |
| `routeText` | `"\|".join((owner_id, vehicle_type, *signature))` |
| `stationOf` | `token.split("\|", 2)[1]` of a token that starts with `station\|` |
-/

namespace SimPilot.OpenTTD
open Cyclic TextOrder

/-! ## The tokens -/

def coordinateToken : Option Coordinates → String
  | none => "none"
  | some value => toString value.x ++ "," ++ toString value.y

/-- `order.destination_id or _coordinate_token(order.destination_coordinates)` -/
def VehicleOrder.destination (order : VehicleOrder) : String :=
  match order.destinationId with
  | some id => if id = "" then coordinateToken order.destinationCoordinates else id
  | none => coordinateToken order.destinationCoordinates

/-- The kind, the destination and the flags of an order. -/
structure OrderToken where
  kind : VehicleOrderKind
  destination : String
  flags : Option Nat
  deriving DecidableEq, Repr

def VehicleOrder.token (order : VehicleOrder) : OrderToken := ⟨order.kind, order.destination, order.flags⟩

def OrderToken.text (token : OrderToken) : String :=
  token.kind.value ++ "|" ++ token.destination ++ "|" ++ (token.flags.map toString).getD ""

def Vehicle.tokens (vehicle : Vehicle) : List OrderToken := vehicle.orders.map VehicleOrder.token

/-- `_normalized_signature` -/
def normalizedSignature (vehicle : Vehicle) : List String := least (vehicle.tokens.map OrderToken.text)

/-- What a route is grouped by. -/
abbrev GroupKey : Type := String ×ₗ String ×ₗ List String

def groupKey (ownerId type : String) (signature : List String) : GroupKey :=
  toLex (ownerId, toLex (type, signature))

/-- The group of a vehicle, if it has orders. -/
def Vehicle.group (vehicle : Vehicle) : Option GroupKey :=
  let signature := normalizedSignature vehicle
  if signature = [] then none else some (groupKey vehicle.ownerId vehicle.type signature)

namespace GroupKey

def ownerId (key : GroupKey) : String := (ofLex key).1
def vehicleType (key : GroupKey) : String := (ofLex (ofLex key).2).1
def signature (key : GroupKey) : List String := (ofLex (ofLex key).2).2

/-- `"|".join((owner_id, vehicle_type, *signature))` -/
def text (key : GroupKey) : String := "|".intercalate (key.ownerId :: key.vehicleType :: key.signature)

end GroupKey

/-! ## The routes -/

def stationOf (token : String) : Option String :=
  if "station|".toList <+: token.toList then some (String.ofList ((token.toList.drop 8).takeWhile (· ≠ '|')))
  else none

def stationIds (signature : List String) : List String := signature.filterMap stationOf

/-- The station under an id: of two with one id the later. -/
def stationById (stations : List Station) (id : String) : Option Station := stations.reverse.find? (·.id = id)

def manhattan (a b : Coordinates) : Nat := ((a.x : Int) - b.x).natAbs + ((a.y : Int) - b.y).natAbs

/-- `_route_distance` -/
def routeDistance (stationIds : List String) (stations : List Station) : Option Nat :=
  if stationIds.length < 2 then none
  else (stationIds.mapM fun id => (stationById stations id).map (·.coordinates)).map fun coordinates =>
    ((neighbours coordinates).map fun (left, right) => manhattan left right).sum

/-- The first 24 digits of a digest of a text. -/
abbrev Digest : Type := String → String

section
variable (digest : Digest) (vehicles : List Vehicle) (stations : List Station)

def routeId (key : GroupKey) : String := "route:" ++ digest key.text

/-- The keys of the groups, in their order. -/
def groupKeys : List GroupKey := sortedSet (vehicles.filterMap Vehicle.group)

def groupMembers (key : GroupKey) : List Vehicle := vehicles.filter (·.group = some key)

def inferredRoute (key : GroupKey) : Route :=
  let ids := stationIds key.signature
  { id := routeId digest key
    ownerId := key.ownerId
    vehicleIds := ((groupMembers vehicles key).map (·.id)).insertionSort (· ≤ ·)
    orderedStationIds := ids
    estimatedDistance := routeDistance ids stations
    distanceMethod := if ids = [] then none else some "cyclic_manhattan_between_station_signs"
    inferredRouteType := key.vehicleType }

/-- `route_for_vehicle.get(id)`: the last route that has the id. -/
def routeForVehicle (id : String) : Option String :=
  ((groupKeys vehicles).reverse.find? fun key => id ∈ (groupMembers vehicles key).map (·.id)).map (routeId digest)

def inferRoutes : List Vehicle × List Route :=
  (vehicles.map fun vehicle => { vehicle with routeId := routeForVehicle digest vehicles vehicle.id },
    (groupKeys vehicles).map (inferredRoute digest vehicles stations))

end

/-! ## Tokens and their texts -/

/-- The text in front of the first bar. -/
theorem append_bar_inj {a b r s : List Char} (ha : '|' ∉ a) (hb : '|' ∉ b) (h : a ++ '|' :: r = b ++ '|' :: s) :
    a = b ∧ r = s := by
  induction a generalizing b with
  | nil =>
    cases b with
    | nil => exact ⟨rfl, (List.cons.inj h).2⟩
    | cons c b => exact absurd (List.cons.inj h).1.symm (fun hc => hb (hc ▸ List.mem_cons_self))
  | cons c a ih =>
    cases b with
    | nil => exact absurd (List.cons.inj h).1 (fun hc => ha (hc ▸ List.mem_cons_self))
    | cons d b =>
      obtain ⟨rfl, hrest⟩ := List.cons.inj h
      obtain ⟨rfl, rfl⟩ := ih (fun hm => ha (List.mem_cons_of_mem _ hm))
        (fun hm => hb (List.mem_cons_of_mem _ hm)) hrest
      exact ⟨rfl, rfl⟩

def flagsText (flags : Option Nat) : String := (flags.map toString).getD ""

theorem bar_not_mem_flagsText (flags : Option Nat) : '|' ∉ (flagsText flags).toList := by
  cases flags with
  | none => exact List.not_mem_nil
  | some n => exact Digits.notMem_toString (by decide) n

theorem flagsText_inj {f g : Option Nat} (h : flagsText f = flagsText g) : f = g := by
  have hne : ∀ n : Nat, toString n ≠ "" := by
    intro n hempty
    have hdigits : (toString n).toList = Nat.toDigits 10 n := by simp
    rw [hempty] at hdigits
    exact Nat.toDigits_ne_nil hdigits.symm
  cases f with
  | none =>
    cases g with
    | none => rfl
    | some n => exact absurd h.symm (hne n)
  | some m =>
    cases g with
    | none => exact absurd h (hne m)
    | some n => rw [Digits.toString_inj h]

theorem bar_not_mem_kind (kind : VehicleOrderKind) : '|' ∉ kind.value.toList := by
  cases kind <;> decide

theorem kind_value_inj {k k' : VehicleOrderKind} (h : k.value = k'.value) : k = k' := by
  revert h
  cases k <;> cases k' <;> decide

theorem OrderToken.toList_text (t : OrderToken) :
    t.text.toList = t.kind.value.toList ++ '|' :: (t.destination.toList ++ '|' :: (flagsText t.flags).toList) := by
  simp [OrderToken.text, flagsText]

/-- A token is known by its text. -/
theorem OrderToken.text_inj {t t' : OrderToken} (h : t.text = t'.text) : t = t' := by
  have hlist := congrArg String.toList h
  rw [toList_text, toList_text] at hlist
  obtain ⟨hkind, hrest⟩ := append_bar_inj (bar_not_mem_kind _) (bar_not_mem_kind _) hlist
  have hreverse := congrArg List.reverse hrest
  simp only [List.reverse_append, List.reverse_cons, List.append_assoc, List.singleton_append] at hreverse
  obtain ⟨hflags, hdestination⟩ := append_bar_inj (by simpa using bar_not_mem_flagsText t.flags)
    (by simpa using bar_not_mem_flagsText t'.flags) hreverse
  obtain ⟨kind, destination, flags⟩ := t
  obtain ⟨kind', destination', flags'⟩ := t'
  simp only [List.reverse_inj, String.toList_inj] at hkind hflags hdestination
  rw [kind_value_inj hkind, hdestination, flagsText_inj hflags]

theorem isRotated_map_iff {α β : Type} {f : α → β} (hf : Function.Injective f) {l r : List α} :
    l.map f ~r r.map f ↔ l ~r r := by
  constructor
  · rintro ⟨n, hn⟩
    rw [← List.map_rotate] at hn
    exact ⟨n, List.map_injective_iff.mpr hf hn⟩
  · rintro ⟨n, rfl⟩
    exact ⟨n, (List.map_rotate ..).symm⟩

/-- Vehicles have one signature when their tokens are rotations of one another. -/
theorem normalizedSignature_eq_iff {v w : Vehicle} :
    normalizedSignature v = normalizedSignature w ↔ v.tokens ~r w.tokens := by
  unfold normalizedSignature
  rw [least_eq_iff, isRotated_map_iff fun _ _ => OrderToken.text_inj]

end SimPilot.OpenTTD
