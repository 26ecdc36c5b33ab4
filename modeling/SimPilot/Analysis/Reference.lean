import SimPilot.Analysis.World
/-!
# References to entities (analysis/evidence_view.py)

An entity is referred to by its id, its alias, the start or the end of its id, or its name. All
of these are pooled, and a reference that two entities match is ambiguous: also the id of one
that another extends.

| here | there |
|---|---|
| `entityAlias` | `entity_aliases(snapshot, subject)[id]` (evidence_view.py:24) |
| `resolveEntity` | evidence_view.py:63 |
-/

namespace SimPilot.Analysis

/-- `str.upper` beside `PyFormat`: capitals, digits and hyphens stay what they are. -/
structure PyCase extends PyFormat where
  upper : String → String
  upper_of_capitals : ∀ s, (∀ c ∈ s.toList, c.isUpper = true ∨ c.isDigit = true ∨ c = '-') → upper s = s

/-- `getattr(item, "name", "")` -/
def Entity.name : Entity → String
  | named _ name | vehicle _ name => name
  | route _ _ => ""

/-- The alias of an id: of two elements with one id the later gives it. -/
def entityAlias (subject : AnalysisSubjectType) (values : List Entity) (id : String) : String :=
  match (values.zipIdx 1).reverse.find? fun item => item.1.id = id with
  | some item => aliasLetter subject ++ "-" ++ padLeft 3 item.2
  | none => ""

section
variable (py : PyCase)

/-- The condition on an element of `values` in `resolve_entity`. -/
def matchesReference (subject : AnalysisSubjectType) (values : List Entity) (reference : String) (item : Entity) :
    Bool :=
  item.id = reference || entityAlias subject values item.id = py.upper reference ||
    reference.toList <+: item.id.toList || reference.toList <:+ item.id.toList ||
    py.casefold item.name = py.casefold reference

def resolveEntity (snapshot : WorldSnapshot) (subject : AnalysisSubjectType) (reference : String) :
    Except PyError Entity := do
  let values ← entityCollection snapshot subject
  match values.filter (matchesReference py subject values reference) with
  | [] => .error (.valueError ("no " ++ subject.value ++ " matches " ++ strRepr reference))
  | [item] => return item
  | _ => .error (.valueError (subject.value ++ " reference " ++ strRepr reference ++ " is ambiguous"))

end

/-! ## Aliases -/

theorem padLeft_digits {width n : Nat} {c : Char} (h : c ∈ (padLeft width n).toList) : c.isDigit = true := by
  unfold padLeft at h
  rw [String.toList_append, List.mem_append, String.toList_ofList] at h
  rcases h with h | h
  · rw [(List.mem_replicate.mp h).2]
    rfl
  · have hdigits : (toString n).toList = Nat.toDigits 10 n := by simp
    rw [hdigits] at h
    exact Nat.isDigit_of_mem_toDigits (by decide) (by decide) h

/-- An alias is a capital, a hyphen and digits. -/
theorem entityAlias_capitals (subject : AnalysisSubjectType) (values : List Entity) (id : String) :
    ∀ c ∈ (entityAlias subject values id).toList, c.isUpper = true ∨ c.isDigit = true ∨ c = '-' := by
  intro c hc
  unfold entityAlias at hc
  split at hc
  · rw [String.toList_append, String.toList_append, List.mem_append, List.mem_append] at hc
    rcases hc with (hc | hc) | hc
    · left
      cases subject with
      | world => cases hc
      | _ =>
        cases List.mem_singleton.mp hc
        rfl
    · exact .inr (.inr (List.mem_singleton.mp hc))
    · exact .inr (.inl (padLeft_digits hc))
  · cases hc

@[simp] theorem upper_entityAlias (py : PyCase) (subject : AnalysisSubjectType) (values : List Entity) (id : String) :
    py.upper (entityAlias subject values id) = entityAlias subject values id :=
  py.upper_of_capitals _ (entityAlias_capitals subject values id)

/-! ## Authority -/

section
variable (py : PyCase) (snapshot : WorldSnapshot) (subject : AnalysisSubjectType) (values : List Entity)

/-- The text is the alias, or goes on before or after it. -/
def Extends (shown text : String) : Prop := shown.toList <+: text.toList ∨ shown.toList <:+ text.toList

/-- No id, no name and no other alias of the collection equals or extends the alias of `e`. -/
def AliasAlone (e : Entity) : Prop :=
  ∀ d ∈ values, ¬ Extends (entityAlias subject values e.id) d.id ∧ ¬ Extends (entityAlias subject values e.id) d.name ∧
    (d ≠ e → ¬ Extends (entityAlias subject values e.id) (entityAlias subject values d.id))

/-- The reference is the id, the alias or, but for case, the name. -/
def RefersTo (reference : String) (e : Entity) : Prop :=
  e.id = reference ∨ entityAlias subject values e.id = reference ∨ py.casefold e.name = py.casefold reference

/-- An id resolves to its entity, so does an alias that stands alone, and a reference to two
entities to neither. -/
structure Authoritative : Prop where
  byId : ∀ e ∈ values, resolveEntity py snapshot subject e.id = .ok e
  byAlias : ∀ e ∈ values, AliasAlone subject values e →
    resolveEntity py snapshot subject (entityAlias subject values e.id) = .ok e
  unshared : ∀ reference e, resolveEntity py snapshot subject reference = .ok e →
    ¬ ∃ d₁ ∈ values, ∃ d₂ ∈ values, d₁ ≠ d₂ ∧ RefersTo py subject values reference d₁ ∧
      RefersTo py subject values reference d₂

/-- No id begins or ends another, none is another's name but for case or, in capitals, another's
alias; and no alias that stands alone is, but for case, the name of another entity. -/
structure Unmistakable : Prop where
  ids : ∀ e ∈ values, ∀ d ∈ values, d ≠ e → ¬ e.id.toList <+: d.id.toList ∧ ¬ e.id.toList <:+ d.id.toList ∧
    py.casefold d.name ≠ py.casefold e.id ∧ entityAlias subject values d.id ≠ py.upper e.id
  aliases : ∀ e ∈ values, AliasAlone subject values e → ∀ d ∈ values, d ≠ e →
    py.casefold d.name ≠ py.casefold (entityAlias subject values e.id)

end

section
variable {py : PyCase} {snapshot : WorldSnapshot} {subject : AnalysisSubjectType} {values : List Entity}

theorem filter_eq_singleton {α : Type} {p : α → Bool} {xs : List α} (hnodup : xs.Nodup) {x : α} :
    xs.filter p = [x] ↔ x ∈ xs ∧ p x = true ∧ ∀ y ∈ xs, p y = true → y = x := by
  constructor
  · intro h
    have hx : x ∈ xs.filter p := by rw [h]; exact List.mem_singleton.mpr rfl
    refine ⟨(List.mem_filter.mp hx).1, (List.mem_filter.mp hx).2, fun y hy hp => ?_⟩
    have hin : y ∈ xs.filter p := List.mem_filter.mpr ⟨hy, hp⟩
    rw [h] at hin
    exact List.mem_singleton.mp hin
  · rintro ⟨hx, hp, honly⟩
    refine List.perm_singleton.mp ((List.perm_ext_iff_of_nodup (hnodup.filter _) (List.nodup_singleton _)).mpr ?_)
    intro y
    rw [List.mem_filter, List.mem_singleton]
    constructor
    · rintro ⟨hy, hpy⟩
      exact honly y hy hpy
    · rintro rfl
      exact ⟨hx, hp⟩

/-- A reference resolves to the one entity that matches it. -/
theorem resolveEntity_eq_ok (hvalues : entityCollection snapshot subject = .ok values)
    (hids : (values.map (·.id)).Nodup) {reference : String} {e : Entity} :
    resolveEntity py snapshot subject reference = .ok e ↔
      e ∈ values ∧ matchesReference py subject values reference e = true ∧
        ∀ d ∈ values, matchesReference py subject values reference d = true → d = e := by
  rw [← filter_eq_singleton (List.Nodup.of_map _ hids)]
  unfold resolveEntity
  rw [hvalues]
  change (match values.filter (matchesReference py subject values reference) with
    | [] => Except.error _
    | [item] => .ok item
    | _ => .error _) = .ok e ↔ _
  split
  · rename_i h
    rw [h]
    constructor <;> intro hno <;> cases hno
  · rename_i item h
    rw [h]
    simp
  · rename_i h
    constructor
    · intro hno
      cases hno
    · intro hone
      exact absurd hone (h e)

theorem matchesReference_iff {reference : String} {d : Entity} :
    matchesReference py subject values reference d = true ↔
      d.id = reference ∨ entityAlias subject values d.id = py.upper reference ∨
        reference.toList <+: d.id.toList ∨ reference.toList <:+ d.id.toList ∨
        py.casefold d.name = py.casefold reference := by
  simp only [matchesReference, Bool.or_eq_true, decide_eq_true_eq, or_assoc]

theorem matches_own_id (e : Entity) : matchesReference py subject values e.id e = true :=
  matchesReference_iff.mpr (.inl rfl)

theorem matches_own_alias (e : Entity) :
    matchesReference py subject values (entityAlias subject values e.id) e = true :=
  matchesReference_iff.mpr (.inr (.inl (upper_entityAlias ..).symm))

theorem matches_of_refersTo {reference : String} {d : Entity} (h : RefersTo py subject values reference d) :
    matchesReference py subject values reference d = true := by
  rw [matchesReference_iff]
  rcases h with hid | halias | hname
  · exact .inl hid
  · subst halias
    exact .inr (.inl (upper_entityAlias ..).symm)
  · exact .inr (.inr (.inr (.inr hname)))

/-- Beside an alias that stands alone only names can be mistaken for it. -/
theorem matches_alias_iff {e d : Entity} (h : AliasAlone subject values e) (hd : d ∈ values) (hne : d ≠ e) :
    matchesReference py subject values (entityAlias subject values e.id) d = true ↔
      py.casefold d.name = py.casefold (entityAlias subject values e.id) := by
  obtain ⟨hid, -, hother⟩ := h d hd
  have hfirst : ¬ (entityAlias subject values e.id).toList <+: d.id.toList := fun hp => hid (.inl hp)
  have hlast : ¬ (entityAlias subject values e.id).toList <:+ d.id.toList := fun hs => hid (.inr hs)
  have hsame : d.id ≠ entityAlias subject values e.id := fun heq => hfirst (by rw [heq])
  have halias : entityAlias subject values d.id ≠ entityAlias subject values e.id := by
    intro heq
    refine hother hne (.inl ?_)
    rw [heq]
  rw [matchesReference_iff, upper_entityAlias]
  simp only [hsame, halias, hfirst, hlast, false_or]

/-- Ids and aliases have authority exactly in a collection where no id and no alias is mistaken
for another entity. -/
theorem authoritative_iff (hvalues : entityCollection snapshot subject = .ok values)
    (hids : (values.map (·.id)).Nodup) :
    Authoritative py snapshot subject values ↔ Unmistakable py subject values := by
  constructor
  · intro h
    constructor
    · intro e he d hd hne
      have honly := ((resolveEntity_eq_ok hvalues hids).mp (h.byId e he)).2.2 d hd
      rw [matchesReference_iff] at honly
      refine ⟨fun hp => hne (honly ?_), fun hs => hne (honly ?_), fun hn => hne (honly ?_), fun ha => hne (honly ?_)⟩
      · exact .inr (.inr (.inl hp))
      · exact .inr (.inr (.inr (.inl hs)))
      · exact .inr (.inr (.inr (.inr hn)))
      · exact .inr (.inl ha)
    · intro e he halone d hd hne hname
      have honly := ((resolveEntity_eq_ok hvalues hids).mp (h.byAlias e he halone)).2.2 d hd
      exact hne (honly ((matches_alias_iff halone hd hne).mpr hname))
  · intro h
    constructor
    · intro e he
      refine (resolveEntity_eq_ok hvalues hids).mpr ⟨he, matches_own_id e, fun d hd hmatch => ?_⟩
      by_contra hne
      obtain ⟨hfirst, hlast, hname, halias⟩ := h.ids e he d hd hne
      rcases matchesReference_iff.mp hmatch with hid | ha | hp | hs | hn
      · exact hfirst (by rw [hid])
      · exact halias ha
      · exact hfirst hp
      · exact hlast hs
      · exact hname hn
    · intro e he halone
      refine (resolveEntity_eq_ok hvalues hids).mpr ⟨he, matches_own_alias e, fun d hd hmatch => ?_⟩
      by_contra hne
      exact h.aliases e he halone d hd hne ((matches_alias_iff halone hd hne).mp hmatch)
    · rintro reference e hresolved ⟨d₁, hd₁, d₂, hd₂, hne, h₁, h₂⟩
      have honly := ((resolveEntity_eq_ok hvalues hids).mp hresolved).2.2
      rw [honly d₁ hd₁ (matches_of_refersTo h₁), honly d₂ hd₂ (matches_of_refersTo h₂)] at hne
      exact hne rfl

end

/-! ## Vehicles one and ten -/

section Example

theorem toUpper_capital {c : Char} (h : c.isUpper = true ∨ c.isDigit = true ∨ c = '-') : c.toUpper = c := by
  unfold Char.toUpper
  refine dif_neg fun hlower => ?_
  have h97 : 97 ≤ c.val.toNat := hlower.1
  rcases h with h | h | rfl
  · have h90 : c.val.toNat ≤ 90 := (of_decide_eq_true h).2
    omega
  · have h57 : c.val.toNat ≤ 57 := of_decide_eq_true (Bool.and_eq_true_iff.mp h).2
    omega
  · exact absurd h97 (by decide)

/-- Python's texts as far as letters of ASCII go. -/
def asciiCase : PyCase where
  lower text := String.ofList (text.toList.map Char.toLower)
  casefold text := String.ofList (text.toList.map Char.toLower)
  isSpace c := c = ' '
  title text := text
  sha256 text := text
  upper text := String.ofList (text.toList.map Char.toUpper)
  upper_of_capitals := by
    intro s h
    have hmap : s.toList.map Char.toUpper = s.toList.map id := List.map_congr_left fun c hc => toUpper_capital (h c hc)
    rw [hmap, List.map_id, String.ofList_toList]

def vehicleOf (id name : String) : Vehicle where
  id
  type := "road"
  name
  ageDays := 10
  profitThisYear := 0
  profitLastYear := 0
  runningState := "running"
  inDepot := false
  ownerId := "company-1"

def tenVehicles : WorldSnapshot where
  metadata :=
    { snapshotId := "snapshot-1", worldId := "world-1", game := "openttd", gameVersion := "15.3", gameDate := 100
      captureStartedGameDate := 100, captureCompletedGameDate := 100, complete := true, capabilityFingerprint := "caps"
      saveGeneration := 0, bridgeSequence := 1, capturedAt := 0, observerCompanyId := some "company-1" }
  coverage := [⟨"vehicles", .available⟩]
  vehicles := [vehicleOf "vehicle:1" "Bus 1", vehicleOf "vehicle:10" "Bus 10"]

theorem authoritative_iff_ten :
    Authoritative asciiCase tenVehicles .vehicle [.vehicle "vehicle:1" "Bus 1", .vehicle "vehicle:10" "Bus 10"] ↔
      Unmistakable asciiCase .vehicle [.vehicle "vehicle:1" "Bus 1", .vehicle "vehicle:10" "Bus 10"] :=
  authoritative_iff rfl (by decide +kernel)

/-- The id of the first vehicle is ambiguous. -/
theorem not_authoritative_ten :
    ¬ Authoritative asciiCase tenVehicles .vehicle [.vehicle "vehicle:1" "Bus 1", .vehicle "vehicle:10" "Bus 10"] := by
  have hambiguous : (resolveEntity asciiCase tenVehicles .vehicle "vehicle:1").toOption = none := by decide +kernel
  intro h
  have hresolved := h.byId (.vehicle "vehicle:1" "Bus 1") (List.mem_cons_self ..)
  have hid : (Entity.vehicle "vehicle:1" "Bus 1").id = "vehicle:1" := rfl
  rw [hid] at hresolved
  rw [hresolved] at hambiguous
  cases hambiguous

end Example

end SimPilot.Analysis
