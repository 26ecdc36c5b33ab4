import SimPilot.OpenTTD.WorldDiff
/-!
# What the records of a difference say

The records are those that two worlds differ by (`Describes`), once each. Of the tracked fields of
the previous world they make those of the current one (`patch`): an element that is removed is
gone, one that is added is there, of which the records say no more, and a field that changed has
its value of after. Where a world is incomplete, or a collection unavailable, what is added and
removed is not said.
-/

namespace SimPilot.OpenTTD
open TextOrder

/-! ## Two worlds -/

/-- The ids of an element are its own, in each collection. -/
def WorldSnapshot.Distinct (s : WorldSnapshot) : Prop := ∀ c ∈ collections, ((c.items s).map (·.id)).Nodup

/-- The capture is complete, and no collection is unavailable. -/
structure WorldSnapshot.Observed (s : WorldSnapshot) : Prop where
  complete : s.metadata.complete = true
  available : ∀ c ∈ collections, ∀ item ∈ s.coverage, item.category = c.category → item.status ≠ .unavailable

def Collection.has (c : Collection) (s : WorldSnapshot) (id : String) : Prop := ∃ item ∈ c.items s, item.id = id

/-- A tracked field of an element. -/
def Collection.tracks (c : Collection) (s : WorldSnapshot) (id field : String) (value : FieldValue) : Prop :=
  field ∈ c.fields ∧ ∃ item ∈ c.items s, item.id = id ∧ item.getattr field = value

/-- A difference of two worlds. -/
def Describes (previous current : WorldSnapshot) : WorldChange → Prop
  | .entityAdded entityType id => ∃ c ∈ collections, c.entityType = entityType ∧ c.has current id ∧ ¬ c.has previous id
  | .entityRemoved entityType id =>
    ∃ c ∈ collections, c.entityType = entityType ∧ c.has previous id ∧ ¬ c.has current id
  | .fieldChanged entityType id field before after =>
    ∃ c ∈ collections, c.entityType = entityType ∧ c.tracks previous id field before ∧
      c.tracks current id field after ∧ before ≠ after
  | .coverageChanged category before after =>
    statusOf previous category = some before ∧ statusOf current category = some after ∧ before ≠ after

/-- A record of the opposite difference. -/
def WorldChange.swap : WorldChange → WorldChange
  | entityAdded entityType id => entityRemoved entityType id
  | entityRemoved entityType id => entityAdded entityType id
  | fieldChanged entityType id field before after => fieldChanged entityType id field after before
  | coverageChanged category before after => coverageChanged category after before

/-- Ids, tracked fields and the coverage of what both list agree. -/
structure Agree (previous current : WorldSnapshot) : Prop where
  ids : ∀ c ∈ collections, ∀ id, c.has previous id ↔ c.has current id
  fields : ∀ c ∈ collections, ∀ id field value, c.tracks previous id field value ↔ c.tracks current id field value
  coverage : ∀ category before after, statusOf previous category = some before →
    statusOf current category = some after → before = after

/-! ## Applying records -/

/-- The tracked fields of an element, where it is there. -/
abbrev Row := Option (String → Option FieldValue)

def Collection.row (c : Collection) (s : WorldSnapshot) (id : String) : Row :=
  (lookup (c.items s) id).map fun item field => if field ∈ c.fields then some (item.getattr field) else none

/-- The value of a field after the change. -/
def WorldChange.after? (entityType id field : String) : WorldChange → Option FieldValue
  | fieldChanged t i f _ after => if t = entityType ∧ i = id ∧ f = field then some after else none
  | _ => none

/-- What the records make of a row. -/
def patch (changes : List WorldChange) (entityType id : String) (row : Row) : Row :=
  if .entityRemoved entityType id ∈ changes then none
  else if .entityAdded entityType id ∈ changes then some fun _ => none
  else row.map fun values field => (changes.findSome? (·.after? entityType id field)).or (values field)

/-! ## The collections -/

theorem entityType_inj {c c' : Collection} (hc : c ∈ collections) (hc' : c' ∈ collections)
    (h : c.entityType = c'.entityType) : c = c' :=
  List.inj_on_of_nodup_map (show (collections.map (·.entityType)).Nodup by decide) hc hc' h

theorem fields_nodup {c : Collection} (hc : c ∈ collections) : c.fields.Nodup := by
  have hall : ∀ fields ∈ collections.map (·.fields), fields.Nodup := by decide
  exact hall _ (List.mem_map_of_mem hc)

section
variable {previous current : WorldSnapshot} {c : Collection} {id field : String} {value : FieldValue}

theorem mem_ids_iff_has {s : WorldSnapshot} : id ∈ ids (c.items s) ↔ c.has s id := mem_ids

theorem tracks_iff {s : WorldSnapshot} (hc : c ∈ collections) (hs : s.Distinct) :
    c.tracks s id field value ↔
      field ∈ c.fields ∧ ∃ item, lookup (c.items s) id = some item ∧ item.getattr field = value := by
  refine and_congr_right fun _ => exists_congr fun item => ?_
  rw [lookup_eq_some (hs c hc), and_assoc]

theorem complete_of_observed (hprevious : previous.Observed) (hcurrent : current.Observed) (hc : c ∈ collections) :
    complete previous current c.category = true := by
  have hstatus : ∀ {s : WorldSnapshot}, s.Observed →
      (s.coverage.find? (·.category = c.category)).map (·.status) ≠ some .unavailable := by
    intro s hs h
    obtain ⟨item, hitem, hun⟩ := Option.map_eq_some_iff.mp h
    exact hs.available c hc item (List.mem_of_find?_eq_some hitem) (by simpa using List.find?_some hitem) hun
  simp only [complete, hprevious.complete, hcurrent.complete, Bool.and_self, Bool.true_and, Bool.and_eq_true,
    decide_eq_true_eq]
  exact ⟨hstatus hprevious, hstatus hcurrent⟩

/-! ## The records -/

theorem mem_categories {s : WorldSnapshot} {category : String} :
    category ∈ categories s ↔ ∃ status, statusOf s category = some status := by
  rw [categories, List.mem_dedup, ← Option.isSome_iff_exists, statusOf, Option.isSome_map, List.find?_isSome]
  simp

theorem mem_coverageChanges {change : WorldChange} : change ∈ coverageChanges previous current ↔
    ∃ category before after, change = .coverageChanged category before after ∧
      statusOf previous category = some before ∧ statusOf current category = some after ∧ before ≠ after := by
  unfold coverageChanges
  rw [List.mem_filterMap]
  constructor
  · rintro ⟨category, -, h⟩
    split at h
    · rename_i before after hbefore hafter
      split_ifs at h with hne
      exact ⟨category, before, after, (Option.some.inj h).symm, hbefore, hafter, hne⟩
    · cases h
  · rintro ⟨category, before, after, rfl, hbefore, hafter, hne⟩
    refine ⟨category, ?_, ?_⟩
    · rw [mem_sortedSet, List.mem_filter, decide_eq_true_eq]
      exact ⟨mem_categories.mpr ⟨before, hbefore⟩, mem_categories.mpr ⟨after, hafter⟩⟩
    · rw [hbefore, hafter]
      exact if_pos hne

theorem coverageChanges_nodup : (coverageChanges previous current).Nodup := by
  refine (nodup_sortedSet _).filterMap fun category category' change h h' => ?_
  rw [Option.mem_def] at h h'
  split at h
  · split at h'
    · split_ifs at h
      split_ifs at h'
      cases h
      cases h'
      rfl
    · cases h'
  · cases h

/-- The records are the differences. -/
theorem mem_worldChanges (hp : previous.Distinct) (hc : current.Distinct) (hprevious : previous.Observed)
    (hcurrent : current.Observed) {change : WorldChange} :
    change ∈ worldChanges previous current ↔ Describes previous current change := by
  unfold worldChanges
  rw [List.mem_append, mem_coverageChanges, List.mem_flatMap]
  constructor
  · rintro (⟨category, before, after, rfl, h⟩ | ⟨c, hin, h⟩)
    · exact h
    · rcases mem_compare.mp h with ⟨-, id, rfl, hids⟩ | ⟨-, id, rfl, hids⟩ |
        ⟨id, field, before, after, hb, ha, hf, hne, rfl⟩
      · exact ⟨c, hin, rfl, mem_ids_iff_has.mp hids.1, mt mem_ids_iff_has.mpr hids.2⟩
      · exact ⟨c, hin, rfl, mem_ids_iff_has.mp hids.1, mt mem_ids_iff_has.mpr hids.2⟩
      · exact ⟨c, hin, rfl, (tracks_iff hin hp).mpr ⟨hf, before, hb, rfl⟩, (tracks_iff hin hc).mpr ⟨hf, after, ha, rfl⟩,
          hne⟩
  · intro h
    cases change with
    | coverageChanged category before after => exact .inl ⟨category, before, after, rfl, h⟩
    | entityAdded entityType id =>
      obtain ⟨c, hin, rfl, h⟩ := h
      refine .inr ⟨c, hin, mem_compare.mpr (.inl ⟨complete_of_observed hprevious hcurrent hin, id, rfl, ?_⟩)⟩
      exact ⟨mem_ids_iff_has.mpr h.1, mt mem_ids_iff_has.mp h.2⟩
    | entityRemoved entityType id =>
      obtain ⟨c, hin, rfl, h⟩ := h
      refine .inr ⟨c, hin, mem_compare.mpr (.inr (.inl ⟨complete_of_observed hprevious hcurrent hin, id, rfl, ?_⟩))⟩
      exact ⟨mem_ids_iff_has.mpr h.1, mt mem_ids_iff_has.mp h.2⟩
    | fieldChanged entityType id field before after =>
      obtain ⟨c, hin, rfl, hbefore, hafter, hne⟩ := h
      obtain ⟨hf, b, hb, rfl⟩ := (tracks_iff hin hp).mp hbefore
      obtain ⟨-, a, ha, rfl⟩ := (tracks_iff hin hc).mp hafter
      exact .inr ⟨c, hin, mem_compare.mpr (.inr (.inr ⟨id, field, b, a, hb, ha, hf, hne, rfl⟩))⟩

/-- The type of what a record is about. -/
def WorldChange.entityType? : WorldChange → Option String
  | entityAdded entityType _ | entityRemoved entityType _ | fieldChanged entityType _ _ _ _ => some entityType
  | coverageChanged _ _ _ => none

theorem entityType_of_mem_compare {entityType : String} {items items' : List Item} {fields : List String} {all : Bool}
    {change : WorldChange} (h : change ∈ compare entityType items items' fields all) :
    change.entityType? = some entityType := by
  rcases mem_compare.mp h with ⟨-, _, rfl, -⟩ | ⟨-, _, rfl, -⟩ | ⟨_, _, _, _, -, -, -, -, rfl⟩ <;> rfl

theorem worldChanges_nodup : (worldChanges previous current).Nodup := by
  unfold worldChanges
  rw [List.nodup_append, List.nodup_flatMap]
  refine ⟨coverageChanges_nodup, ⟨fun c hc => compare_nodup _ (fields_nodup hc) _, ?_⟩, ?_⟩
  · have hnodup : collections.Pairwise fun c c' => c.entityType ≠ c'.entityType :=
      List.pairwise_map.mp (show (collections.map (·.entityType)).Nodup by decide)
    refine hnodup.imp fun {c c'} hne change h h' => hne ?_
    exact Option.some.inj ((entityType_of_mem_compare h).symm.trans (entityType_of_mem_compare h'))
  · rintro change hcoverage _ hcompare rfl
    obtain ⟨_, _, _, rfl, -⟩ := mem_coverageChanges.mp hcoverage
    obtain ⟨c, -, h⟩ := List.mem_flatMap.mp hcompare
    cases entityType_of_mem_compare h

/-! ## The opposite difference -/

theorem swap_swap (change : WorldChange) : change.swap.swap = change := by cases change <;> rfl

theorem describes_swap {change : WorldChange} :
    Describes current previous change ↔ Describes previous current change.swap := by
  cases change with
  | entityAdded => exact Iff.rfl
  | entityRemoved => exact Iff.rfl
  | fieldChanged entityType id field before after =>
    refine exists_congr fun c => and_congr_right fun _ => and_congr_right fun _ => ?_
    rw [and_left_comm, ne_comm]
  | coverageChanged category before after =>
    show _ ∧ _ ∧ _ ↔ _ ∧ _ ∧ _
    rw [and_left_comm, ne_comm]

/-! ## The patch -/

theorem findSome_eq_some {α β : Type} {f : α → Option β} {l : List α} {b : β}
    (hall : ∀ a ∈ l, ∀ b', f a = some b' → b' = b)
    (hex : ∃ a ∈ l, f a = some b) : l.findSome? f = some b := by
  obtain ⟨a, ha, hab⟩ := hex
  obtain ⟨b', hb'⟩ := Option.isSome_iff_exists.mp
    (List.findSome?_isSome_iff.mpr ⟨a, ha, Option.isSome_iff_exists.mpr ⟨b, hab⟩⟩)
  obtain ⟨a', ha', hab'⟩ := List.exists_of_findSome?_eq_some hb'
  rw [hb', hall a' ha' b' hab']

theorem after_eq_some {entityType : String} {change : WorldChange} : change.after? entityType id field = some value ↔
    ∃ before, change = .fieldChanged entityType id field before value := by
  cases change with
  | fieldChanged t i f before after =>
    simp only [WorldChange.after?]
    split_ifs with h
    · obtain ⟨rfl, rfl, rfl⟩ := h
      simp
    · simp only [false_iff, WorldChange.fieldChanged.injEq, not_exists]
      rintro _ ⟨rfl, rfl, rfl, -⟩
      exact h ⟨rfl, rfl, rfl⟩
  | _ => simp [WorldChange.after?]

variable {changes : List WorldChange}

theorem row_eq_none {s : WorldSnapshot} (h : ¬ c.has s id) : c.row s id = none := by
  rw [← mem_ids_iff_has, mem_ids_iff_lookup] at h
  rw [Collection.row, Option.map_eq_none_iff]
  cases hfound : lookup (c.items s) id with
  | none => rfl
  | some item => exact absurd ⟨item, hfound⟩ h

/-- What the records make of the value of a tracked field. -/
theorem patched_field (hp : previous.Distinct) (hc : current.Distinct)
    (hexact : ∀ change, change ∈ changes ↔ Describes previous current change) (hin : c ∈ collections)
    {before after : Item}
    (hbefore : lookup (c.items previous) id = some before) (hafter : lookup (c.items current) id = some after)
    (field : String) :
    (changes.findSome? (·.after? c.entityType id field)).or
        (if field ∈ c.fields then some (before.getattr field) else none) =
      if field ∈ c.fields then some (after.getattr field) else none := by
  have hchanged : ∀ value, (∃ change ∈ changes, change.after? c.entityType id field = some value) ↔
      field ∈ c.fields ∧ before.getattr field ≠ after.getattr field ∧ value = after.getattr field := by
    intro value
    constructor
    · rintro ⟨change, hmem, hvalue⟩
      obtain ⟨b, rfl⟩ := after_eq_some.mp hvalue
      obtain ⟨c', hin', htype, htb, hta, hne⟩ := (hexact _).mp hmem
      obtain rfl := entityType_inj hin' hin htype
      obtain ⟨hf, i, hi, rfl⟩ := (tracks_iff hin hp).mp htb
      obtain ⟨-, j, hj, rfl⟩ := (tracks_iff hin hc).mp hta
      cases hi.symm.trans hbefore
      cases hj.symm.trans hafter
      exact ⟨hf, hne, rfl⟩
    · rintro ⟨hf, hne, rfl⟩
      refine ⟨_, (hexact (.fieldChanged c.entityType id field (before.getattr field) (after.getattr field))).mpr ?_,
        after_eq_some.mpr ⟨_, rfl⟩⟩
      exact ⟨c, hin, rfl, (tracks_iff hin hp).mpr ⟨hf, before, hbefore, rfl⟩,
        (tracks_iff hin hc).mpr ⟨hf, after, hafter, rfl⟩, hne⟩
  by_cases hdiffers : field ∈ c.fields ∧ before.getattr field ≠ after.getattr field
  · rw [findSome_eq_some (fun a ha b' hb' => ((hchanged b').mp ⟨a, ha, hb'⟩).2.2)
      ((hchanged _).mpr ⟨hdiffers.1, hdiffers.2, rfl⟩), if_pos hdiffers.1, if_pos hdiffers.1]
    rfl
  · have hnone : changes.findSome? (·.after? c.entityType id field) = none := by
      rw [List.findSome?_eq_none_iff]
      intro change hmem
      cases hvalue : change.after? c.entityType id field with
      | none => rfl
      | some value =>
        have hfield := (hchanged value).mp ⟨change, hmem, hvalue⟩
        exact absurd ⟨hfield.1, hfield.2.1⟩ hdiffers
    rw [hnone, Option.none_or]
    split_ifs with hf
    · rw [not_not.mp fun hne => hdiffers ⟨hf, hne⟩]
    · rfl

/-- The records make the rows of the previous world those of the current one. -/
theorem patch_row (hp : previous.Distinct) (hc : current.Distinct)
    (hexact : ∀ change, change ∈ changes ↔ Describes previous current change) (hin : c ∈ collections) (id : String) :
    ((patch changes c.entityType id (c.row previous id)).isSome = true ↔ c.has current id) ∧
      (c.has previous id → c.has current id →
        patch changes c.entityType id (c.row previous id) = c.row current id) := by
  have hremoved : .entityRemoved c.entityType id ∈ changes ↔ c.has previous id ∧ ¬ c.has current id := by
    rw [hexact]
    constructor
    · rintro ⟨c', hin', htype, h⟩
      rwa [entityType_inj hin' hin htype] at h
    · exact fun h => ⟨c, hin, rfl, h⟩
  have hadded : .entityAdded c.entityType id ∈ changes ↔ c.has current id ∧ ¬ c.has previous id := by
    rw [hexact]
    constructor
    · rintro ⟨c', hin', htype, h⟩
      rwa [entityType_inj hin' hin htype] at h
    · exact fun h => ⟨c, hin, rfl, h⟩
  unfold patch
  by_cases hprevious : c.has previous id
  · by_cases hcurrent : c.has current id
    · rw [if_neg (mt hremoved.mp fun h => h.2 hcurrent), if_neg (mt hadded.mp fun h => h.2 hprevious)]
      obtain ⟨before, hbefore⟩ := mem_ids_iff_lookup.mp (mem_ids_iff_has.mpr hprevious)
      obtain ⟨after, hafter⟩ := mem_ids_iff_lookup.mp (mem_ids_iff_has.mpr hcurrent)
      have hrow : (c.row previous id).map (fun values field =>
          (changes.findSome? (·.after? c.entityType id field)).or (values field)) = c.row current id := by
        unfold Collection.row
        rw [hbefore, hafter]
        refine congrArg some (funext fun field => ?_)
        exact patched_field hp hc hexact hin hbefore hafter field
      rw [hrow]
      refine ⟨⟨fun _ => hcurrent, fun _ => ?_⟩, fun _ _ => rfl⟩
      unfold Collection.row
      rw [hafter]
      rfl
    · rw [if_pos (hremoved.mpr ⟨hprevious, hcurrent⟩)]
      exact ⟨⟨fun h => (by cases h), fun h => absurd h hcurrent⟩, fun _ h => absurd h hcurrent⟩
  · rw [if_neg (mt hremoved.mp fun h => hprevious h.1)]
    by_cases hcurrent : c.has current id
    · rw [if_pos (hadded.mpr ⟨hcurrent, hprevious⟩)]
      exact ⟨⟨fun _ => hcurrent, fun _ => rfl⟩, fun h => absurd h hprevious⟩
    · rw [if_neg (mt hadded.mp fun h => hcurrent h.1), row_eq_none hprevious]
      exact ⟨⟨fun h => (by cases h), fun h => absurd h hcurrent⟩, fun h => absurd h hprevious⟩

/-- There are no records where two worlds agree. -/
theorem eq_nil_iff_agree (hexact : ∀ change, change ∈ changes ↔ Describes previous current change)
    (hc : current.Distinct) : changes = [] ↔ Agree previous current := by
  rw [List.eq_nil_iff_forall_not_mem]
  simp only [hexact]
  constructor
  · intro h
    have hids : ∀ c ∈ collections, ∀ id, c.has previous id ↔ c.has current id := by
      intro c hin id
      constructor
      · intro hhas
        by_contra hnot
        exact h (.entityRemoved c.entityType id) ⟨c, hin, rfl, hhas, hnot⟩
      · intro hhas
        by_contra hnot
        exact h (.entityAdded c.entityType id) ⟨c, hin, rfl, hhas, hnot⟩
    refine ⟨hids, fun c hin id field value => ?_, fun category before after hbefore hafter => ?_⟩
    · constructor
      · rintro htracks
        have ⟨hf, b, hb, hid, heqb⟩ := htracks
        obtain ⟨a, ha, haid⟩ := (hids c hin id).mp ⟨b, hb, hid⟩
        by_contra hnot
        refine h (.fieldChanged c.entityType id field _ (a.getattr field))
          ⟨c, hin, rfl, htracks, ⟨hf, a, ha, haid, rfl⟩, ?_⟩
        intro heq
        exact hnot (heq ▸ ⟨hf, a, ha, haid, rfl⟩)
      · rintro htracks
        have ⟨hf, a, ha, hid, heqa⟩ := htracks
        obtain ⟨b, hb, hbid⟩ := (hids c hin id).mpr ⟨a, ha, hid⟩
        by_contra hnot
        refine h (.fieldChanged c.entityType id field (b.getattr field) _)
          ⟨c, hin, rfl, ⟨hf, b, hb, hbid, rfl⟩, htracks, ?_⟩
        intro heq
        exact hnot (heq ▸ ⟨hf, b, hb, hbid, rfl⟩)
    · by_contra hne
      exact h (.coverageChanged category before after) ⟨hbefore, hafter, hne⟩
  · intro h change hdescribes
    cases change with
    | entityAdded entityType id =>
      obtain ⟨c, hin, -, hhas, hnot⟩ := hdescribes
      exact hnot ((h.ids c hin id).mpr hhas)
    | entityRemoved entityType id =>
      obtain ⟨c, hin, -, hhas, hnot⟩ := hdescribes
      exact hnot ((h.ids c hin id).mp hhas)
    | fieldChanged entityType id field before after =>
      obtain ⟨c, hin, -, hbefore, hafter, hne⟩ := hdescribes
      have hsame := (h.fields c hin id field before).mp hbefore
      obtain ⟨-, i, hi, rfl⟩ := (tracks_iff hin hc).mp hsame
      obtain ⟨-, j, hj, rfl⟩ := (tracks_iff hin hc).mp hafter
      cases hi.symm.trans hj
      exact hne rfl
    | coverageChanged category before after =>
      obtain ⟨hbefore, hafter, hne⟩ := hdescribes
      exact hne (h.coverage category before after hbefore hafter)

end

/-! ## The difference of two worlds -/

/-- The records are the differences, once each; they make of the previous tracked fields the
current ones; and there are none where the worlds agree. -/
structure FaithfulPatch (previous current : WorldSnapshot) (changes : List WorldChange) : Prop where
  once : changes.Nodup
  exact : ∀ change, change ∈ changes ↔ Describes previous current change
  elements : ∀ c ∈ collections, ∀ id,
    (patch changes c.entityType id (c.row previous id)).isSome = true ↔ c.has current id
  fields : ∀ c ∈ collections, ∀ id, c.has previous id → c.has current id →
    patch changes c.entityType id (c.row previous id) = c.row current id
  nothing : changes = [] ↔ Agree previous current

/-- A world of one company. -/
def companyWorld (snapshotId : String) (cash : Int) : WorldSnapshot where
  metadata := ⟨snapshotId, "world", true⟩
  coverage := [⟨"companies", .available⟩]
  companies := [{ id := "company:0", name := "Transport", cash, loan := 100000 }]

end SimPilot.OpenTTD
