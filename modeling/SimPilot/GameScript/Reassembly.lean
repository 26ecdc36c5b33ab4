import SimPilot.GameScript.Client
import SimPilot.GameScript.Script
import Mathlib.Algebra.BigOperators.Group.List.Basic
import Mathlib.Data.List.Nodup
import Mathlib.Data.List.FinRange
import Mathlib.Data.List.Perm.Basic
/-!
# A world snapshot in pages

The script sends a manifest, a page for each item, and a completion (main.nut:174). The
client keys the pages by collection and index (client.py:439) and puts the world together
when the completion comes (client.py:456). What tells the pages of one capture from those
of another is the snapshot id alone: nothing in a page is compared with the manifest, but
for the number of the items.

| here | there |
|---|---|
| `worldPages` | the pages `SendWorldSnapshot` sends |
| `receiveAll` | messages read in the loop of `synchronize` |
| `Collecting` | `_world_manifest` and `_world_pages` behind the pages accepted |
-/

namespace SimPilot.GameScript

/-! ## The pages of the script -/

def collectionPages (worldId : String) (name : WorldCollection) (items : List Entity) :
    List WorldCollectionPagePayload :=
  items.zipIdx.map fun item =>
    { snapshotId := worldId, collection := name, pageIndex := item.2, pageCount := items.length, items := [item.1] }

/-- The pages of a world, a collection after the other. -/
def worldPages (worldId : String) (world : Assoc WorldCollection (List Entity)) : List WorldCollectionPagePayload :=
  world.flatMap fun collection => collectionPages worldId collection.1 collection.2

/-- The items of a collection. -/
def itemsOf (world : Assoc WorldCollection (List Entity)) (name : WorldCollection) : List Entity :=
  (world.get name).getD []

namespace Running
variable {γ : Type} (build : Build) (api : GameApi γ) (r : Running γ)

/-- The id `SendWorldSnapshot` gives its capture. -/
def worldId : String :=
  let instanceId := r.bridge.instanceId.getD "null"
  let nextSequence := r.bridge.sequence + 1
  s!"{instanceId}:world:{nextSequence}"

def captured : Assoc WorldCollection (List Entity) := api.worldCollections r.game r.bridge.activeCompany

def worldManifest : WorldManifestPayload where
  snapshotId := r.worldId
  captureStartedGameDate := api.currentDate r.game
  collectionCounts := (r.captured api).map fun collection => (collection.1, collection.2.length)

def worldComplete : WorldSnapshotCompletePayload where
  snapshotId := r.worldId
  captureCompletedGameDate := api.currentDate r.game
  totalItems := ((r.captured api).map fun collection => collection.2.length).sum

/-- From `r` on, messages of one type with these payloads go out, and the game stands still. -/
def SendsAll (kind : MessageType) (payloads : List Payload) (r r' : Running γ) : Prop :=
  r'.game = r.game ∧ ∃ messages : List BridgeMessage, r'.sent = r.sent ++ messages ∧
    messages.map (·.payload) = payloads ∧ ∀ m ∈ messages, m.messageType = kind

theorem SendsAll.refl (kind : MessageType) (r : Running γ) : SendsAll kind [] r r :=
  ⟨rfl, [], by simp, rfl, by simp⟩

theorem SendsAll.trans {kind : MessageType} {xs ys : List Payload} {r r' r'' : Running γ} (h : SendsAll kind xs r r')
    (h' : SendsAll kind ys r' r'') : SendsAll kind (xs ++ ys) r r'' := by
  obtain ⟨hgame, ms, hsent, hpayloads, htypes⟩ := h
  obtain ⟨hgame', ms', hsent', hpayloads', htypes'⟩ := h'
  refine ⟨hgame'.trans hgame, ms ++ ms', ?_, ?_, ?_⟩
  · rw [hsent', hsent, List.append_assoc]
  · rw [List.map_append, hpayloads, hpayloads']
  · intro m hm
    rcases List.mem_append.1 hm with hm | hm
    · exact htypes m hm
    · exact htypes' m hm

theorem sendsAll_send (kind : MessageType) (correlation : Option String) (company : Option Int) (payload : Payload)
    (r : Running γ) : SendsAll kind [payload] r (r.send build api kind correlation company payload) :=
  ⟨rfl, [r.message build api kind correlation company payload], rfl, rfl, fun _ hm => List.mem_singleton.1 hm ▸ rfl⟩

theorem sendsAll_sendPages (worldId : String) (name : WorldCollection) (items : List Entity) (r : Running γ) :
    SendsAll .worldCollectionPage ((collectionPages worldId name items).map .worldPage) r
      (r.sendPages build api worldId name items) := by
  unfold sendPages collectionPages
  generalize items.length = count
  generalize items.zipIdx = indexed
  induction indexed generalizing r with
  | nil => exact SendsAll.refl ..
  | cons item indexed ih => exact (sendsAll_send build api _ none _ _ r).trans (ih _)

theorem sendsAll_world (worldId : String) (world : Assoc WorldCollection (List Entity)) (r : Running γ) :
    SendsAll .worldCollectionPage ((worldPages worldId world).map .worldPage) r
      (world.foldl (fun r (name, items) => r.sendPages build api worldId name items) r) := by
  induction world generalizing r with
  | nil => exact SendsAll.refl ..
  | cons collection world ih =>
    rw [worldPages, List.flatMap_cons, List.map_append]
    exact (sendsAll_sendPages build api worldId collection.1 collection.2 r).trans (ih _)

/-- **What `SendWorldSnapshot` sends**: the manifest, the pages of the captured world, and the completion. -/
theorem sendsAll_sendWorldSnapshot : ∃ (manifest complete : BridgeMessage) (pages : List BridgeMessage),
    (r.sendWorldSnapshot build api).sent = r.sent ++ manifest :: pages ++ [complete] ∧
      manifest.messageType = .worldManifest ∧ manifest.payload = .worldManifest (r.worldManifest api) ∧
      pages.map (·.payload) = (worldPages r.worldId (r.captured api)).map .worldPage ∧
      (∀ m ∈ pages, m.messageType = .worldCollectionPage) ∧
      complete.messageType = .worldSnapshotComplete ∧ complete.payload = .worldComplete (r.worldComplete api) := by
  let id := r.worldId
  let manifest := r.message build api .worldManifest none r.bridge.activeCompany (.worldManifest (r.worldManifest api))
  let start := r.send build api .worldManifest none r.bridge.activeCompany (.worldManifest (r.worldManifest api))
  let finish := (r.captured api).foldl (fun r (name, items) => r.sendPages build api id name items) start
  let complete := finish.message build api .worldSnapshotComplete none finish.bridge.activeCompany
    (.worldComplete { r.worldComplete api with captureCompletedGameDate := api.currentDate finish.game })
  obtain ⟨hgame, pages, hsent, hpayloads, htypes⟩ := sendsAll_world build api (r.worldId) (r.captured api) start
  refine ⟨manifest, complete, pages, ?_, rfl, rfl, hpayloads, htypes, rfl, ?_⟩
  · have hfinish : (r.sendWorldSnapshot build api).sent = finish.sent ++ [complete] := rfl
    rw [hfinish, show finish.sent = _ from hsent, show start.sent = r.sent ++ [manifest] from rfl]
    simp
  · have hdate : api.currentDate finish.game = api.currentDate r.game := congrArg api.currentDate hgame
    show Payload.worldComplete { r.worldComplete api with captureCompletedGameDate := api.currentDate finish.game } = _
    rw [hdate]
    rfl

end Running

/-! ## Which pages are the script's -/

section Pages
variable {worldId : String} {world : Assoc WorldCollection (List Entity)} {page page' : WorldCollectionPagePayload}

theorem mem_collectionPages {name : WorldCollection} {items : List Entity} :
    page ∈ collectionPages worldId name items ↔ page.snapshotId = worldId ∧ page.collection = name ∧
      page.pageCount = items.length ∧ ∃ item, items[page.pageIndex]? = some item ∧ page.items = [item] := by
  unfold collectionPages
  simp only [List.mem_map, Prod.exists, List.mem_zipIdx_iff_getElem?]
  constructor
  · rintro ⟨item, index, hitem, rfl⟩
    exact ⟨rfl, rfl, rfl, item, hitem, rfl⟩
  · obtain ⟨id, name', index, count, content⟩ := page
    rintro ⟨rfl, rfl, rfl, item, hitem, rfl⟩
    exact ⟨item, index, hitem, rfl⟩

theorem mem_itemsOf (hslots : (Assoc.keys world).Nodup) {name : WorldCollection} {items : List Entity}
    (h : (name, items) ∈ world) : itemsOf world name = items := by
  rw [itemsOf, Assoc.get_of_mem hslots h]
  rfl

/-- A page of the script shows one item of its collection. -/
theorem mem_worldPages (hslots : (Assoc.keys world).Nodup) : page ∈ worldPages worldId world ↔
    page.snapshotId = worldId ∧ page.pageCount = (itemsOf world page.collection).length ∧
      ∃ item, (itemsOf world page.collection)[page.pageIndex]? = some item ∧ page.items = [item] := by
  simp only [worldPages, List.mem_flatMap, Prod.exists, mem_collectionPages]
  constructor
  · rintro ⟨name, items, hmem, hid, rfl, hcount, hitem⟩
    rw [mem_itemsOf hslots hmem]
    exact ⟨hid, hcount, hitem⟩
  · rintro ⟨hid, hcount, item, hitem, hitems⟩
    unfold itemsOf at hcount hitem
    cases hget : Assoc.get world page.collection with
    | none =>
      rw [hget] at hitem
      simp at hitem
    | some items =>
      rw [hget] at hcount hitem
      exact ⟨page.collection, items, Assoc.mem_of_get hget, hid, rfl, hcount, item, hitem, hitems⟩

/-- Collection and index tell the pages of the script apart. -/
theorem worldPages_ext (hslots : (Assoc.keys world).Nodup) (h : page ∈ worldPages worldId world)
    (h' : page' ∈ worldPages worldId world) (hcollection : page.collection = page'.collection)
    (hindex : page.pageIndex = page'.pageIndex) : page = page' := by
  obtain ⟨hid, hcount, item, hitem, hitems⟩ := (mem_worldPages hslots).1 h
  obtain ⟨hid', hcount', item', hitem', hitems'⟩ := (mem_worldPages hslots).1 h'
  obtain ⟨id, name, index, count, content⟩ := page
  obtain ⟨id', name', index', count', content'⟩ := page'
  dsimp only at *
  subst hcollection hindex
  rw [hitem, Option.some.injEq] at hitem'
  rw [hid, hid', hcount, hcount', hitems, hitems', hitem']

theorem nodup_worldPages (hslots : (Assoc.keys world).Nodup) : (worldPages worldId world).Nodup := by
  rw [worldPages, List.nodup_flatMap]
  constructor
  · rintro ⟨name, items⟩ -
    unfold collectionPages
    refine List.Nodup.of_map (·.pageIndex) ?_
    rw [List.map_map]
    have hindexes : (items.zipIdx.map fun item => item.2) = List.range items.length := by
      rw [List.zipIdx_map_snd]
      exact List.range_eq_range'.symm
    rw [show (fun page : WorldCollectionPagePayload => page.pageIndex) ∘ _ = fun item : Entity × Nat => item.2 from rfl,
      hindexes]
    exact List.nodup_range
  · rw [Assoc.keys, List.nodup_iff_pairwise_ne, List.pairwise_map] at hslots
    refine hslots.imp fun {a b} hne page ha hb => hne ?_
    exact (mem_collectionPages.1 ha).2.1.symm.trans (mem_collectionPages.1 hb).2.1

end Pages

/-! ## Accepting pages -/

/-- A `world_collection_page` message with its place. -/
structure PageMessage where
  place : Nat
  message : BridgeMessage
  page : WorldCollectionPagePayload
  isPage : message.messageType = .worldCollectionPage
  carries : message.payload = .worldPage page

/-- Behind a manifest, the client holds these pages and no others. -/
structure Collecting (manifest : WorldManifestPayload) (accepted : List PageMessage) (c : Client) : Prop where
  ids : ∀ a ∈ accepted, a.page.snapshotId = manifest.snapshotId
  manifest : ∃ places, c.worldManifest = some ⟨manifest, places⟩
  pages : ∀ name, (c.worldPages.get name).getD [] =
    (accepted.filter (·.page.collection = name)).map fun m => (m.page.pageIndex, ⟨m.page, [m.place]⟩)
  distinct : accepted.Pairwise fun a b => ¬ (a.page.collection = b.page.collection ∧ a.page.pageIndex = b.page.pageIndex)

/-- Why a page is refused (client.py:444-451). -/
def Refused (manifest : WorldManifestPayload) (accepted : List PageMessage) (m : PageMessage) : Prop :=
  m.page.snapshotId ≠ manifest.snapshotId ∨
    (∃ a ∈ accepted, a.page.collection = m.page.collection ∧ a.page.pageIndex = m.page.pageIndex) ∨
    m.page.pageCount ≤ m.page.pageIndex

theorem contains_iff_mem_keys {κ α : Type} [DecidableEq κ] {d : Assoc κ α} {key : κ} :
    d.contains key = true ↔ key ∈ Assoc.keys d := by
  rw [Assoc.contains, Option.isSome_iff_exists]
  constructor
  · rintro ⟨v, hv⟩
    exact List.mem_map_of_mem (f := Prod.fst) (Assoc.mem_of_get hv)
  · intro h
    by_contra hnone
    simp only [not_exists, ← Option.eq_none_iff_forall_ne_some] at hnone
    exact Assoc.get_eq_none hnone h

section Client
variable {manifest : WorldManifestPayload} {accepted : List PageMessage} {c : Client} {m : PageMessage}

/-- The indexes the client has of a collection. -/
theorem Collecting.contains (h : Collecting manifest accepted c) (name : WorldCollection) (index : Nat) :
    ((c.worldPages.get name).getD []).contains index = true ↔
      ∃ a ∈ accepted, a.page.collection = name ∧ a.page.pageIndex = index := by
  rw [h.pages, contains_iff_mem_keys]
  simp [Assoc.keys, and_assoc]

/-- A page is refused with a sequence error, or kept. -/
theorem Collecting.acceptWorldPage (h : Collecting manifest accepted c) (m : PageMessage) :
    (Refused manifest accepted m ∧ ∃ c', c.acceptWorldPage m.place m.message = .error (.sequence, c')) ∨
      ¬ Refused manifest accepted m ∧ ∃ c', c.acceptWorldPage m.place m.message = .ok c' ∧
        Collecting manifest (accepted ++ [m]) c' := by
  obtain ⟨places, hmanifest⟩ := h.manifest
  unfold Client.acceptWorldPage
  rw [m.carries]
  simp only [hmanifest]
  by_cases hid : m.page.snapshotId = manifest.snapshotId
  · rw [if_neg (not_not.2 hid)]
    by_cases hcontains : ((c.worldPages.get m.page.collection).getD []).contains m.page.pageIndex = true
    · rw [if_pos hcontains]
      exact .inl ⟨.inr (.inl ((h.contains _ _).1 hcontains)), _, rfl⟩
    · rw [if_neg hcontains]
      by_cases hrange : m.page.pageCount ≤ m.page.pageIndex
      · rw [if_pos hrange]
        exact .inl ⟨.inr (.inr hrange), _, rfl⟩
      · rw [if_neg hrange]
        refine .inr ⟨?_, _, rfl, ?_, ⟨places, rfl⟩, fun name => ?_, ?_⟩
        · rintro (hne | hdup | hle)
          · exact hne hid
          · exact hcontains ((h.contains _ _).2 hdup)
          · exact hrange hle
        · intro a ha
          rcases List.mem_append.1 ha with ha | ha
          · exact h.ids a ha
          · rw [List.mem_singleton.1 ha, hid]
        · have hfresh : m.page.pageIndex ∉ Assoc.keys ((c.worldPages.get m.page.collection).getD []) :=
            fun hmem => hcontains (contains_iff_mem_keys.2 hmem)
          dsimp only
          rw [Assoc.get_set]
          by_cases hname : m.page.collection = name
          · subst hname
            rw [if_pos rfl, Option.getD_some, Assoc.set_of_not_mem hfresh, h.pages]
            simp
          · rw [if_neg hname, Assoc.get_set, if_neg hname, h.pages]
            simp [hname]
        · rw [List.pairwise_append]
          refine ⟨h.distinct, List.pairwise_singleton .., fun a ha b hb => ?_⟩
          rw [List.mem_singleton] at hb
          rintro ⟨hcollection, hindex⟩
          rw [hb] at hcollection hindex
          exact hcontains ((h.contains _ _).2 ⟨a, ha, hcollection, hindex⟩)
  · rw [if_pos hid]
    exact .inl ⟨.inl hid, _, rfl⟩

end Client

/-! ## Putting a collection together -/

/-- `expected_pages`. -/
def expectedPages (expected : Nat) (pages : Assoc Nat (Sourced WorldCollectionPagePayload)) : Nat :=
  if expected = 0 then 0
  else match pages with
    | [] => 0
    | (_, page) :: _ => page.value.pageCount

theorem collectPages_eq (expected : Nat) (pages : Assoc Nat (Sourced WorldCollectionPagePayload)) :
    Client.collectPages expected pages =
      if expectedPages expected pages ≠ pages.length ∨ ¬ (pages.keys.all (· < expectedPages expected pages) ∧
          (List.range (expectedPages expected pages)).all fun index => pages.contains index) then none
      else if ((List.range (expectedPages expected pages)).flatMap fun index =>
          ((pages.get index).map (·.value.items)).getD []).length ≠ expected then none
      else some ((List.range (expectedPages expected pages)).flatMap fun index =>
        ((pages.get index).map (·.value.items)).getD []) := rfl

/-- The client's pages of a collection are pages of these items. -/
structure PagesOf (items : List Entity) (pages : Assoc Nat (Sourced WorldCollectionPagePayload)) : Prop where
  nodup : (Assoc.keys pages).Nodup
  count : ∀ entry ∈ pages, entry.2.value.pageCount = items.length
  content : ∀ entry ∈ pages, ∃ item, items[entry.1]? = some item ∧ entry.2.value.items = [item]

namespace PagesOf
variable {items : List Entity} {pages : Assoc Nat (Sourced WorldCollectionPagePayload)}

theorem index_lt (h : PagesOf items pages) {index : Nat} (hi : index ∈ Assoc.keys pages) : index < items.length := by
  obtain ⟨entry, hentry, rfl⟩ := List.mem_map.1 hi
  obtain ⟨item, hitem, -⟩ := h.content entry hentry
  exact (List.getElem?_eq_some_iff.1 hitem).1

/-- The number of pages the client reads off its first page (client.py:467). -/
theorem expectedPages_eq (h : PagesOf items pages) (hpages : pages ≠ [] ∨ items.length = 0) :
    expectedPages items.length pages = items.length := by
  unfold expectedPages
  by_cases hzero : items.length = 0
  · rw [if_pos hzero, hzero]
  · rw [if_neg hzero]
    cases pages with
    | nil => exact absurd hzero (by simpa using hpages)
    | cons entry rest => exact h.count entry (List.mem_cons_self ..)

/-- With every page the collection is the item list, in the order of the indexes. -/
theorem collectPages_complete (h : PagesOf items pages) (hall : ∀ index < items.length, index ∈ Assoc.keys pages) :
    Client.collectPages items.length pages = some items := by
  have hperm : (Assoc.keys pages).Perm (List.range items.length) :=
    (List.perm_ext_iff_of_nodup h.nodup List.nodup_range).2 fun index => by
      rw [List.mem_range]
      exact ⟨h.index_lt, hall index⟩
  have hlength : pages.length = items.length := by
    have := hperm.length_eq
    simpa [Assoc.keys] using this
  have hexpected : expectedPages items.length pages = items.length := by
    refine h.expectedPages_eq ?_
    by_cases hpages : pages = []
    · rw [hpages] at hlength
      exact .inr hlength.symm
    · exact .inl hpages
  have hitems : (List.range items.length).flatMap (fun index => ((Assoc.get pages index).map (·.value.items)).getD []) =
      items := by
    have hone : ∀ index : Fin items.length,
        ((Assoc.get pages index.val).map (·.value.items)).getD [] = [items.get index] := by
      intro index
      obtain ⟨entry, hentry, hkey⟩ := List.mem_map.1 (hall index index.isLt)
      obtain ⟨item, hitem, hcontent⟩ := h.content entry hentry
      rw [hkey, List.getElem?_eq_getElem index.isLt, Option.some.injEq] at hitem
      have hget : Assoc.get pages index.val = some entry.2 := by
        rw [← hkey]
        exact Assoc.get_of_mem h.nodup hentry
      rw [hget, Option.map_some, Option.getD_some, hcontent, ← hitem]
      rfl
    rw [← List.map_coe_finRange_eq_range, List.flatMap_map, List.flatMap_congr fun index _ => hone index,
      ← List.map_eq_flatMap]
    exact List.map_get_finRange items
  rw [collectPages_eq, hexpected]
  have hkeys : (Assoc.keys pages).all (· < items.length) = true := by
    rw [List.all_eq_true]
    exact fun index hi => decide_eq_true (h.index_lt hi)
  have hcontains : (List.range items.length).all (fun index => pages.contains index) = true := by
    rw [List.all_eq_true]
    exact fun index hi => contains_iff_mem_keys.2 (hall index (List.mem_range.1 hi))
  rw [if_neg (by simp [hlength, hkeys, hcontains])]
  rw [hitems, if_neg (not_not.2 rfl)]

/-- With a page missing there is no collection. -/
theorem collectPages_missing (h : PagesOf items pages) {index : Nat} (hi : index < items.length)
    (hmissing : index ∉ Assoc.keys pages) : Client.collectPages items.length pages = none := by
  have hne : items.length ≠ 0 := Nat.ne_of_gt (Nat.zero_lt_of_lt hi)
  rw [collectPages_eq]
  by_cases hpages : pages = []
  · subst hpages
    have hnone : expectedPages items.length [] = 0 := if_neg hne
    rw [hnone, if_neg (by simp [Assoc.keys]), if_pos (by simpa using Ne.symm hne)]
  · rw [h.expectedPages_eq (.inl hpages)]
    have hcontains : ¬ (List.range items.length).all (fun index => pages.contains index) = true := by
      rw [List.all_eq_true]
      exact fun hall => hmissing (contains_iff_mem_keys.1 (hall index (List.mem_range.2 hi)))
    rw [if_pos (.inr fun hboth => hcontains hboth.2)]

end PagesOf

/-! ## The completion -/

theorem mapM_eq_some {α β : Type} {f : α → Option β} {g : α → β} : ∀ {l : List α}, (∀ a ∈ l, f a = some (g a)) →
    l.mapM f = some (l.map g)
  | [], _ => rfl
  | a :: l, h => by
    rw [List.mapM_cons, h a (List.mem_cons_self ..), mapM_eq_some fun b hb => h b (List.mem_cons_of_mem _ hb)]
    rfl

theorem mapM_eq_none {α β : Type} {f : α → Option β} {a : α} (h : f a = none) : ∀ {l : List α}, a ∈ l → l.mapM f = none
  | b :: l, hmem => by
    rw [List.mapM_cons]
    rcases List.mem_cons.1 hmem with rfl | hmem
    · rw [h]
      rfl
    · rw [mapM_eq_none h hmem]
      cases f b <;> rfl

theorem WorldCollection.mem_all (name : WorldCollection) : name ∈ WorldCollection.all := by
  cases name <;> decide

section Completion
variable {worldId : String} {world : Assoc WorldCollection (List Entity)}

theorem counts_get (name : WorldCollection) :
    (Assoc.get (world.map fun collection => (collection.1, collection.2.length)) name).getD 0 =
      (itemsOf world name).length := by
  unfold itemsOf
  induction world with
  | nil => rfl
  | cons collection world ih =>
    rw [List.map_cons, Assoc.get_cons, Assoc.get_cons]
    split
    · rfl
    · exact ih

/-- The collections hold as many items as the world. -/
theorem sum_itemsOf (hslots : (Assoc.keys world).Nodup) :
    (WorldCollection.all.map fun name => (itemsOf world name).length).sum =
      (world.map fun collection => collection.2.length).sum := by
  induction world with
  | nil => rfl
  | cons collection world ih =>
    obtain ⟨name, items⟩ := collection
    simp only [Assoc.keys, List.map_cons, List.nodup_cons] at hslots
    obtain ⟨hfresh, hslots⟩ := hslots
    have hnone : itemsOf world name = [] := by
      unfold itemsOf
      cases hget : Assoc.get world name with
      | none => rfl
      | some items' => exact absurd (List.mem_map_of_mem (f := Prod.fst) (Assoc.mem_of_get hget)) hfresh
    have hone : ∀ other, (itemsOf ((name, items) :: world) other).length =
        (if name = other then items.length else 0) + (itemsOf world other).length := by
      intro other
      unfold itemsOf at hnone ⊢
      rw [Assoc.get_cons]
      by_cases hname : name = other
      · subst hname
        rw [if_pos rfl, if_pos rfl, hnone]
        rfl
      · rw [if_neg hname, if_neg hname, Nat.zero_add]
    have hall : (WorldCollection.all.map fun other => if name = other then items.length else 0).sum = items.length := by
      cases name <;> simp [WorldCollection.all]
    rw [List.map_congr_left fun other _ => hone other, List.sum_map_add, hall, ih hslots, List.map_cons, List.sum_cons]

end Completion

/-- A manifest, a list of pages and a completion of one world. -/
structure Announces (worldId : String) (world : Assoc WorldCollection (List Entity)) (manifest : WorldManifestPayload)
    (completed : WorldSnapshotCompletePayload) : Prop where
  slots : (Assoc.keys world).Nodup
  manifestId : manifest.snapshotId = worldId
  counts : manifest.collectionCounts = world.map fun collection => (collection.1, collection.2.length)
  completedId : completed.snapshotId = worldId
  total : completed.totalItems = (world.map fun collection => collection.2.length).sum

/-- The world as the client should have it. -/
def assembled (world : Assoc WorldCollection (List Entity)) (manifest : WorldManifestPayload)
    (completed : WorldSnapshotCompletePayload) : BridgeWorldSnapshot where
  snapshotId := completed.snapshotId
  captureStartedGameDate := manifest.captureStartedGameDate
  captureCompletedGameDate := completed.captureCompletedGameDate
  entities := WorldCollection.all.map fun name => (name, itemsOf world name)

section Assembly
variable {worldId : String} {world : Assoc WorldCollection (List Entity)} {manifest : WorldManifestPayload}
  {completed : WorldSnapshotCompletePayload} {accepted : List PageMessage} {c : Client}

/-- Pages of the script, each accepted once. -/
theorem Collecting.pagesOf (h : Collecting manifest accepted c) (hslots : (Assoc.keys world).Nodup)
    (hown : ∀ a ∈ accepted, a.page ∈ worldPages worldId world) (name : WorldCollection) :
    PagesOf (itemsOf world name) ((c.worldPages.get name).getD []) := by
  rw [h.pages]
  have hentry : ∀ entry ∈ (accepted.filter (·.page.collection = name)).map
      (fun m => (m.page.pageIndex, (⟨m.page, [m.place]⟩ : Sourced WorldCollectionPagePayload))),
      entry.2.value.pageCount = (itemsOf world name).length ∧
        ∃ item, (itemsOf world name)[entry.1]? = some item ∧ entry.2.value.items = [item] := by
    intro entry hentry
    obtain ⟨m, hm, rfl⟩ := List.mem_map.1 hentry
    obtain ⟨hmem, hname⟩ := List.mem_filter.1 hm
    obtain rfl : m.page.collection = name := of_decide_eq_true hname
    exact ((mem_worldPages hslots).1 (hown m hmem)).2
  refine ⟨?_, fun entry he => (hentry entry he).1, fun entry he => (hentry entry he).2⟩
  rw [Assoc.keys, List.map_map, List.nodup_iff_pairwise_ne, List.pairwise_map]
  refine (h.distinct.filter _).imp_of_mem fun {a b} ha hb hab heq => hab ⟨?_, heq⟩
  rw [of_decide_eq_true (List.mem_filter.1 ha).2, of_decide_eq_true (List.mem_filter.1 hb).2]

/-- The client has a page of the script exactly when it accepted it. -/
theorem Collecting.mem_keys (h : Collecting manifest accepted c) (hslots : (Assoc.keys world).Nodup)
    (hown : ∀ a ∈ accepted, a.page ∈ worldPages worldId world) {page : WorldCollectionPagePayload}
    (hpage : page ∈ worldPages worldId world) :
    page.pageIndex ∈ Assoc.keys ((c.worldPages.get page.collection).getD []) ↔ page ∈ accepted.map (·.page) := by
  rw [← contains_iff_mem_keys, h.contains, List.mem_map]
  constructor
  · rintro ⟨a, ha, hcollection, hindex⟩
    exact ⟨a, ha, worldPages_ext hslots (hown a ha) hpage hcollection hindex⟩
  · rintro ⟨a, ha, rfl⟩
    exact ⟨a, ha, rfl, rfl⟩

/-- The completion succeeds when no page is missing, with the world of the script, and is a
sequence error otherwise. -/
theorem Collecting.acceptWorldComplete (h : Collecting manifest accepted c)
    (hannounced : Announces worldId world manifest completed)
    (hown : ∀ a ∈ accepted, a.page ∈ worldPages worldId world) (place : Nat) {m : BridgeMessage}
    (hm : m.payload = .worldComplete completed) :
    ((∀ page ∈ worldPages worldId world, page ∈ accepted.map (·.page)) ∧ ∃ c', c.acceptWorldComplete place m = .ok c' ∧
      c'.health.worldSnapshot.map (·.value) = some (assembled world manifest completed)) ∨
    (∃ page ∈ worldPages worldId world, page ∉ accepted.map (·.page)) ∧
      ∃ c', c.acceptWorldComplete place m = .error (.sequence, c') := by
  obtain ⟨places, hmanifest⟩ := h.manifest
  unfold Client.acceptWorldComplete
  rw [hm]
  simp only [hmanifest, hannounced.completedId, hannounced.manifestId, ne_eq, not_true_eq_false, if_false,
    hannounced.counts, counts_get]
  by_cases hall : ∀ page ∈ worldPages worldId world, page ∈ accepted.map (·.page)
  · refine .inl ⟨hall, ?_⟩
    have hcollect : ∀ name ∈ WorldCollection.all, (do
        let items ← Client.collectPages (itemsOf world name).length ((c.worldPages.get name).getD [])
        return (name, items)) = some (name, itemsOf world name) := by
      intro name _
      have hcomplete : ∀ index < (itemsOf world name).length,
          index ∈ Assoc.keys ((c.worldPages.get name).getD []) := by
        intro index hindex
        let page : WorldCollectionPagePayload :=
          { snapshotId := worldId, collection := name, pageIndex := index, pageCount := (itemsOf world name).length
            items := [(itemsOf world name)[index]] }
        have hpage : page ∈ worldPages worldId world :=
          (mem_worldPages hannounced.slots).2 ⟨rfl, rfl, _, List.getElem?_eq_getElem hindex, rfl⟩
        exact (h.mem_keys hannounced.slots hown hpage).2 (hall page hpage)
      rw [(h.pagesOf hannounced.slots hown name).collectPages_complete hcomplete]
      rfl
    rw [mapM_eq_some hcollect]
    have htotal : ((WorldCollection.all.map fun name => (name, itemsOf world name)).map (·.2.length)).sum =
        completed.totalItems := by
      rw [List.map_map, hannounced.total, ← sum_itemsOf hannounced.slots]
      rfl
    dsimp only
    rw [if_neg (not_not.2 htotal)]
    refine ⟨_, rfl, ?_⟩
    rw [Option.map_some, assembled, hannounced.completedId]
  · refine .inr ?_
    simp only [not_forall] at hall
    obtain ⟨page, hpage, hmissing⟩ := hall
    refine ⟨⟨page, hpage, hmissing⟩, ?_⟩
    obtain ⟨-, -, item, hitem, -⟩ := (mem_worldPages hannounced.slots).1 hpage
    have hnone : (do
        let items ← Client.collectPages (itemsOf world page.collection).length
          ((c.worldPages.get page.collection).getD [])
        return (page.collection, items)) = none := by
      rw [(h.pagesOf hannounced.slots hown page.collection).collectPages_missing (List.getElem?_eq_some_iff.1 hitem).1
        fun hkeys => hmissing ((h.mem_keys hannounced.slots hown hpage).1 hkeys)]
      rfl
    have hmapM := mapM_eq_none (f := fun name => do
      let items ← Client.collectPages (itemsOf world name).length ((c.worldPages.get name).getD [])
      return (name, items)) hnone page.collection.mem_all
    rw [hmapM]
    exact ⟨_, rfl⟩

end Assembly

/-! ## The loop of `synchronize` -/

/-- Messages read one after the other in the loop of `synchronize`, with their places. -/
def receiveAll (config : ClientConfig) (requestId : String) :
    List (Nat × BridgeMessage) → Client → Handshake → Outcome (Client × Handshake)
  | [], c, f => .ok (c, f)
  | (place, m) :: rest, c, f => do
    let (c, f) ← CallKind.synchronizeMessage config requestId place m c f
    receiveAll config requestId rest c f

theorem receiveAll_append (config : ClientConfig) (requestId : String) : ∀ (xs ys : List (Nat × BridgeMessage))
    (c : Client) (f : Handshake), receiveAll config requestId (xs ++ ys) c f = do
      let (c, f) ← receiveAll config requestId xs c f
      receiveAll config requestId ys c f
  | [], _, _, _ => rfl
  | (place, m) :: xs, ys, c, f => by
    rw [List.cons_append, receiveAll, receiveAll]
    cases CallKind.synchronizeMessage config requestId place m c f with
    | error e => rfl
    | ok result => exact receiveAll_append config requestId xs ys result.1 result.2

def PageMessage.entry (m : PageMessage) : Nat × BridgeMessage := (m.place, m.message)

section Loop
variable {config : ClientConfig} {requestId : String} {manifest : WorldManifestPayload} {f : Handshake}

theorem synchronizeMessage_page (hmet : f.met = true) {accepted : List PageMessage} {c : Client}
    (h : Collecting manifest accepted c) (m : PageMessage) :
    CallKind.synchronizeMessage config requestId m.place m.message c f =
      (c.acceptWorldPage m.place m.message).map fun c => (c, f) := by
  obtain ⟨places, hmanifest⟩ := h.manifest
  unfold CallKind.synchronizeMessage
  rw [m.isPage]
  simp only [hmet, hmanifest, Option.isSome_some, and_self, not_true_eq_false, if_false]
  cases c.acceptWorldPage m.place m.message <;> rfl

variable (config requestId) in
/-- Pages are read until one is refused. -/
theorem receiveAll_pages (hmet : f.met = true) : ∀ (ms : List PageMessage) {accepted : List PageMessage} {c : Client},
    Collecting manifest accepted c →
      (∃ c', receiveAll config requestId (ms.map (·.entry)) c f = .ok (c', f) ∧ Collecting manifest (accepted ++ ms) c') ∨
      (∃ before m after, ms = before ++ m :: after ∧ Refused manifest (accepted ++ before) m) ∧
        ∃ c', receiveAll config requestId (ms.map (·.entry)) c f = .error (.sequence, c')
  | [], accepted, c, h => .inl ⟨c, rfl, by rwa [List.append_nil]⟩
  | m :: ms, accepted, c, h => by
    rw [List.map_cons, PageMessage.entry, receiveAll, synchronizeMessage_page hmet h]
    rcases h.acceptWorldPage m with ⟨hrefused, c', hc'⟩ | ⟨-, c', hc', hnext⟩
    · rw [hc']
      exact .inr ⟨⟨[], m, ms, rfl, by rwa [List.append_nil]⟩, c', rfl⟩
    · rw [hc']
      rcases receiveAll_pages hmet ms hnext with ⟨c'', hc'', hall⟩ | ⟨⟨before, m', after, hms, hrefused⟩, hfailed⟩
      · exact .inl ⟨c'', hc'', by rwa [List.append_assoc] at hall⟩
      · refine .inr ⟨⟨m :: before, m', after, by rw [hms]; rfl, ?_⟩, hfailed⟩
        rwa [List.append_assoc] at hrefused

/-- A page refused is a page too many, or one of another capture. -/
theorem Refused.not_perm {worldId : String} {world : Assoc WorldCollection (List Entity)}
    {before after : List PageMessage} {m : PageMessage} (hslots : (Assoc.keys world).Nodup)
    (hid : manifest.snapshotId = worldId) (hrefused : Refused manifest before m) :
    ¬ ((before ++ m :: after).map (·.page)).Perm (worldPages worldId world) := by
  intro hperm
  have hmem : ∀ a ∈ before ++ m :: after, a.page ∈ worldPages worldId world :=
    fun a ha => hperm.mem_iff.1 (List.mem_map_of_mem ha)
  have hm := hmem m (by simp)
  obtain ⟨hmid, hcount, item, hitem, -⟩ := (mem_worldPages hslots).1 hm
  rcases hrefused with hne | ⟨a, ha, hcollection, hindex⟩ | hrange
  · exact hne (hmid.trans hid.symm)
  · have heq := worldPages_ext hslots (hmem a (by simp [ha])) hm hcollection hindex
    have hnodup := hperm.nodup_iff.2 (nodup_worldPages hslots)
    rw [List.map_append, List.map_cons, List.nodup_append] at hnodup
    exact hnodup.2.2 a.page (List.mem_map_of_mem ha) m.page (List.mem_cons_self ..) heq
  · have hlt := (List.getElem?_eq_some_iff.1 hitem).1
    omega

end Loop

/-- **A world is put together from its pages, each once, or not at all.** Behind a manifest
of the script come pages in any order, with any losses and repetitions: pages of this
capture, and pages under other ids. With the completion the client has the world of the
script exactly when they are the pages the script sent; otherwise the call fails with a
sequence error. -/
theorem world_reassembled {γ : Type} (api : GameApi γ) (r : Running γ)
    (hslots : (Assoc.keys (r.captured api)).Nodup) (config : ClientConfig) (requestId : String) (c : Client)
    (f : Handshake) (hmet : f.met = true) (manifest complete : Nat × BridgeMessage)
    (hmanifest : manifest.2.messageType = .worldManifest ∧ manifest.2.payload = .worldManifest (r.worldManifest api))
    (hcomplete : complete.2.messageType = .worldSnapshotComplete ∧
      complete.2.payload = .worldComplete (r.worldComplete api))
    (ms : List PageMessage)
    (hown : ∀ m ∈ ms, m.page.snapshotId = r.worldId → m.page ∈ worldPages r.worldId (r.captured api)) :
    match receiveAll config requestId (manifest :: ms.map (·.entry) ++ [complete]) c f with
    | .ok (c', f') => (ms.map (·.page)).Perm (worldPages r.worldId (r.captured api)) ∧ f' = { f with world := true } ∧
        c'.health.worldSnapshot.map (·.value) = some (assembled (r.captured api) (r.worldManifest api) (r.worldComplete api))
    | .error (e, _) => e = .sequence ∧ ¬ (ms.map (·.page)).Perm (worldPages r.worldId (r.captured api)) := by
  have hannounced : Announces r.worldId (r.captured api) (r.worldManifest api) (r.worldComplete api) :=
    { slots := hslots, manifestId := rfl, counts := rfl, completedId := rfl, total := rfl }
  have hstart : Collecting (r.worldManifest api) []
      { c with worldManifest := some ⟨r.worldManifest api, [manifest.1]⟩, worldPages := [] } :=
    ⟨by simp, ⟨_, rfl⟩, fun _ => rfl, List.Pairwise.nil⟩
  have hfirst : CallKind.synchronizeMessage config requestId manifest.1 manifest.2 c f =
      .ok ({ c with worldManifest := some ⟨r.worldManifest api, [manifest.1]⟩, worldPages := [] }, f) := by
    unfold CallKind.synchronizeMessage Client.acceptWorldManifest
    rw [hmanifest.1, hmanifest.2]
    simp only [hmet, not_true_eq_false, if_false]
    rfl
  rw [List.cons_append, receiveAll, hfirst]
  simp only [bind, Except.bind]
  rw [receiveAll_append]
  rcases receiveAll_pages config requestId hmet ms hstart with
    ⟨c', hc', hheld⟩ | ⟨⟨before, m, after, hms, hrefused⟩, c', hfailed⟩
  · have hall : ∀ a ∈ ms, a.page ∈ worldPages r.worldId (r.captured api) := fun a ha => hown a ha (hheld.ids a ha)
    have hperm : (ms.map (·.page)).Perm (worldPages r.worldId (r.captured api)) ↔
        ∀ page ∈ worldPages r.worldId (r.captured api), page ∈ ms.map (·.page) := by
      constructor
      · exact fun hperm page hpage => hperm.mem_iff.2 hpage
      · intro hcovers
        refine (List.perm_ext_iff_of_nodup ?_ (nodup_worldPages hslots)).2 fun page => ⟨?_, hcovers page⟩
        · rw [List.nodup_iff_pairwise_ne, List.pairwise_map]
          exact hheld.distinct.imp fun {a b} hne heq => hne ⟨by rw [heq], by rw [heq]⟩
        · intro hpage
          obtain ⟨a, ha, rfl⟩ := List.mem_map.1 hpage
          exact hall a ha
    have hlast : CallKind.synchronizeMessage config requestId complete.1 complete.2 c' f =
        (c'.acceptWorldComplete complete.1 complete.2).map fun c => (c, { f with world := true }) := by
      obtain ⟨places, hplaces⟩ := hheld.manifest
      unfold CallKind.synchronizeMessage
      rw [hcomplete.1]
      simp only [hmet, hplaces, Option.isSome_some, and_self, not_true_eq_false, if_false]
      cases c'.acceptWorldComplete complete.1 complete.2 <;> rfl
    rw [hc']
    simp only [bind, Except.bind]
    rw [receiveAll, hlast]
    rcases hheld.acceptWorldComplete hannounced hall complete.1 hcomplete.2 with
      ⟨hcovers, c'', hc'', hworld⟩ | ⟨⟨page, hpage, hmissing⟩, c'', hc''⟩
    · rw [hc'']
      exact ⟨hperm.2 hcovers, rfl, hworld⟩
    · rw [hc'']
      exact ⟨rfl, fun h => hmissing (hperm.1 h page hpage)⟩
  · rw [hfailed]
    subst hms
    exact ⟨rfl, hrefused.not_perm hslots rfl⟩

/-! ## A world of two towns -/

def town (id name : String) : Entity :=
  "\x7b\"entity_type\":\"town\",\"id\":" ++ id ++ ",\"name\":\"" ++ name ++
    "\",\"population\":510,\"tile\":4021\x7d"

def townGame : GameApi Unit where
  currentDate _ := 712225
  tick _ := 0
  isPaused _ := false
  mapSizeX _ := 256
  mapSizeY _ := 256
  townCount _ := 2
  industryCount _ := 0
  resolves _ _ := true
  modeIsValid _ _ := true
  companyName _ _ := "Unnamed"
  bankBalance _ _ := 0
  loanAmount _ _ := 0
  vehicleCount _ _ := 0
  stationCount _ _ := 0
  worldCollections _ _ := [(.towns, [town "0" "Tarnbury", town "1" "Little Fording"]), (.vehicles, [])]
  testSetName game _ _ := (false, 0, game)
  setName game _ _ := (false, game)

def townScript : Running Unit where
  bridge := { instanceId := some "spb-1-2", sequence := 7 }
  game := ()

def townManifest : BridgeMessage :=
  townScript.message .v2 townGame .worldManifest none none (.worldManifest (townScript.worldManifest townGame))

def townComplete : BridgeMessage :=
  townScript.message .v2 townGame .worldSnapshotComplete none none (.worldComplete (townScript.worldComplete townGame))

/-- A page with its place and the message it comes in. -/
def townPage (place : Nat) (page : WorldCollectionPagePayload) : PageMessage where
  place := place
  message := townScript.message .v2 townGame .worldCollectionPage none none (.worldPage page)
  page := page
  isPage := rfl
  carries := rfl

/-- The page for one town, as the script counts them. -/
def townPagePayload (index : Nat) (id name : String) : WorldCollectionPagePayload where
  snapshotId := townScript.worldId
  collection := .towns
  pageIndex := index
  pageCount := 2
  items := [town id name]

def townConfig : ClientConfig where
  companyId := 0
  allowWrites := false
  rejectInstanceChange := true
  openttdVersion := "14.1"
  parses _ := true

def townHandshake : Handshake := { hello := true, capabilities := true, response := true, snapshot := true }

/-- The pages behind the manifest and before the completion, as the client reads them. -/
def readTowns (ms : List PageMessage) : Outcome (Client × Handshake) :=
  receiveAll townConfig "req-1" ((8, townManifest) :: ms.map (·.entry) ++ [(11, townComplete)]) {} townHandshake

/-- The two towns arrive the other way round. -/
theorem world_reassembled_reversed :
    match readTowns [townPage 9 (townPagePayload 1 "1" "Little Fording"), townPage 10 (townPagePayload 0 "0" "Tarnbury")] with
    | .ok (c, f) => f = { townHandshake with world := true } ∧ c.health.worldSnapshot.map (·.value) =
        some (assembled (townScript.captured townGame) (townScript.worldManifest townGame)
          (townScript.worldComplete townGame))
    | .error _ => False := by
  have hresult := world_reassembled townGame townScript (by decide) townConfig "req-1" {} townHandshake rfl
    (8, townManifest) (11, townComplete) ⟨rfl, rfl⟩ ⟨rfl, rfl⟩
    [townPage 9 (townPagePayload 1 "1" "Little Fording"), townPage 10 (townPagePayload 0 "0" "Tarnbury")] (by decide)
  unfold readTowns
  generalize receiveAll townConfig "req-1" _ {} townHandshake = outcome at hresult ⊢
  cases outcome with
  | ok result => exact hresult.2
  | error failure => exact hresult.2 (by decide)

/-- A page with the identifier of the snapshot takes the place of one the script sent. -/
theorem not_world_reassembled_foreign : ¬ ∀ ms : List PageMessage, match readTowns ms with
    | .ok _ => (ms.map (·.page)).Perm (worldPages townScript.worldId (townScript.captured townGame))
    | .error (e, _) => e = .sequence := by
  intro h
  have hforeign := h [townPage 9 (townPagePayload 0 "0" "Tarnbury"), townPage 10 (townPagePayload 1 "0" "Tarnbury")]
  have haccepted : (readTowns [townPage 9 (townPagePayload 0 "0" "Tarnbury"),
    townPage 10 (townPagePayload 1 "0" "Tarnbury")]).toOption.isSome := by decide
  generalize readTowns _ = outcome at hforeign haccepted
  cases outcome with
  | ok result =>
    have hother : ¬ ([townPage 9 (townPagePayload 0 "0" "Tarnbury"), townPage 10 (townPagePayload 1 "0" "Tarnbury")].map
      (·.page)).Perm (worldPages townScript.worldId (townScript.captured townGame)) := by decide
    exact hother hforeign
  | error failure => cases haccepted

end SimPilot.GameScript
