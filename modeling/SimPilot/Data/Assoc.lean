import Mathlib.Data.List.Basic
/-!
# Insertion-ordered dictionaries

A dictionary as the list of its items, in the order their keys first came in.
Setting a key that is present keeps its place.
-/

variable {κ α β : Type}

abbrev Assoc (κ α : Type) := List (κ × α)

namespace Assoc
variable [DecidableEq κ]

/-- The value at a key. -/
def get : Assoc κ α → κ → Option α
  | [], _ => none
  | (k, v) :: rest, key => if k = key then some v else get rest key

/-- Set a key, in place when it is present. -/
def set : Assoc κ α → κ → α → Assoc κ α
  | [], key, v => [(key, v)]
  | (k, w) :: rest, key, v => if k = key then (k, v) :: rest else (k, w) :: set rest key v

def contains (d : Assoc κ α) (key : κ) : Bool := (get d key).isSome

def keys (d : Assoc κ α) : List κ := d.map Prod.fst

def values (d : Assoc κ α) : List α := d.map Prod.snd

@[simp] theorem get_nil (key : κ) : get ([] : Assoc κ α) key = none := rfl

@[simp] theorem get_cons (k : κ) (v : α) (rest : Assoc κ α) (key : κ) :
    get ((k, v) :: rest) key = if k = key then some v else get rest key := rfl

@[simp] theorem get_set_self (d : Assoc κ α) (key : κ) (v : α) : get (set d key v) key = some v := by
  induction d with
  | nil => simp [set]
  | cons kv rest ih =>
    obtain ⟨k, w⟩ := kv
    by_cases h : k = key <;> simp [set, h, ih]

theorem get_set_ne (d : Assoc κ α) {key key' : κ} (v : α) (h : key ≠ key') :
    get (set d key v) key' = get d key' := by
  induction d with
  | nil => simp [set, h]
  | cons kv rest ih =>
    obtain ⟨k, w⟩ := kv
    by_cases hk : k = key
    · subst hk; simp [set, h]
    · simp [set, hk, ih]

theorem get_set (d : Assoc κ α) (key key' : κ) (v : α) :
    get (set d key v) key' = if key = key' then some v else get d key' := by
  by_cases h : key = key'
  · subst h; simp
  · simp [h, get_set_ne d v h]

theorem mem_values_of_get {d : Assoc κ α} {key : κ} {v : α} (h : get d key = some v) : v ∈ values d := by
  induction d with
  | nil => simp at h
  | cons kv rest ih =>
    obtain ⟨k, w⟩ := kv
    by_cases hk : k = key
    · simp_all [values]
    · simp only [get_cons, hk, if_false] at h
      exact List.mem_cons_of_mem _ (ih h)

/-- What a dictionary holds after a key is set was there before or is the new value. -/
theorem mem_set {d : Assoc κ α} {key : κ} {v : α} {kv : κ × α} (h : kv ∈ set d key v) :
    kv = (key, v) ∨ kv ∈ d := by
  induction d with
  | nil => simpa [set] using h
  | cons kw rest ih =>
    obtain ⟨k, w⟩ := kw
    by_cases hk : k = key
    · subst hk
      simp only [set, if_true, List.mem_cons] at h
      rcases h with h | h
      · exact .inl h
      · exact .inr (List.mem_cons_of_mem _ h)
    · simp only [set, hk, if_false, List.mem_cons] at h
      rcases h with h | h
      · exact .inr (by simp [h])
      · rcases ih h with h | h
        · exact .inl h
        · exact .inr (List.mem_cons_of_mem _ h)

theorem mem_values_set {d : Assoc κ α} {key : κ} {v w : α} (h : w ∈ values (set d key v)) :
    w = v ∨ w ∈ values d := by
  obtain ⟨kv, hm, rfl⟩ := List.mem_map.1 h
  rcases mem_set hm with h | h
  · exact .inl (by simp [h])
  · exact .inr (List.mem_map.2 ⟨kv, h, rfl⟩)

theorem get_eq_none {d : Assoc κ α} {key : κ} (h : get d key = none) : key ∉ keys d := by
  induction d with
  | nil => simp [keys]
  | cons kv rest ih =>
    obtain ⟨k, v⟩ := kv
    by_cases hk : k = key
    · simp [hk] at h
    · simp only [get_cons, hk, if_false] at h
      simpa [keys, Ne.symm hk] using ih h

theorem mem_of_get {d : Assoc κ α} {key : κ} {v : α} (h : get d key = some v) : (key, v) ∈ d := by
  induction d with
  | nil => simp at h
  | cons kv rest ih =>
    obtain ⟨k, w⟩ := kv
    by_cases hk : k = key
    · simp_all
    · simp only [get_cons, hk, if_false] at h
      exact List.mem_cons_of_mem _ (ih h)

/-- With distinct keys, every pair is what its key reads. -/
theorem get_of_mem {d : Assoc κ α} {key : κ} {v : α} (hn : (keys d).Nodup) (h : (key, v) ∈ d) : get d key = some v := by
  induction d with
  | nil => cases h
  | cons kv rest ih =>
    obtain ⟨k, w⟩ := kv
    simp only [keys, List.map_cons, List.nodup_cons] at hn
    rw [get_cons]
    by_cases hk : k = key
    · subst hk
      rcases List.mem_cons.1 h with h | h
      · rw [if_pos rfl, (Prod.mk.injEq .. ▸ h : k = k ∧ v = w).2]
      · exact absurd (List.mem_map_of_mem (f := Prod.fst) h) hn.1
    · rw [if_neg hk]
      rcases List.mem_cons.1 h with h | h
      · exact absurd (congrArg Prod.fst h).symm hk
      · exact ih hn.2 h

/-- A key that is not there is added at the end. -/
theorem set_of_not_mem {d : Assoc κ α} {key : κ} {v : α} (h : key ∉ keys d) : set d key v = d ++ [(key, v)] := by
  induction d with
  | nil => rfl
  | cons kv rest ih =>
    obtain ⟨k, w⟩ := kv
    simp only [keys, List.map_cons, List.mem_cons, not_or] at h
    simp only [set, Ne.symm h.1, if_false, List.cons_append, ih h.2]

/-- A key that is there gets its new value in place. -/
theorem set_of_mem {d : Assoc κ α} {key : κ} {v : α} (hn : (keys d).Nodup) (h : key ∈ keys d) :
    set d key v = d.map fun kv => if kv.1 = key then (key, v) else kv := by
  induction d with
  | nil => simp [keys] at h
  | cons kv rest ih =>
    obtain ⟨k, w⟩ := kv
    simp only [keys, List.map_cons, List.nodup_cons] at hn
    by_cases hk : k = key
    · subst hk
      have hrest : ∀ kv ∈ rest, (if kv.1 = k then (k, v) else kv) = kv := by
        intro kv hkv
        rw [if_neg]
        rintro rfl
        exact hn.1 (List.mem_map_of_mem hkv)
      simp [set, List.map_congr_left hrest]
    · have hmem : key ∈ keys rest := by
        simp only [keys, List.map_cons, List.mem_cons] at h
        rcases h with rfl | h
        · exact absurd rfl hk
        · exact h
      simp [set, hk, ih hn.2 hmem]

theorem keys_set {d : Assoc κ α} {key : κ} {v : α} (hn : (keys d).Nodup) : (keys (set d key v)).Nodup := by
  by_cases h : key ∈ keys d
  · rw [set_of_mem hn h]
    have : keys (d.map fun kv => if kv.1 = key then (key, v) else kv) = keys d := by
      simp only [keys, List.map_map]
      refine List.map_congr_left fun kv _ => ?_
      simp only [Function.comp]
      split <;> simp_all
    rwa [this]
  · rw [set_of_not_mem h]
    simp only [keys, List.map_append, List.map_cons, List.map_nil, List.nodup_append]
    refine ⟨hn, List.pairwise_singleton _ _, ?_⟩
    rintro a ha b hb rfl
    rw [List.mem_singleton] at hb
    exact h (hb ▸ ha)

/-! ## Entries that carry their own key -/

/-- Every entry sits under the key its value carries. -/
structure Keyed (key : α → κ) (d : Assoc κ α) : Prop where
  nodup : (keys d).Nodup
  eq : ∀ kv ∈ d, kv.1 = key kv.2

namespace Keyed
variable {key : α → κ} {d : Assoc κ α} {v w : α}

omit [DecidableEq κ] in
theorem nil : Keyed key ([] : Assoc κ α) := ⟨by simp [keys], by simp⟩

theorem set (h : Keyed key d) (v : α) : Keyed key (Assoc.set d (key v) v) := by
  refine ⟨keys_set h.nodup, fun kv hkv => ?_⟩
  rcases mem_set hkv with rfl | hkv
  · rfl
  · exact h.eq kv hkv

/-- Searching the values for a key is looking the key up. -/
theorem find? (h : Keyed key d) (k : κ) : (values d).find? (fun v => key v = k) = get d k := by
  have heq := h.eq
  clear h
  induction d with
  | nil => rfl
  | cons kv rest ih =>
    obtain ⟨k', v⟩ := kv
    have hk : k' = key v := heq (k', v) (by simp)
    have hrest := ih fun kv hkv => heq kv (List.mem_cons_of_mem _ hkv)
    by_cases hv : key v = k
    · simp [values, hk, hv]
    · rw [get_cons, hk, if_neg hv, ← hrest]
      simp [values, hv]

theorem any (h : Keyed key d) (k : κ) : (values d).any (fun v => key v = k) = contains d k := by
  rw [Bool.eq_iff_iff, contains, ← h.find? k, List.find?_isSome, List.any_eq_true]

/-- A value under a new key comes in at the end. -/
theorem values_set_new (hnone : get d (key v) = none) : values (Assoc.set d (key v) v) = values d ++ [v] := by
  rw [set_of_not_mem (get_eq_none hnone)]
  simp [values]

/-- A value under a key that is there takes its place. -/
theorem values_set_old (h : Keyed key d) (hsome : get d (key v) = some w) :
    values (Assoc.set d (key v) v) = (values d).map fun w => if key w = key v then v else w := by
  have hmem : key v ∈ keys d := List.mem_map_of_mem (f := Prod.fst) (mem_of_get hsome)
  rw [set_of_mem h.nodup hmem]
  simp only [values, List.map_map]
  refine List.map_congr_left fun kv hkv => ?_
  rw [Function.comp, Function.comp, h.eq kv hkv]
  split <;> rfl

end Keyed

/-- The members of the streams of a dictionary. -/
theorem mem_values_flatten {d : Assoc κ (List α)} (hn : (keys d).Nodup) {x : α} :
    x ∈ (values d).flatten ↔ ∃ k, x ∈ (get d k).getD [] := by
  constructor
  · intro h
    obtain ⟨l, hl, hx⟩ := List.mem_flatten.1 h
    obtain ⟨⟨k, l'⟩, hkv, rfl⟩ := List.mem_map.1 hl
    exact ⟨k, by simpa [get_of_mem hn hkv] using hx⟩
  · rintro ⟨k, hx⟩
    cases hg : get d k with
    | none => simp [hg] at hx
    | some l => exact List.mem_flatten.2 ⟨l, mem_values_of_get hg, by simpa [hg] using hx⟩

end Assoc
