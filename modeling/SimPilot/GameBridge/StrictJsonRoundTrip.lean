import Mathlib.Data.Nat.Digits.Lemmas
import Mathlib.Tactic.IntervalCases
import SimPilot.GameBridge.StrictJsonExact
/-!
# Round trips of the strict JSON

What is written of a tree without numbers is a JSON text, and it is read to the same tree with the
members of every object in the order of their keys. Trees are the same when their objects are the
same maps; what is written depends on that only.
-/

namespace SimPilot.GameBridge.StrictJson
open JsonGrammar

/-! ## Characters -/

theorem hexDigit?_hexDigit {n : Nat} (h : n < 16) : hexDigit? (hexDigit n) = some n := by
  interval_cases n <;> decide

theorem isHex_hexDigit {n : Nat} (h : n < 16) : isHex (hexDigit n) = true := by
  rw [isHex, hexDigit?_hexDigit h]
  rfl

theorem quad_hexText (c : CodeUnit) : Quad (hexText c.val) c := by
  have hc := c.isLt
  refine ⟨rfl, ?_, ?_⟩
  · intro d hd
    simp only [hexText, List.mem_cons, List.not_mem_nil, or_false] at hd
    rcases hd with rfl | rfl | rfl | rfl
    all_goals exact isHex_hexDigit (Nat.mod_lt _ (by decide))
  · have hdigit : ∀ n, (hexDigit? (hexDigit (n % 16))).getD 0 = n % 16 := fun n => by
      rw [hexDigit?_hexDigit (Nat.mod_lt _ (by decide))]
      rfl
    simp only [hexText, hexadecimal, List.foldl_cons, List.foldl_nil, hdigit]
    omega

/-- A character is written as itself or as an escape that stands for it. -/
theorem chars_writeChar (c : CodeUnit) {t s : Text} (h : Chars Quad t s) : Chars Quad (writeChar c ++ t) (c :: s) := by
  have hshort : ∀ e c, (e, c) ∈ escapes → Chars Quad ([unit '\\', e] ++ t) (c :: s) := fun e c hmem =>
    .escape (.short hmem) h
  unfold writeChar
  split_ifs with hquote hback hb hf hn hr ht hsmall
  · rw [hquote]
    exact hshort (unit '"') _ (by decide)
  · rw [hback]
    exact hshort (unit '\\') _ (by decide)
  · rw [hb]
    exact hshort (unit 'b') _ (by decide)
  · rw [hf]
    exact hshort (unit 'f') _ (by decide)
  · rw [hn]
    exact hshort (unit 'n') _ (by decide)
  · rw [hr]
    exact hshort (unit 'r') _ (by decide)
  · rw [ht]
    exact hshort (unit 't') _ (by decide)
  · exact .escape (.quad (quad_hexText c)) h
  · exact .plain hquote hback (not_lt.mp hsmall) h

theorem chars_flatMap (s : Text) : Chars Quad (s.flatMap writeChar) s := by
  induction s with
  | nil => exact .nil
  | cons c s ih => exact chars_writeChar c ih

/-! ## Integers -/

theorem digitValue_digit {n : Nat} (h : n < 10) : digitValue (digit n) = n := by
  interval_cases n <;> decide

theorem isDigit_digit {n : Nat} (h : n < 10) : isDigitUnit (digit n) = true := by
  interval_cases n <;> decide

theorem decimal_digits {ds : List Nat} (h : ∀ d ∈ ds, d < 10) :
    decimal (ds.reverse.map digit) = Nat.ofDigits 10 ds := by
  induction ds with
  | nil => rfl
  | cons d ds ih =>
    rw [List.forall_mem_cons] at h
    have ih := ih h.2
    unfold decimal at ih ⊢
    rw [List.reverse_cons, List.map_append, List.foldl_append, ih, Nat.ofDigits_cons]
    simp only [List.map_cons, List.map_nil, List.foldl_cons, List.foldl_nil, digitValue_digit h.1]
    omega

theorem decimal_naturalText (n : Nat) : decimal (naturalText n) = n := by
  unfold naturalText
  split_ifs with hzero
  · rw [hzero]
    decide
  · rw [decimal_digits fun d hd => Nat.digits_lt_base (by decide) hd, Nat.ofDigits_digits]

theorem whole_naturalText (n : Nat) : Whole (naturalText n) := by
  unfold naturalText
  split_ifs with hzero
  · exact .zero
  · have hne : Nat.digits 10 n ≠ [] := Nat.digits_ne_nil_iff_ne_zero.mpr hzero
    have hlast := Nat.getLast_digit_ne_zero 10 hzero
    have hlt : ∀ d ∈ Nat.digits 10 n, d < 10 := fun d hd => Nat.digits_lt_base (by decide) hd
    rw [← List.dropLast_append_getLast hne] at hlt ⊢
    generalize (Nat.digits 10 n).getLast hne = d at hlast hlt ⊢
    rw [List.reverse_append, List.map_append]
    have hd : d < 10 := hlt d (by simp)
    refine .digits (isDigit_digit hd) ?_ ?_
    · intro heq
      have hvalue := congrArg digitValue heq
      rw [digitValue_digit hd] at hvalue
      exact hlast hvalue
    · intro x hx
      obtain ⟨y, hy, rfl⟩ := List.mem_map.mp hx
      exact isDigit_digit (hlt y (by simp only [List.mem_append]; exact .inl (List.mem_reverse.mp hy)))

/-- The text of an integer is a sign and a whole part that stand for it. -/
theorem integerText_eq (i : Int) : ∃ m w, integerText i = m ++ w ∧ Minus m ∧ Whole w ∧ signed m w = i := by
  have hvalue := decimal_naturalText i.natAbs
  unfold integerText
  split_ifs with hneg
  · refine ⟨[unit '-'], naturalText i.natAbs, rfl, .inr rfl, whole_naturalText _, ?_⟩
    rw [signed, if_neg (List.cons_ne_nil _ _), hvalue]
    omega
  · refine ⟨[], naturalText i.natAbs, rfl, .inl rfl, whole_naturalText _, ?_⟩
    rw [signed, if_pos rfl, hvalue]
    omega

theorem long?_val (i : Long) : long? i.val = some i := dif_pos i.property

/-! ## The order of keys -/

theorem ordinalLe_total (s t : Text) : (ordinalLe s t || ordinalLe t s) = true := by
  induction s generalizing t with
  | nil => rfl
  | cons c s ih =>
    cases t with
    | nil => rfl
    | cons d t =>
      rcases lt_trichotomy c d with h | rfl | h
      · simp [ordinalLe, h]
      · simpa [ordinalLe] using ih t
      · simp [ordinalLe, h]

theorem ordinalLe_antisymm {s t : Text} (hst : ordinalLe s t = true) (hts : ordinalLe t s = true) : s = t := by
  induction s generalizing t with
  | nil =>
    cases t with
    | nil => rfl
    | cons d t => cases hts
  | cons c s ih =>
    cases t with
    | nil => cases hst
    | cons d t =>
      simp only [ordinalLe, Bool.or_eq_true, Bool.and_eq_true, decide_eq_true_eq] at hst hts
      rcases hst with hlt | ⟨rfl, hst⟩
      · rcases hts with hgt | ⟨rfl, -⟩
        · exact absurd hlt (not_lt.mpr hgt.le)
        · exact absurd hlt (lt_irrefl _)
      · rcases hts with hgt | ⟨-, hts⟩
        · exact absurd hgt (lt_irrefl _)
        · rw [ih hst hts]

theorem ordinalLe_trans {s t u : Text} (hst : ordinalLe s t = true) (htu : ordinalLe t u = true) :
    ordinalLe s u = true := by
  induction s generalizing t u with
  | nil => rfl
  | cons c s ih =>
    cases t with
    | nil => cases hst
    | cons d t =>
      cases u with
      | nil => cases htu
      | cons e u =>
        simp only [ordinalLe, Bool.or_eq_true, Bool.and_eq_true, decide_eq_true_eq] at hst htu ⊢
        rcases hst with hlt | ⟨rfl, hst⟩
        · rcases htu with hlt' | ⟨rfl, -⟩
          · exact .inl (hlt.trans hlt')
          · exact .inl hlt
        · rcases htu with hlt' | ⟨rfl, htu⟩
          · exact .inl hlt'
          · exact .inr ⟨rfl, ih hst htu⟩

theorem mem_sortKeys {key : Text} {keys : List Text} : key ∈ sortKeys keys ↔ key ∈ keys :=
  (List.perm_insertionSort _ keys).mem_iff

theorem nodup_sortKeys {keys : List Text} (h : keys.Nodup) : (sortKeys keys).Nodup :=
  (List.perm_insertionSort _ keys).nodup_iff.mpr h

theorem pairwise_sortKeys (keys : List Text) : (sortKeys keys).Pairwise fun s t => ordinalLe s t = true := by
  have : Std.Total fun s t : Text => ordinalLe s t = true := ⟨fun s t => by simpa using ordinalLe_total s t⟩
  have : IsTrans Text fun s t => ordinalLe s t = true := ⟨fun _ _ _ => ordinalLe_trans⟩
  exact List.pairwise_insertionSort _ keys

/-- Keys are sorted the same way, whatever order they come in. -/
theorem sortKeys_congr {keys keys' : List Text} (h : keys.Perm keys') : sortKeys keys = sortKeys keys' :=
  List.Perm.eq_of_pairwise (fun _ _ _ _ => ordinalLe_antisymm) (pairwise_sortKeys keys) (pairwise_sortKeys keys')
    ((List.perm_insertionSort _ keys).trans (h.trans (List.perm_insertionSort _ keys').symm))

/-! ## Trees -/

section
variable {δ : Type}

/-- No number other than an integer. -/
inductive NumberFree : Tree Long δ → Prop
  | null : NumberFree .null
  | boolean (b : Bool) : NumberFree (.boolean b)
  | integer (i : Long) : NumberFree (.integer i)
  | string (s : Text) : NumberFree (.string s)
  | array {vs : List (Tree Long δ)} (h : ∀ v ∈ vs, NumberFree v) : NumberFree (.array vs)
  | object {kvs : List (Text × Tree Long δ)} (h : ∀ kv ∈ kvs, NumberFree kv.2) : NumberFree (.object kvs)

/-- No key twice in an object. -/
inductive Distinct : Tree Long δ → Prop
  | null : Distinct .null
  | boolean (b : Bool) : Distinct (.boolean b)
  | integer (i : Long) : Distinct (.integer i)
  | number (d : δ) : Distinct (.number d)
  | string (s : Text) : Distinct (.string s)
  | array {vs : List (Tree Long δ)} (h : ∀ v ∈ vs, Distinct v) : Distinct (.array vs)
  | object {kvs : List (Text × Tree Long δ)} (hkeys : (Assoc.keys kvs).Nodup) (h : ∀ kv ∈ kvs, Distinct kv.2) :
      Distinct (.object kvs)

/-- Equal trees, objects compared as maps. -/
inductive Same : Tree Long δ → Tree Long δ → Prop
  | null : Same .null .null
  | boolean (b : Bool) : Same (.boolean b) (.boolean b)
  | integer (i : Long) : Same (.integer i) (.integer i)
  | number (d : δ) : Same (.number d) (.number d)
  | string (s : Text) : Same (.string s) (.string s)
  | array {vs ws : List (Tree Long δ)} (hlength : vs.length = ws.length) (h : ∀ p ∈ vs.zip ws, Same p.1 p.2) :
      Same (.array vs) (.array ws)
  | object {kvs kws : List (Text × Tree Long δ)} (hkeys : ∀ key, key ∈ Assoc.keys kvs ↔ key ∈ Assoc.keys kws)
      (h : ∀ key v w, (key, v) ∈ kvs → (key, w) ∈ kws → Same v w) : Same (.object kvs) (.object kws)

/-- A tree that is parsed has no key twice. -/
theorem distinct_of_value {reading : Reading Long δ} {t : Text} {v : Tree Long δ} (h : Value reading t v) :
    Distinct v := by
  induction h with
  | null => exact .null
  | true => exact .boolean true
  | false => exact .boolean false
  | integer => exact .integer _
  | number => exact .number _
  | string => exact .string _
  | emptyArray => exact .array (by simp)
  | array hne hspaced h ih => exact .array (List.forall_mem_map.mpr ih)
  | emptyObject => exact .object List.nodup_nil (by simp)
  | object hne hspaced hnames hkeys h ih =>
    refine .object ?_ (List.forall_mem_map.mpr ih)
    rw [Assoc.keys, List.map_map]
    exact hkeys

/-! ## The canonical tree -/

mutual

/-- The tree with the members of every object in the order of their keys. -/
def canonical : Tree Long δ → Tree Long δ
  | .array vs => .array (canonicalAll vs)
  | .object kvs => .object ((sortKeys (Assoc.keys kvs)).map fun key =>
      (key, (Assoc.get (canonicalValues kvs) key).getD .null))
  | v => v

def canonicalAll : List (Tree Long δ) → List (Tree Long δ)
  | [] => []
  | v :: vs => canonical v :: canonicalAll vs

def canonicalValues : List (Text × Tree Long δ) → Assoc Text (Tree Long δ)
  | [] => []
  | (key, v) :: kvs => (key, canonical v) :: canonicalValues kvs

end

variable {numberText : δ → Text}

theorem writeAll_eq (vs : List (Tree Long δ)) : writeAll numberText vs = vs.map (write numberText) := by
  induction vs with
  | nil => rfl
  | cons v vs ih => rw [writeAll, ih, List.map_cons]

theorem canonicalAll_eq (vs : List (Tree Long δ)) : canonicalAll vs = vs.map canonical := by
  induction vs with
  | nil => rfl
  | cons v vs ih => rw [canonicalAll, ih, List.map_cons]

theorem writeValues_eq (kvs : List (Text × Tree Long δ)) :
    writeValues numberText kvs = kvs.map fun kv => (kv.1, write numberText kv.2) := by
  induction kvs with
  | nil => rfl
  | cons kv kvs ih => rw [writeValues, ih, List.map_cons]

theorem canonicalValues_eq (kvs : List (Text × Tree Long δ)) :
    canonicalValues kvs = kvs.map fun kv => (kv.1, canonical kv.2) := by
  induction kvs with
  | nil => rfl
  | cons kv kvs ih => rw [canonicalValues, ih, List.map_cons]

section
variable {α β : Type} (f : α → β) {kvs : List (Text × α)} {key : Text} {v : α}

theorem keys_map (kvs : List (Text × α)) : Assoc.keys (kvs.map fun kv => (kv.1, f kv.2)) = Assoc.keys kvs := by
  simp [Assoc.keys]

theorem get_map (hkeys : (Assoc.keys kvs).Nodup) (h : (key, v) ∈ kvs) :
    Assoc.get (kvs.map fun kv => (kv.1, f kv.2)) key = some (f v) :=
  Assoc.get_of_mem (by rwa [keys_map]) (List.mem_map.mpr ⟨(key, v), h, rfl⟩)

end

/-- What is written of an object. -/
theorem write_object (kvs : List (Text × Tree Long δ)) : write numberText (.object kvs) =
    unit '{' :: (joined ((sortKeys (Assoc.keys kvs)).map fun key => writeString key ++ unit ':' ::
      (Assoc.get (kvs.map fun kv => (kv.1, write numberText kv.2)) key).getD []) ++ [unit '}']) := by
  rw [write, writeValues_eq, writeMembers, keys_map]

/-- **What is written is a JSON text** of the canonical tree. -/
theorem value_write {double : Text → Option δ} {v : Tree Long δ} (hfree : NumberFree v) (hdistinct : Distinct v) :
    Value (strict double) (write numberText v) (canonical v) := by
  induction hfree with
  | null => exact .null
  | boolean b =>
    cases b with
    | true => exact .true
    | false => exact .false
  | integer i =>
    obtain ⟨m, w, htext, hm, hw, hsigned⟩ := integerText_eq i.val
    rw [write, htext]
    exact .integer hm hw (by rw [hsigned]; exact long?_val i)
  | string s => exact .string (chars_flatMap s)
  | @array vs h ih =>
    cases hdistinct with
    | array hd =>
      rw [write, canonical, writeAll_eq, canonicalAll_eq]
      by_cases hvs : vs = []
      · rw [hvs]
        exact .emptyArray (w := []) (by simp [Blank])
      · let element : Tree Long δ → Element Long δ := fun v => ⟨[], write numberText v, canonical v, []⟩
        have hwhole : vs.map (write numberText) = (vs.map element).map Element.whole := by
          rw [List.map_map]
          exact List.map_congr_left fun v _ => by simp [element, Element.whole]
        have hvalue : vs.map canonical = (vs.map element).map Element.value := by
          rw [List.map_map]
          rfl
        rw [hwhole, hvalue]
        refine .array (by simpa using hvs) ?_ ?_
        · exact List.forall_mem_map.mpr fun v _ => by simp [element, Element.Spaced, Blank]
        · exact List.forall_mem_map.mpr fun v hv => ih v hv (hd v hv)
  | @object kvs h ih =>
    cases hdistinct with
    | object hkeys hd =>
      rw [write_object, canonical, canonicalValues_eq]
      by_cases hkvs : kvs = []
      · rw [hkvs]
        exact .emptyObject (w := []) (by simp [Blank])
      · let member : Text → Member Long δ := fun key =>
          ⟨[], key.flatMap writeChar, key, [],
            ⟨[], (Assoc.get (kvs.map fun kv => (kv.1, write numberText kv.2)) key).getD [],
              (Assoc.get (kvs.map fun kv => (kv.1, canonical kv.2)) key).getD .null, []⟩⟩
        have hmember : ∀ key ∈ sortKeys (Assoc.keys kvs), ∃ v, (key, v) ∈ kvs := by
          intro key hkey
          rw [mem_sortKeys] at hkey
          obtain ⟨kv, hkv, rfl⟩ := List.mem_map.mp hkey
          exact ⟨kv.2, hkv⟩
        have hwhole : ((sortKeys (Assoc.keys kvs)).map fun key => writeString key ++ unit ':' ::
            (Assoc.get (kvs.map fun kv => (kv.1, write numberText kv.2)) key).getD []) =
            ((sortKeys (Assoc.keys kvs)).map member).map Member.whole := by
          rw [List.map_map]
          exact List.map_congr_left fun key _ => by simp [member, Member.whole, Element.whole, writeString]
        have hitem : ((sortKeys (Assoc.keys kvs)).map fun key =>
            (key, (Assoc.get (kvs.map fun kv => (kv.1, canonical kv.2)) key).getD .null)) =
            ((sortKeys (Assoc.keys kvs)).map member).map Member.item := by
          rw [List.map_map]
          rfl
        rw [hwhole, hitem]
        refine .object ?_ ?_ ?_ ?_ ?_
        · obtain ⟨kv, kvs, rfl⟩ := List.exists_cons_of_ne_nil hkvs
          exact List.ne_nil_of_mem (List.mem_map_of_mem (mem_sortKeys.mpr List.mem_cons_self))
        · exact List.forall_mem_map.mpr fun key _ => by simp [member, Member.Spaced, Element.Spaced, Blank]
        · exact List.forall_mem_map.mpr fun key _ => chars_flatMap key
        · rw [List.map_map]
          show ((sortKeys (Assoc.keys kvs)).map fun key => key).Nodup
          rw [List.map_id']
          exact nodup_sortKeys hkeys
        · refine List.forall_mem_map.mpr fun key hkey => ?_
          obtain ⟨v, hv⟩ := hmember key hkey
          simp only [member, get_map (write numberText) hkeys hv, get_map canonical hkeys hv, Option.getD_some]
          exact ih (key, v) hv (hd (key, v) hv)

/-- The canonical tree is the same tree. -/
theorem same_canonical {v : Tree Long δ} (h : Distinct v) : Same v (canonical v) := by
  induction h with
  | null => exact .null
  | boolean b => exact .boolean b
  | integer i => exact .integer i
  | number d => exact .number d
  | string s => exact .string s
  | @array vs h ih =>
    rw [canonical, canonicalAll_eq]
    refine .array (List.length_map _).symm fun p hp => ?_
    have hzip : vs.zip (vs.map canonical) = vs.map fun v => (v, canonical v) := by
      simpa using List.zip_map' (f := id) (g := canonical) (l := vs)
    rw [hzip, List.mem_map] at hp
    obtain ⟨v, hv, rfl⟩ := hp
    exact ih v hv
  | @object kvs hkeys h ih =>
    rw [canonical, canonicalValues_eq]
    refine .object (fun key => ?_) fun key v w hv hw => ?_
    · rw [Assoc.keys, Assoc.keys, List.map_map]
      show _ ↔ key ∈ (sortKeys (Assoc.keys kvs)).map fun key => key
      rw [List.map_id', mem_sortKeys]
      rfl
    · obtain ⟨key', hkey', heq⟩ := List.mem_map.mp hw
      obtain ⟨rfl, rfl⟩ := Prod.mk.inj heq
      rw [get_map canonical hkeys hv]
      exact ih (key', v) hv

theorem map_eq_of_zip {α β : Type} {f : α → β} {vs ws : List α} (hlength : vs.length = ws.length)
    (h : ∀ p ∈ vs.zip ws, f p.1 = f p.2) : vs.map f = ws.map f := by
  induction vs generalizing ws with
  | nil =>
    cases ws with
    | nil => rfl
    | cons w ws => cases hlength
  | cons v vs ih =>
    cases ws with
    | nil => cases hlength
    | cons w ws =>
      rw [List.zip_cons_cons, List.forall_mem_cons] at h
      rw [List.map_cons, List.map_cons, h.1, ih (by simpa using hlength) h.2]

/-- **What is written** is one text for the same tree. -/
theorem write_congr {v w : Tree Long δ} (h : Same v w) (hv : Distinct v) (hw : Distinct w) :
    write numberText v = write numberText w := by
  induction h with
  | null => rfl
  | boolean => rfl
  | integer => rfl
  | number => rfl
  | string => rfl
  | @array vs ws hlength h ih =>
    cases hv with
    | array hvs =>
      cases hw with
      | array hws =>
        rw [write, write, writeAll_eq, writeAll_eq, map_eq_of_zip hlength fun p hp =>
          ih p hp (hvs p.1 (List.of_mem_zip hp).1) (hws p.2 (List.of_mem_zip hp).2)]
  | @object kvs kws hsame h ih =>
    cases hv with
    | object hkeys hkvs =>
      cases hw with
      | object hkeys' hkws =>
        have hsort : sortKeys (Assoc.keys kvs) = sortKeys (Assoc.keys kws) :=
          sortKeys_congr ((List.perm_ext_iff_of_nodup hkeys hkeys').mpr hsame)
        have hmembers : ∀ key ∈ sortKeys (Assoc.keys kws),
            Assoc.get (kvs.map fun kv => (kv.1, write numberText kv.2)) key =
              Assoc.get (kws.map fun kv => (kv.1, write numberText kv.2)) key := by
          intro key hkey
          rw [mem_sortKeys] at hkey
          obtain ⟨⟨key, w⟩, hw, rfl⟩ := List.mem_map.mp hkey
          obtain ⟨⟨key', v⟩, hv, heq⟩ := List.mem_map.mp ((hsame key).mpr hkey)
          simp only at heq
          subst heq
          rw [get_map _ hkeys hv, get_map _ hkeys' hw]
          exact congrArg some (ih key' v w hv hw (hkvs _ hv) (hkws _ hw))
        rw [write_object, write_object, hsort, List.map_congr_left fun key hkey => by rw [hmembers key hkey]]

/-- A tree that is parsed has no key twice. -/
theorem distinct_of_parse {double : Text → Option δ} {text : Text} {v : Tree Long δ} (h : parse double text = .ok v) :
    Distinct v := by
  obtain ⟨w, t, w', hw, ht, hw', rfl⟩ := parse_ok_iff.mp h
  exact distinct_of_value ht

/-- A tree without numbers is read from what is written of it. -/
theorem parse_serialize (double : Text → Option δ) (numberText : δ → Text) {v : Tree Long δ}
    (hfree : NumberFree v) (hdistinct : Distinct v) : parse double (serialize numberText v) = .ok (canonical v) := by
  have hvalue : Value (strict double) (serialize numberText v) (canonical v) := value_write hfree hdistinct
  have hjson : Json (strict double) (serialize numberText v) (canonical v) :=
    ⟨[], _, [], by simp [Blank], hvalue, by simp [Blank], by simp⟩
  exact parse_ok_iff.mpr ((json_bridge_iff (nul_not_mem_strict hjson)).mpr hjson)

/-- **Round trips**: a tree without numbers is read from what is written of it; texts of the same
tree are written as one text, which is written again as it is. -/
theorem parse_serialize_round_trip (double : Text → Option δ) (numberText : δ → Text) :
    (∀ v, NumberFree v → Distinct v → ∃ v', parse double (serialize numberText v) = .ok v' ∧ Same v v') ∧
    (∀ s t v w, parse double s = .ok v → parse double t = .ok w → Same v w →
      serialize numberText v = serialize numberText w) ∧
    (∀ s v, parse double s = .ok v → NumberFree v → ∃ v', parse double (serialize numberText v) = .ok v' ∧
      serialize numberText v' = serialize numberText v) := by
  refine ⟨fun v hfree hdistinct => ?_, fun s t v w hv hw hsame => ?_, fun s v hv hfree => ?_⟩
  · exact ⟨canonical v, parse_serialize double numberText hfree hdistinct, same_canonical hdistinct⟩
  · exact write_congr hsame (distinct_of_parse hv) (distinct_of_parse hw)
  · have hdistinct := distinct_of_parse hv
    have hparse := parse_serialize double numberText hfree hdistinct
    exact ⟨_, hparse, (write_congr (same_canonical hdistinct) hdistinct (distinct_of_parse hparse)).symm⟩

end

end SimPilot.GameBridge.StrictJson
