import SimPilot.Data.Assoc
import Mathlib.Algebra.Order.Ring.Rat
import Mathlib.Data.List.Sort
import Mathlib.Data.String.Basic
/-!
# JSON values (domain/models.py:27-29) and their canonical forms

`JsonScalar` and `JsonValue` of the domain models, with Python's `==` on them
(`pyEq`: `1 == 1.0 == True`, dictionaries without their order) and the text
`json.dumps(…, sort_keys=True)` writes (`dumps`).

A text the program derives from another value (a `uuid5`, a decimal, a timestamp,
a SHA-256 digest, a dumped document) is kept as the value it prints: two such
texts are equal exactly when what they print is.
-/

namespace SimPilot

/-- Wall-clock instants in UTC. -/
abbrev Timestamp := Nat

/-- `uuid.UUID`: one a caller supplies, one `uuid5` derives for a record of a task
(runtime/persistence.py:139, iteration.py:387, action_execution.py:45), or the one of
a project of the reference simulation (reference_simulation/simulation.py:99). -/
inductive UUID where
  | int (n : Nat)
  | uuid5 (owner : UUID) (kind : String) (sequence : Nat)
  | project (seed : String) (tick : Nat) (projectType : String) (index amount : Nat)
  deriving DecidableEq, Repr, Inhabited

/-- `str(uuid)` as error messages show it. -/
def UUID.text : UUID → String
  | .int n => s!"{n}"
  | .uuid5 owner kind sequence => s!"sim-pilot:{owner.text}:{kind}:{sequence}"
  | .project seed tick projectType index amount => s!"sim-pilot:{seed}:{tick}:{projectType}:{index}:{amount}"

inductive JsonValue where
  | null
  | bool (b : Bool)
  | int (i : Int)
  | float (q : ℚ)
  | str (s : String)
  | uuid (id : UUID)
  | decimal (q : ℚ)
  | datetime (t : Timestamp)
  | digest (v : JsonValue)
  | text (v : JsonValue)
  | list (xs : List JsonValue)
  | dict (kvs : List (String × JsonValue))
  deriving Repr, Inhabited

/-- `dict[str, JsonValue]`, in insertion order. -/
abbrev Dict := Assoc String JsonValue

namespace JsonValue

/-- `isinstance(v, str)`. -/
def isStr : JsonValue → Bool
  | str _ | uuid _ | decimal _ | datetime _ | digest _ | text _ => true
  | _ => false

/-- `float(v)` where `isinstance(v, (int, float)) and not isinstance(v, bool)`. -/
def number? : JsonValue → Option ℚ
  | int i => some i
  | float q => some q
  | _ => none

/-- `v` where `isinstance(v, int) and not isinstance(v, bool)`. -/
def int? : JsonValue → Option Int
  | int i => some i
  | _ => none

/-- A list of strings, as `isinstance(v, list) and all(isinstance(item, str) …)` asks. -/
def strings? : JsonValue → Option (List String)
  | list xs => xs.mapM fun
    | str s => some s
    | _ => none
  | _ => none

/-! ## Equality -/

mutual
def decEq : (a b : JsonValue) → Decidable (a = b)
  | .null, b => by
    cases b
    case null => exact isTrue rfl
    all_goals exact isFalse (by simp)
  | .bool x, b => by
    cases b
    case bool y => exact decidable_of_iff (x = y) (by simp)
    all_goals exact isFalse (by simp)
  | .int x, b => by
    cases b
    case int y => exact decidable_of_iff (x = y) (by simp)
    all_goals exact isFalse (by simp)
  | .float x, b => by
    cases b
    case float y => exact decidable_of_iff (x = y) (by simp)
    all_goals exact isFalse (by simp)
  | .str x, b => by
    cases b
    case str y => exact decidable_of_iff (x = y) (by simp)
    all_goals exact isFalse (by simp)
  | .uuid x, b => by
    cases b
    case uuid y => exact decidable_of_iff (x = y) (by simp)
    all_goals exact isFalse (by simp)
  | .decimal x, b => by
    cases b
    case decimal y => exact decidable_of_iff (x = y) (by simp)
    all_goals exact isFalse (by simp)
  | .datetime x, b => by
    cases b
    case datetime y => exact decidable_of_iff (x = y) (by simp)
    all_goals exact isFalse (by simp)
  | .digest x, b => by
    cases b
    case digest y => exact @decidable_of_iff _ (x = y) (by simp) (decEq x y)
    all_goals exact isFalse (by simp)
  | .text x, b => by
    cases b
    case text y => exact @decidable_of_iff _ (x = y) (by simp) (decEq x y)
    all_goals exact isFalse (by simp)
  | .list xs, b => by
    cases b
    case list ys => exact @decidable_of_iff _ (xs = ys) (by simp) (decEqList xs ys)
    all_goals exact isFalse (by simp)
  | .dict xs, b => by
    cases b
    case dict ys => exact @decidable_of_iff _ (xs = ys) (by simp) (decEqItems xs ys)
    all_goals exact isFalse (by simp)
termination_by structural v => v

def decEqList : (a b : List JsonValue) → Decidable (a = b)
  | [], b => by
    cases b
    case nil => exact isTrue rfl
    all_goals exact isFalse (by simp)
  | x :: xs, b => by
    cases b
    case nil => exact isFalse (by simp)
    case cons y ys =>
      exact @decidable_of_iff _ (x = y ∧ xs = ys) (by simp) (@instDecidableAnd _ _ (decEq x y) (decEqList xs ys))
termination_by structural v => v

def decEqItems : (a b : List (String × JsonValue)) → Decidable (a = b)
  | [], b => by
    cases b
    case nil => exact isTrue rfl
    all_goals exact isFalse (by simp)
  | x :: xs, b => by
    cases b
    case nil => exact isFalse (by simp)
    case cons y ys =>
      exact @decidable_of_iff _ (x = y ∧ xs = ys) (by simp)
        (@instDecidableAnd _ _ (decEqItem x y) (decEqItems xs ys))
termination_by structural v => v

def decEqItem : (a b : String × JsonValue) → Decidable (a = b)
  | (k, v), b =>
    @decidable_of_iff _ (k = b.1 ∧ v = b.2) (by rw [Prod.ext_iff])
      (@instDecidableAnd _ _ (instDecidableEqString k b.1) (decEq v b.2))
termination_by structural v => v
end

instance : DecidableEq JsonValue := decEq

/-! ## Canonical forms -/

mutual
/-- The document with the keys of every dictionary in order, as `sort_keys=True` writes it. -/
def sortKeys : JsonValue → JsonValue
  | .list xs => .list (sortKeysList xs)
  | .dict kvs => .dict ((sortKeysItems kvs).insertionSort fun a b => a.1 ≤ b.1)
  | v => v
termination_by structural v => v
def sortKeysList : List JsonValue → List JsonValue
  | [] => []
  | x :: xs => sortKeys x :: sortKeysList xs
termination_by structural v => v
def sortKeysItems : List (String × JsonValue) → List (String × JsonValue)
  | [] => []
  | kv :: rest => sortKeysItem kv :: sortKeysItems rest
termination_by structural v => v
def sortKeysItem : String × JsonValue → String × JsonValue
  | (k, v) => (k, sortKeys v)
termination_by structural v => v
end

mutual
/-- The value up to Python's `==`: a number is its value whatever its type, and a
dictionary forgets the order of its keys. -/
def canon : JsonValue → JsonValue
  | .bool b => .float (if b then 1 else 0)
  | .int i => .float i
  | .list xs => .list (canonList xs)
  | .dict kvs => .dict ((canonItems kvs).insertionSort fun a b => a.1 ≤ b.1)
  | v => v
termination_by structural v => v
def canonList : List JsonValue → List JsonValue
  | [] => []
  | x :: xs => canon x :: canonList xs
termination_by structural v => v
def canonItems : List (String × JsonValue) → List (String × JsonValue)
  | [] => []
  | kv :: rest => canonItem kv :: canonItems rest
termination_by structural v => v
def canonItem : String × JsonValue → String × JsonValue
  | (k, v) => (k, canon v)
termination_by structural v => v
end

/-- The order `sort_keys=True` and `canon` put items in. -/
abbrev keyLE (a b : String × JsonValue) : Prop := a.1 ≤ b.1

instance : Std.Total keyLE := ⟨fun a b => le_total a.1 b.1⟩

instance : IsTrans (String × JsonValue) keyLE := ⟨fun _ _ _ h h' => le_trans h h'⟩

theorem canonItems_eq (kvs : Dict) : canonItems kvs = kvs.map canonItem := by
  induction kvs with
  | nil => rfl
  | cons kv rest ih => simp [canonItems, ih]

theorem canonItems_insertionSort (kvs : Dict) :
    canonItems (kvs.insertionSort keyLE) = (canonItems kvs).insertionSort keyLE := by
  rw [canonItems_eq, canonItems_eq]
  refine List.map_insertionSort keyLE keyLE canonItem kvs ?_
  rintro ⟨a, v⟩ - ⟨b, w⟩ -
  rfl

mutual
/-- Sorting the keys of a document does not change what it equals. -/
theorem canon_sortKeys : ∀ v : JsonValue, canon (sortKeys v) = canon v
  | .list xs => by simp [sortKeys, canon, canonList_sortKeysList xs]
  | .dict kvs => by
    have h := canonItems_insertionSort (sortKeysItems kvs)
    have hs := (List.pairwise_insertionSort keyLE (canonItems kvs)).insertionSort_eq
    rw [canonItems_sortKeysItems kvs] at h
    simp only [sortKeys, canon, dict.injEq]
    rw [h, hs]
  | .null | .bool _ | .int _ | .float _ | .str _ | .uuid _ | .decimal _ | .datetime _ | .digest _ | .text _ => rfl
theorem canonList_sortKeysList : ∀ xs : List JsonValue, canonList (sortKeysList xs) = canonList xs
  | [] => rfl
  | x :: xs => by simp [sortKeysList, canonList, canon_sortKeys x, canonList_sortKeysList xs]
theorem canonItems_sortKeysItems : ∀ kvs : List (String × JsonValue), canonItems (sortKeysItems kvs) = canonItems kvs
  | [] => rfl
  | kv :: rest => by simp [sortKeysItems, canonItems, canonItem_sortKeysItem kv, canonItems_sortKeysItems rest]
theorem canonItem_sortKeysItem : ∀ kv : String × JsonValue, canonItem (sortKeysItem kv) = canonItem kv
  | (k, v) => by simp [sortKeysItem, canonItem, canon_sortKeys v]
end

/-- Python's `a == b`. -/
def pyEq (a b : JsonValue) : Bool := canon a = canon b

@[simp] theorem pyEq_self (a : JsonValue) : pyEq a a = true := by simp [pyEq]

theorem pyEq_comm (a b : JsonValue) : pyEq a b = pyEq b a := by simp [pyEq, eq_comm]

theorem pyEq_sortKeys (v : JsonValue) : pyEq (sortKeys v) v = true := by simp [pyEq, canon_sortKeys]

theorem pyEq_trans {a b c : JsonValue} (h : pyEq a b = true) (h' : pyEq b c = true) : pyEq a c = true := by
  simp only [pyEq, decide_eq_true_eq] at *
  rw [h, h']

/-- `json.dumps(v, sort_keys=True, separators=(",", ":"))`. -/
def dumps (v : JsonValue) : JsonValue := .text (sortKeys v)

/-- `hashlib.sha256(json.dumps(v, sort_keys=True, …).encode()).hexdigest()`. -/
def sha256 (v : JsonValue) : JsonValue := .digest (sortKeys v)

end JsonValue

/-- Python's `==` on two dictionaries. -/
def Dict.pyEq (a b : Dict) : Bool := JsonValue.pyEq (.dict a) (.dict b)

@[simp] theorem Dict.pyEq_self (a : Dict) : Dict.pyEq a a = true := JsonValue.pyEq_self _

theorem Dict.pyEq_trans {a b c : Dict} (h : Dict.pyEq a b = true) (h' : Dict.pyEq b c = true) :
    Dict.pyEq a c = true := JsonValue.pyEq_trans h h'

/-! ## Whitespace -/

/-- The characters `str.strip` removes. -/
def isSpace (c : Char) : Bool := c = ' ' || ('\t' ≤ c && c ≤ '\r')

/-- `s.strip()`. -/
def strip (s : String) : String :=
  String.ofList ((s.toList.dropWhile isSpace).reverse.dropWhile isSpace).reverse

/-- `Annotated[str, StringConstraints(strip_whitespace=True, min_length=1)]`. -/
structure NonEmptyString where
  val : String
  stripped : strip val = val
  nonempty : val ≠ ""
  deriving DecidableEq, Repr

instance : Coe NonEmptyString String := ⟨NonEmptyString.val⟩

/-- The field's own validation: strip, then refuse the empty string. -/
def NonEmptyString.validate (s : String) : Option NonEmptyString :=
  if h : strip (strip s) = strip s ∧ strip s ≠ "" then some ⟨strip s, h.1, h.2⟩ else none

@[simp] theorem NonEmptyString.validate_val (s : NonEmptyString) : validate s.val = some s := by
  have h := s.stripped
  have hs : strip (strip s.val) = strip s.val ∧ strip s.val ≠ "" := by
    rw [h]; exact ⟨h, s.nonempty⟩
  simp only [validate, hs]
  cases s
  simp_all

end SimPilot
