import Mathlib.Data.List.Basic
import Mathlib.Data.List.ReduceOption
/-!
# Reading exact lengths from a stream

What a stream delivers is chunks and timeouts, and then its end. `readExact` collects a length
from it and forgets what it has when a timeout strikes. Chunks do not matter to it: `items` is
the stream item by item, and each outcome of `readExact` is read off it. `Spaced` says that
timeouts strike between given runs of items only.
-/

/-- What one read of a stream may bring. -/
inductive Delivery (β : Type) where
  | chunk (bs : List β)
  | timeout
  deriving DecidableEq, Repr

inductive ReadFailure where
  | ended
  | timedOut
  deriving DecidableEq, Repr

namespace Delivery

variable {β : Type}

/-- Collect `n` more items behind `acc`; a chunk that is longer stays with its rest. -/
def readExact : Nat → List β → List (Delivery β) → Except ReadFailure (List β) × List (Delivery β)
  | 0, acc, ds => (.ok acc, ds)
  | _ + 1, _, [] => (.error .ended, [])
  | _ + 1, _, .timeout :: ds => (.error .timedOut, ds)
  | n + 1, acc, .chunk bs :: ds =>
    if bs.length ≤ n + 1 then readExact (n + 1 - bs.length) (acc ++ bs) ds
    else (.ok (acc ++ bs.take (n + 1)), .chunk (bs.drop (n + 1)) :: ds)

/-- The stream item by item, a timeout being `none`. -/
def items : List (Delivery β) → List (Option β)
  | [] => []
  | .timeout :: ds => none :: items ds
  | .chunk bs :: ds => bs.map some ++ items ds

/-- The items without the timeouts. -/
def bytes (ds : List (Delivery β)) : List β := (items ds).reduceOption

def timeouts (ds : List (Delivery β)) : Nat := (items ds).countP Option.isNone

theorem reduceOption_map_some (bs : List β) : (bs.map some).reduceOption = bs := by
  simp [List.reduceOption, List.filterMap_map]

@[simp] theorem bytes_nil : bytes ([] : List (Delivery β)) = [] := rfl

@[simp] theorem bytes_timeout (ds : List (Delivery β)) : bytes (.timeout :: ds) = bytes ds := by
  simp [bytes, items]

@[simp] theorem bytes_chunk (bs : List β) (ds : List (Delivery β)) : bytes (.chunk bs :: ds) = bs ++ bytes ds := by
  simp [bytes, items, List.reduceOption_append, reduceOption_map_some]

/-! ## The outcomes of a read -/

theorem map_some_append_eq {bs cs : List β} {is js : List (Option β)} (hlength : bs.length ≤ cs.length)
    (h : bs.map some ++ is = cs.map some ++ js) : ∃ es, cs = bs ++ es ∧ is = es.map some ++ js := by
  induction bs generalizing cs with
  | nil => exact ⟨cs, rfl, h⟩
  | cons b bs ih =>
    cases cs with
    | nil => simp at hlength
    | cons c cs =>
      simp only [List.map_cons, List.cons_append, List.cons.injEq, Option.some.injEq] at h
      obtain ⟨es, hes, his⟩ := ih (by simpa using hlength) h.2
      exact ⟨es, by rw [h.1, hes, List.cons_append], his⟩

/-- Enough items before a timeout are collected. -/
theorem readExact_ok {ds : List (Delivery β)} {n : Nat} {a bs : List β} {is : List (Option β)}
    (hn : bs.length = n) (h : items ds = bs.map some ++ is) :
    ∃ ds', readExact n a ds = (.ok (a ++ bs), ds') ∧ items ds' = is := by
  induction ds generalizing n a bs with
  | nil =>
    obtain ⟨hbs, his⟩ := List.append_eq_nil_iff.mp h.symm
    rw [List.map_eq_nil_iff] at hbs
    subst hbs hn his
    exact ⟨[], by simp [readExact], rfl⟩
  | cons d ds ih =>
    cases n with
    | zero =>
      obtain rfl := List.eq_nil_of_length_eq_zero hn
      exact ⟨d :: ds, by simp [readExact], h⟩
    | succ n =>
      cases d with
      | timeout =>
        cases bs with
        | nil => cases hn
        | cons b bs => simp [items] at h
      | chunk cs =>
        simp only [items] at h
        simp only [readExact]
        by_cases hlength : cs.length ≤ n + 1
        · obtain ⟨es, rfl, hes⟩ := map_some_append_eq (hn ▸ hlength) h
          rw [List.length_append] at hn
          obtain ⟨ds', hread, hitems⟩ := @ih (n + 1 - cs.length) (a ++ cs) es (by omega) hes
          rw [if_pos hlength, hread, List.append_assoc]
          exact ⟨ds', rfl, hitems⟩
        · obtain ⟨es, rfl, hes⟩ := map_some_append_eq (by omega) h.symm
          rw [if_neg hlength, ← hn, List.take_left, List.drop_left]
          exact ⟨_, rfl, by rw [items, ← hes]⟩

/-- A timeout before enough items loses those that were read. -/
theorem readExact_timedOut {ds : List (Delivery β)} {n : Nat} {a bs : List β} {is : List (Option β)}
    (hn : bs.length < n) (h : items ds = bs.map some ++ none :: is) :
    ∃ ds', readExact n a ds = (.error .timedOut, ds') ∧ items ds' = is := by
  induction ds generalizing n a bs with
  | nil => simp [items] at h
  | cons d ds ih =>
    obtain ⟨n, rfl⟩ := Nat.exists_eq_add_one_of_ne_zero (Nat.ne_zero_of_lt hn)
    cases d with
    | timeout =>
      cases bs with
      | nil =>
        simp only [items, List.map_nil, List.nil_append, List.cons.injEq, true_and] at h
        exact ⟨ds, by simp [readExact], h⟩
      | cons b bs => simp [items] at h
    | chunk cs =>
      simp only [items] at h
      have hlength : cs.length ≤ bs.length := by
        by_contra hlt
        obtain ⟨es, rfl, hes⟩ := map_some_append_eq (by omega) h.symm
        cases es with
        | nil => simp at hlt
        | cons e es => simp at hes
      obtain ⟨es, rfl, hes⟩ := map_some_append_eq hlength h
      rw [List.length_append] at hn
      simp only [readExact]
      rw [if_pos (by omega)]
      exact ih (by omega) hes

/-- The stream ends before enough items. -/
theorem readExact_ended {ds : List (Delivery β)} {n : Nat} {a bs : List β} (hn : bs.length < n)
    (h : items ds = bs.map some) : ∃ ds', readExact n a ds = (.error .ended, ds') := by
  induction ds generalizing n a bs with
  | nil =>
    obtain ⟨n, rfl⟩ := Nat.exists_eq_add_one_of_ne_zero (Nat.ne_zero_of_lt hn)
    exact ⟨[], by simp [readExact]⟩
  | cons d ds ih =>
    obtain ⟨n, rfl⟩ := Nat.exists_eq_add_one_of_ne_zero (Nat.ne_zero_of_lt hn)
    cases d with
    | timeout => cases bs <;> simp [items] at h
    | chunk cs =>
      simp only [items] at h
      obtain ⟨front, back, rfl, hfront, hback⟩ := List.append_eq_map_iff.mp h
      obtain rfl : front = cs := List.map_injective_iff.mpr (fun _ _ => Option.some.inj) hfront
      rw [List.length_append] at hn
      simp only [readExact]
      rw [if_pos (by omega)]
      exact ih (by omega) hback.symm

/-- What is left of the stream is shorter, unless the stream ended. -/
theorem readExact_length (ds : List (Delivery β)) {n : Nat} {a : List β} :
    (items (readExact n a ds).2).length ≤ (items ds).length ∧
      (0 < n → (readExact n a ds).1 ≠ .error .ended →
        (items (readExact n a ds).2).length < (items ds).length) := by
  induction ds generalizing n a with
  | nil => cases n <;> simp [readExact, items]
  | cons d ds ih =>
    cases n with
    | zero => simp [readExact]
    | succ n =>
      cases d with
      | timeout => simp [readExact, items]
      | chunk bs =>
        simp only [readExact]
        by_cases hlength : bs.length ≤ n + 1
        · rw [if_pos hlength]
          obtain ⟨hle, hlt⟩ := @ih (n + 1 - bs.length) (a ++ bs)
          simp only [items, List.length_append, List.length_map]
          refine ⟨by omega, fun _ hended => ?_⟩
          by_cases hempty : bs.length = 0
          · have := hlt (by omega) hended
            omega
          · omega
        · rw [if_neg hlength]
          simp only [items, List.length_append, List.length_map, List.length_drop]
          exact ⟨by omega, fun _ _ => by omega⟩

/-! ## Timeouts between the frames -/

/-- The frames one after the other, with so many timeouts between them and none inside one. -/
inductive Spaced : List (List β) → Nat → List (Option β) → Prop where
  | nil : Spaced [] 0 []
  | timeout {fs : List (List β)} {n : Nat} {is : List (Option β)} (h : Spaced fs n is) : Spaced fs (n + 1) (none :: is)
  | frame {fs : List (List β)} {n : Nat} {is : List (Option β)} (f : List β) (h : Spaced fs n is) :
      Spaced (f :: fs) n (f.map some ++ is)

theorem Spaced.bytes {fs : List (List β)} {n : Nat} {is : List (Option β)} (h : Spaced fs n is) :
    is.reduceOption = fs.flatten ∧ is.countP Option.isNone = n := by
  induction h with
  | nil => exact ⟨rfl, rfl⟩
  | timeout _ ih => exact ⟨by simp [ih.1], by simp [ih.2]⟩
  | frame f _ ih =>
    constructor
    · simp [List.reduceOption_append, reduceOption_map_some, ih.1]
    · simp [ih.2, List.countP_map]

end Delivery
