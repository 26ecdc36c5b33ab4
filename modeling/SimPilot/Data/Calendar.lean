import Mathlib.Data.List.Basic
import Mathlib.Logic.Function.Iterate
import Mathlib.Tactic.IntervalCases
/-!
# The proleptic Gregorian calendar

A date has a successor (`Date.next`), and a number: the days from the first of January of the
year zero to it (`Date.number`). The number of the successor is one more, and a date is known
by its number, so a day count is the date of its number.
-/

namespace Calendar

def isLeapYear (year : Nat) : Bool := year % 4 = 0 && (year % 100 ≠ 0 || year % 400 = 0)

def yearLength (year : Nat) : Nat := if isLeapYear year then 366 else 365

/-- The lengths of the months, January first. -/
def monthLengths (year : Nat) : List Nat :=
  [31, if isLeapYear year then 29 else 28, 31, 30, 31, 30, 31, 31, 30, 31, 30, 31]

def monthLength (year month : Nat) : Nat := (monthLengths year).getD (month - 1) 0

structure Date where
  year : Nat
  month : Nat
  day : Nat
  deriving DecidableEq, Repr

namespace Date

/-- The day after. -/
def next (d : Date) : Date :=
  if d.day < monthLength d.year d.month then { d with day := d.day + 1 }
  else if d.month < 12 then { d with month := d.month + 1, day := 1 }
  else ⟨d.year + 1, 1, 1⟩

/-- A day of the calendar. -/
structure Valid (d : Date) : Prop where
  month_pos : 1 ≤ d.month
  month_le : d.month ≤ 12
  day_pos : 1 ≤ d.day
  day_le : d.day ≤ monthLength d.year d.month

/-- The first day of the calendar. -/
def first : Date := ⟨0, 1, 1⟩

end Date

/-! ## Years -/

/-- The days of the years before a year. -/
def daysBefore (year : Nat) : Nat := 365 * year + (year + 3) / 4 - (year + 99) / 100 + (year + 399) / 400

/-- A year that is divided by `k` counts once more. -/
theorem div_succ {k : Nat} (hk : 0 < k) (year : Nat) :
    (year + 1 + (k - 1)) / k = (year + (k - 1)) / k + if year % k = 0 then 1 else 0 := by
  have hsum : year + 1 + (k - 1) = year + (k - 1) + 1 := by omega
  have hmod : k ∣ year + (k - 1) + 1 ↔ year % k = 0 := by
    rw [show year + (k - 1) + 1 = year + k by omega, Nat.dvd_add_self_right, Nat.dvd_iff_mod_eq_zero]
  rw [hsum, Nat.succ_div]
  simp only [hmod]

theorem daysBefore_succ (year : Nat) : daysBefore (year + 1) = daysBefore year + yearLength year := by
  have h4 : (year + 1 + 3) / 4 = (year + 3) / 4 + if year % 4 = 0 then 1 else 0 := div_succ (Nat.succ_pos _) year
  have h100 : (year + 1 + 99) / 100 = (year + 99) / 100 + if year % 100 = 0 then 1 else 0 :=
    div_succ (Nat.succ_pos _) year
  have h400 : (year + 1 + 399) / 400 = (year + 399) / 400 + if year % 400 = 0 then 1 else 0 :=
    div_succ (Nat.succ_pos _) year
  have hcentury : year % 100 = 0 → year % 4 = 0 := by omega
  have hcycle : year % 400 = 0 → year % 100 = 0 := by omega
  have hle : (year + 99) / 100 ≤ (year + 3) / 4 := by omega
  unfold daysBefore yearLength isLeapYear
  rw [h4, h100, h400]
  clear h4 h100 h400
  by_cases hfour : year % 4 = 0
  · by_cases hhundred : year % 100 = 0
    · by_cases hfourhundred : year % 400 = 0
      · simp only [hfour, hhundred, hfourhundred, if_true, ne_eq, not_true, decide_true, decide_false, Bool.or_true,
          Bool.and_self]
        omega
      · simp only [hfour, hhundred, hfourhundred, if_true, if_false, ne_eq, not_true, decide_true, decide_false,
          Bool.or_self, Bool.and_false, Bool.false_eq_true]
        omega
    · simp only [hfour, hhundred, mt hcycle hhundred, if_true, if_false, ne_eq, not_false_eq_true, decide_true,
        Bool.true_or, Bool.and_self]
      omega
  · have hhundred := mt hcentury hfour
    simp only [hfour, hhundred, mt hcycle hhundred, if_false, decide_false, Bool.false_and, Bool.false_eq_true]
    omega

theorem daysBefore_le_of_lt {y z : Nat} (h : y < z) : daysBefore y + yearLength y ≤ daysBefore z := by
  induction h with
  | refl => rw [Nat.succ_eq_add_one, daysBefore_succ]
  | step _ ih =>
    rw [Nat.succ_eq_add_one, daysBefore_succ]
    omega

/-! ## Months -/

/-- The days of the months before a month of its year. -/
def monthStart (year month : Nat) : Nat := ((monthLengths year).take (month - 1)).sum

theorem monthStart_succ (year : Nat) {month : Nat} (hpos : 1 ≤ month) (hle : month ≤ 12) :
    monthStart year (month + 1) = monthStart year month + monthLength year month := by
  obtain ⟨m, rfl⟩ := Nat.exists_eq_add_of_le' hpos
  have hm : m < (monthLengths year).length := by
    simp only [monthLengths, List.length_cons, List.length_nil]
    omega
  unfold monthStart monthLength
  rw [Nat.add_sub_cancel, Nat.add_sub_cancel, List.take_add_one, List.sum_append, List.getD_eq_getElem?_getD,
    List.getElem?_eq_getElem hm]
  simp

theorem monthStart_one (year : Nat) : monthStart year 1 = 0 := rfl

theorem monthStart_end (year : Nat) : monthStart year 12 + monthLength year 12 = yearLength year := by
  unfold monthStart monthLength yearLength monthLengths
  cases isLeapYear year <;> rfl

theorem monthStart_mono (year : Nat) {m k : Nat} (hpos : 1 ≤ m) (hlt : m < k) (hle : k ≤ 13) :
    monthStart year m + monthLength year m ≤ monthStart year k := by
  induction hlt with
  | refl => exact le_of_eq (monthStart_succ year hpos (by omega)).symm
  | @step k hlt ih =>
    have hprev := ih (by omega)
    rw [Nat.succ_eq_add_one, monthStart_succ year (by have := Nat.lt_of_succ_le hlt; omega) (by omega)]
    omega

/-! ## The number of a date -/

namespace Date

/-- The days from the first day of the calendar. -/
def number (d : Date) : Nat := daysBefore d.year + monthStart d.year d.month + (d.day - 1)

theorem number_first : first.number = 0 := rfl

theorem valid_first : first.Valid := ⟨by decide, by decide, by decide, by decide⟩

variable {d e : Date}

/-- A date is before the end of its month, and this before the end of the year. -/
theorem number_lt (h : d.Valid) :
    d.number < daysBefore d.year + monthStart d.year d.month + monthLength d.year d.month ∧
    d.number < daysBefore d.year + yearLength d.year := by
  have hend := monthStart_end d.year
  have hday := h.day_le
  have hpos := h.day_pos
  have hmonth : monthStart d.year d.month + monthLength d.year d.month ≤ yearLength d.year := by
    rcases Nat.lt_or_eq_of_le h.month_le with hlt | heq
    · have := monthStart_mono d.year h.month_pos hlt (by decide)
      omega
    · rw [heq]
      exact le_of_eq hend
  unfold number
  omega

theorem monthLength_pos {year month : Nat} (hpos : 1 ≤ month) (hle : month ≤ 12) : 1 ≤ monthLength year month := by
  unfold monthLength monthLengths
  cases isLeapYear year <;> interval_cases month <;> decide

theorem next_valid (h : d.Valid) : d.next.Valid := by
  unfold next
  split_ifs with hday hmonth
  · exact ⟨h.month_pos, h.month_le, by simp, hday⟩
  · exact ⟨by simp, hmonth, by simp, monthLength_pos (by simp) hmonth⟩
  · exact ⟨by simp, by simp, by simp, monthLength_pos (by simp) (by simp)⟩

/-- The day after has the next number. -/
theorem number_next (h : d.Valid) : d.next.number = d.number + 1 := by
  have hpos := h.day_pos
  have hle := h.day_le
  unfold next
  split_ifs with hday hmonth
  · unfold number
    simp only
    omega
  · have hsucc := monthStart_succ d.year h.month_pos h.month_le
    unfold number
    simp only
    omega
  · have htwelve : d.month = 12 := by have := h.month_le; omega
    have hend := monthStart_end d.year
    have hyear := daysBefore_succ d.year
    rw [htwelve] at hle hday
    have hstart := monthStart_one (d.year + 1)
    unfold number
    simp only
    rw [htwelve]
    omega

/-- A date is known by its number. -/
theorem number_inj (hd : d.Valid) (he : e.Valid) (h : d.number = e.number) : d = e := by
  have hyear : d.year = e.year := by
    rcases Nat.lt_trichotomy d.year e.year with hlt | heq | hgt
    · have hle := daysBefore_le_of_lt hlt
      have hnumber := (number_lt hd).2
      have hge : daysBefore e.year ≤ e.number := by unfold number; omega
      omega
    · exact heq
    · have hle := daysBefore_le_of_lt hgt
      have hnumber := (number_lt he).2
      have hge : daysBefore d.year ≤ d.number := by unfold number; omega
      omega
  have hmonth : d.month = e.month := by
    rcases Nat.lt_trichotomy d.month e.month with hlt | heq | hgt
    · have hle := monthStart_mono d.year hd.month_pos hlt (by have := he.month_le; omega)
      have hnumber := (number_lt hd).1
      have hge : daysBefore d.year + monthStart d.year e.month ≤ e.number := by unfold number; rw [hyear]; omega
      omega
    · exact heq
    · have hle := monthStart_mono e.year he.month_pos hgt (by have := hd.month_le; omega)
      have hnumber := (number_lt he).1
      have hge : daysBefore e.year + monthStart e.year d.month ≤ d.number := by unfold number; rw [hyear]; omega
      omega
  have hday : d.day = e.day := by
    unfold number at h
    rw [hyear, hmonth] at h
    have hd' := hd.day_pos
    have he' := he.day_pos
    omega
  obtain ⟨y, m, k⟩ := d
  obtain ⟨y', m', k'⟩ := e
  simp only at hyear hmonth hday
  rw [hyear, hmonth, hday]

/-- The date so many days after the first. -/
def ofDays (n : Nat) : Date := next^[n] first

theorem ofDays_valid (n : Nat) : (ofDays n).Valid := by
  induction n with
  | zero => exact valid_first
  | succ n ih =>
    rw [ofDays, Function.iterate_succ_apply']
    exact next_valid ih

theorem number_ofDays (n : Nat) : (ofDays n).number = n := by
  induction n with
  | zero => exact number_first
  | succ n ih =>
    rw [ofDays, Function.iterate_succ_apply']
    exact (number_next (ofDays_valid n)).trans (congrArg (· + 1) ih)

/-- The date of a number is reached in as many days. -/
theorem eq_ofDays {n : Nat} (hd : d.Valid) (h : d.number = n) : d = ofDays n :=
  number_inj hd (ofDays_valid n) (h.trans (number_ofDays n).symm)

end Date

end Calendar
