import SimPilot.Data.Calendar
import SimPilot.Domain.Text
/-!
# The dates of the game (openttd/protocol.py:277-316)

The game counts days from the first of January of the year zero. `format_game_date` takes off
the cycles of 400 years, the centuries (the first of a cycle has a day more), the blocks of four
years (the first of a century that is not leap has a day less), the years and the months. Each of
these steps leaves `Reached` as it is: the days before the year, and the days that remain, are
the count.

| here | there |
|---|---|
| `afterCenturies`, `afterBlocks`, `afterYears` | protocol.py:281-298 |
| `monthAndDay` | the loop over `month_lengths` |
-/

namespace SimPilot.AdminNetwork
open Calendar

inductive GameDateError where
  | value (text : String)
  | assertion (text : String)
  deriving DecidableEq, Repr

/-! ## The conversion -/

/-- A year, and the days that remain from its first. -/
structure YearDay where
  year : Nat
  remaining : Nat
  deriving DecidableEq, Repr

/-- The cycles of 400 years. -/
def afterCycles (dateRaw : Nat) : YearDay := ⟨400 * (dateRaw / (365 * 400 + 97)), dateRaw % (365 * 400 + 97)⟩

/-- The centuries of a cycle. -/
def afterCenturies (d : YearDay) : YearDay :=
  if 365 * 100 + 25 ≤ d.remaining then
    let remaining := d.remaining - (365 * 100 + 25)
    ⟨d.year + 100 + 100 * (remaining / (365 * 100 + 24)), remaining % (365 * 100 + 24)⟩
  else d

/-- The first block of a century that is not leap. -/
def afterShortBlock (d : YearDay) : YearDay :=
  if ¬ isLeapYear d.year ∧ 365 * 4 ≤ d.remaining then ⟨d.year + 4, d.remaining - 365 * 4⟩ else d

def afterBlocks (d : YearDay) : YearDay :=
  ⟨d.year + 4 * (d.remaining / (365 * 4 + 1)), d.remaining % (365 * 4 + 1)⟩

def afterYears (d : YearDay) : YearDay :=
  if _h : yearLength d.year ≤ d.remaining then afterYears ⟨d.year + 1, d.remaining - yearLength d.year⟩ else d
  termination_by d.remaining
  decreasing_by
    have hpos : 0 < yearLength d.year := by
      unfold yearLength
      split <;> omega
    omega

/-- The loop over `month_lengths`: nothing when no month holds the day. -/
def monthAndDay : List Nat → Nat → Nat → Option (Nat × Nat)
  | [], _, _ => none
  | length :: lengths, month, remaining =>
    if remaining < length then some (month, remaining + 1) else monthAndDay lengths (month + 1) (remaining - length)

def showDate (d : Date) : String := toString d.year ++ "-" ++ padLeft 2 d.month ++ "-" ++ padLeft 2 d.day

def formatGameDate (dateRaw : Int) : Except GameDateError String :=
  if dateRaw < 0 then .error (.value "OpenTTD date must be non-negative")
  else
    let d := afterYears (afterBlocks (afterShortBlock (afterCenturies (afterCycles dateRaw.toNat))))
    match monthAndDay (monthLengths d.year) 1 d.remaining with
    | some (month, day) => .ok (showDate ⟨d.year, month, day⟩)
    | none => .error (.assertion "unreachable OpenTTD date conversion")

/-! ## The steps -/

/-- The days before the year and those that remain are the count. -/
def Reached (dateRaw : Nat) (d : YearDay) : Prop := daysBefore d.year + d.remaining = dateRaw

section
variable {n : Nat} {d : YearDay}

theorem reached_afterCycles (n : Nat) : Reached n (afterCycles n) ∧ (afterCycles n).year % 400 = 0 ∧
    (afterCycles n).remaining < 146097 := by
  unfold Reached afterCycles daysBefore
  simp only
  omega

/-- A century that begins with a leap year has a day more. -/
structure InCentury (d : YearDay) : Prop where
  year : d.year % 100 = 0
  remaining : d.remaining < if isLeapYear d.year then 36525 else 36524

theorem isLeapYear_century {year : Nat} (h : year % 100 = 0) : isLeapYear year = true ↔ year % 400 = 0 := by
  simp only [isLeapYear, Bool.and_eq_true, Bool.or_eq_true, decide_eq_true_eq]
  omega

theorem reached_afterCenturies (h : Reached n d) (hyear : d.year % 400 = 0) (hcycle : d.remaining < 146097) :
    Reached n (afterCenturies d) ∧ InCentury (afterCenturies d) := by
  obtain ⟨k, hk⟩ : ∃ k, d.year = 400 * k := ⟨d.year / 400, by omega⟩
  unfold afterCenturies
  split_ifs with hfirst
  · have hhundred : (d.year + 100 + 100 * ((d.remaining - 36525) / 36524)) % 100 = 0 := by omega
    refine ⟨?_, hhundred, ?_⟩
    · unfold Reached daysBefore at h ⊢
      simp only
      omega
    · have hnot : ¬ isLeapYear (d.year + 100 + 100 * ((d.remaining - 36525) / 36524)) = true := by
        rw [isLeapYear_century hhundred]
        omega
      rw [if_neg hnot]
      show _ % 36524 < 36524
      omega
  · have hleap := (isLeapYear_century (by omega)).mpr hyear
    exact ⟨h, by omega, by rw [if_pos hleap]; omega⟩

/-- The blocks of four years that remain of a century begin with a leap year. -/
structure InBlocks (d : YearDay) : Prop where
  year : d.year % 4 = 0
  first : d.year % 100 = 0 → isLeapYear d.year = true ∨ d.remaining < 1460
  remaining : d.remaining < 1461 * ((100 - d.year % 100) / 4)

theorem reached_afterShortBlock (h : Reached n d) (hin : InCentury d) :
    Reached n (afterShortBlock d) ∧ InBlocks (afterShortBlock d) := by
  have hyear := hin.year
  have hremaining := hin.remaining
  unfold afterShortBlock
  split_ifs with hshort
  · obtain ⟨hnot, hlong⟩ := hshort
    rw [if_neg hnot] at hremaining
    rw [isLeapYear_century hyear] at hnot
    obtain ⟨k, hk⟩ : ∃ k, d.year = 100 * k := ⟨d.year / 100, by omega⟩
    have hdays : daysBefore (d.year + 4) = daysBefore d.year + 1460 := by
      have hsame : (100 * k + 4 + 399) / 400 = (100 * k + 399) / 400 := by omega
      have hnext : (100 * k + 4 + 99) / 100 = (100 * k + 99) / 100 + 1 := by omega
      unfold daysBefore
      rw [hk, hsame, hnext]
      omega
    refine ⟨?_, ⟨?_, ?_, ?_⟩⟩
    · unfold Reached at h ⊢
      show daysBefore (d.year + 4) + (d.remaining - 1460) = n
      omega
    · show (d.year + 4) % 4 = 0
      omega
    · intro hcentury
      have hzero : (d.year + 4) % 100 = 0 := hcentury
      omega
    · show d.remaining - 1460 < 1461 * ((100 - (d.year + 4) % 100) / 4)
      have hmod : (d.year + 4) % 100 = 4 := by omega
      rw [hmod]
      omega
  · refine ⟨h, ⟨by omega, fun _ => ?_, ?_⟩⟩
    · by_cases hleap : isLeapYear d.year = true
      · exact .inl hleap
      · exact .inr (Nat.lt_of_not_le fun hlong => hshort ⟨hleap, hlong⟩)
    · split_ifs at hremaining <;> omega

theorem reached_afterBlocks (h : Reached n d) (hin : InBlocks d) : Reached n (afterBlocks d) := by
  have hyear := hin.year
  have hremaining := hin.remaining
  unfold afterBlocks Reached
  unfold Reached at h
  have hblocks : daysBefore (d.year + 4 * (d.remaining / 1461)) = daysBefore d.year + 1461 * (d.remaining / 1461) := by
    have hb : d.remaining / 1461 < (100 - d.year % 100) / 4 := by omega
    by_cases hcentury : d.year % 100 = 0
    · rcases hin.first hcentury with hleap | hshort
      · rw [isLeapYear_century hcentury] at hleap
        unfold daysBefore
        omega
      · rw [show d.remaining / 1461 = 0 by omega]
        rfl
    · unfold daysBefore
      omega
  show daysBefore (d.year + 4 * (d.remaining / 1461)) + d.remaining % 1461 = n
  omega

theorem reached_afterYears (h : Reached n d) :
    Reached n (afterYears d) ∧ (afterYears d).remaining < yearLength (afterYears d).year := by
  fun_induction afterYears d with
  | case1 d hlong ih =>
    refine ih ?_
    unfold Reached at h ⊢
    simp only
    rw [daysBefore_succ]
    omega
  | case2 d hshort => exact ⟨h, Nat.lt_of_not_le hshort⟩

end

/-- The loop over the months ends in one that holds the day. -/
theorem monthAndDay_eq {lengths : List Nat} (month : Nat) {remaining : Nat} (h : remaining < lengths.sum) :
    ∃ i, i < lengths.length ∧ (lengths.take i).sum ≤ remaining ∧
      remaining < (lengths.take i).sum + lengths.getD i 0 ∧
      monthAndDay lengths month remaining = some (month + i, remaining - (lengths.take i).sum + 1) := by
  induction lengths generalizing month remaining with
  | nil => cases h
  | cons length lengths ih =>
    rw [monthAndDay]
    by_cases hfirst : remaining < length
    · exact ⟨0, by simp, by simp, by simpa using hfirst, by simp [hfirst]⟩
    · rw [List.sum_cons] at h
      obtain ⟨i, hi, hle, hlt, heq⟩ := ih (month + 1) (show remaining - length < lengths.sum by omega)
      refine ⟨i + 1, by simpa using hi, ?_, ?_, ?_⟩
      · rw [List.take_succ_cons, List.sum_cons]
        omega
      · rw [List.take_succ_cons, List.sum_cons, List.getD_cons_succ]
        omega
      · rw [if_neg hfirst, heq, List.take_succ_cons, List.sum_cons]
        simp only [Option.some.injEq, Prod.mk.injEq]
        omega

theorem sum_monthLengths (year : Nat) : (monthLengths year).sum = yearLength year := by
  unfold monthLengths yearLength
  cases isLeapYear year <;> rfl

/-- **The date of a day count.** So many days after the first of January of the year zero. -/
theorem format_game_date_eq (n : Nat) : formatGameDate n = .ok (showDate (Date.ofDays n)) := by
  obtain ⟨hcycles, hyear, hcycle⟩ := reached_afterCycles n
  obtain ⟨hcenturies, hcentury⟩ := reached_afterCenturies hcycles hyear hcycle
  obtain ⟨hshort, hblocks⟩ := reached_afterShortBlock hcenturies hcentury
  obtain ⟨hreached, hremaining⟩ := reached_afterYears (reached_afterBlocks hshort hblocks)
  unfold formatGameDate
  rw [if_neg (by omega), Int.toNat_natCast]
  simp only
  generalize afterYears (afterBlocks (afterShortBlock (afterCenturies (afterCycles n)))) = d at hreached hremaining ⊢
  obtain ⟨i, hi, hle, hlt, heq⟩ := monthAndDay_eq 1 ((sum_monthLengths d.year).symm ▸ hremaining)
  rw [heq]
  have hlength : (monthLengths d.year).length = 12 := rfl
  have hvalid : Date.Valid ⟨d.year, 1 + i, d.remaining - ((monthLengths d.year).take i).sum + 1⟩ := by
    refine ⟨by simp, ?_, by simp, ?_⟩
    · simp only
      omega
    · unfold monthLength
      simp only [Nat.add_sub_cancel_left]
      omega
  have hnumber : Date.number ⟨d.year, 1 + i, d.remaining - ((monthLengths d.year).take i).sum + 1⟩ = n := by
    unfold Reached at hreached
    unfold Date.number monthStart
    simp only [Nat.add_sub_cancel_left, Nat.add_sub_cancel]
    omega
  exact congrArg (fun date => Except.ok (showDate date)) (Date.eq_ofDays hvalid hnumber)

end SimPilot.AdminNetwork
