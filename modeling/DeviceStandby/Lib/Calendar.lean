import Mathlib.Algebra.Group.Int.Defs
import Mathlib.Order.Lattice
import Mathlib.Tactic.SplitIfs

/-!
# Dates of the Gregorian calendar

Days are counted from 1 January 1970, and the calendar is extended to all integers. Years are taken
to begin in March, so that a leap day is the last day of its year and the months before it always
have the same lengths. `toDays_ofDays` is the round trip from a day to its date and back.
-/

namespace Calendar

/-- A date, with the months and the days of a month counted from 1. -/
structure Date where
  year : Int
  month : Int
  day : Int
  deriving DecidableEq

/-- The days from 1 March of year 0 to 1 March of a year. -/
def startOfYear (year : Int) : Int :=
  365 * year + year / 4 - year / 100 + year / 400

/-- The days from 1 March to the first day of a month, counted from March as 0. -/
def startOfMonth (month : Int) : Int :=
  (153 * month + 2) / 5

/-- The year, beginning in March, of the day `n` after 1 March of year 0. Of the 400 years that the
calendar repeats, every fourth century and every fourth year have one day more. -/
def yearOf (n : Int) : Int :=
  let century := min 3 (n % 146097 / 36524)
  let dayOfCentury := n % 146097 - 36524 * century
  400 * (n / 146097) + 100 * century + 4 * (dayOfCentury / 1461) +
    min 3 (dayOfCentury % 1461 / 365)

/-- The month, counted from March as 0, of a day of a year that begins in March. -/
def monthOf (dayOfYear : Int) : Int :=
  (5 * dayOfYear + 2) / 153

/-- The days from 1 March of year 0 to 1 January 1970. -/
def epoch : Int := 719468

/-- The date of a day. -/
def ofDays (days : Int) : Date :=
  let year := yearOf (days + epoch)
  let dayOfYear := days + epoch - startOfYear year
  let month := monthOf dayOfYear
  let day := dayOfYear - startOfMonth month + 1
  if month < 10 then ⟨year, month + 3, day⟩ else ⟨year + 1, month - 9, day⟩

/-- The day of a date. -/
def toDays (date : Date) : Int :=
  let year := if date.month ≤ 2 then date.year - 1 else date.year
  let month := if date.month ≤ 2 then date.month + 9 else date.month - 3
  startOfYear year + startOfMonth month + (date.day - 1) - epoch

section
variable {n : Int}

/-- A year is not far from the 400 years it belongs to. -/
theorem yearOf_bounds : 400 * (n / 146097) ≤ yearOf n ∧ yearOf n ≤ 400 * (n / 146097) + 400 := by
  unfold yearOf
  dsimp only
  omega

/-- A day is in its year. -/
theorem startOfYear_yearOf :
    startOfYear (yearOf n) ≤ n ∧ n ≤ startOfYear (yearOf n) + 365 := by
  unfold startOfYear yearOf
  have hlo := Int.emod_nonneg n (by decide : (146097 : Int) ≠ 0)
  have hhi := Int.emod_lt_of_pos n (by decide : (0 : Int) < 146097)
  have hera := Int.mul_ediv_add_emod n 146097
  generalize n % 146097 = doe at *
  generalize n / 146097 = era at *
  dsimp only
  -- the last century of an era has one day more
  have hcentury : 0 ≤ min 3 (doe / 36524) ∧ min 3 (doe / 36524) ≤ 3 ∧
      36524 * min 3 (doe / 36524) ≤ doe ∧
      (doe < 36524 * min 3 (doe / 36524) + 36524 ∨
        min 3 (doe / 36524) = 3 ∧ doe = 36524 * 3 + 36524) := by omega
  generalize min 3 (doe / 36524) = century at *
  obtain ⟨doc, hdoc⟩ : ∃ doc, doc = doe - 36524 * century := ⟨_, rfl⟩
  rw [← hdoc]
  have hquad : 0 ≤ doc / 1461 ∧ doc / 1461 ≤ 24 ∧ doc = 1461 * (doc / 1461) + doc % 1461 ∧
      0 ≤ doc % 1461 ∧ doc % 1461 < 1461 := by omega
  generalize doc / 1461 = quad at *
  generalize doc % 1461 = doq at *
  have hyear : 0 ≤ min 3 (doq / 365) ∧ min 3 (doq / 365) ≤ 3 ∧ 365 * min 3 (doq / 365) ≤ doq ∧
      doq ≤ 365 * min 3 (doq / 365) + 365 := by omega
  generalize min 3 (doq / 365) = year at *
  have h4 : (400 * era + 100 * century + 4 * quad + year) / 4 =
      100 * era + 25 * century + quad := by
    omega
  have h100 : (400 * era + 100 * century + 4 * quad + year) / 100 = 4 * era + century := by omega
  have h400 : (400 * era + 100 * century + 4 * quad + year) / 400 = era := by omega
  rw [h4, h100, h400]
  omega

/-- The date of a day is the date of no other day. -/
theorem toDays_ofDays : toDays (ofDays n) = n := by
  have hyear := startOfYear_yearOf (n := n + epoch)
  unfold ofDays
  dsimp only
  have hmonth : 0 ≤ monthOf (n + epoch - startOfYear (yearOf (n + epoch))) ∧
      monthOf (n + epoch - startOfYear (yearOf (n + epoch))) ≤ 11 := by
    unfold monthOf
    omega
  generalize monthOf _ = month at *
  split_ifs with hmarch
  · have hlate : ¬ month + 3 ≤ 2 := by omega
    simp only [toDays, if_neg hlate, Int.add_sub_cancel]
    omega
  · have hearly : month - 9 ≤ 2 := by omega
    simp only [toDays, if_pos hearly, Int.add_sub_cancel, Int.sub_add_cancel]
    omega

example : ofDays 11016 = ⟨2000, 2, 29⟩ := by decide

end

end Calendar
