import Mathlib.Tactic.IntervalCases
import Workday.Date

/-!
# Dates by year, month and day

Every date is the date of its year, month and day. The calendar repeats after 400 years, so the
argument is about the days of one such cycle, whose years begin in March. `dayOfCycle_bounds` places
a day in its year; within the year each month is a case of its own.
-/

set_option autoImplicit false

namespace Workday

/-! ## Years of a cycle -/

section Year

variable {d y : Int}

/-- A day of the cycle lies in the year that the division gives, counted from the first of March. The
year has a day 365 only before a leap day's first of March. -/
theorem dayOfCycle_bounds (hd : 0 ≤ d) (hd' : d < 146097)
    (hy : y = (d - d / 1460 + d / 36524 - d / 146096) / 365) :
    0 ≤ y ∧ y ≤ 399 ∧ 0 ≤ d - (365 * y + y / 4 - y / 100) ∧
      d - (365 * y + y / 4 - y / 100) ≤ 365 ∧
      (d - (365 * y + y / 4 - y / 100) = 365 → y % 4 = 3 ∧ (y % 100 ≠ 99 ∨ y = 399)) := by
  -- The divisions by the long periods have few results; for each of them the rest is linear.
  have hcycle : d / 146096 = 0 ∨ d / 146096 = 1 := by omega
  have hcentury : d / 36524 = 0 ∨ d / 36524 = 1 ∨ d / 36524 = 2 ∨ d / 36524 = 3 ∨
      d / 36524 = 4 := by omega
  have hcentury' : y / 100 = 0 ∨ y / 100 = 1 ∨ y / 100 = 2 ∨ y / 100 = 3 := by omega
  refine ⟨by omega, by omega, ?_, ?_, ?_⟩
  · rcases hcentury with h | h | h | h | h <;> rcases hcentury' with h' | h' | h' | h' <;> omega
  · rcases hcentury with h | h | h | h | h <;> rcases hcentury' with h' | h' | h' | h' <;> omega
  · rcases hcycle with h'' | h'' <;> rcases hcentury with h | h | h | h | h <;>
      rcases hcentury' with h' | h' | h' | h' <;> omega

end Year

namespace Civil

/-! ## Months of a year -/

/-- Year, month and day of a day counted from the first of March of a year. -/
def ofMarch (year day : Int) : Civil :=
  let m := (5 * day + 2) / 153
  let month := if m < 10 then m + 3 else m - 9
  ⟨year + (if month ≤ 2 then 1 else 0), month.toNat, (day - (153 * m + 2) / 5 + 1).toNat⟩

variable {y d : Int}

/-- The days of a year that is counted from March are days of the calendar; the last of 366 is one
if the next year is a leap year. -/
theorem ofMarch_isValid (hd : 0 ≤ d) (hd' : d ≤ 365)
    (hleap : d = 365 → isLeapYear (y + 1) = true) : (ofMarch y d).isValid = true := by
  obtain ⟨m, hm, hmonth⟩ : ∃ m : Nat, m < 12 ∧ (5 * d + 2) / 153 = m :=
    ⟨((5 * d + 2) / 153).toNat, by omega, by omega⟩
  interval_cases m
  case «11» =>
    -- The year ends with February, the one month whose length depends on the year.
    simp only [isValid, ofMarch, hmonth, Bool.and_eq_true, decide_eq_true_eq]
    by_cases hlast : d = 365
    · subst hlast
      simp [daysInMonth, hleap rfl]
    · simp [daysInMonth]
      split <;> omega
  all_goals
    simp only [isValid, ofMarch, hmonth, Bool.and_eq_true, decide_eq_true_eq]
    simp [daysInMonth]
    omega

/-- The number of a day in a year that is counted from March, told by the days of the years before. -/
theorem ofMarch_dayNumber (hd : 0 ≤ d) (hd' : d ≤ 365) :
    (ofMarch y d).dayNumber = 365 * y + y / 4 - y / 100 + y / 400 + d - 305 := by
  obtain ⟨m, hm, hmonth⟩ : ∃ m : Nat, m < 12 ∧ (5 * d + 2) / 153 = m :=
    ⟨((5 * d + 2) / 153).toNat, by omega, by omega⟩
  interval_cases m <;> simp [dayNumber, ofMarch, hmonth] <;> omega

/-! ## Day numbers -/

/-- Every day number is that of a day in a year counted from March, in a cycle of 400 years. The
bounds tell where in the cycle the day is; its last day is in the year 399. -/
theorem ofDayNumber_eq_ofMarch (n : Int) :
    ∃ y d, 0 ≤ y ∧ y ≤ 399 ∧ 0 ≤ d ∧ d ≤ 365 ∧ (d = 365 → y % 4 = 3 ∧ (y % 100 ≠ 99 ∨ y = 399)) ∧
      (n + 305) % 146097 = 365 * y + y / 4 - y / 100 + d ∧
      ofDayNumber n = ofMarch (y + (n + 305) / 146097 * 400) d := by
  have hd : 0 ≤ (n + 305) % 146097 := Int.emod_nonneg _ (by decide)
  have hd' : (n + 305) % 146097 < 146097 := Int.emod_lt_of_pos _ (by decide)
  obtain ⟨hy, hy', hday, hday', hleap⟩ := dayOfCycle_bounds hd hd' rfl
  exact ⟨_, _, hy, hy', hday, hday', hleap, by omega, rfl⟩

/-- A day number names a day of a month, and it is the number of that day. Counted from a first of March
the leap day is the last of its year, and every 400 years are alike. -/
theorem ofDayNumber_spec (n : Int) :
    (ofDayNumber n).isValid = true ∧ (ofDayNumber n).dayNumber = n := by
  obtain ⟨y, d, hy, hy', hd, hd', hleap, hcycle, hmarch⟩ := ofDayNumber_eq_ofMarch n
  rw [hmarch]
  constructor
  · refine ofMarch_isValid hd hd' fun hlast => ?_
    have hyear := hleap hlast
    simp only [isLeapYear, Bool.and_eq_true, Bool.or_eq_true, beq_iff_eq, bne_iff_ne]
    omega
  · have hfour (k : Int) : (y + k * 400) / 4 = y / 4 + k * 100 := by omega
    have hcentury (k : Int) : (y + k * 400) / 100 = y / 100 + k * 4 := by omega
    have hall (k : Int) : (y + k * 400) / 400 = k := by omega
    rw [ofMarch_dayNumber hd hd', hfour, hcentury, hall]
    omega

/-- Months are numbered from 1 to 12, and days from 1 to 31. -/
theorem bounds_of_isValid {c : Civil} (h : c.isValid = true) :
    1 ≤ c.month ∧ c.month ≤ 12 ∧ 1 ≤ c.day ∧ c.day ≤ 31 := by
  obtain ⟨year, month, day⟩ := c
  simp only [isValid, Bool.and_eq_true, decide_eq_true_eq] at h
  obtain ⟨hday, hmonth⟩ := h
  have hmonth' : 1 ≤ month ∧ month ≤ 12 := by
    by_contra hno
    have hzero : daysInMonth year month = 0 := by
      unfold daysInMonth
      split <;> omega
    omega
  have hlength : daysInMonth year month ≤ 31 := by
    unfold daysInMonth
    split
    case h_12 => split <;> decide
    all_goals decide
  exact ⟨hmonth'.1, hmonth'.2, hday, hmonth.trans hlength⟩

end Civil

namespace Date

/-- A date is found again by its year, month and day. -/
theorem ofCivil?_civil (d : Date) : ofCivil? d.civil = some d := by
  obtain ⟨hvalid, hday⟩ := Civil.ofDayNumber_spec d.day
  rw [ofCivil?, civil, if_pos hvalid, hday, ofDay?_day]

theorem civil_bounds (d : Date) :
    1 ≤ d.civil.month ∧ d.civil.month ≤ 12 ∧ 1 ≤ d.civil.day ∧ d.civil.day ≤ 31 :=
  Civil.bounds_of_isValid (Civil.ofDayNumber_spec d.day).1

/-- The years of dates are bounded, far enough from where the width of an integer would matter. -/
theorem year_bounds (d : Date) : -262400 ≤ d.civil.year ∧ d.civil.year ≤ 262400 := by
  obtain ⟨y, day, hy, hy', -, -, -, -, hmarch⟩ := Civil.ofDayNumber_eq_ofMarch d.day
  have hfirst := d.first_le
  have hlast := d.le_last
  simp only [firstDay, lastDay] at hfirst hlast
  rw [civil, hmarch]
  simp only [Civil.ofMarch]
  split <;> split <;> omega

end Date

end Workday
