/-!
# Dates

A date of the proleptic Gregorian calendar is its day number, 1 on 1 January of year 1, so that
order, distance and weekday are integer arithmetic. The calendar covers the years -262143 to
262142; `Date.civil` and `Date.ofCivil?` pass between a date and its year, month and day.
-/

set_option autoImplicit false

namespace Workday

/-- A day of the week, Monday first. -/
inductive Weekday where
  | monday | tuesday | wednesday | thursday | friday | saturday | sunday
  deriving DecidableEq, Repr

namespace Weekday

/-- The position in the week, Monday 0. -/
def index : Weekday → Nat
  | monday => 0 | tuesday => 1 | wednesday => 2 | thursday => 3
  | friday => 4 | saturday => 5 | sunday => 6

/-- The weekday at a position counted from Monday; every position past Saturday is Sunday. -/
def ofIndex : Nat → Weekday
  | 0 => monday | 1 => tuesday | 2 => wednesday | 3 => thursday
  | 4 => friday | 5 => saturday | _ => sunday

/-- Saturday and Sunday. -/
def isWeekend : Weekday → Bool
  | saturday | sunday => true
  | _ => false

/-- Three letters. -/
def shortName : Weekday → String
  | monday => "Mon" | tuesday => "Tue" | wednesday => "Wed" | thursday => "Thu"
  | friday => "Fri" | saturday => "Sat" | sunday => "Sun"

end Weekday

/-- The day number of 1 January -262143. -/
def firstDay : Int := -95746129

/-- The day number of 31 December 262142. -/
def lastDay : Int := 95745399

/-- A representable date. -/
structure Date where
  /-- The day number, 1 on 1 January of year 1. -/
  day : Int
  first_le : firstDay ≤ day
  le_last : day ≤ lastDay
  deriving DecidableEq

/-- Year, month and day of the month. -/
structure Civil where
  year : Int
  month : Nat
  day : Nat
  deriving DecidableEq, Repr

namespace Date

instance : LT Date := ⟨fun a b => a.day < b.day⟩
instance : LE Date := ⟨fun a b => a.day ≤ b.day⟩
instance (a b : Date) : Decidable (a < b) := inferInstanceAs (Decidable (a.day < b.day))
instance (a b : Date) : Decidable (a ≤ b) := inferInstanceAs (Decidable (a.day ≤ b.day))

/-- Dates are ordered as their day numbers are. -/
theorem lt_iff {a b : Date} : a < b ↔ a.day < b.day := Iff.rfl

theorem le_iff {a b : Date} : a ≤ b ↔ a.day ≤ b.day := Iff.rfl

@[ext] theorem ext {a b : Date} (h : a.day = b.day) : a = b := by
  cases a; cases b; cases h; rfl

/-- The earliest date. -/
def first : Date := ⟨firstDay, by decide, by decide⟩

/-- The latest date. -/
def last : Date := ⟨lastDay, by decide, by decide⟩

/-- The date with a day number, if the calendar covers it. -/
def ofDay? (n : Int) : Option Date :=
  if h : firstDay ≤ n ∧ n ≤ lastDay then some ⟨n, h.1, h.2⟩ else none

/-- The day after, none after the latest date. -/
def next? (d : Date) : Option Date :=
  if h : d.day < lastDay then
    some ⟨d.day + 1, by have := d.first_le; omega, by omega⟩
  else none

/-- How many days of the calendar come after a date. -/
def daysLeft (d : Date) : Nat := (lastDay - d.day).toNat

/-- Day number 1 is a Monday. -/
def weekday (d : Date) : Weekday :=
  Weekday.ofIndex ((d.day - 1) % 7).toNat

/-- The day number of a date leads back to the date. -/
theorem ofDay?_day (d : Date) : ofDay? d.day = some d := by
  simp [ofDay?, d.first_le, d.le_last]

/-- The next date has the next day number, and one day less is left after it. The recursions over
dates end by this. -/
theorem daysLeft_of_next? {d e : Date} (h : d.next? = some e) :
    e.day = d.day + 1 ∧ d.daysLeft = e.daysLeft + 1 := by
  unfold next? at h
  split at h
  next hlt =>
    cases h
    refine ⟨rfl, ?_⟩
    change (lastDay - d.day).toNat = (lastDay - (d.day + 1)).toNat + 1
    omega
  next => cases h

/-- Only the last date has no next one. -/
theorem next?_eq_none_iff {d : Date} : d.next? = none ↔ d = last := by
  unfold next?
  split
  next hlt =>
    simp only [reduceCtorEq, false_iff]
    intro h
    rw [h] at hlt
    exact absurd hlt (by decide)
  next hge =>
    simp only [true_iff]
    apply ext
    have := d.le_last
    simp only [last]
    omega

end Date

/-- A year divisible by 4 is leap, except a century not divisible by 400. -/
def isLeapYear (y : Int) : Bool :=
  y % 4 == 0 && (y % 100 != 0 || y % 400 == 0)

/-- The days in a month; none for a number that names no month. -/
def daysInMonth (y : Int) : Nat → Nat
  | 1 | 3 | 5 | 7 | 8 | 10 | 12 => 31
  | 4 | 6 | 9 | 11 => 30
  | 2 => if isLeapYear y then 29 else 28
  | _ => 0

namespace Civil

/-- A year, month and day that name a day of the calendar, whatever its year. -/
def isValid (c : Civil) : Bool :=
  1 ≤ c.day && c.day ≤ daysInMonth c.year c.month

/-- The day number of a valid year, month and day. Years run from March, so that the leap day is
the last of its year and each month starts `(153 m + 2) / 5` days after the first. -/
def dayNumber (c : Civil) : Int :=
  let y : Int := if c.month ≤ 2 then c.year - 1 else c.year
  let m : Int := if c.month ≤ 2 then c.month + 9 else (c.month : Int) - 3
  365 * y + y / 4 - y / 100 + y / 400 + (153 * m + 2) / 5 + c.day - 306

/-- Year, month and day of a day number: the cycle of 400 years it lies in, the year of the
cycle, the month of that year. -/
def ofDayNumber (n : Int) : Civil :=
  let z := n + 305
  let cycle := z / 146097
  let dayOfCycle := z % 146097
  let yearOfCycle := (dayOfCycle - dayOfCycle / 1460 + dayOfCycle / 36524 - dayOfCycle / 146096) / 365
  let dayOfYear := dayOfCycle - (365 * yearOfCycle + yearOfCycle / 4 - yearOfCycle / 100)
  let m := (5 * dayOfYear + 2) / 153
  let day := dayOfYear - (153 * m + 2) / 5 + 1
  let month := if m < 10 then m + 3 else m - 9
  let year := yearOfCycle + cycle * 400 + (if month ≤ 2 then 1 else 0)
  ⟨year, month.toNat, day.toNat⟩

end Civil

namespace Date

/-- Year, month and day. -/
def civil (d : Date) : Civil := Civil.ofDayNumber d.day

/-- The year. -/
def year (d : Date) : Int := d.civil.year

/-- The date with a year, month and day, if there is such a day and the calendar covers it. -/
def ofCivil? (c : Civil) : Option Date :=
  if c.isValid then ofDay? c.dayNumber else none

end Date

end Workday
