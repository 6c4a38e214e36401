import Workday.Date

/-!
# Working days

A working day is Monday to Friday and no holiday. Deadlines are counted by scanning forward: a
step goes to the next working day strictly after a date, and fails at the end of the calendar.
Holidays are given as a list of dates; only membership counts.
-/

set_option autoImplicit false

namespace Workday

/-- Monday to Friday and not among the holidays. -/
def isWorkingDay (holidays : List Date) (date : Date) : Bool :=
  !date.weekday.isWeekend && !holidays.contains date

/-- The first working day among the next `left` days. -/
def nextWorkingDayWithin (holidays : List Date) : Nat → Date → Option Date
  | 0, _ => none
  | left + 1, date =>
    match date.next? with
    | none => none
    | some next =>
      if isWorkingDay holidays next then some next
      else nextWorkingDayWithin holidays left next

/-- The first working day strictly after a date, none past the end of the calendar. -/
def nextWorkingDay (holidays : List Date) (date : Date) : Option Date :=
  nextWorkingDayWithin holidays date.daysLeft date

/-- The date a number of working days after a date. No steps lead to the date itself, whether or
not it is a working day. -/
def addWorkingDays (holidays : List Date) : Nat → Date → Option Date
  | 0, date => some date
  | n + 1, date =>
    match nextWorkingDay holidays date with
    | none => none
    | some next => addWorkingDays holidays n next

/-- The working days reached by stepping again and again; past the end of the calendar all none. -/
def workingDaySeries (holidays : List Date) : Nat → Option Date → List (Option Date)
  | 0, _ => []
  | count + 1, date =>
    let next := date.bind (nextWorkingDay holidays)
    next :: workingDaySeries holidays count next

/-- Whether each of a number of consecutive days is a working day. The walk ends before the last
day of the calendar. -/
def workingDayMap (holidays : List Date) : Nat → Date → List Bool
  | 0, _ => []
  | days + 1, date =>
    match date.next? with
    | none => []
    | some next => isWorkingDay holidays date :: workingDayMap holidays days next

end Workday
