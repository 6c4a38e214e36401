import Workday.Calendar
import Workday.WorkingDay

/-!
# Queries

Questions put to one calendar directly, about one of its regions.
-/

set_option autoImplicit false

namespace Workday

/-- What can be asked of a calendar about a region. -/
inductive Query where
  /-- The events in feed order. -/
  | events
  /-- The holiday dates in order, each once. -/
  | dates
  | isBankHoliday (date : Date)
  | eventsInYear (year : Int)
  | isWorkingDay (date : Date)
  /-- The date a number of working days after a start. -/
  | deadline (start : Date) (n : Nat)
  deriving DecidableEq

/-- What a calendar answers. -/
inductive Query.Result where
  | events (events : List Event)
  | dates (dates : List Date)
  | truth (holds : Bool)
  | date (date : Option Date)
  deriving DecidableEq

/-- The answer to a query. -/
def Calendar.query (c : Calendar) (region : Region) : Query → Query.Result
  | .events => .events (c.events region)
  | .dates => .dates (c.sortedDates region)
  | .isBankHoliday date => .truth (c.isBankHoliday region date)
  | .eventsInYear year => .events (c.eventsInYear region year)
  | .isWorkingDay date => .truth (isWorkingDay (c.holidayDates region) date)
  | .deadline start n => .date (addWorkingDays (c.holidayDates region) n start)

end Workday
