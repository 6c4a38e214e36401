import Workday.Cache.Room
import Workday.Calendar
import Workday.Failure
import Workday.WorkingDay

/-!
# The calculator

A calculator answers questions about working days in one region from the shared, cached calendar.
Each question that needs the calendar takes one snapshot of it. A count of zero, and a count that
cannot be stepped, are settled before the calendar is asked for.
-/

set_option autoImplicit false

namespace Workday

open Cache (Store Fetched Call Served)

/-- What can be asked of a calculator. -/
inductive Question where
  | isWorkingDay (date : Date)
  /-- The date a number of working days after a start. -/
  | deadline (n : Int) (start : Date)
  /-- The same from today. -/
  | deadlineFromToday (n : Int)
  /-- The region of the calculator. -/
  | region
  deriving DecidableEq

/-- What a calculator answers. -/
inductive Answer where
  | working (working : Bool)
  | date (date : Date)
  | region (region : Region)
  deriving DecidableEq

/-- The largest count that can be stepped. -/
def maxCount : Int := 4294967295

/-- A store of calendars. -/
abbrev CalendarStore (σ : Type) := Store σ Calendar

/-- A source of calendars: how to fetch one. -/
abbrev CalendarSource (σ : Type) := σ → Fetched FetchFailure Calendar × σ

/-- An answer or the reason for none. -/
abbrev Verdict := Except DeadlineFailure Answer

/-- The region and the time to live that a calculator works with. -/
structure Calculator where
  region : Region
  ttl : Int
  deriving DecidableEq

namespace Calculator

variable {σ : Type}

/-- A calculator for England and Wales. -/
def new (ttl : Int) : Calculator := ⟨.englandAndWales, ttl⟩

/-- The same for another region. -/
def withRegion (c : Calculator) (region : Region) : Calculator := { c with region }

/-- The call for the calendar. -/
def call (c : Calculator) (source : CalendarSource σ) : Call σ FetchFailure Calendar :=
  ⟨c.ttl, source⟩

/-- The date a number of steps after a start, by one calendar. -/
def deadlineBy (calendar : Calendar) (region : Region) (n : Nat) (start : Date) : Verdict :=
  match addWorkingDays (calendar.holidayDates region) n start with
  | some date => .ok (.date date)
  | none => .error (.outOfRange start)

/-- A deadline needs the calendar only for a count from 1 to `maxCount`. -/
def settleDeadline (n : Int) (start : Date) : Option Verdict :=
  if n < 0 ∨ maxCount < n then some (.error (.invalidCount n))
  else if n = 0 then some (.ok (.date start))
  else none

/-- The answer to a question that needs no calendar. -/
def settle (c : Calculator) (today : Date) : Question → Option Verdict
  | .isWorkingDay _ => none
  | .deadline n start => settleDeadline n start
  | .deadlineFromToday n => settleDeadline n today
  | .region => some (.ok (.region c.region))

/-- The answer to a question by one calendar. -/
def answerBy (c : Calculator) (today : Date) (calendar : Calendar) : Question → Verdict
  | .isWorkingDay date => .ok (.working (Workday.isWorkingDay (calendar.holidayDates c.region) date))
  | .deadline n start => deadlineBy calendar c.region n.toNat start
  | .deadlineFromToday n => deadlineBy calendar c.region n.toNat today
  | .region => .ok (.region c.region)

/-- The answer to a question once the call for the calendar has ended. -/
def conclude (c : Calculator) (today : Date) (q : Question) :
    Except FetchFailure (Served Calendar) → Verdict
  | .ok served => c.answerBy today served.value q
  | .error e => .error (.noCalendar e)

/-- One question. -/
def ask (c : Calculator) (source : CalendarSource σ) (today : Date) (s : CalendarStore σ)
    (q : Question) : Verdict × CalendarStore σ :=
  match c.settle today q with
  | some verdict => (verdict, s)
  | none =>
    let (answer, s) := s.get (c.call source)
    (c.conclude today q answer, s)

/-- Puts the verdicts of the questions that waited for the calendar back into their places. -/
def merge (today : Date) :
    List (Calculator × Question) → List (Except FetchFailure (Served Calendar)) → List Verdict
  | [], _ => []
  | (c, q) :: rest, answers =>
    match c.settle today q, answers with
    | some verdict, answers => verdict :: merge today rest answers
    | none, answer :: answers => c.conclude today q answer :: merge today rest answers
    | none, [] => []

/-- Questions asked together, in order, of calculators that share a store. Those that need no
calendar are answered at once; the others overlap in the cache. -/
def askTogether (source : CalendarSource σ) (today : Date) (s : CalendarStore σ)
    (asked : List (Calculator × Question)) : List Verdict × CalendarStore σ :=
  let needing := asked.filter fun (c, q) => (c.settle today q).isNone
  let (answers, s) := s.batch (needing.map fun (c, _) => c.call source)
  (merge today asked answers, s)

end Calculator

end Workday
