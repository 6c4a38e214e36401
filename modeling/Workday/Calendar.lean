import Workday.Date
import Workday.Region

/-!
# Calendars

The published bank holidays: one list of events for each region, in the order of the feed.
-/

set_option autoImplicit false

namespace Workday

/-- One published bank holiday. Only its date takes part in working-day arithmetic. -/
structure Event where
  title : String
  date : Date
  notes : String
  bunting : Bool
  deriving DecidableEq

/-- The events of every region, in feed order. -/
structure Calendar where
  englandAndWales : List Event
  scotland : List Event
  northernIreland : List Event
  deriving DecidableEq

namespace Calendar

/-- A calendar without events. -/
def empty : Calendar := ⟨[], [], []⟩

/-- The events of one region. -/
def events (c : Calendar) : Region → List Event
  | .englandAndWales => c.englandAndWales
  | .scotland => c.scotland
  | .northernIreland => c.northernIreland

/-- The dates of a region's events. Order and repetition are the feed's and carry no meaning. -/
def holidayDates (c : Calendar) (region : Region) : List Date :=
  (c.events region).map Event.date

/-- Whether a region has an event on a date. -/
def isBankHoliday (c : Calendar) (region : Region) (date : Date) : Bool :=
  (c.events region).any fun event => event.date == date

/-- A region's events in one year. -/
def eventsInYear (c : Calendar) (region : Region) (year : Int) : List Event :=
  (c.events region).filter fun event => event.date.year == year

/-- A region's holiday dates in order and without repetition. -/
def sortedDates (c : Calendar) (region : Region) : List Date :=
  ((c.holidayDates region).mergeSort fun a b => decide (a ≤ b)).eraseDups

end Calendar

end Workday
