import Workday.Date.Text

/-!
# Moments

A moment is a number of milliseconds since the start of 1970 in universal time. It is written as a
date and a time of day.
-/

set_option autoImplicit false

namespace Workday

open Workday.Text (padded)

/-- A moment, in milliseconds since the start of 1970. -/
structure Moment where
  millis : Int
  deriving DecidableEq, Repr

namespace Moment

/-- The milliseconds of a day. -/
def millisPerDay : Int := 86400000

/-- The day number of 1 January 1970. -/
def epochDay : Int := 719163

/-- The date of a moment. -/
def date (m : Moment) : Date := (Date.ofDay? (epochDay + m.millis / millisPerDay)).getD .first

/-- The milliseconds since midnight. -/
def sinceMidnight (m : Moment) : Nat := (m.millis % millisPerDay).toNat

/-- Hours, minutes and seconds. -/
def timeOfDay (m : Moment) : String :=
  let seconds := m.sinceMidnight / 1000
  String.ofList (padded 2 (seconds / 3600) ++ ':' :: padded 2 (seconds / 60 % 60)
    ++ ':' :: padded 2 (seconds % 60))

/-- The milliseconds of a second, in three digits after a point. -/
def fraction (m : Moment) : String :=
  String.ofList ('.' :: padded 3 (m.sinceMidnight % 1000))

/-- The moment as a reader likes it; a whole second has no fraction. -/
def format (m : Moment) : String :=
  m.date.format ++ " " ++ m.timeOfDay
    ++ (if m.sinceMidnight % 1000 = 0 then "" else m.fraction) ++ " UTC"

/-- The moment in front of a log line, down to microseconds. -/
def stamp (m : Moment) : String :=
  m.date.format ++ "T" ++ m.timeOfDay ++ m.fraction ++ "000Z"

end Moment

end Workday
