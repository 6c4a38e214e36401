import Workday.CommandLine
import Workday.Date.Text
import Workday.Text.Number

/-!
# Argument values

The values that a command line gives, each read when it is put in, and each given once at most.
-/

set_option autoImplicit false

namespace Workday.CommandLine

open Workday.Text (readInteger)

/-- The values given so far. -/
structure Values where
  config : Option String := none
  region : Option Region := none
  date : Option Date := none
  days : Option Int := none
  start : Option Date := none
  year : Option Int := none
  deriving DecidableEq

/-- The least and the largest magnitude of a number of 64 bits. -/
def wideBounds : Nat × Nat := (9223372036854775808, 9223372036854775807)

/-- The least and the largest year that can be asked for. -/
def yearBounds : Int × Int := (-2147483648, 2147483647)

/-- Reads a number of 64 bits. -/
def readWide (slot : Slot) (text : String) : Except Fault Int :=
  (readInteger wideBounds.1 wideBounds.2 text.toList).mapError fun fault =>
    .invalidValue slot text fault.message

/-- Reads a year. -/
def readYear (slot : Slot) (text : String) : Except Fault Int := do
  let year ← readWide slot text
  if yearBounds.1 ≤ year ∧ year ≤ yearBounds.2 then return year
  else throw (.invalidValue slot text
    (toString year ++ " is not in " ++ toString yearBounds.1 ++ "..=" ++ toString yearBounds.2))

/-- Reads a date. -/
def readDate (slot : Slot) (text : String) : Except Fault Date :=
  (Date.read text).mapError fun fault => .invalidValue slot text fault.message

/-- Reads a region. -/
def readRegion (slot : Slot) (text : String) : Except Fault Region :=
  (Region.read text).mapError fun unknown => .invalidValue slot text unknown.message

/-- Reads a path, which may not be empty. -/
def readPath (slot : Slot) (text : String) : Except Fault String :=
  if text.isEmpty then .error (.missingValue slot) else .ok text

namespace Values

/-- Whether a value has been given. -/
def has (v : Values) : Slot → Bool
  | .config => v.config.isSome
  | .region => v.region.isSome
  | .date => v.date.isSome
  | .days => v.days.isSome
  | .start => v.start.isSome
  | .year => v.year.isSome

/-- Puts a value in. -/
def put (v : Values) (slot : Slot) (text : String) : Except Fault Values := do
  if v.has slot then throw (.repeated slot)
  match slot with
  | .config => return { v with config := some (← readPath slot text) }
  | .region => return { v with region := some (← readRegion slot text) }
  | .date => return { v with date := some (← readDate slot text) }
  | .days => return { v with days := some (← readWide slot text) }
  | .start => return { v with start := some (← readDate slot text) }
  | .year => return { v with year := some (← readYear slot text) }

/-- The command of a verb with values. -/
def command (v : Values) : Verb → Except Fault Command
  | .isWorkingDay =>
    match v.date with
    | some date => .ok (.isWorkingDay date)
    | none => .error .missingArguments
  | .nextWorkingDay =>
    match v.days with
    | some days => .ok (.nextWorkingDay days v.start)
    | none => .error .missingArguments
  | .bankHolidays => .ok (.bankHolidays v.year)
  | .health => .ok .health

end Values

end Workday.CommandLine
