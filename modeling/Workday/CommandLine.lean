import Workday.Region
import Workday.Date

/-!
# The command line

What the program can be asked to do. A command line names one command, after the options that hold
for all of them and before the arguments of its own.
-/

set_option autoImplicit false

namespace Workday

/-- What the program is asked to do. -/
inductive Command where
  /-- Whether a date is a working day. -/
  | isWorkingDay (date : Date)
  /-- The date a number of working days after a start, which is today if none is given. -/
  | nextWorkingDay (days : Int) (start : Option Date)
  /-- The bank holidays of a region, of one year if one is given. -/
  | bankHolidays (year : Option Int)
  /-- Whether the feed can be reached. -/
  | health
  deriving DecidableEq

/-- A command line that has been understood. -/
structure Invocation where
  /-- The file that settings are to come from. -/
  config : Option String := none
  region : Region := default
  command : Command
  deriving DecidableEq

namespace CommandLine

/-- The words that name commands. -/
inductive Verb where
  | isWorkingDay
  | nextWorkingDay
  | bankHolidays
  | health
  deriving DecidableEq, Repr

/-- All verbs, in the order they are listed. -/
def Verb.all : List Verb := [.isWorkingDay, .nextWorkingDay, .bankHolidays, .health]

/-- How a verb is written. -/
def Verb.name : Verb → String
  | isWorkingDay => "is-working-day"
  | nextWorkingDay => "next-working-day"
  | bankHolidays => "bank-holidays"
  | health => "health"

/-- The verb that a word is. -/
def Verb.ofString? (word : String) : Option Verb := all.find? (·.name == word)

/-- The word that asks for help. -/
def helpWord : String := "help"

/-- The arguments that have a value. -/
inductive Slot where
  | config
  | region
  | date
  | days
  | start
  | year
  deriving DecidableEq, Repr

namespace Slot

/-- The long name of an option. Other arguments are known by their place. -/
def long? : Slot → Option String
  | config => some "config"
  | region => some "region"
  | start => some "from"
  | year => some "year"
  | date | days => none

/-- The letter of an option. -/
def letter? : Slot → Option Char
  | config => some 'c'
  | region => some 'r'
  | _ => none

/-- How messages call the value. -/
def valueName : Slot → String
  | config => "<CONFIG>"
  | region => "<REGION>"
  | date => "<DATE>"
  | days => "<DAYS>"
  | start => "<FROM>"
  | year => "<YEAR>"

/-- How messages call the argument. -/
def label (slot : Slot) : String :=
  match slot.long? with
  | some long => "--" ++ long ++ " " ++ slot.valueName
  | none => slot.valueName

/-- Whether a negative number may stand in the place of the argument. -/
def takesNegative : Slot → Bool
  | days => true
  | _ => false

end Slot

/-- What help can be asked about. -/
inductive Topic where
  | program
  | verb (verb : Verb)
  | help
  deriving DecidableEq, Repr

/-- Why a command line is not understood. -/
inductive Fault where
  | unexpected (argument : String)
  | unknownCommand (name : String)
  | invalidValue (slot : Slot) (value reason : String)
  | missingValue (slot : Slot)
  | repeated (slot : Slot)
  /-- A value is attached to a flag. -/
  | unneededValue (flag value : String)
  /-- Arguments that a command needs are missing. -/
  | missingArguments
  | missingCommand
  /-- There is no argument at all. -/
  | nothingAsked
  deriving DecidableEq, Repr

/-- Why a command line leads to no run. -/
inductive Stop where
  | help (topic : Topic)
  | version
  | fault (fault : Fault)
  deriving DecidableEq, Repr

/-- What may stand at one level of a command line: before the verb, or after it. -/
structure Grammar where
  topic : Topic
  options : List Slot := []
  places : List Slot := []
  verbs : List Verb := []
  hasVersion : Bool := false
  deriving Repr

namespace Grammar

/-- What may stand before the verb. -/
def program : Grammar where
  topic := .program
  options := [.config, .region]
  verbs := Verb.all
  hasVersion := true

/-- What may stand after a verb. -/
def ofVerb : Verb → Grammar
  | .isWorkingDay => { topic := .verb .isWorkingDay, places := [.date] }
  | .nextWorkingDay => { topic := .verb .nextWorkingDay, options := [.start], places := [.days] }
  | .bankHolidays => { topic := .verb .bankHolidays, options := [.year] }
  | .health => { topic := .verb .health }

end Grammar

end CommandLine

end Workday
