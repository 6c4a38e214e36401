import Workday.Date.Moment

/-!
# The log

A record tells what happened, at which level and in which part of the program, with named values. It
is written on one line.
-/

set_option autoImplicit false

namespace Workday.Log

/-- How much a record matters. -/
inductive Level where
  | error
  | warn
  | info
  | debug
  | trace
  deriving DecidableEq, Repr

namespace Level

/-- The name that a line shows. -/
def name : Level → String
  | error => "ERROR"
  | warn => "WARN"
  | info => "INFO"
  | debug => "DEBUG"
  | trace => "TRACE"

/-- The least verbosity at which a level is seen. -/
def rank : Level → Nat
  | error => 1
  | warn => 2
  | info => 3
  | debug => 4
  | trace => 5

end Level

/-- The parts of the program that write records. -/
inductive Part where
  /-- The program as a whole. -/
  | program
  /-- The client of the feed. -/
  | client
  /-- The cached calendar. -/
  | cache
  deriving DecidableEq, Repr

/-- The name under which records of a part are filtered and shown. -/
def Part.target : Part → String
  | program => "san_working_days"
  | client => "san_working_days::bank_holidays::client"
  | cache => "san_working_days::bank_holidays::cached_client"

/-- What happened. -/
structure Record where
  moment : Moment
  level : Level
  part : Part
  message : String
  /-- The named values, in the order they are shown. -/
  fields : List (String × String) := []
  deriving DecidableEq, Repr

namespace Record

/-- The name of the field that holds the message. -/
def messageField : String := "message"

/-- Whether a record has a field of a name. -/
def hasField (r : Record) (name : String) : Bool :=
  name == messageField || r.fields.any (·.1 == name)

/-- The part of a line after the level. -/
def body (r : Record) : String :=
  r.part.target ++ ": " ++ r.message
    ++ String.join (r.fields.map fun (name, value) => " " ++ name ++ "=" ++ value)

/-- The line without its moment. -/
def text (r : Record) : String := r.level.name ++ " " ++ r.body

/-- The line, with levels set flush to the right. -/
def line (r : Record) : String :=
  r.moment.stamp ++ " " ++ (if r.level.name.length < 5 then " " else "") ++ r.text

end Record

end Workday.Log
