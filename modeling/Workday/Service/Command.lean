import Workday.CommandLine
import Workday.Service

/-!
# Commands

A command is carried out by a service and says what it has to say on standard output, line by line, as
soon as it knows it. What has been printed stays printed, so a console keeps it beside the service; a
command ends well, or with the reason for which it breaks off.
-/

set_option autoImplicit false

namespace Workday

/-- The line that lists an event; notes follow in brackets. -/
def Event.listing (e : Event) : String :=
  e.date.format ++ "  " ++ e.title
    ++ (if e.notes.isEmpty then "" else " (" ++ e.notes ++ ")") ++ "\n"

/-- The line that answers a question about a date. -/
def Answer.sentence (about : Date) : Answer → String
  | working true => about.format ++ " is a working day\n"
  | working false => about.format ++ " is not a working day\n"
  | date found => found.format ++ "\n"
  | region own => own.name ++ "\n"

namespace Service

/-- The events of a region, of one year if one is given. -/
def eventsOf (calendar : Calendar) (region : Region) : Option Int → List Event
  | some year => calendar.eventsInYear region year
  | none => calendar.events region

/-- Probes the feed, and has the line that tells that it was reached. -/
def checkHealth (s : Service Nat) : Except DeadlineFailure String × Service Nat :=
  match s.step .health with
  | (.health (some failure), s) => (.error (.noCalendar failure), s)
  | (_, s) => (.ok "bank holidays feed is reachable\n", s)

end Service

/-- A service at work for one run, with what the run has printed on standard output by now. -/
structure Console where
  service : Service Nat
  /-- The lines that have been printed, the oldest first. -/
  printed : List String := []

namespace Console

/-- Prints a line. -/
def print (c : Console) (line : String) : Console := { c with printed := c.printed ++ [line] }

/-- The same console after a step of its service. -/
def withService (c : Console) (service : Service Nat) : Console := { c with service }

/-- Answers one question about a date in a region. -/
def answer (c : Console) (region : Region) (about : Date) (question : Question) :
    Except DeadlineFailure Unit × Console :=
  let s := c.service
  let (verdict, store) :=
    ((Calculator.new s.ttl).withRegion region).ask s.source s.today s.store question
  let c := c.withService (s.withStore store)
  match verdict with
  | .ok answer => (.ok (), c.print (answer.sentence about))
  | .error failure => (.error failure, c)

/-- Lists bank holidays, a line for each event. -/
def list (c : Console) (region : Region) (year : Option Int) :
    Except DeadlineFailure Unit × Console :=
  let (answer, store) := c.service.getCalendar
  let c := c.withService (c.service.withStore store)
  match answer with
  | .ok served =>
    let events := Service.eventsOf served.value region year
    (.ok (), events.foldl (fun c event => c.print event.listing) c)
  | .error failure => (.error (.noCalendar failure), c)

/-- Tells whether the feed can be reached. -/
def health (c : Console) : Except DeadlineFailure Unit × Console :=
  let (answer, service) := c.service.checkHealth
  let c := c.withService service
  match answer with
  | .ok line => (.ok (), c.print line)
  | .error failure => (.error failure, c)

/-- Carries out a command: how it ends, and the console after. -/
def perform (c : Console) (region : Region) : Command → Except DeadlineFailure Unit × Console
  | .isWorkingDay date => c.answer region date (.isWorkingDay date)
  | .nextWorkingDay days (some start) => c.answer region start (.deadline days start)
  | .nextWorkingDay days none => c.answer region c.service.today (.deadlineFromToday days)
  | .bankHolidays year => c.list region year
  | .health => c.health

end Console

end Workday
