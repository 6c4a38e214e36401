import Workday.Calculator

/-!
# Services

A service is a cached calendar, its source and the calculators made over it. Calculator 0 is made
with the service. A session is a sequence of steps; every step is answered, and a failure in one
does not end the session.
-/

set_option autoImplicit false

namespace Workday

open Cache (Store Clock Served)

/-- A cached calendar over a source, and the calculators that share it. -/
structure Service (σ : Type) where
  source : CalendarSource σ
  /-- How to probe the source without fetching: the failure if there is one, and how long it takes. -/
  probe : σ → (Option FetchFailure × Nat) × σ
  ttl : Int
  today : Date
  store : CalendarStore σ
  calculators : List Calculator

/-- One step of a session with a service. -/
inductive Service.Step where
  | ask (calculator : Nat) (question : Question)
  /-- Questions asked together, in order. -/
  | askTogether (asked : List (Nat × Question))
  /-- The whole calendar. -/
  | calendar
  /-- Whether the source answers; the cache plays no part. -/
  | health
  | invalidate
  | advance (ms : Nat)
  /-- A further calculator for the region of another. -/
  | clone (calculator : Nat)
  /-- A further calculator for a region. -/
  | withRegion (region : Region)
  deriving DecidableEq

/-- What a step answers. -/
inductive Service.Reply where
  | verdict (verdict : Verdict)
  | verdicts (verdicts : List Verdict)
  | calendar (calendar : Except FetchFailure Calendar)
  | health (failure : Option FetchFailure)
  /-- The number of a new calculator. -/
  | calculator (i : Nat)
  | nothing

namespace Service

variable {σ : Type}

/-- The same service with another state of its store. -/
def withStore (s : Service σ) (store : CalendarStore σ) : Service σ := { s with store }

/-- A calculator of the service. An unknown number counts as 0. -/
def calculator (s : Service σ) (i : Nat) : Calculator :=
  (s.calculators[i]?).getD (s.calculators.headD (.new s.ttl))

/-- Adds a calculator. -/
def addCalculator (s : Service σ) (c : Calculator) : Reply × Service σ :=
  (.calculator s.calculators.length, { s with calculators := s.calculators ++ [c] })

/-- The calendar as the cache serves it, and the state after. -/
def getCalendar (s : Service σ) : Except FetchFailure (Served Calendar) × CalendarStore σ :=
  s.store.get ⟨s.ttl, s.source⟩

/-- One step. -/
def step (s : Service σ) : Step → Reply × Service σ
  | .ask i question =>
    let (verdict, store) := (s.calculator i).ask s.source s.today s.store question
    (.verdict verdict, s.withStore store)
  | .askTogether asked =>
    let (verdicts, store) := Calculator.askTogether s.source s.today s.store
      (asked.map fun (i, question) => (s.calculator i, question))
    (.verdicts verdicts, s.withStore store)
  | .calendar =>
    let (answer, store) := s.getCalendar
    (.calendar (answer.map Served.value), s.withStore store)
  | .health =>
    let ((failure, delay), source) := s.probe s.store.source
    (.health failure, s.withStore ({ s.store with source }.advance delay))
  | .invalidate => (.nothing, s.withStore s.store.invalidate)
  | .advance ms => (.nothing, s.withStore (s.store.advance ms))
  | .clone i => s.addCalculator (s.calculator i)
  | .withRegion region => s.addCalculator ((Calculator.new s.ttl).withRegion region)

/-- All steps in turn, each reply with the state after it. -/
def run (s : Service σ) : List Step → List (Reply × Service σ)
  | [] => []
  | step :: steps =>
    let (reply, s) := s.step step
    (reply, s) :: s.run steps

end Service

/-- What a scripted source gives to a fetch. -/
structure Scripted where
  result : Except FetchFailure Calendar
  delay : Nat

/-- The source that gives the entries of a script in turn, and the last one again and again. The
state is the number of fetches so far. -/
def scriptSource (script : List Scripted) : CalendarSource Nat := fun n =>
  match script[min n (script.length - 1)]? with
  | some entry => (⟨entry.result, entry.delay⟩, n + 1)
  | none => (⟨.error (.malformed "empty script"), 0⟩, n + 1)

/-- A service over a scripted source, which has no probe of its own. -/
def Service.scripted (script : List Scripted) (ttl : Int) (region : Region) (today : Date)
    (clock : Clock) : Service Nat where
  source := scriptSource script
  probe n := ((none, 0), n)
  ttl := ttl
  today := today
  store := .empty clock 0
  calculators := [(Calculator.new ttl).withRegion region]

end Workday
