import Workday.Proofs.Cache.Store
import Workday.Proofs.Calculator.Traceless
import Workday.Service.Command

/-!
# What a command comes to

A command prints its lines and ends well, or it breaks off and has printed nothing
(`Console.exists_perform_eq`): whatever can fail is behind it when its first line is printed. This holds
of every console, whatever its service has done before.

A service that has done nothing yet holds no calendar. A command that needs one fetches it once, and
that calendar alone tells the rest: all lines (`Command.AnsweredBy`), or that the calendar of dates
ends too soon. A deadline of no steps and a count that cannot be stepped are settled without a fetch, a
probe takes no calendar, and no other way is open to a command (`Console.exists_goes`).
-/

set_option autoImplicit false

namespace Workday

open Cache (Store Served)

/-- The lines are all that one calendar has to say to a command about a region: a sentence about a date,
the date that ends the steps, or an entry for every event that is asked for, in the order of the feed. -/
inductive Command.AnsweredBy (region : Region) (today : Date) (calendar : Calendar) :
    Command → List String → Prop where
  | working {date : Date} (h : Workday.isWorkingDay (calendar.holidayDates region) date = true) :
      AnsweredBy region today calendar (.isWorkingDay date) [date.format ++ " is a working day\n"]
  | notWorking {date : Date} (h : Workday.isWorkingDay (calendar.holidayDates region) date = false) :
      AnsweredBy region today calendar (.isWorkingDay date)
        [date.format ++ " is not a working day\n"]
  | deadline {n : Nat} {start : Option Date} {date : Date}
      (h : addWorkingDays (calendar.holidayDates region) n (start.getD today) = some date) :
      AnsweredBy region today calendar (.nextWorkingDay n start) [date.format ++ "\n"]
  | listed {year : Option Int} :
      AnsweredBy region today calendar (.bankHolidays year)
        (((calendar.events region).filter fun event =>
          year.all (· == event.date.year)).map Event.listing)

/-- The command cannot be carried out without a calendar. -/
def Command.needsCalendar : Command → Bool
  | isWorkingDay _ | bankHolidays _ => true
  | nextWorkingDay days _ => decide (1 ≤ days ∧ days ≤ maxCount)
  | health => false

namespace Service

variable {s : Service Nat} {region : Region} {question : Question} {days : Int}

/-- What a fetch comes to where the source stands. -/
def fetched (s : Service Nat) : Cache.Fetched FetchFailure Calendar × Nat := s.source s.store.source

/-- How a command can go with a service that holds no calendar: its lines or its failure, and where the
source stands after it. -/
inductive Goes (s : Service Nat) (region : Region) :
    Command → Except DeadlineFailure (List String) → Nat → Prop where
  | reached (h : (s.probe s.store.source).1.1 = none) :
      Goes s region .health (.ok ["bank holidays feed is reachable\n"]) (s.probe s.store.source).2
  | unreached {failure : FetchFailure} (h : (s.probe s.store.source).1.1 = some failure) :
      Goes s region .health (.error (.noCalendar failure)) (s.probe s.store.source).2
  | noSteps {start : Option Date} :
      Goes s region (.nextWorkingDay 0 start) (.ok [(start.getD s.today).format ++ "\n"])
        s.store.source
  | invalid {days : Int} {start : Option Date} (h : days < 0 ∨ maxCount < days) :
      Goes s region (.nextWorkingDay days start) (.error (.invalidCount days)) s.store.source
  | noCalendar {command : Command} {failure : FetchFailure} (hneeds : command.needsCalendar = true)
      (h : s.fetched.1.result = .error failure) :
      Goes s region command (.error (.noCalendar failure)) s.fetched.2
  | answered {command : Command} {calendar : Calendar} {lines : List String}
      (hneeds : command.needsCalendar = true) (h : s.fetched.1.result = .ok calendar)
      (hlines : command.AnsweredBy region s.today calendar lines) :
      Goes s region command (.ok lines) s.fetched.2
  | outOfRange {n : Nat} {start : Option Date} {calendar : Calendar}
      (hneeds : (Command.nextWorkingDay n start).needsCalendar = true)
      (h : s.fetched.1.result = .ok calendar)
      (hend : addWorkingDays (calendar.holidayDates region) n (start.getD s.today) = none) :
      Goes s region (.nextWorkingDay n start) (.error (.outOfRange (start.getD s.today)))
        s.fetched.2

/-! ## The calendar, and what is asked of it -/

/-- A service that holds no calendar fetches one. -/
theorem getCalendar_of_empty (h : s.store.entry = none) :
    s.getCalendar.1 = s.fetched.1.result.map (⟨·, .network⟩) ∧
      s.getCalendar.2.source = s.fetched.2 := by
  have hstale : s.store.IsStale s.ttl := by
    intro e he
    rw [h] at he
    cases he
  have hfetched := Store.get_of_stale ⟨s.ttl, s.source⟩ hstale
  exact ⟨hfetched.answer_eq, hfetched.source_eq⟩

/-- Asks a question about a region. -/
def ask (s : Service Nat) (region : Region) (question : Question) :
    Verdict × CalendarStore Nat :=
  (⟨region, s.ttl⟩ : Calculator).ask s.source s.today s.store question

/-- A question that is settled without a calendar leaves the store alone. -/
theorem ask_of_settled {verdict : Verdict}
    (h : (⟨region, s.ttl⟩ : Calculator).settle s.today question = some verdict) :
    s.ask region question = (verdict, s.store) :=
  Calculator.ask_of_settled s.source s.store h

/-- A question that needs the calendar is concluded from the one that is fetched for it, since there is
none in the cache. -/
theorem ask_of_needsCalendar (h : s.store.entry = none) (hneeds : question.needsCalendar = true)
    (region : Region) :
    (s.ask region question).1 =
        (⟨region, s.ttl⟩ : Calculator).conclude s.today question
          (s.fetched.1.result.map (⟨·, .network⟩)) ∧
      (s.ask region question).2.source = s.fetched.2 := by
  have hsettle : (⟨region, s.ttl⟩ : Calculator).settle s.today question = none :=
    Calculator.settle_eq_none_iff.mpr hneeds
  obtain ⟨hanswer, hsource⟩ := getCalendar_of_empty h
  have hask : s.ask region question =
      ((⟨region, s.ttl⟩ : Calculator).conclude s.today question s.getCalendar.1,
        s.getCalendar.2) := by
    simp only [ask, Calculator.ask, hsettle]
    rfl
  rw [hask, hanswer]
  exact ⟨rfl, hsource⟩

/-- A deadline whose count can be stepped needs the calendar. -/
theorem needsCalendar_of_steps? {today start : Date} (hsteps : question.steps? today = some (days, start))
    (h : 1 ≤ days ∧ days ≤ maxCount) : question.needsCalendar = true := by
  cases question with
  | deadline n from' =>
    cases hsteps
    exact decide_eq_true h
  | deadlineFromToday n =>
    cases hsteps
    exact decide_eq_true h
  | isWorkingDay _ | region => cases hsteps

/-- A deadline is answered by its steps from its start, whichever way it was asked for. -/
theorem answerBy_of_steps? {c : Calculator} {calendar : Calendar} {today start : Date}
    (hsteps : question.steps? today = some (days, start)) :
    c.answerBy today calendar question = Calculator.deadlineBy calendar c.region days.toNat start := by
  cases question with
  | deadline n from' =>
    cases hsteps
    rfl
  | deadlineFromToday n =>
    cases hsteps
    rfl
  | isWorkingDay _ | region => cases hsteps

/-- The entries that are listed are those of the events that are asked for. -/
theorem eventsOf_eq_filter (calendar : Calendar) (region : Region) (year : Option Int) :
    eventsOf calendar region year =
      (calendar.events region).filter fun event => year.all (· == event.date.year) := by
  cases year with
  | none => exact (List.filter_eq_self.mpr fun _ _ => rfl).symm
  | some year =>
    refine List.filter_congr fun event _ => ?_
    exact Bool.beq_comm

/-- A probe through a service is one of its source as that stands. It changes nothing else but that time
passes. -/
theorem checkHealth_eq (s : Service Nat) :
    s.checkHealth =
      ((match (s.probe s.store.source).1.1 with
        | none => .ok "bank holidays feed is reachable\n"
        | some failure => .error (.noCalendar failure)),
        s.withStore ({ s.store with source := (s.probe s.store.source).2 }.advance
          (s.probe s.store.source).1.2)) := by
  cases hprobe : (s.probe s.store.source).1.1 with
  | none => simp only [checkHealth, step, hprobe]
  | some failure => simp only [checkHealth, step, hprobe]

/-- What a number of steps from a start comes to, by what the fetch for them has come to. -/
def stepsResult (region : Region) (start : Date) (n : Nat) :
    Except FetchFailure Calendar → Except DeadlineFailure (List String)
  | .error failure => .error (.noCalendar failure)
  | .ok calendar =>
    match addWorkingDays (calendar.holidayDates region) n start with
    | some date => .ok [date.format ++ "\n"]
    | none => .error (.outOfRange start)

end Service

namespace Console

variable {c : Console} {region : Region} {command : Command} {days : Int} {start : Option Date}

/-- The end of a command that comes to some lines or to a failure: the lines have been printed behind
those that were there before, and a failure has added none. -/
def leave (c : Console) (service : Service Nat) :
    Except DeadlineFailure (List String) → Except DeadlineFailure Unit × Console
  | .ok lines => (.ok (), { service, printed := c.printed ++ lines })
  | .error failure => (.error failure, { service, printed := c.printed })

/-- The service that a command leaves does not depend on what the command has come to. -/
@[simp]
theorem leave_service (c : Console) (service : Service Nat)
    (result : Except DeadlineFailure (List String)) : (c.leave service result).2.service = service := by
  cases result <;> rfl

/-! ## Lines are printed last -/

/-- A question prints one line once its verdict is there. -/
theorem answer_eq_leave (c : Console) (region : Region) (about : Date) (question : Question) :
    c.answer region about question =
      c.leave (c.service.withStore (c.service.ask region question).2)
        ((c.service.ask region question).1.map fun answer => [answer.sentence about]) := by
  have hask : ((Calculator.new c.service.ttl).withRegion region).ask c.service.source c.service.today
      c.service.store question = c.service.ask region question := rfl
  simp only [answer, hask]
  cases c.service.ask region question with
  | mk verdict store => cases verdict <;> rfl

/-- What is printed for the elements of a list comes behind what was there, in their order. -/
theorem foldl_print {α : Type} (line : α → String) (xs : List α) (c : Console) :
    xs.foldl (fun c x => c.print (line x)) c =
      { c with printed := c.printed ++ xs.map line } := by
  induction xs generalizing c with
  | nil => rw [List.map_nil, List.append_nil, List.foldl_nil]
  | cons x xs ih => rw [List.foldl_cons, ih, print, List.map_cons, List.append_assoc, List.singleton_append]

/-- A list prints its lines once its calendar is there. -/
theorem list_eq_leave (c : Console) (region : Region) (year : Option Int) :
    c.list region year =
      c.leave (c.service.withStore c.service.getCalendar.2)
        ((c.service.getCalendar.1.map fun served =>
          (Service.eventsOf served.value region year).map Event.listing).mapError .noCalendar) := by
  unfold list
  cases c.service.getCalendar with
  | mk answer store =>
    cases answer with
    | error failure => rfl
    | ok served =>
      simp only [foldl_print]
      rfl

/-- A probe prints its line once the feed has answered. -/
theorem health_eq_leave (c : Console) :
    c.health = c.leave c.service.checkHealth.2 (c.service.checkHealth.1.map fun line => [line]) := by
  unfold health
  cases c.service.checkHealth with
  | mk answer service => cases answer <;> rfl

/-- A deadline is asked for by its count and its start, which is today if none is given. -/
theorem exists_question_of_nextWorkingDay (c : Console) (region : Region) (days : Int)
    (start : Option Date) :
    ∃ question : Question, question.steps? c.service.today = some (days, start.getD c.service.today) ∧
      c.perform region (.nextWorkingDay days start) =
        c.answer region (start.getD c.service.today) question := by
  cases start with
  | none => exact ⟨.deadlineFromToday days, rfl, rfl⟩
  | some date => exact ⟨.deadline days date, rfl, rfl⟩

/-- No steps lead to their start, and nothing is asked of the source. -/
theorem perform_noSteps (c : Console) (region : Region) (start : Option Date) :
    c.perform region (.nextWorkingDay 0 start) =
      c.leave c.service (.ok [(start.getD c.service.today).format ++ "\n"]) := by
  obtain ⟨question, hsteps, hperform⟩ := c.exists_question_of_nextWorkingDay region 0 start
  rw [hperform, answer_eq_leave, Service.ask_of_settled (Calculator.settle_of_steps? hsteps)]
  rfl

/-- A count that cannot be stepped is refused, and nothing is asked of the source. -/
theorem perform_invalid (h : days < 0 ∨ maxCount < days) (c : Console) (region : Region)
    (start : Option Date) :
    c.perform region (.nextWorkingDay days start) =
      c.leave c.service (.error (.invalidCount days)) := by
  obtain ⟨question, hsteps, hperform⟩ := c.exists_question_of_nextWorkingDay region days start
  have hsettle : (⟨region, c.service.ttl⟩ : Calculator).settle c.service.today question =
      some (.error (.invalidCount days)) := by
    rw [Calculator.settle_of_steps? hsteps, Calculator.settleDeadline, if_pos h]
  rw [hperform, answer_eq_leave, Service.ask_of_settled hsettle]
  rfl

/-- A count that can be stepped is stepped by the calendar that is fetched. Its date is the one line
printed; without a calendar, or without as many working days, there is no line. -/
theorem exists_perform_steps (hempty : c.service.store.entry = none) (h : 1 ≤ days ∧ days ≤ maxCount)
    (region : Region) (start : Option Date) :
    ∃ service, service.store.source = c.service.fetched.2 ∧
      c.perform region (.nextWorkingDay days start) =
        c.leave service (Service.stepsResult region (start.getD c.service.today) days.toNat
          c.service.fetched.1.result) := by
  obtain ⟨question, hsteps, hperform⟩ := c.exists_question_of_nextWorkingDay region days start
  obtain ⟨hanswer, hsource⟩ :=
    Service.ask_of_needsCalendar hempty (Service.needsCalendar_of_steps? hsteps h) region
  refine ⟨c.service.withStore (c.service.ask region question).2, hsource, ?_⟩
  rw [hperform, answer_eq_leave, hanswer]
  congr 1
  cases c.service.fetched.1.result with
  | error failure => rfl
  | ok calendar =>
    simp only [Except.map, Calculator.conclude, Service.answerBy_of_steps? hsteps,
      Calculator.deadlineBy, Service.stepsResult]
    cases addWorkingDays (calendar.holidayDates region) days.toNat (start.getD c.service.today) <;> rfl

/-- A list is made of the calendar that is fetched. -/
theorem exists_perform_bankHolidays (hempty : c.service.store.entry = none) (region : Region)
    (year : Option Int) :
    ∃ service, service.store.source = c.service.fetched.2 ∧
      c.perform region (.bankHolidays year) =
        c.leave service ((c.service.fetched.1.result.map fun calendar =>
          ((calendar.events region).filter fun event =>
            year.all (· == event.date.year)).map Event.listing).mapError .noCalendar) := by
  obtain ⟨hanswer, hsource⟩ := Service.getCalendar_of_empty hempty
  refine ⟨c.service.withStore c.service.getCalendar.2, hsource,
    (c.list_eq_leave region year).trans ?_⟩
  rw [hanswer]
  cases c.service.fetched.1.result with
  | error failure => rfl
  | ok calendar => simp only [Except.map, Service.eventsOf_eq_filter]

/-! ## Commands -/

/-- What a command that goes in one way leaves on a console. -/
def GoesTo (c : Console) (region : Region) (command : Command) : Prop :=
  ∃ service result, c.service.Goes region command result service.store.source ∧
    c.perform region command = c.leave service result

/-- A question about one date goes by the calendar that is fetched for it. -/
theorem goesTo_isWorkingDay (hempty : c.service.store.entry = none) (date : Date) :
    c.GoesTo region (.isWorkingDay date) := by
  have hneeds : (Question.isWorkingDay date).needsCalendar = true := rfl
  obtain ⟨hanswer, hsource⟩ := Service.ask_of_needsCalendar hempty hneeds region
  refine ⟨_, _, ?_, c.answer_eq_leave region date (.isWorkingDay date)⟩
  show c.service.Goes region _ _ (c.service.ask region (.isWorkingDay date)).2.source
  rw [hanswer, hsource]
  cases hresult : c.service.fetched.1.result with
  | error failure => exact .noCalendar rfl hresult
  | ok calendar =>
    refine .answered rfl hresult ?_
    show Command.AnsweredBy _ _ _ _
      [Answer.sentence date (.working (Workday.isWorkingDay (calendar.holidayDates region) date))]
    cases hworking : Workday.isWorkingDay (calendar.holidayDates region) date with
    | true => exact .working hworking
    | false => exact .notWorking hworking

/-- A deadline goes in one of five ways: its count cannot be stepped, or there are no steps, or no
calendar comes, or the steps end at a date, or they lead out of the calendar of dates. -/
theorem goesTo_nextWorkingDay (hempty : c.service.store.entry = none) (days : Int)
    (start : Option Date) : c.GoesTo region (.nextWorkingDay days start) := by
  by_cases hinvalid : days < 0 ∨ maxCount < days
  · exact ⟨_, _, .invalid hinvalid, perform_invalid hinvalid c region start⟩
  · obtain ⟨n, rfl⟩ : ∃ n : Nat, days = n := ⟨days.toNat, by omega⟩
    by_cases hzero : n = 0
    · subst hzero
      exact ⟨_, _, .noSteps, c.perform_noSteps region start⟩
    · have hsteps : (1 : Int) ≤ n ∧ (n : Int) ≤ maxCount := by omega
      have hneeds : (Command.nextWorkingDay n start).needsCalendar = true := decide_eq_true hsteps
      obtain ⟨service, hsource, hperform⟩ := exists_perform_steps hempty hsteps region start
      refine ⟨service, _, ?_, hperform⟩
      rw [hsource, Int.toNat_natCast]
      cases hfetched : c.service.fetched.1.result with
      | error failure => exact .noCalendar hneeds hfetched
      | ok calendar =>
        cases hadd : addWorkingDays (calendar.holidayDates region) n
            (start.getD c.service.today) with
        | some date =>
          simp only [Service.stepsResult, hadd]
          exact .answered hneeds hfetched (.deadline hadd)
        | none =>
          simp only [Service.stepsResult, hadd]
          exact .outOfRange hneeds hfetched hadd

/-- A list goes by the calendar that is fetched for it. -/
theorem goesTo_bankHolidays (hempty : c.service.store.entry = none) (year : Option Int) :
    c.GoesTo region (.bankHolidays year) := by
  obtain ⟨service, hsource, hperform⟩ := exists_perform_bankHolidays hempty region year
  refine ⟨service, _, ?_, hperform⟩
  rw [hsource]
  cases hfetched : c.service.fetched.1.result with
  | error failure => exact .noCalendar rfl hfetched
  | ok calendar => exact .answered rfl hfetched .listed

/-- A probe goes by the answer of the feed, and asks for no calendar. -/
theorem goesTo_health : c.GoesTo region .health := by
  refine ⟨_, _, ?_, c.health_eq_leave⟩
  rw [Service.checkHealth_eq]
  cases hprobe : (c.service.probe c.service.store.source).1.1 with
  | none => exact .reached hprobe
  | some failure => exact .unreached hprobe

/-- A command goes in one of these ways, and in no other. -/
theorem goesTo_of_empty (hempty : c.service.store.entry = none) (region : Region) (command : Command) :
    c.GoesTo region command := by
  cases command with
  | isWorkingDay date => exact goesTo_isWorkingDay hempty date
  | nextWorkingDay days start => exact goesTo_nextWorkingDay hempty days start
  | bankHolidays year => exact goesTo_bankHolidays hempty year
  | health => exact goesTo_health

end Console

/-! ## What is to be read off -/

namespace Service

variable {s : Service Nat} {region : Region}

/-- A deadline that needs no calendar leaves the source alone. -/
theorem Goes.source_eq {days : Int} {start : Option Date}
    {result : Except DeadlineFailure (List String)} {n : Nat}
    (h : s.Goes region (.nextWorkingDay days start) result n)
    (hfree : days ≤ 0 ∨ maxCount < days) : n = s.store.source := by
  have hneedless : (Command.nextWorkingDay days start).needsCalendar = false :=
    decide_eq_false (by omega)
  cases h with
  | noSteps | invalid _ => rfl
  | noCalendar hneeds _ | answered hneeds _ _ | outOfRange hneeds _ _ =>
    cases hneedless.symm.trans hneeds

/-- What ends well is a whole answer: that the feed is reached, the start of no steps, or what one
calendar that was fetched has to say. -/
theorem Goes.whole {command : Command} {lines : List String} {n : Nat}
    (h : s.Goes region command (.ok lines) n) :
    (command = .health ∧ (s.probe s.store.source).1.1 = none ∧
        lines = ["bank holidays feed is reachable\n"]) ∨
      (∃ start, command = .nextWorkingDay 0 start ∧
        lines = [(start.getD s.today).format ++ "\n"]) ∨
      ∃ calendar, s.fetched.1.result = .ok calendar ∧ n = s.fetched.2 ∧
        command.AnsweredBy region s.today calendar lines := by
  cases h with
  | reached hprobe => exact Or.inl ⟨rfl, hprobe, rfl⟩
  | @noSteps start => exact Or.inr (Or.inl ⟨start, rfl, rfl⟩)
  | answered _ hfetched hlines => exact Or.inr (Or.inr ⟨_, hfetched, rfl, hlines⟩)

end Service

end Workday
