import Workday.Proofs.Cache.Image
import Workday.Proofs.Calculator.Snapshot

/-!
# Only a region's own weekdays count

Of a calendar, a calculator reads the weekdays on which its own region has an event
(`Calendar.IsWeekdayHoliday`), and nothing else. The cache reads nothing of it at all, so the image
of a store under that reading goes its own way (`Workday.Proofs.Cache.Image`). Two sessions over
sources that differ in other regions, on weekends, in order, repetition or wording therefore take
the same course: `Service.Alike` holds of the two after every step, and the calculators of the
region give the same verdicts.
-/

set_option autoImplicit false

namespace Workday

open Cache (Call Clock Entry Served Store fetchImage)

/-! ## One calendar -/

/-- A weekday on which a region has an event. -/
def Calendar.IsWeekdayHoliday (region : Region) (c : Calendar) (d : Date) : Prop :=
  d.weekday.isWeekend = false ∧ d ∈ c.holidayDates region

section Dates

variable {holidays holidays' : List Date}

/-- Holidays at weekends make no difference to which days are working days. -/
theorem isWorkingDay_congr
    (h : ∀ d : Date, d.weekday.isWeekend = false → (d ∈ holidays ↔ d ∈ holidays')) :
    isWorkingDay holidays = isWorkingDay holidays' := by
  funext d
  unfold isWorkingDay
  cases hweekend : d.weekday.isWeekend with
  | true => rfl
  | false =>
    have hcontains : holidays.contains d = holidays'.contains d := by
      rw [Bool.eq_iff_iff, List.contains_iff_mem, List.contains_iff_mem]
      exact h d hweekend
    rw [hcontains]

/-- The next working day is told by which days are working days. -/
theorem nextWorkingDay_congr (h : isWorkingDay holidays = isWorkingDay holidays') :
    nextWorkingDay holidays = nextWorkingDay holidays' := by
  have hwithin (left : Nat) (d : Date) :
      nextWorkingDayWithin holidays left d = nextWorkingDayWithin holidays' left d := by
    induction left generalizing d with
    | zero => rfl
    | succ left ih => simp only [nextWorkingDayWithin, h, ih]
  funext d
  exact hwithin d.daysLeft d

/-- Deadlines are counted by the test for a working day alone. -/
theorem addWorkingDays_congr (h : isWorkingDay holidays = isWorkingDay holidays') (n : Nat)
    (d : Date) : addWorkingDays holidays n d = addWorkingDays holidays' n d := by
  induction n generalizing d with
  | zero => rfl
  | succ n ih => simp only [addWorkingDays, nextWorkingDay_congr h, ih]

end Dates

namespace Calculator

variable {σ : Type} {c : Calculator} {today : Date} {region : Region} {q : Question} {p : Nat}

/-- A question about a region has the same answer by calendars in which the region has the same
holidays from Monday to Friday. -/
theorem answerBy_congr {one other : Calendar} (hregion : c.region = region)
    (h : one.IsWeekdayHoliday region = other.IsWeekdayHoliday region) :
    c.answerBy today one q = c.answerBy today other q := by
  have hworking : isWorkingDay (one.holidayDates region) =
      isWorkingDay (other.holidayDates region) := by
    refine isWorkingDay_congr fun d hd => ?_
    have hsame := congrFun h d
    simpa only [Calendar.IsWeekdayHoliday, hd, true_and, eq_iff_iff] using hsame
  cases q with
  | isWorkingDay date => simp only [answerBy, hregion, hworking]
  | deadline n start =>
    simp only [answerBy, deadlineBy, hregion, addWorkingDays_congr hworking]
  | deadlineFromToday n =>
    simp only [answerBy, deadlineBy, hregion, addWorkingDays_congr hworking]
  | region => rfl

/-- Answers to the call for the calendar that have the same image lead to the same verdict. -/
theorem conclude_congr {one other : Except FetchFailure (Served Calendar)}
    (hregion : c.region = region)
    (h : one.map (Served.map (Calendar.IsWeekdayHoliday region)) =
      other.map (Served.map (Calendar.IsWeekdayHoliday region))) :
    c.conclude today q one = c.conclude today q other := by
  cases one with
  | error e =>
    cases other with
    | error e' => rw [Except.error.inj h]
    | ok served => cases h
  | ok served =>
    cases other with
    | error e => cases h
    | ok served' =>
      have hvalue := congrArg Served.value (Except.ok.inj h)
      exact answerBy_congr hregion hvalue

/-! ## Questions to stores with the same image -/

section Image

variable {source source' : CalendarSource σ} {s s' : CalendarStore σ}
  {asked : List (Calculator × Question)}

/-- Calls of two sources that look alike to a region look alike to it. -/
theorem call_image_eq (hsource : fetchImage (Calendar.IsWeekdayHoliday region) source =
      fetchImage (Calendar.IsWeekdayHoliday region) source') (c : Calculator) :
    (c.call source).map (Calendar.IsWeekdayHoliday region) =
      (c.call source').map (Calendar.IsWeekdayHoliday region) := by
  simp only [call, Call.map, hsource]

/-- The calls of questions in a batch look alike to a region if the sources do. -/
theorem callsOf_image_eq (today : Date) (asked : List (Calculator × Question))
    (hsource : fetchImage (Calendar.IsWeekdayHoliday region) source =
      fetchImage (Calendar.IsWeekdayHoliday region) source') :
    (callsOf source today asked).map (Call.map (Calendar.IsWeekdayHoliday region)) =
      (callsOf source' today asked).map (Call.map (Calendar.IsWeekdayHoliday region)) := by
  rw [callsOf, callsOf, List.map_map, List.map_map]
  exact List.map_congr_left fun x _ => call_image_eq hsource x.1

/-- A question that is asked of stores and sources which look alike to a region leaves stores that
do, and has the same verdict if it is about this region. -/
theorem ask_image_eq (hsource : fetchImage (Calendar.IsWeekdayHoliday region) source =
      fetchImage (Calendar.IsWeekdayHoliday region) source')
    (hs : s.map (Calendar.IsWeekdayHoliday region) = s'.map (Calendar.IsWeekdayHoliday region)) :
    (c.region = region → (c.ask source today s q).1 = (c.ask source' today s' q).1) ∧
      (c.ask source today s q).2.map (Calendar.IsWeekdayHoliday region) =
        (c.ask source' today s' q).2.map (Calendar.IsWeekdayHoliday region) := by
  unfold ask
  cases c.settle today q with
  | some verdict => exact ⟨fun _ => rfl, hs⟩
  | none =>
    obtain ⟨hanswer, hstore⟩ := Store.get_image_eq hs (call_image_eq hsource c)
    exact ⟨fun hregion => conclude_congr hregion hanswer, hstore⟩

/-- Questions that are asked together of stores and sources which look alike to a region leave
stores that do. -/
theorem askTogether_image_eq (hsource : fetchImage (Calendar.IsWeekdayHoliday region) source =
      fetchImage (Calendar.IsWeekdayHoliday region) source')
    (hs : s.map (Calendar.IsWeekdayHoliday region) = s'.map (Calendar.IsWeekdayHoliday region)) :
    (askTogether source today s asked).2.map (Calendar.IsWeekdayHoliday region) =
      (askTogether source' today s' asked).2.map (Calendar.IsWeekdayHoliday region) :=
  (Store.batch_image_eq hs (callsOf_image_eq today asked hsource)).2

/-- Among questions that are asked together, those to calculators of the region get the same
verdicts. -/
theorem askTogether_verdict_eq (hsource : fetchImage (Calendar.IsWeekdayHoliday region) source =
      fetchImage (Calendar.IsWeekdayHoliday region) source')
    (hs : s.map (Calendar.IsWeekdayHoliday region) = s'.map (Calendar.IsWeekdayHoliday region))
    (hp : asked[p]? = some (c, q)) (hregion : c.region = region) :
    ∃ verdict, (askTogether source today s asked).1[p]? = some verdict ∧
      (askTogether source' today s' asked).1[p]? = some verdict := by
  obtain ⟨verdict, hgiven, hends⟩ := askTogether_getElem? source today s hp
  obtain ⟨verdict', hgiven', hends'⟩ := askTogether_getElem? source' today s' hp
  suffices hsame : verdict = verdict' from ⟨verdict, hgiven, hsame ▸ hgiven'⟩
  rcases hends with hsettled | ⟨hwaits, answer, hanswer, rfl⟩
  · rcases hends' with hsettled' | ⟨hwaits', _⟩
    · exact Option.some.inj (hsettled.symm.trans hsettled')
    · cases hsettled.symm.trans hwaits'
  · rcases hends' with hsettled' | ⟨_, answer', hanswer', rfl⟩
    · cases hwaits.symm.trans hsettled'
    · refine conclude_congr hregion ?_
      have hanswers := (Store.batch_image_eq hs (callsOf_image_eq today asked hsource)).1
      have hat := congrArg (·[callsBefore asked p]?) hanswers
      simpa only [List.getElem?_map, hanswer, hanswer', Option.map_some, Option.some.injEq] using hat

end Image

end Calculator

/-! ## Two sessions -/

namespace Service

variable {σ : Type} {region : Region} {s s' : Service σ}

/-- Two services that are the same but for what a region's weekdays do not tell. -/
structure Alike (region : Region) (s s' : Service σ) : Prop where
  source_eq : fetchImage (Calendar.IsWeekdayHoliday region) s.source =
    fetchImage (Calendar.IsWeekdayHoliday region) s'.source
  probe_eq : s.probe = s'.probe
  ttl_eq : s.ttl = s'.ttl
  today_eq : s.today = s'.today
  calculators_eq : s.calculators = s'.calculators
  store_eq : s.store.map (Calendar.IsWeekdayHoliday region) =
    s'.store.map (Calendar.IsWeekdayHoliday region)

namespace Alike

/-- Services that look alike to a region have the same handles. -/
theorem calculator_eq (h : s.Alike region s') (i : Nat) : s.calculator i = s'.calculator i := by
  simp only [calculator, h.calculators_eq, h.ttl_eq]

/-- Services that look alike to a region ask the same questions of the same handles. -/
theorem asked_eq (h : s.Alike region s') (asked : List (Nat × Question)) :
    (asked.map fun x => (s.calculator x.1, x.2)) = asked.map fun x => (s'.calculator x.1, x.2) :=
  List.map_congr_left fun x _ => by rw [h.calculator_eq x.1]

/-- Stores of services that look alike to a region have the same clock, the same count of fetches
and the same place in their script. What they hold looks alike to the region. -/
theorem store_parts_eq (h : s.Alike region s') :
    s.store.entry.map (Entry.map (Calendar.IsWeekdayHoliday region)) =
        s'.store.entry.map (Entry.map (Calendar.IsWeekdayHoliday region)) ∧
      s.store.clock = s'.store.clock ∧ s.store.source = s'.store.source ∧
      s.store.fetches = s'.store.fetches := by
  simpa only [Store.map, Store.mk.injEq] using h.store_eq

/-- Services with stores that look alike to a region look alike to it. -/
theorem withStore (h : s.Alike region s') {store store' : CalendarStore σ}
    (hstore : store.map (Calendar.IsWeekdayHoliday region) =
      store'.map (Calendar.IsWeekdayHoliday region)) :
    (s.withStore store).Alike region (s'.withStore store') :=
  ⟨h.source_eq, h.probe_eq, h.ttl_eq, h.today_eq, h.calculators_eq, hstore⟩

/-- The same further handle keeps two services looking alike. -/
theorem addCalculator (h : s.Alike region s') (c : Calculator) :
    (s.addCalculator c).2.Alike region (s'.addCalculator c).2 :=
  ⟨h.source_eq, h.probe_eq, h.ttl_eq, h.today_eq,
    congrArg (· ++ [c]) h.calculators_eq, h.store_eq⟩

/-- No step tells two such services apart, whichever calculators it asks. What the stores hold is
compared by its image, the weekday holidays of the region. -/
theorem step (h : s.Alike region s') (step : Step) :
    (s.step step).2.Alike region (s'.step step).2 := by
  obtain ⟨hentry, hclock, hsource, hfetches⟩ := h.store_parts_eq
  cases step with
  | ask i question =>
    refine h.withStore ?_
    simp only [h.today_eq, h.calculator_eq i]
    exact (Calculator.ask_image_eq h.source_eq h.store_eq).2
  | askTogether asked =>
    refine h.withStore ?_
    simp only [h.today_eq, h.asked_eq]
    exact Calculator.askTogether_image_eq h.source_eq h.store_eq
  | calendar =>
    refine h.withStore (Store.get_image_eq h.store_eq ?_).2
    simp only [Call.map, h.ttl_eq, h.source_eq]
  | health =>
    refine h.withStore ?_
    simp only [h.probe_eq, hsource, Store.map, Store.advance, hentry, hclock, hfetches]
  | invalidate =>
    refine h.withStore ?_
    simp only [Store.map, Store.invalidate, hclock, hsource, hfetches, Option.map_none]
  | advance ms =>
    refine h.withStore ?_
    simp only [Store.map, Store.advance, hentry, hclock, hsource, hfetches]
  | clone i =>
    simp only [Service.step, h.calculator_eq i]
    exact h.addCalculator _
  | withRegion r =>
    simp only [Service.step, h.ttl_eq]
    exact h.addCalculator _

/-- Services that look alike to a region do so after the same steps. -/
theorem after (h : s.Alike region s') (steps : List Step) :
    (s.after steps).Alike region (s'.after steps) := by
  induction steps generalizing s s' with
  | nil => exact h
  | cons step steps ih => exact ih (h.step step)

/-- A calculator of the region gives the same verdict in both, by itself or in a batch: in a batch too,
a question and its answer are told by their place. -/
theorem given_eq (h : s.Alike region s') {step : Step} {p i : Nat} {q : Question}
    (hp : step.questions[p]? = some (i, q)) (hregion : (s.calculator i).region = region) :
    ∃ verdict, (s.step step).1.given[p]? = some verdict ∧
      (s'.step step).1.given[p]? = some verdict := by
  cases step with
  | ask i' q' =>
    cases p with
    | succ p => cases hp
    | zero =>
      cases hp
      refine ⟨_, rfl, ?_⟩
      simp only [Service.step, Reply.given, ← h.today_eq, ← h.calculator_eq i]
      exact congrArg some ((Calculator.ask_image_eq h.source_eq h.store_eq).1 hregion).symm
  | askTogether asked =>
    have hplace : (asked.map fun x => (s.calculator x.1, x.2))[p]? = some (s.calculator i, q) := by
      have hasked : asked[p]? = some (i, q) := hp
      rw [List.getElem?_map, hasked, Option.map_some]
    simp only [Service.step, Reply.given, ← h.today_eq, ← h.asked_eq]
    exact Calculator.askTogether_verdict_eq h.source_eq h.store_eq hplace hregion
  | calendar | health | invalidate | advance _ | clone _ | withRegion _ => cases hp

end Alike

end Service

/-! ## Two scripts -/

/-- Entries of two scripts that are the same to a region: they fail alike, or both give a calendar,
and the region has events on the same weekdays in both. -/
inductive Scripted.Alike (region : Region) : Scripted → Scripted → Prop where
  | failing {e : FetchFailure} {delay : Nat} : Alike region ⟨.error e, delay⟩ ⟨.error e, delay⟩
  | serving {one other : Calendar} {delay : Nat}
      (weekdays : ∀ d : Date, d.weekday.isWeekend = false →
        (d ∈ one.holidayDates region ↔ d ∈ other.holidayDates region)) :
      Alike region ⟨.ok one, delay⟩ ⟨.ok other, delay⟩

/-- What a fetch that is given an entry comes to, in the image. -/
def Scripted.image (region : Region) (x : Scripted) : Cache.Fetched FetchFailure (Date → Prop) :=
  ⟨x.result.map (Calendar.IsWeekdayHoliday region), x.delay⟩

/-- Entries of a script that are alike to a region look the same to it. -/
theorem Scripted.Alike.image_eq {region : Region} {x y : Scripted} (h : Scripted.Alike region x y) :
    x.image region = y.image region := by
  cases h with
  | failing => rfl
  | @serving one other delay weekdays =>
    have hsame : one.IsWeekdayHoliday region = other.IsWeekdayHoliday region := by
      funext d
      exact propext (and_congr_right (weekdays d))
    simp only [Scripted.image, Except.map, hsame]

/-- What a scripted fetch looks like to a region is told by what the entries of the script look like
to it. -/
theorem fetchImage_scriptSource (region : Region) (script : List Scripted) (n : Nat) :
    fetchImage (Calendar.IsWeekdayHoliday region) (scriptSource script) n =
      let images := script.map (Scripted.image region)
      match images[min n (images.length - 1)]? with
      | some x => (x, n + 1)
      | none => (⟨.error (.malformed "empty script"), 0⟩, n + 1) := by
  simp only [fetchImage, scriptSource, List.length_map, List.getElem?_map]
  cases script[min n (script.length - 1)]? <;> rfl

/-- Scripts whose entries are alike to a region, one by one, make sources that look alike to it. -/
theorem scriptSource_image_eq {region : Region} {script script' : List Scripted}
    (h : List.Forall₂ (Scripted.Alike region) script script') :
    fetchImage (Calendar.IsWeekdayHoliday region) (scriptSource script) =
      fetchImage (Calendar.IsWeekdayHoliday region) (scriptSource script') := by
  have himages : script.map (Scripted.image region) = script'.map (Scripted.image region) := by
    induction h with
    | nil => rfl
    | cons hxy _ ih => rw [List.map_cons, List.map_cons, hxy.image_eq, ih]
  funext n
  rw [fetchImage_scriptSource, fetchImage_scriptSource, himages]

namespace Service

/-- Two sessions over scripts that are the same to a region take the same course. After every step
as many fetches have been made and as much time has passed in the one as in the other, and every
question to a calculator of that region gets the same verdict in both. What the scripts hold of
other regions and of weekends, in which order, how often and under which names, tells on neither. -/
theorem only_own_weekdays_tell {region : Region} {script script' : List Scripted}
    (hscripts : List.Forall₂ (Scripted.Alike region) script script') (ttl : Int) (first : Region)
    (today : Date) (clock : Clock) (steps : List Step) :
    let one := scripted script ttl first today clock
    let other := scripted script' ttl first today clock
    ∀ earlier step later, steps = earlier ++ step :: later →
      let s := one.after earlier
      let s' := other.after earlier
      (one.run steps)[earlier.length]? = some (s.step step) ∧
      (other.run steps)[earlier.length]? = some (s'.step step) ∧
      (s.step step).2.store.fetches = (s'.step step).2.store.fetches ∧
      (s.step step).2.store.clock = (s'.step step).2.store.clock ∧
      ∀ (p i : Nat) (q : Question), step.questions[p]? = some (i, q) →
        s.calculator i = s'.calculator i ∧
        ((s.calculator i).region = region → ∃ verdict,
          (s.step step).1.given[p]? = some verdict ∧
          (s'.step step).1.given[p]? = some verdict) := by
  intro one other
  rintro earlier step later rfl s s'
  have hopened : one.Alike region other :=
    ⟨scriptSource_image_eq hscripts, rfl, rfl, rfl, rfl, rfl⟩
  have hbefore : s.Alike region s' := hopened.after earlier
  obtain ⟨_, hclock, _, hfetches⟩ := (hbefore.step step).store_parts_eq
  refine ⟨run_getElem? earlier later step, run_getElem? earlier later step, hfetches, hclock, ?_⟩
  intro p i q hp
  exact ⟨hbefore.calculator_eq i, hbefore.given_eq hp⟩

/-- The two feeds give Monday once under one name, and twice under another, out of order, next to a
Saturday and to holidays of Scotland. England and Wales is told the same of Tuesday, whoever else
asks at the same time. -/
theorem only_own_weekdays_tell_of_a_rewritten_feed :
    let saturday : Date := ⟨738877, by decide, by decide⟩
    let monday : Date := ⟨738879, by decide, by decide⟩
    let tuesday : Date := ⟨738880, by decide, by decide⟩
    let plain : Calendar := ⟨[⟨"Christmas Day", monday, "", true⟩], [], []⟩
    let rewritten : Calendar := ⟨[⟨"Holiday", monday, "moved", false⟩, ⟨"Eve", saturday, "", false⟩,
      ⟨"Holiday", monday, "", true⟩], [⟨"Boxing Day", tuesday, "", true⟩], []⟩
    let down : FetchFailure := .malformed "down"
    let script : List Scripted := [⟨.error down, 7⟩, ⟨.ok plain, 5⟩]
    let script' : List Scripted := [⟨.error down, 7⟩, ⟨.ok rewritten, 5⟩]
    let one := scripted script 60 .englandAndWales tuesday ⟨0, 0⟩
    let other := scripted script' 60 .englandAndWales tuesday ⟨0, 0⟩
    let steps : List Step := [.withRegion .scotland, .askTogether
      [(1, .isWorkingDay tuesday), (1, .deadline 1 monday), (0, .deadline 1 saturday)]]
    List.Forall₂ (Scripted.Alike .englandAndWales) script script' ∧
      ∃ verdict ended ended', (one.run steps)[1]? = some ended ∧
        (other.run steps)[1]? = some ended' ∧ ended.2.store.fetches = ended'.2.store.fetches ∧
        ended.1.given[2]? = some verdict ∧ ended'.1.given[2]? = some verdict := by
  intro saturday monday tuesday plain rewritten down script script' one other steps
  have hweekdays (d : Date) (hd : d.weekday.isWeekend = false) :
      d ∈ plain.holidayDates .englandAndWales ↔ d ∈ rewritten.holidayDates .englandAndWales := by
    have hsaturday : d ≠ saturday := by
      rintro rfl
      cases hd
    simp [plain, rewritten, Calendar.holidayDates, Calendar.events, hsaturday]
  have hscripts : List.Forall₂ (Scripted.Alike .englandAndWales) script script' :=
    .cons .failing (.cons (.serving hweekdays) .nil)
  obtain ⟨hrun, hrun', hfetches, _, hquestions⟩ :=
    only_own_weekdays_tell hscripts 60 .englandAndWales tuesday ⟨0, 0⟩ steps
      [.withRegion .scotland] _ [] rfl
  obtain ⟨_, hverdict⟩ := hquestions 2 0 (.deadline 1 saturday) rfl
  obtain ⟨verdict, hgiven, hgiven'⟩ := hverdict rfl
  exact ⟨hscripts, verdict, _, _, hrun, hrun', hfetches, hgiven, hgiven'⟩

end Service

end Workday
