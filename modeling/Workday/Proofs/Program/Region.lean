import Workday.Proofs.CommandLine.Parts
import Workday.Proofs.Program.Course

/-!
# Where the region is given

A region holds for every verb, so it is given in front of the verb; behind it a list of bank holidays
takes a year and nothing else. The two places never do for each other: in front the events of the
region are listed, and behind the verb the same words are a usage fault.
-/

set_option autoImplicit false

namespace Workday.Program

open CommandLine (IsFront Values)

variable {w : World} {words front : List String} {values : Values} {text : String}
  {region : Region} {year : Option Int}

/-- A list that gets as far as its calendar has an entry for every event that is asked for. -/
theorem run_of_bankHolidays {invocation : Invocation} {settings : Settings} {sink : LogSink}
    {files : FileTree} {calendar : Calendar} (hread : CommandLine.read words = .ok invocation)
    (hcommand : invocation.command = .bankHolidays year)
    (hload : Settings.load w.environment invocation.config = .ok settings)
    (hlog : openLog settings.log w.environment.files = (.ok sink, files))
    (hfetch : ((Client.ofSettings settings.feed).fetch w.network 0).1.result = .ok calendar) :
    (run w words).ending = .answered ∧
      (run w words).printed = ((calendar.events invocation.region).filter
        fun event => year.all (· == event.date.year)).map Event.listing := by
  have hempty : (console w settings.feed).service.store.entry = none := rfl
  obtain ⟨after, -, hperform⟩ :=
    Console.exists_perform_bankHolidays hempty invocation.region year
  have hfetched : (console w settings.feed).service.fetched.1.result = .ok calendar := by
    rw [console, service_fetched, hfetch]
  rw [hfetched, ← hcommand] at hperform
  obtain ⟨hending, hprinted, -⟩ := run_of_open hread hload hlog hperform
  exact ⟨hending, hprinted⟩

/-- A region in front of the verb, and the same words behind it. In front, where the year is
understood, the run is no usage fault, and with a feed that gives a calendar it lists the events of the
region, of the year if one is given, in the order of the feed. Behind the verb the run is refused,
whatever else there is: nothing is printed on standard output and no request is sent. -/
theorem region_in_front_of_the_verb_only (w : World) (hfront : IsFront front values)
    (hnone : values.region = none) (htext : Region.read text = .ok region) (rest : List String) :
    let ahead := run w (front ++ "--region" :: text :: "bank-holidays" :: rest)
    let behind := run w (front ++ "bank-holidays" :: "--region" :: text :: rest)
    (behind = { ending := .refused (.unexpected "--region"), files := w.environment.files } ∧
      behind.ending.exitCode = 2 ∧ behind.output = "" ∧ behind.requests = 0) ∧
    ∀ year, CommandLine.readCommand .bankHolidays rest = .ok (.bankHolidays year) →
      ahead.ending.exitCode ≠ 2 ∧
      ∀ settings sink files calendar, Settings.load w.environment values.config = .ok settings →
        openLog settings.log w.environment.files = (.ok sink, files) →
        ((Client.ofSettings settings.feed).fetch w.network 0).1.result = .ok calendar →
          ahead.ending = .answered ∧
            ahead.output = String.join (((calendar.events region).filter
              fun event => year.all (· == event.date.year)).map Event.listing) := by
  intro ahead behind
  have hbehind : behind =
      { ending := .refused (.unexpected "--region"), files := w.environment.files } := by
    have hread := CommandLine.read_of_isFront hfront .bankHolidays ("--region" :: text :: rest)
    rw [CommandLine.readCommand_region] at hread
    show run w (front ++ CommandLine.Verb.bankHolidays.name :: "--region" :: text :: rest) = _
    simp only [run, hread, Except.map]
  refine ⟨⟨hbehind, ?_⟩, fun year hyear => ?_⟩
  · rw [hbehind]
    exact ⟨rfl, rfl, rfl⟩
  · -- in front of the verb the region is one more value
    have hread := CommandLine.read_of_isFront (hfront.region hnone htext) .bankHolidays rest
    rw [hyear, List.append_assoc] at hread
    refine ⟨fun hcode => ?_, fun settings sink files calendar hload hlog hfetch => ?_⟩
    · obtain ⟨fault, hfault, -⟩ := (course_run w _).of_usage hcode
      cases hread.symm.trans hfault
    · obtain ⟨hending, hprinted⟩ := run_of_bankHolidays hread rfl hload hlog hfetch
      exact ⟨hending, congrArg String.join hprinted⟩

/-- In front of the verb a region of any spelling is listed, of the year that is asked for; behind it the
same words are refused. -/
theorem region_in_front_of_the_verb_only_of_scotland :
    let w := serving "[[[]],[[[\"2nd January\",\"2024-01-02\"],[\"Easter\",\"2023-04-10\"]]],[[]]]"
    let ahead := run w ["--region", " Scotland", "bank-holidays", "--year", "2024"]
    let behind := run w ["bank-holidays", "--region", " Scotland", "--year", "2024"]
    behind.ending = .refused (.unexpected "--region") ∧
      ahead.ending = .answered ∧ ahead.output = "2024-01-02  2nd January\n" := by
  intro w ahead behind
  have hregion : Region.read " Scotland" = .ok .scotland := by decide +kernel
  have hyear : CommandLine.readCommand .bankHolidays ["--year", "2024"] =
      .ok (.bankHolidays (some 2024)) := by decide +kernel
  have hload : Settings.load w.environment none = .ok { feed := { url := "http://feed.test" } } := by
    decide +kernel
  have hlog : openLog {} w.environment.files = (.ok .standardError, {}) := rfl
  have hfetch : ((Client.ofSettings { url := "http://feed.test" }).fetch w.network 0).1.result =
      .ok ⟨[], [⟨"2nd January", ⟨738887, by decide, by decide⟩, "", false⟩,
        ⟨"Easter", ⟨738620, by decide, by decide⟩, "", false⟩], []⟩ := by decide +kernel
  obtain ⟨⟨hbehind, -⟩, hahead⟩ :=
    region_in_front_of_the_verb_only w CommandLine.isFront_nil rfl hregion ["--year", "2024"]
  obtain ⟨hending, hlisted⟩ := (hahead _ hyear).2 _ _ _ _ hload hlog hfetch
  exact ⟨congrArg Outcome.ending hbehind, hending, hlisted.trans (by decide +kernel)⟩

/-- With a feed that gives a calendar the region's events are listed if it is given in front of the verb,
and not if it is given behind it. -/
theorem region_behind_the_verb_is_refused :
    let w := serving "[[[]],[[[\"2nd January\",\"2024-01-02\"]]],[[]]]"
    let ahead := run w ["--region", "scotland", "bank-holidays"]
    let behind := run w ["bank-holidays", "--region", "scotland"]
    ahead.ending = .answered ∧ ahead.output = "2024-01-02  2nd January\n" ∧
      ¬ (behind.ending.exitCode = ahead.ending.exitCode ∧
        behind.output = ahead.output ∧ behind.requests = ahead.requests) := by
  decide +kernel

end Workday.Program
