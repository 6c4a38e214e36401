import Workday.Proofs.CommandLine.Parts
import Workday.Proofs.Date.Text
import Workday.Proofs.FileTree.Opening
import Workday.Proofs.Program.Course
import Workday.Proofs.WorkingDay.Count

/-!
# Deadlines over several runs

A deadline may be asked for in two runs, the second from the date that the first has printed, or in one
run with both counts together: the answer is the same, or there is none either way. A printed date is
read back as the date it was, so the two counts meet in one calendar (`addWorkingDays_add`), and a
count of zero, which asks for no calendar, leads to the date that every calendar gives for it.

The runs need not be made at the same moment, and a later one may come upon the files that an earlier
one has left (`findsAgain_of_run`).
-/

set_option autoImplicit false

namespace Workday

/-! ## One deadline -/

namespace Service

variable {region : Region} {m n : Nat} {start : Date} {lines : List String}
  {reply : Except FetchFailure Calendar}

/-- What a deadline comes to, by what a fetch for it comes to. No steps need no calendar. -/
def deadlineResult (region : Region) (start : Date) (n : Nat)
    (reply : Except FetchFailure Calendar) : Except DeadlineFailure (List String) :=
  if n = 0 then .ok [start.format ++ "\n"] else stepsResult region start n reply

/-- By a calendar a deadline is the date that the steps lead to, also if there are none. -/
theorem toOption_deadlineResult (region : Region) (start : Date) (n : Nat) (calendar : Calendar) :
    (deadlineResult region start n (.ok calendar)).toOption =
      (addWorkingDays (calendar.holidayDates region) n start).map ([·.format ++ "\n"]) := by
  unfold deadlineResult
  split
  · rename_i hzero
    subst hzero
    rfl
  · simp only [stepsResult]
    cases addWorkingDays (calendar.holidayDates region) n start <;> rfl

/-- A deadline that is reached is a date in its format, and further steps from this date lead where all
the steps together lead. -/
theorem exists_middle (h : deadlineResult region start m reply = .ok lines) :
    ∃ middle : Date, lines = [middle.format ++ "\n"] ∧ ∀ n,
      (deadlineResult region middle n reply).toOption =
        (deadlineResult region start (m + n) reply).toOption := by
  cases reply with
  | error failure =>
    -- Without a calendar only a start is reached.
    unfold deadlineResult at h
    split at h
    · rename_i hzero
      subst hzero
      cases h
      exact ⟨start, rfl, fun n => by rw [Nat.zero_add]⟩
    · cases h
  | ok calendar =>
    have hreached := toOption_deadlineResult region start m calendar
    rw [h] at hreached
    obtain ⟨middle, hmiddle, htext⟩ := Option.map_eq_some_iff.mp hreached.symm
    refine ⟨middle, htext.symm, fun n => ?_⟩
    rw [toOption_deadlineResult, toOption_deadlineResult, addWorkingDays_add, hmiddle,
      Option.bind_some]

end Service

/-- A run for a deadline of no steps asks for no calendar, and any other for one. -/
theorem Console.exists_perform_deadline {c : Console} {n : Nat}
    (hempty : c.service.store.entry = none) (hmost : (n : Int) ≤ maxCount) (region : Region)
    (start : Date) :
    ∃ after, c.perform region (.nextWorkingDay n (some start)) =
      c.leave after (Service.deadlineResult region start n c.service.fetched.1.result) := by
  unfold Service.deadlineResult
  split
  · rename_i hzero
    subst hzero
    exact ⟨_, c.perform_noSteps region (some start)⟩
  · have hsteps : (1 : Int) ≤ n ∧ (n : Int) ≤ maxCount := by omega
    obtain ⟨after, -, hperform⟩ := exists_perform_steps hempty hsteps region (some start)
    exact ⟨after, hperform⟩

namespace Program

open CommandLine (IsFront Values readWide)

variable {w : World} {words front : List String} {values : Values} {settings : Settings}
  {sink : LogSink} {files t : FileTree} {log : LogSettings} {e e' e'' : Environment}
  {config : Option String} {invocation : Invocation} {count start : String} {date : Date} {n : Nat}

/-- Exit code and lines tell a result, and no more than the answer if there is one: which failure it is
shows neither in the one nor in the other. -/
theorem ofResult_of_toOption {result result' : Except DeadlineFailure (List String)}
    (h : result.toOption = result'.toOption) :
    (Ending.ofResult result).exitCode = (Ending.ofResult result').exitCode ∧
      linesOf result = linesOf result' := by
  cases result with
  | error failure =>
    cases result' with
    | error failure' => exact ⟨rfl, rfl⟩
    | ok lines => cases h
  | ok lines =>
    cases result' with
    | error failure => cases h
    | ok lines' =>
      cases h
      exact ⟨rfl, rfl⟩

/-- The words of a run for a deadline. -/
def deadlineWords (front : List String) (count start : String) : List String :=
  front ++ ["next-working-day", count, "--from=" ++ start]

/-- The words of a run for a deadline are understood as its count and its start, with the values in
front. -/
theorem read_deadlineWords (hfront : IsFront front values) (hcount : readWide .days count = .ok n)
    (hstart : Date.read start = .ok date) :
    CommandLine.read (deadlineWords front count start) =
      .ok ⟨values.config, values.region.getD default, .nextWorkingDay n (some date)⟩ := by
  have hread := CommandLine.read_of_isFront hfront .nextWorkingDay [count, "--from=" ++ start]
  rw [CommandLine.readCommand_deadline hcount hstart] at hread
  exact hread

/-- A run for a deadline ends with what the deadline comes to, and prints it. -/
theorem run_of_deadline (hfront : IsFront front values) (hcount : readWide .days count = .ok n)
    (hstart : Date.read start = .ok date) (hmost : (n : Int) ≤ maxCount)
    (hload : Settings.load w.environment values.config = .ok settings)
    (hlog : openLog settings.log w.environment.files = (.ok sink, files)) :
    let result := Service.deadlineResult (values.region.getD default) date n
      ((Client.ofSettings settings.feed).fetch w.network 0).1.result
    (run w (deadlineWords front count start)).ending = .ofResult result ∧
      (run w (deadlineWords front count start)).printed = linesOf result := by
  have hempty : (console w settings.feed).service.store.entry = none := rfl
  obtain ⟨after, hperform⟩ :=
    Console.exists_perform_deadline hempty hmost (values.region.getD default) date
  rw [show (console w settings.feed).service.fetched = _ from service_fetched w settings.feed]
    at hperform
  obtain ⟨hending, hprinted, -⟩ :=
    run_of_open (read_deadlineWords hfront hcount hstart) hload hlog hperform
  exact ⟨hending, hprinted⟩

/-! ## What a later run finds -/

/-- The log can be opened. -/
def LogOpens (log : LogSettings) (t : FileTree) : Prop :=
  ∃ sink files, openLog log t = (.ok sink, files)

/-- A later run finds the settings that an earlier one has found, and its log can be opened as well. -/
structure FindsAgain (config : Option String) (earlier later : Environment) : Prop where
  settings : Settings.load later config = Settings.load earlier config
  log : ∀ settings, Settings.load earlier config = .ok settings →
    LogOpens settings.log earlier.files → LogOpens settings.log later.files

theorem FindsAgain.refl (config : Option String) (e : Environment) : FindsAgain config e e :=
  ⟨rfl, fun _ _ h => h⟩

/-- What is found again in a third run was found in the second as in the first. -/
theorem FindsAgain.trans (h : FindsAgain config e e') (h' : FindsAgain config e' e'') :
    FindsAgain config e e'' :=
  ⟨h'.settings.trans h.settings, fun settings hload hlog =>
    h'.log settings (h.settings.trans hload) (h.log settings hload hlog)⟩

/-- A log opens if its file can be opened. -/
theorem logOpens_of_file {path : String} {target : FileTree.Target} (hfile : log.file = some path)
    (htarget : FileTree.Target.ofPath? path = some target)
    (h : (t.openForAppend target).1.isOk = true) : LogOpens log t := by
  cases happend : t.openForAppend target with
  | mk opened files =>
    rw [happend] at h
    cases opened with
    | error fault => cases h
    | ok place => exact ⟨.file place, files, by simp only [openLog, hfile, htarget, happend]⟩

/-- A log that is open can be opened again, whatever has been written to it. -/
theorem logOpens_close {t : FileTree} (hlog : openLog log t = (.ok sink, files))
    (records : List Log.Record) (ending : Ending) (printed : List String) (requests : Nat) :
    LogOpens log (close sink files records ending printed requests).files := by
  cases opening_of_openLog hlog with
  | standardError hfile => exact ⟨.standardError, files, by simp only [openLog, hfile, close]⟩
  | opened hfile htarget happend =>
    exact logOpens_of_file hfile htarget (FileTree.openForAppend_append happend _)

/-- What a run leaves can be found again, if what it has written is no part of the settings. -/
theorem findsAgain_of_run (hread : CommandLine.read words = .ok invocation)
    (hsettings : Settings.load { w.environment with files := (run w words).files } invocation.config =
      Settings.load w.environment invocation.config) :
    FindsAgain invocation.config w.environment
      { w.environment with files := (run w words).files } := by
  refine ⟨hsettings, fun settings hload ⟨sink, files, hlog⟩ => ?_⟩
  obtain ⟨records, hrun⟩ := exists_run_eq_close hread hload hlog
  rw [hrun]
  exact logOpens_close hlog records _ _ _

/-! ## Composition -/

/-- A network that gives the same reply to every request is told by this reply. -/
theorem eq_of_answer {network : Network} {reply : Option Network.Answer}
    (h : ∀ n, network.answer n = reply) : network = ⟨fun _ => reply⟩ := by
  rw [← funext h]

theorem join_singleton (line : String) : String.join [line] = line := by
  simp [String.join]

/-- Deadlines compose. Let a run for `a` working days from a date print `x`, by a server that gives the
same reply to every request. Then a run for `b` working days from `x` and a run for `a + b` working days
from the date, which find the same settings and a log that opens, end with the same exit code and the
same output, whatever the region, however the counts and the date are written and whenever the runs
are made. -/
theorem deadlines_compose {w₁ w₂ w₃ : World} {reply : Option Network.Answer} {a b : Nat}
    {first second both x : String} (hfront : IsFront front values)
    (hreply : ∀ w ∈ [w₁, w₂, w₃], ∀ n, w.network.answer n = reply)
    (hsecond : FindsAgain values.config w₁.environment w₂.environment)
    (hboth : FindsAgain values.config w₁.environment w₃.environment)
    (ha : readWide .days first = .ok a) (hb : readWide .days second = .ok b)
    (hab : readWide .days both = .ok (a + b : Nat)) (hmost : ((a + b : Nat) : Int) ≤ maxCount)
    (hstart : Date.read start = .ok date)
    (hcode : (run w₁ (deadlineWords front first start)).ending.exitCode = 0)
    (hprint : (run w₁ (deadlineWords front first start)).output = x ++ "\n") :
    let inTwo := run w₂ (deadlineWords front second x)
    let atOnce := run w₃ (deadlineWords front both start)
    inTwo.ending.exitCode = atOnce.ending.exitCode ∧ inTwo.output = atOnce.output := by
  intro inTwo atOnce
  obtain ⟨hreply₁, hreply₂, hreply₃⟩ : (∀ n, w₁.network.answer n = reply) ∧
      (∀ n, w₂.network.answer n = reply) ∧ ∀ n, w₃.network.answer n = reply := by
    simpa using hreply
  obtain ⟨settings, sink, files, hload, hlog, -⟩ :=
    (course_run w₁ _).of_answered (read_deadlineWords hfront ha hstart) hcode
  obtain ⟨hending, hprinted⟩ := run_of_deadline hfront ha hstart (by omega) hload hlog
  rw [hending] at hcode
  rw [Outcome.output, hprinted] at hprint
  rw [eq_of_answer hreply₁] at hcode hprint
  cases hresult : Service.deadlineResult (values.region.getD default) date a
      ((Client.ofSettings settings.feed).fetch ⟨fun _ => reply⟩ 0).1.result with
  | error failure =>
    rw [hresult] at hcode
    cases hcode
  | ok lines =>
    rw [hresult] at hprint
    obtain ⟨middle, rfl, hmore⟩ := Service.exists_middle hresult
    -- The second run starts from the date that the first has printed.
    have hx : x = middle.format :=
      (String.append_left_inj "\n").mp (hprint.symm.trans (join_singleton _))
    subst hx
    obtain ⟨sink₂, files₂, hlog₂⟩ := hsecond.log settings hload ⟨sink, files, hlog⟩
    obtain ⟨sink₃, files₃, hlog₃⟩ := hboth.log settings hload ⟨sink, files, hlog⟩
    obtain ⟨hending₂, hprinted₂⟩ := run_of_deadline hfront hb (Date.read_format middle) (by omega)
      (hsecond.settings.trans hload) hlog₂
    obtain ⟨hending₃, hprinted₃⟩ :=
      run_of_deadline hfront hab hstart hmost (hboth.settings.trans hload) hlog₃
    rw [eq_of_answer hreply₂] at hending₂ hprinted₂
    rw [eq_of_answer hreply₃] at hending₃ hprinted₃
    obtain ⟨hcodes, hlines⟩ := ofResult_of_toOption (hmore b)
    rw [Outcome.output, Outcome.output, hending₂, hending₃, hprinted₂, hprinted₃, hlines]
    exact ⟨hcodes, rfl⟩

/-- From Friday 22 December 2023 over Christmas in Scotland, with a log in a directory that the first run
makes. Each run finds the files that the one before has left, a day later. -/
theorem deadlines_compose_over_christmas :
    let feed := serving
      "[[[]],[[[\"Christmas Day\",\"2023-12-25\"],[\"Boxing Day\",\"2023-12-26\"]]],[[]]]"
    let w₁ := { feed with environment := { feed.environment with files := {
      entries := [(["home", Settings.localFile],
        .file (Text.utf8 "log: \x7bfile: logs/run.log\x7d"))]
      workingDirectory := ["home"] } } }
    let front := ["--region", "scotland"]
    let words₁ := deadlineWords front "1" " 2023-12-22"
    let w₂ := { w₁ with
      environment := { w₁.environment with files := (run w₁ words₁).files }
      today := ⟨738887, by decide, by decide⟩ }
    let words₂ := deadlineWords front "+2" "2023-12-27"
    let w₃ := { w₂ with
      environment := { w₂.environment with files := (run w₂ words₂).files }
      today := ⟨738888, by decide, by decide⟩ }
    let words₃ := deadlineWords front "3" " 2023-12-22"
    (run w₁ words₁).output = "2023-12-27\n" ∧ (run w₂ words₂).output = "2023-12-29\n" ∧
      (run w₃ words₃).ending.exitCode = 0 ∧ (run w₃ words₃).output = "2023-12-29\n" := by
  intro feed w₁ front words₁ w₂ words₂ w₃ words₃
  have hregion : Region.read "scotland" = .ok .scotland := by decide +kernel
  have hfront : IsFront front { region := some .scotland } :=
    CommandLine.isFront_nil.region rfl hregion
  have hcode : (run w₁ words₁).ending.exitCode = 0 := by decide +kernel
  have hfirst : (run w₁ words₁).output = "2023-12-27\n" := by decide +kernel
  have hsecond : (run w₂ words₂).ending.exitCode = 0 ∧ (run w₂ words₂).output = "2023-12-29\n" := by
    decide +kernel
  have hread₁ : CommandLine.read words₁ =
      .ok ⟨none, .scotland, .nextWorkingDay 1 (some ⟨738876, by decide, by decide⟩)⟩ := by
    decide +kernel
  have hread₂ : CommandLine.read words₂ =
      .ok ⟨none, .scotland, .nextWorkingDay 2 (some ⟨738881, by decide, by decide⟩)⟩ := by
    decide +kernel
  have hfound₂ : FindsAgain none w₁.environment w₂.environment :=
    findsAgain_of_run hread₁ (by decide +kernel)
  have hfound₃ : FindsAgain none w₂.environment w₃.environment :=
    findsAgain_of_run hread₂ (by decide +kernel)
  have hreply : ∀ w ∈ [w₁, w₂, w₃], ∀ n, w.network.answer n = feed.network.answer 0 := by
    have hone : ∀ w ∈ [w₁, w₂, w₃], w.network = feed.network :=
      List.forall_mem_cons.mpr ⟨rfl, List.forall_mem_cons.mpr ⟨rfl, List.forall_mem_singleton.mpr rfl⟩⟩
    intro w hw n
    rw [hone w hw]
    exact answer_serving _ n
  have ha : readWide .days "1" = .ok (1 : Nat) := by decide +kernel
  have hb : readWide .days "+2" = .ok (2 : Nat) := by decide +kernel
  have hab : readWide .days "3" = .ok (1 + 2 : Nat) := by decide +kernel
  have hstart : Date.read " 2023-12-22" = .ok ⟨738876, by decide, by decide⟩ := by decide +kernel
  have hprint : (run w₁ words₁).output = "2023-12-27" ++ "\n" := by
    rw [hfirst]
    rfl
  obtain ⟨hcodes, houtputs⟩ := deadlines_compose hfront hreply hfound₂ (hfound₂.trans hfound₃)
    ha hb hab (by decide) hstart hcode hprint
  exact ⟨hfirst, hsecond.2, hcodes.symm.trans hsecond.1, houtputs.symm.trans hsecond.2⟩

end Program

end Workday
