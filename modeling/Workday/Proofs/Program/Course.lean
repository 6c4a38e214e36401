import Workday.Program
import Workday.Proofs.Client.Refinement
import Workday.Proofs.Service.Command
import Workday.Proofs.Settings.Layers

/-!
# The course of a run

A run goes through its stages in a fixed order: the command line, the settings, the log, the command.
The first stage that fails ends the run, and nothing has been asked of the network by then. `Course`
lists all ways that this can go; what is said of every run is read off it.
-/

set_option autoImplicit false

namespace Workday

namespace Settings

/-- Settings that are loaded pass the check. -/
theorem check_of_load {e : Environment} {asked : Option String} {s : Settings}
    (h : load e asked = .ok s) : s.check = .ok () := by
  rw [load_eq_settle] at h
  cases hfound : found e asked with
  | error fault =>
    rw [hfound] at h
    cases h
  | ok given =>
    rw [hfound, Except.bind] at h
    exact (settle_eq_ok_iff.mp h).2

end Settings

/-- How a run ends when its command has been carried out. -/
def Ending.ofResult {α : Type} : Except DeadlineFailure α → Ending
  | .ok _ => .answered
  | .error failure => .failed (.deadline failure)

/-- The lines that a command has come to. A failure has none. -/
def linesOf : Except DeadlineFailure (List String) → List String
  | .ok lines => lines
  | .error _ => []

namespace Program

variable {w : World} {words : List String} {invocation : Invocation} {settings : Settings}
  {sink : LogSink} {files : FileTree}

/-- The service that a run works with. It has done nothing yet. -/
def service (w : World) (feed : FeedSettings) : Service Nat :=
  let client := Client.ofSettings feed
  let ttl : Nat := feed.ttlSecs * 1000
  ⟨client.fetch w.network, client.probe w.network, ttl, w.today, .empty w.clock 0,
    [Calculator.new ttl]⟩

/-- What a run fetches is what its client fetches with the first request. -/
theorem service_fetched (w : World) (feed : FeedSettings) :
    (service w feed).fetched = (Client.ofSettings feed).fetch w.network 0 := by
  simp only [Service.fetched, service, Cache.Store.empty]

/-- All ways that the opening of a log can go. -/
inductive Opening (log : LogSettings) (t : FileTree) : Except Ending LogSink → FileTree → Prop where
  | standardError (hfile : log.file = none) : Opening log t (.ok .standardError) t
  | noName {path : String} (hfile : log.file = some path)
      (hnone : FileTree.Target.ofPath? path = none) :
      Opening log t (.error (.failed (.noLogFile path))) t
  | opened {path : String} {target : FileTree.Target} {place : Place} {files : FileTree}
      (hfile : log.file = some path) (htarget : FileTree.Target.ofPath? path = some target)
      (happend : t.openForAppend target = (.ok place, files)) : Opening log t (.ok (.file place)) files
  | unopened {path : String} {target : FileTree.Target} {fault : FileTree.OpenFault}
      {files : FileTree} (hfile : log.file = some path)
      (htarget : FileTree.Target.ofPath? path = some target)
      (happend : t.openForAppend target = (.error fault, files)) :
      Opening log t (.error (.aborted fault)) files

/-- The opening of a log goes in one of these ways. -/
theorem opening_openLog (log : LogSettings) (t : FileTree) :
    Opening log t (openLog log t).1 (openLog log t).2 := by
  cases hfile : log.file with
  | none =>
    simp only [openLog, hfile]
    exact .standardError hfile
  | some path =>
    cases htarget : FileTree.Target.ofPath? path with
    | none =>
      simp only [openLog, hfile, htarget]
      exact .noName hfile htarget
    | some target =>
      cases happend : t.openForAppend target with
      | mk opened files =>
        cases opened with
        | error fault =>
          simp only [openLog, hfile, htarget, happend]
          exact .unopened hfile htarget happend
        | ok place =>
          simp only [openLog, hfile, htarget, happend]
          exact .opened hfile htarget happend

/-- Whatever a log has been opened to, it has been opened in one of these ways. -/
theorem opening_of_openLog {log : LogSettings} {t files : FileTree} {opened : Except Ending LogSink}
    (h : openLog log t = (opened, files)) : Opening log t opened files := by
  have hopening := opening_openLog log t
  rw [h] at hopening
  exact hopening

/-- A log that cannot be opened ends a run with a report of the path, or breaks it off. -/
theorem openLog_error {log : LogSettings} {t files : FileTree} {ending : Ending}
    (h : openLog log t = (.error ending, files)) :
    (∃ fault, ending = .aborted fault) ∨ ∃ path, ending = .failed (.noLogFile path) := by
  cases opening_of_openLog h with
  | noName _ _ => exact Or.inr ⟨_, rfl⟩
  | unopened _ _ _ => exact Or.inl ⟨_, rfl⟩

/-- All ways that a run can go. -/
inductive Course (w : World) (words : List String) (o : Outcome) : Prop where
  | help {topic : CommandLine.Topic} (hread : CommandLine.read words = .error (.help topic))
      (ho : o = { ending := .answered, printed := [topic.text], files := w.environment.files })
  | version (hread : CommandLine.read words = .error .version)
      (ho : o = { ending := .answered, printed := [CommandLine.versionText]
                  files := w.environment.files })
  | refused {fault : CommandLine.Fault} (hread : CommandLine.read words = .error (.fault fault))
      (ho : o = { ending := .refused fault, files := w.environment.files })
  | unloaded {invocation : Invocation} {fault : Settings.LoadFault}
      (hread : CommandLine.read words = .ok invocation)
      (hload : Settings.load w.environment invocation.config = .error fault)
      (ho : o = { ending := .failed (.settings fault), files := w.environment.files })
  | unlogged {invocation : Invocation} {settings : Settings} {ending : Ending} {files : FileTree}
      (hread : CommandLine.read words = .ok invocation)
      (hload : Settings.load w.environment invocation.config = .ok settings)
      (hlog : openLog settings.log w.environment.files = (.error ending, files))
      (ho : o = { ending, files })
  | carriedOut {invocation : Invocation} {settings : Settings} {sink : LogSink} {files : FileTree}
      {result : Except DeadlineFailure (List String)}
      (hread : CommandLine.read words = .ok invocation)
      (hload : Settings.load w.environment invocation.config = .ok settings)
      (hlog : openLog settings.log w.environment.files = (.ok sink, files))
      (hgoes : (service w settings.feed).Goes invocation.region invocation.command result o.requests)
      (hending : o.ending = .ofResult result) (hprinted : o.printed = linesOf result)

/-! ## The stages -/

section

variable (sink : LogSink) (files : FileTree) (records : List Log.Record) (ending : Ending)
  (printed : List String) (requests : Nat)

@[simp]
theorem close_ending : (close sink files records ending printed requests).ending = ending := by
  cases sink <;> rfl

/-- Records go to the log and not to standard output. -/
@[simp]
theorem close_printed : (close sink files records ending printed requests).printed = printed := by
  cases sink <;> rfl

@[simp]
theorem close_requests : (close sink files records ending printed requests).requests = requests := by
  cases sink <;> rfl

end

/-- The console that a run works with. Nothing has been printed on it. -/
def console (w : World) (feed : FeedSettings) : Console := { service := service w feed }

/-- With settings that pass the check a command is carried out to its end, and something is recorded
wherever the log goes. -/
theorem exists_carryOut_eq_close (hcheck : settings.check = .ok ()) :
    let performed := (console w settings.feed).perform invocation.region invocation.command
    ∃ records, carryOut w settings invocation sink files =
      close sink files records (.ofResult performed.1) performed.2.printed
        performed.2.service.store.source := by
  have hconnected : Service.connected settings.feed w.network w.today w.clock =
      .ok (service w settings.feed) := Service.connected_of_check hcheck w.network w.today w.clock
  have hconsole : ({ service := service w settings.feed } : Console) = console w settings.feed := rfl
  simp only [carryOut, hconnected, hconsole]
  generalize (console w settings.feed).perform invocation.region invocation.command = performed
  obtain ⟨result, after⟩ := performed
  cases result <;> exact ⟨_, rfl⟩

/-- A command line that is understood is carried on with. -/
theorem run_of_read (hread : CommandLine.read words = .ok invocation) :
    run w words = runInvocation w invocation := by
  simp only [run, hread]

/-- Settings that cannot be loaded end a run, and nothing has been done by then. -/
theorem run_of_unloaded {fault : Settings.LoadFault} (hread : CommandLine.read words = .ok invocation)
    (hload : Settings.load w.environment invocation.config = .error fault) :
    run w words = { ending := .failed (.settings fault), files := w.environment.files } := by
  simp only [run_of_read hread, runInvocation, hload]

/-- A log that cannot be opened ends a run, and nothing else has been done by then. -/
theorem run_of_unlogged {ending : Ending} (hread : CommandLine.read words = .ok invocation)
    (hload : Settings.load w.environment invocation.config = .ok settings)
    (hlog : openLog settings.log w.environment.files = (.error ending, files)) :
    run w words = { ending, files } := by
  simp only [run_of_read hread, runInvocation, hload, hlog]

/-- A run that opens its log ends with its records in it, and with what the command has come to. -/
theorem exists_run_eq_close (hread : CommandLine.read words = .ok invocation)
    (hload : Settings.load w.environment invocation.config = .ok settings)
    (hlog : openLog settings.log w.environment.files = (.ok sink, files)) :
    let performed := (console w settings.feed).perform invocation.region invocation.command
    ∃ records, run w words =
      close sink files records (.ofResult performed.1) performed.2.printed
        performed.2.service.store.source := by
  have hrun : run w words = carryOut w settings invocation sink files := by
    simp only [run_of_read hread, runInvocation, hload, hlog]
  rw [hrun]
  exact exists_carryOut_eq_close (Settings.check_of_load hload)

/-- A run that gets as far as its command ends with what the command comes to, and what the command has
printed is all that is printed. -/
theorem run_of_open {after : Service Nat} {result : Except DeadlineFailure (List String)}
    (hread : CommandLine.read words = .ok invocation)
    (hload : Settings.load w.environment invocation.config = .ok settings)
    (hlog : openLog settings.log w.environment.files = (.ok sink, files))
    (hperform : (console w settings.feed).perform invocation.region invocation.command =
      (console w settings.feed).leave after result) :
    (run w words).ending = .ofResult result ∧ (run w words).printed = linesOf result ∧
      (run w words).requests = after.store.source := by
  obtain ⟨records, hrun⟩ := exists_run_eq_close hread hload hlog
  rw [hrun, hperform, close_ending, close_printed, close_requests, Console.leave_service]
  refine ⟨?_, ?_, rfl⟩
  · cases result <;> rfl
  · cases result <;> rfl

/-- Every run goes in one of these ways. The cache of a run is empty when its command begins, so what
the command comes to goes by what is fetched. -/
theorem course_run (w : World) (words : List String) : Course w words (run w words) := by
  cases hread : CommandLine.read words with
  | error stop =>
    cases stop with
    | help topic => exact .help hread (by simp only [run, hread])
    | version => exact .version hread (by simp only [run, hread])
    | fault fault => exact .refused hread (by simp only [run, hread])
  | ok invocation =>
    cases hload : Settings.load w.environment invocation.config with
    | error fault => exact .unloaded hread hload (run_of_unloaded hread hload)
    | ok settings =>
      cases hlog : openLog settings.log w.environment.files with
      | mk opened files =>
      cases opened with
      | error ending => exact .unlogged hread hload hlog (run_of_unlogged hread hload hlog)
      | ok sink =>
        have hempty : (console w settings.feed).service.store.entry = none := rfl
        obtain ⟨after, result, hgoes, hperform⟩ :=
          Console.goesTo_of_empty hempty invocation.region invocation.command
        obtain ⟨hending, hprinted, hrequests⟩ := run_of_open hread hload hlog hperform
        rw [← hrequests] at hgoes
        exact .carriedOut hread hload hlog hgoes hending hprinted

/-! ## What is to be read off -/

namespace Course

variable {o : Outcome}

/-- Only a usage fault ends a run with exit code 2, and nothing has been done by then. -/
theorem of_usage (h : Course w words o) (hcode : o.ending.exitCode = 2) :
    ∃ fault, CommandLine.read words = .error (.fault fault) ∧
      o = { ending := .refused fault, files := w.environment.files } := by
  cases h with
  | refused hread ho => exact ⟨_, hread, ho⟩
  | help _ ho | version _ ho | unloaded _ _ ho =>
    rw [ho] at hcode
    cases hcode
  | unlogged _ _ hlog ho =>
    rw [ho] at hcode
    rcases openLog_error hlog with ⟨fault, rfl⟩ | ⟨path, rfl⟩ <;> cases hcode
  | @carriedOut _ _ _ _ result _ _ _ _ hending _ =>
    rw [hending] at hcode
    cases result <;> cases hcode

/-- An answer to a command is what the command has come to: all its lines are printed, and no others. -/
theorem of_answered (h : Course w words o) (hread : CommandLine.read words = .ok invocation)
    (hcode : o.ending.exitCode = 0) :
    ∃ settings sink files, Settings.load w.environment invocation.config = .ok settings ∧
      openLog settings.log w.environment.files = (.ok sink, files) ∧
      (service w settings.feed).Goes invocation.region invocation.command (.ok o.printed)
        o.requests := by
  cases h with
  | help hread' _ | version hread' _ | refused hread' _ => cases hread'.symm.trans hread
  | unloaded _ _ ho =>
    rw [ho] at hcode
    cases hcode
  | unlogged _ _ hlog ho =>
    rw [ho] at hcode
    rcases openLog_error hlog with ⟨fault, rfl⟩ | ⟨path, rfl⟩ <;> cases hcode
  | @carriedOut _ settings sink files result hread' hload hlog hgoes hending hprinted =>
    cases hread'.symm.trans hread
    rw [hending] at hcode
    rw [hprinted]
    cases result with
    | error failure => cases hcode
    | ok lines => exact ⟨settings, sink, files, hload, hlog, hgoes⟩

end Course

/-- No files, and one server that always replies with the same body. -/
def serving (body : String) : World where
  environment := ⟨[(Settings.urlVariable, "http://feed.test")], {}⟩
  network := .scripted [.reply { status := 200, body := Text.utf8 body }]
  today := ⟨738886, by decide, by decide⟩
  clock := ⟨0, 0⟩

/-- It gives the same reply to every request. -/
theorem answer_serving (body : String) (n : Nat) :
    (serving body).network.answer n = (serving body).network.answer 0 := by
  simp [serving, Network.scripted]

end Program

end Workday
