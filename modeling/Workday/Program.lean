import Workday.CommandLine.Help
import Workday.CommandLine.Reader
import Workday.FileTree.Writing
import Workday.Log.Filter
import Workday.Log.Journal
import Workday.Service.Command
import Workday.Settings.Load

/-!
# A run of the program

A run reads its command line, loads the settings, opens the log, and carries out one command with a
service of its own. The first stage that fails ends it. What a run has printed on standard output is
kept apart from how it ends: nothing that is printed can be taken back by a failure that comes later.
-/

set_option autoImplicit false

namespace Workday

/-- Why a run fails once its command line has been understood. -/
inductive RunFailure where
  | settings (fault : Settings.LoadFault)
  /-- The path of the log file is for no file. -/
  | noLogFile (path : String)
  | service (fault : Settings.Fault)
  | deadline (failure : DeadlineFailure)
  deriving DecidableEq

/-- The messages of a failure and its causes, outermost first. -/
def RunFailure.chain : RunFailure → List String
  | settings fault => [fault.message]
  | noLogFile path => ["Log file path has no file name: " ++ path]
  | service fault => [fault.message]
  | deadline failure => failure.chain

/-- How a run ends. -/
inductive Ending where
  /-- With an answer, or with help that was asked for. -/
  | answered
  /-- The command line is not understood. -/
  | refused (fault : CommandLine.Fault)
  | failed (failure : RunFailure)
  /-- The log file could not be opened, and the run broke off. -/
  | aborted (fault : FileTree.OpenFault)
  deriving DecidableEq

namespace Ending

/-- The exit code. -/
def exitCode : Ending → Nat
  | answered => 0
  | failed _ => 1
  | refused _ => 2
  | aborted _ => 101

/-- A message of a chain with its number. -/
def numbered (message : String) (i : Nat) : String :=
  "   " ++ toString i ++ ": " ++ message ++ "\n"

/-- What is printed on standard error after the log. A run that breaks off tells what it was at, and
what came of it, as the system words it. -/
def complaint : Ending → String
  | answered => ""
  | refused fault => fault.text
  | failed failure =>
    "Error: \n" ++ String.join (failure.chain.mapIdx fun i message => numbered message i)
  | aborted fault => "The application panicked (crashed).\nMessage:  " ++
      "initializing rolling file appender failed: " ++ fault.report ++ "\n"

end Ending

/-- What a run finds. -/
structure World where
  environment : Environment
  network : Network
  today : Date
  clock : Cache.Clock

/-- What a run leaves. -/
structure Outcome where
  ending : Ending
  /-- What was printed on standard output, the oldest first. -/
  printed : List String := []
  /-- The records that went to standard error. -/
  log : List Log.Record := []
  files : FileTree
  /-- How many requests servers have received. -/
  requests : Nat := 0

/-- Standard output as a whole. -/
def Outcome.output (o : Outcome) : String := String.join o.printed

namespace Program

/-- The moment of a clock. -/
def moment (clock : Cache.Clock) : Moment := ⟨clock.timeOfDay⟩

/-- What is recorded about a command, from the services before and after it and its result. -/
def commandRecords (endpoint : String) (command : Command) (before after : Service Nat)
    (result : Except DeadlineFailure Unit) : List Log.Record :=
  let start := moment before.store.clock
  let finish := moment after.store.clock
  let failure := match result with
    | .ok _ => none
    | .error failure => failure.fetchFailure?
  if command = .health then Log.probeRecords endpoint finish failure
  else if after.store.fetches = before.store.fetches then []
  else Log.fetchRecords endpoint before.ttl start finish failure

/-- Where a run logs to: standard error, or the file at a place. -/
inductive LogSink where
  | standardError
  | file (place : Place)
  deriving DecidableEq, Repr

/-- Opens the log: where it goes, or how the run ends, and the files after. -/
def openLog (settings : LogSettings) (files : FileTree) : Except Ending LogSink × FileTree :=
  match settings.file with
  | none => (.ok .standardError, files)
  | some path =>
    match FileTree.Target.ofPath? path with
    | none => (.error (.failed (.noLogFile path)), files)
    | some target =>
      match files.openForAppend target with
      | (.ok place, files) => (.ok (.file place), files)
      | (.error fault, files) => (.error (.aborted fault), files)

/-- The variable that states the filter of the log. -/
def filterVariable : String := "RUST_LOG"

/-- Ends a run with its records in the log. -/
def close (sink : LogSink) (files : FileTree) (records : List Log.Record) (ending : Ending)
    (printed : List String) (requests : Nat) : Outcome :=
  match sink with
  | .standardError => { ending, printed, log := records, files, requests }
  | .file place =>
    let lines := String.join (records.map fun r => r.line ++ "\n")
    { ending, printed, files := files.append place (Text.utf8 lines), requests }

/-- Carries out a command with settings that have been loaded and a log that is open. -/
def carryOut (w : World) (settings : Settings) (invocation : Invocation) (sink : LogSink)
    (files : FileTree) : Outcome :=
  let filter := Log.Filter.choose (w.environment.lookup filterVariable) settings.log.level
  let first := Log.starting (moment w.clock) settings.feed.url invocation.region
  match Service.connected settings.feed w.network w.today w.clock with
  | .error fault =>
    close sink files ([first].filter filter.allows) (.failed (.service fault)) [] 0
  | .ok service =>
    let (result, after) := Console.perform { service } invocation.region invocation.command
    let endpoint := (Client.ofSettings settings.feed).endpoint
    let records := first :: commandRecords endpoint invocation.command service after.service result
    let ending := match result with
      | .ok _ => .answered
      | .error failure => .failed (.deadline failure)
    close sink files (records.filter filter.allows) ending after.printed after.service.store.source

/-- A run with a command line that has been understood. -/
def runInvocation (w : World) (invocation : Invocation) : Outcome :=
  match Settings.load w.environment invocation.config with
  | .error fault => { ending := .failed (.settings fault), files := w.environment.files }
  | .ok settings =>
    match openLog settings.log w.environment.files with
    | (.error ending, files) => { ending, files }
    | (.ok sink, files) => carryOut w settings invocation sink files

/-- The files that settings may come from in a run. -/
def settingsPaths (e : Environment) (words : List String) : List String :=
  match CommandLine.read words with
  | .error _ => []
  | .ok invocation =>
    match invocation.config with
    | some path => [path]
    | none => Settings.candidates e

/-- The files that a run may log to. -/
def logPaths (e : Environment) (words : List String) : List String :=
  match CommandLine.read words with
  | .error _ => []
  | .ok invocation =>
    match Settings.load e invocation.config with
    | .error _ => []
    | .ok settings => settings.log.file.toList

/-- A run. -/
def run (w : World) (words : List String) : Outcome :=
  let files := w.environment.files
  match CommandLine.read words with
  | .error (.help topic) => { ending := .answered, printed := [topic.text], files }
  | .error .version => { ending := .answered, printed := [CommandLine.versionText], files }
  | .error (.fault fault) => { ending := .refused fault, files }
  | .ok invocation => runInvocation w invocation

end Program

end Workday
