import Std.Time.Zoned
import Workday.Program

/-!
# The command

Takes the arguments, the variables, the clock and the files that a run looks at, leaves the run to
`Program.run`, and prints and stores what it leaves. There is no transport here, so a run finds a
network on which no server is reached.
-/

set_option autoImplicit false

namespace Workday.Main

/-- The variables that a run looks at. -/
def variableNames : List String :=
  [Settings.urlVariable, Program.filterVariable, "XDG_CONFIG_HOME", "HOME"]

/-- The variables that are set. -/
def readVariables : IO (List (String × String)) :=
  variableNames.filterMapM fun name => do
    return (← IO.getEnv name).map fun value => (name, value)

/-- The path from the root to a place. -/
def pathTo (place : Place) : String := "/" ++ "/".intercalate place

/-- Whether what stands at a path can be opened. -/
def canOpen (path : String) (mode : IO.FS.Mode) : IO Bool := do
  try
    let _ ← IO.FS.Handle.mk path mode
    return true
  catch _ =>
    return false

/-- Whether a path leads anywhere. -/
def leads (path : String) : IO Bool := do
  try
    let _ ← IO.FS.realPath path
    return true
  catch _ =>
    return false

/-- What stands on disk at a place, with the rights to it that show without anything being changed. -/
def entryAt? (place : Place) : IO (Option FileTree.Entry) := do
  let path := pathTo place
  try
    let _ ← IO.FS.realPath (path ++ "/.")
    return some (.directory { read := ← canOpen path .read })
  catch barred =>
    match barred with
    | .permissionDenied .. =>
      return if ← leads path then some (.directory { search := false }) else none
    | _ =>
      try
        let bytes ← IO.FS.readBinFile path
        return some (.file bytes.toList { write := ← canOpen path .append })
      catch unread =>
        match unread with
        | .permissionDenied .. =>
          return some (.file [] { read := false, write := ← canOpen path .append })
        | _ => return none

/-- The files and directories on the way to some paths. -/
def readFiles (workingDirectory : Place) (paths : List String) : IO FileTree := do
  let mut tree : FileTree := { workingDirectory }
  for path in paths do
    for place in FileTree.route (tree.origin path) (FileTree.names path) do
      if let some entry ← entryAt? place then
        tree := tree.put place entry
  return tree

/-- Stores what has been put into a tree, the oldest first. To files something is only ever added. -/
def writeFiles (before after : FileTree) : IO Unit := do
  let added := after.entries.take (after.entries.length - before.entries.length)
  for (place, entry) in added.reverse do
    match entry with
    | .directory _ => IO.FS.createDirAll (pathTo place)
    | .file bytes _ =>
      let held := match before.lookup place with
        | some (.file bytes _) => bytes.length
        | _ => 0
      let handle ← IO.FS.Handle.mk (pathTo place) .append
      handle.write ⟨(bytes.drop held).toArray⟩

/-- Today's date where the program runs. -/
def readToday : IO Date := do
  let today ← Std.Time.PlainDate.now
  return (Date.ofDay? (Moment.epochDay + today.toEpochDay.val)).getD .last

/-- The time of day now, from which monotonic time is counted. -/
def readClock : IO Cache.Clock := do
  let now ← Std.Time.Timestamp.now
  return ⟨0, now.toMillisecondsSinceUnixEpoch.val⟩

/-- Prints what a run leaves. -/
def report (outcome : Outcome) : IO Unit := do
  for line in outcome.printed do
    IO.print line
  for record in outcome.log do
    IO.eprintln record.line
  IO.eprint outcome.ending.complaint

/-- Runs the program with the arguments after its name. -/
def runHere (words : List String) : IO UInt32 := do
  let values ← readVariables
  let directory := FileTree.place (← IO.currentDir).toString
  let settingsPaths := Program.settingsPaths ⟨values, {}⟩ words
  let known ← readFiles directory settingsPaths
  let logPaths := Program.logPaths ⟨values, known⟩ words
  let files ← readFiles directory (settingsPaths ++ logPaths)
  let world := ⟨⟨values, files⟩, .unreachable, ← readToday, ← readClock⟩
  let outcome := Program.run world words
  writeFiles files outcome.files
  report outcome
  return UInt32.ofNat outcome.ending.exitCode

end Workday.Main

/-- The command. -/
def main (words : List String) : IO UInt32 := Workday.Main.runHere words
