import Workday.Environment
import Workday.Settings.Text

/-!
# Loading settings

Settings come from one file: the one that is asked for, else the first one there is of the file in
the working directory and the file in the directory for settings. Without a file the defaults hold.
A variable replaces the URL, and what results is checked.
-/

set_option autoImplicit false

namespace Workday.Settings

/-- Why settings cannot be loaded. -/
inductive LoadFault where
  | notFound (path : String)
  | unreadable (path : String) (fault : FileTree.Fault)
  | malformed (path : String) (fault : Yaml.ReadFault)
  | unusable (fault : Settings.Fault)
  deriving DecidableEq, Repr

/-- The wording of a fault. -/
def LoadFault.message : LoadFault → String
  | notFound path => "Config file not found: " ++ path
  | unreadable path fault => "Failed to read config file " ++ path ++ ": " ++ fault.message
  | malformed path fault => "Failed to parse config file " ++ path ++ ": " ++ fault.message
  | unusable fault => fault.message

/-- The name of the file in the working directory. -/
def localFile : String := "san-working-days.yaml"

/-- The variable that replaces the URL. -/
def urlVariable : String := "SAN_BANK_HOLIDAYS_API_URL"

/-- The files that settings may come from if none is asked for, the first one preferred. -/
def candidates (e : Environment) : List String :=
  localFile :: (e.settingsDirectory?.map fun directory =>
    FileTree.joined (FileTree.joined directory "san-working-days") "config.yaml").toList

/-- The file that settings come from, if any. -/
def choose (e : Environment) (asked : Option String) : Except LoadFault (Option String) :=
  match asked with
  | some path => if e.files.has path then .ok (some path) else .error (.notFound path)
  | none => .ok ((candidates e).find? e.files.has)

/-- The settings in a file. -/
def readFile (e : Environment) (path : String) : Except LoadFault Settings :=
  match e.files.readText path with
  | .error fault => .error (.unreadable path fault)
  | .ok text => (read text).mapError (.malformed path)

/-- The same settings with another URL. -/
def withUrl (s : Settings) (url : String) : Settings := { s with feed := { s.feed with url } }

/-- Loads the settings for a run, with the file that is asked for, if any. -/
def load (e : Environment) (asked : Option String) : Except LoadFault Settings := do
  let found ← match ← choose e asked with
    | some path => readFile e path
    | none => pure {}
  let s := match e.lookup urlVariable with
    | some url => found.withUrl url
    | none => found
  match s.check with
  | .ok _ => return s
  | .error fault => throw (.unusable fault)

end Workday.Settings
