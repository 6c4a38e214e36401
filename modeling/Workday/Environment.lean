import Workday.FileTree

/-!
# The environment of a run

The variables and the files that a run of the program finds.
-/

set_option autoImplicit false

namespace Workday

/-- The variables and the files that a run finds. -/
structure Environment where
  /-- The variables that are set, each with its value. -/
  values : List (String × String) := []
  files : FileTree := {}

namespace Environment

/-- The value of a variable, if it is set. -/
def lookup (e : Environment) (name : String) : Option String := e.values.lookup name

/-- The directory for settings: the one that is set, if it is given from the root, else one in the
home directory. -/
def settingsDirectory? (e : Environment) : Option String :=
  match (e.lookup "XDG_CONFIG_HOME").filter FileTree.isAbsolute with
  | some directory => some directory
  | none =>
    ((e.lookup "HOME").filter (!·.isEmpty)).map fun home => FileTree.joined home ".config"

end Environment

end Workday
