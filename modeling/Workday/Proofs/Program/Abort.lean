import Workday.Proofs.FileTree.Opening
import Workday.Proofs.Program.Course

/-!
# Runs that break off

Every failure of a run is reported, with one exception. A log file whose path has no name is reported
like any other fault of the settings; a log file that has a name and cannot be opened breaks the run
off with exit code 101. Which files these are is told by the file tree alone (`FileTree.CanOpen`): the
path or a name on it is too long or has a NUL in it, a directory stands in the place of the file,
something on the way is no directory, or a right is missing that it takes to get there, to make what is
missing or to write to the file.
-/

set_option autoImplicit false

namespace Workday.Program

variable {w : World} {words : List String} {log : LogSettings} {t : FileTree}
  {fault : FileTree.OpenFault}

end Workday.Program
