import EventMessages.CommandLine.Grammar
import EventMessages.Tool.Run

/-!
# EventMessages.CommandLine.Verdict

How commands end. A command ends with its result, or with an exit code and what it writes to the
error stream, or with a failure that it does not report itself.
-/

namespace EventMessages.CommandLine

/-- How a command ends. -/
inductive Verdict (α : Type) where
  | done (result : α)
  | exited (code : Nat) (complaint : String)
  | failed (failure : Failure)
  deriving DecidableEq, Repr

/-- The end of a command whose work came to this. A failure that is reported is the last line. -/
def conclude {α : Type} (job : Job) : Except Failure α → Verdict α × Job
  | .ok result => (.done result, job)
  | .error failure =>
    if failure.isReported then (.exited 1 "", job.say ("Error: " ++ failure.message))
    else (.failed failure, job)

/-- Reads a command line and does the work that it asks for. Help and misuse end the command before
any work. -/
def Grammar.dispatch {α : Type} (g : Grammar) (argv : List String) (job : Job)
    (work : Found → Verdict α × Job) : Verdict α × Job :=
  match g.read argv with
  | .help => (.exited 0 "", job.say g.helpPage)
  | .misuse m => (.exited 2 (g.complaint m), job)
  | .found f => work f

end EventMessages.CommandLine
