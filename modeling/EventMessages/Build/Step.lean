import EventMessages.Stamp
import EventMessages.Tool.Run
import EventMessages.Translation

/-!
# EventMessages.Build.Step

The steps that builds are made of. Each prints what it did. A step that fails leaves the job where
the failure found it.
-/

namespace EventMessages.Job

/-- Hashes a file. -/
def hashFile (job : Job) (path : String) : Except Failure String × Job :=
  match job.files.digest path with
  | .error failure => (.error failure, job)
  | .ok digest => (.ok digest, job.say (digestLine path digest))

/-- Looks for a stamp in a file. -/
def lookFor (job : Job) (path stamp : String) : Except Failure Presence × Job :=
  match job.files.stamp? path stamp with
  | .error failure => (.error failure, job)
  | .ok presence => (.ok presence, job.say (presence.line path stamp))

/-- Calls a tool. A program that does not start is not missed. -/
def invoke (job : Job) (settings : Settings) (tool : String) (args : List String) :
    Except Failure ToolResult × Job :=
  match job.callTool settings tool args with
  | (.error failure, last) => (.error failure, last)
  | (.ok result, ran) =>
    if result.outcome.started then (.ok result, ran)
    else (.ok result, ran.say ("Continuing without " ++ result.program))

/-- Translates a header. -/
def translate (job : Job) (header generated stamp : String) : Except Failure Nat × Job :=
  match job.files.translate header generated stamp with
  | (files, .error failure) => (.error failure, job.withFiles files)
  | (files, .ok count) =>
    (.ok count, (job.withFiles files).say (translationLine generated count))

end EventMessages.Job
