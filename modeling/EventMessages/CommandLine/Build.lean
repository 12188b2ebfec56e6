import EventMessages.Build.Pipeline
import EventMessages.CommandLine.Verdict
import EventMessages.ProjectFile

/-!
# EventMessages.CommandLine.Build

The command that builds the messages of a project.

Its surroundings come from the environment. The project comes from the project file in the root, or
from another file that the command line names, and the command line may name another definition.
-/

namespace EventMessages.CommandLine

/-- The switches of the build command. -/
def buildGrammar : Grammar where
  program := "build.py"
  switches := [
    { names := ["-h", "--help"], asksHelp := true },
    { names := ["--input"], takesValue := true },
    { names := ["--config"], takesValue := true },
    { names := ["--dump-env"] }]
  operand? := none
  usage := "usage: build.py [-h] [--input INPUT] [--config CONFIG] [--dump-env]"
  explanation := "\n".intercalate [
    "event-message build step",
    "",
    "options:",
    "  -h, --help       show this help message and exit",
    "  --input INPUT    Message definition file, relative to the project root",
    "                   (default: from msggen.yaml, else res/eventmsgs.mc)",
    "  --config CONFIG  Project file (default: <project root>/msggen.yaml)",
    "  --dump-env       Print every environment variable before building"]

/-- The value of a switch that is not empty. -/
def Found.text? (f : Found) (name : String) : Option String :=
  match f.value? name with
  | none => none
  | some value => if value.isEmpty then none else some value

/-- The project that a command line asks for. -/
def projectFor (fs : FileSystem) (settings : Settings) (f : Found) : Except Failure Project := do
  let path := (f.text? "--config").getD (Path.join settings.root Project.fileName)
  let project ← Project.load fs path
  match f.text? "--input" with
  | none => pure project
  | some input => pure { project with input }

/-- Builds what a command line asks for. -/
def runBuild (job : Job) (env : Environment) (defaultRoot currentDirectory : String)
    (onWindows : Bool) (f : Found) : Except Failure Report × Job :=
  match Settings.ofEnvironment env (some defaultRoot) currentDirectory onWindows with
  | .error failure => (.error failure, job)
  | .ok settings =>
    match projectFor job.files settings f with
    | .error failure => (.error failure, job)
    | .ok project => job.build settings project

/-- The build command. -/
def buildCommand (job : Job) (argv : List String) (env : Environment)
    (defaultRoot currentDirectory : String) (onWindows : Bool) : Verdict Report × Job :=
  buildGrammar.dispatch argv job fun f =>
    let started := if f.has "--dump-env" then job.sayAll env.lines else job
    let (result, last) := runBuild started env defaultRoot currentDirectory onWindows f
    conclude last result

end EventMessages.CommandLine
