import EventMessages.Build.Report
import EventMessages.Build.Step
import EventMessages.Project

/-!
# EventMessages.Build.Pipeline

Building the messages of a project. Both branches go the same way:

```
digest of the definition → message compiler → resource compiler → constants file → directives
```

The native branch builds into the resource directory, which is kept from build to build, and skips
the three steps in the middle when the constants file carries the digest already. The cross branch
builds into a scratch directory and skips nothing. A tool that cannot be started does not stop a
build, for the library may be there from elsewhere; a header that cannot be read does, and so does
a call that the system cannot take.
-/

namespace EventMessages

namespace Job

/-! ## Making everything anew -/

/-- Prints the directives and closes the report. -/
def finish (job : Job) (report : Report) (directory name : String) :
    Except Failure Report × Job :=
  let directives := linkDirectives directory name
  (.ok { report with directives }, job.sayAll directives)

/-- The names of the two compilers and the arguments they take in front of or between the paths. -/
structure Compilers where
  message : String
  resource : String
  /-- The arguments of the resource compiler, for a script and a library. -/
  resourceArgs : String → String → List String

/-- The compilers of a Windows host. -/
def Compilers.native : Compilers where
  message := "mc.exe"
  resource := "rc.exe"
  resourceArgs script library := ["/v", "/fo", library, script]

/-- The compilers of any other host. -/
def Compilers.cross : Compilers where
  message := "windmc"
  resource := "windres"
  resourceArgs script library := ["-v", "-i", script, "-o", library]

/-- The line that says what is made from what. -/
def generatingLine (generated input digest : String) : String :=
  "Generating " ++ generated ++ " from " ++ input ++ " with hash " ++ digest

/-- Compiles the definition, compiles the resources and translates the header, all in one
directory. -/
def regenerate (job : Job) (compilers : Compilers) (settings : Settings) (project : Project)
    (directory : String) (report : Report) : Except Failure Report × Job :=
  let input := project.inputPath settings.root
  let generated := project.constantsIn directory
  let started := job.say (generatingLine generated input report.digest)
  match started.invoke settings compilers.message
      ["-U", "-h", directory, "-r", directory, input] with
  | (.error failure, last) => (.error failure, last)
  | (.ok message, compiled) =>
    match compiled.invoke settings compilers.resource
        (compilers.resourceArgs (project.scriptIn directory) (project.libraryIn directory)) with
    | (.error failure, last) => (.error failure, last)
    | (.ok resource, linked) =>
      match linked.translate (project.headerIn directory) generated report.digest with
      | (.error failure, last) => (.error failure, last)
      | (.ok constants, last) =>
        last.finish { report with regenerated := true, constants, tools := [message, resource] }
          directory project.name

/-! ## The branches -/

/-- Builds into the resource directory, if the constants file there is stale. -/
def buildNative (job : Job) (settings : Settings) (project : Project) :
    Except Failure Report × Job :=
  let input := project.inputPath settings.root
  let directory := project.resPath settings.root
  let generated := project.constantsIn directory
  match job.hashFile input with
  | (.error failure, last) => (.error failure, last)
  | (.ok digest, hashed) =>
    match hashed.lookFor generated digest with
    | (.error failure, last) => (.error failure, last)
    | (.ok presence, looked) =>
      let report : Report := { branch := .native, digest }
      if presence.isPresent then looked.finish report directory project.name
      else looked.regenerate .native settings project directory report

/-- Builds into the scratch directory. -/
def buildCross (job : Job) (settings : Settings) (project : Project) :
    Except Failure Report × Job :=
  match settings.outDir? with
  | none => (.error (.invalid (.variable "OUT_DIR")), job)
  | some directory =>
    if directory.isEmpty then (.error (.invalid (.variable "OUT_DIR")), job)
    else
      match job.hashFile (project.inputPath settings.root) with
      | (.error failure, last) => (.error failure, last)
      | (.ok digest, hashed) =>
        hashed.regenerate .cross settings project directory { branch := .cross, digest }

/-- Builds on the branch of the host. -/
def build (job : Job) (settings : Settings) (project : Project) : Except Failure Report × Job :=
  if settings.onWindows then job.buildNative settings project
  else job.buildCross settings project

end Job

end EventMessages
