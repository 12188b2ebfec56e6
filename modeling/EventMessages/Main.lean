import EventMessages.CommandLine.Build
import EventMessages.CommandLine.Translate

/-!
# EventMessages.Main

The program:

```
build [--input INPUT] [--config CONFIG] [--dump-env]
translate header -o OUTPUT --origin ORIGIN
```

It takes a snapshot of the files, runs one of the two commands on it, and then writes the files that
the command changed and prints what it said. The snapshot holds the trees below the current
directory, below the project root and below the scratch directory; links are left out. No other
program is started from here, so to a build its compilers are missing, and it goes on with the
header that is there.
-/

namespace EventMessages.Main

/-! ## Snapshots -/

/-- The absolute path of a location. -/
def pathOf (location : Location) : String := "/" ++ "/".intercalate location.reverse

/-- The location of an absolute path without dots. -/
def locationOf (path : String) : Location := (Path.route path).names.reverse

/-- Adds what lies below a directory. -/
partial def addBelow (fs : FileSystem) (location : Location) : IO FileSystem := do
  let directory ← IO.FS.realPath (pathOf location)
  let mut found := fs
  for entry in (← directory.readDir) do
    let there := entry.fileName :: location
    match (← entry.path.symlinkMetadata).type with
    | .dir => found ← addBelow (found.put there .directory) there
    | .file => found := found.put there (.file (← IO.FS.readBinFile entry.path).toList)
    | _ => pure ()
  pure found

/-- Adds a directory with all that lies above and below it, if there is such a directory. -/
def addTree (fs : FileSystem) (path : String) : IO FileSystem := do
  let directory ← IO.FS.realPath path
  if ← directory.isDir then
    let location := locationOf directory.toString
    let above := (FileSystem.ancestry location).foldl (fun fs place => fs.put place .directory) fs
    addBelow above location
  else pure fs

/-- Writes the files and makes the directories that are not in the snapshot as they are now. -/
def writeChanges (snapshot now : FileSystem) : IO Unit :=
  for (location, entry) in now.entries do
    if snapshot.item? location ≠ some entry then
      match entry with
      | .directory => IO.FS.createDirAll (pathOf location)
      | .file bytes => IO.FS.writeBinFile (pathOf location) ⟨bytes.toArray⟩

/-! ## Surroundings -/

/-- A variable with its value, from its name, an equals sign and its value. -/
def variableOf? (text : String) : Option (String × String) :=
  match text.splitOn "=" with
  | [] => none
  | [_] => none
  | name :: value => some (name, "=".intercalate value)

/-- The variables of this process. -/
def currentEnvironment : IO Environment := do
  let bytes ← IO.FS.readBinFile "/proc/self/environ"
  let text := String.ofList (Text.Utf8.decodeLossy bytes.toList)
  pure ((text.splitOn "\x00").filterMap variableOf?)

/-- What a program does that is not there. -/
def missingProgram : Performance where
  ending := .refused Refusal.noEntry.number Refusal.noEntry.reason true

/-- Writes and prints what a command did. The answer is the exit code. -/
def report {α : Type} (snapshot : FileSystem) (verdict : CommandLine.Verdict α) (job : Job) :
    IO UInt32 := do
  writeChanges snapshot job.files
  for line in job.log do
    IO.println line
  match verdict with
  | .done _ => pure 0
  | .exited code complaint => do
    IO.eprint complaint
    pure (UInt32.ofNat code)
  | .failed failure => do
    IO.eprintln failure.message
    pure 1

/-- Runs the command that the first word names. -/
def run (args : List String) : IO UInt32 := do
  let here := (← IO.currentDir).toString
  let env ← currentEnvironment
  let roots := here :: ["CARGO_MANIFEST_DIR", "OUT_DIR"].filterMap env.value?
  let files ← roots.foldlM addTree (FileSystem.rootedAt (locationOf here))
  let job : Job := { files, script := [missingProgram, missingProgram] }
  match args with
  | "build" :: argv => do
    let (verdict, last) := CommandLine.buildCommand job argv env here here false
    report files verdict last
  | "translate" :: argv => do
    let (verdict, last) := CommandLine.translateCommand job argv
    report files verdict last
  | _ => do
    IO.eprintln "expected one of the commands: build, translate"
    pure 2

end EventMessages.Main

/-- Runs a command. -/
def main (args : List String) : IO UInt32 := EventMessages.Main.run args
