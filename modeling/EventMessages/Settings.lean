import EventMessages.Failure

/-!
# EventMessages.Settings

The surroundings of a build: what it is built for, where, and on which host. They are read once
from the environment; nothing else looks at it.
-/

namespace EventMessages

/-- The surroundings of a build. -/
structure Settings where
  /-- What is built for: parts joined by hyphens, the architecture first. -/
  target : String
  /-- The project root. -/
  root : String
  /-- The scratch directory of the build. -/
  outDir? : Option String := none
  /-- Whether the build runs on Windows. -/
  onWindows : Bool := false
  deriving DecidableEq, Repr

/-- Variables with their values. -/
abbrev Environment := List (String × String)

/-- The value of a variable that is set and not empty. -/
def Environment.value? (env : Environment) (name : String) : Option String :=
  match env.find? fun v => v.1 = name with
  | none => none
  | some (_, value) => if value.isEmpty then none else some value

/-- Reads the settings. The target must be given; the root is the given one, or the default, or the
current directory. -/
def Settings.ofEnvironment (env : Environment) (defaultRoot? : Option String)
    (currentDirectory : String) (onWindows : Bool) : Except Failure Settings :=
  match env.value? "TARGET" with
  | none => .error (.invalid (.variable "TARGET"))
  | some target =>
    let fallback :=
      match defaultRoot? with
      | none => currentDirectory
      | some root => if root.isEmpty then currentDirectory else root
    .ok
      { target
        root := (env.value? "CARGO_MANIFEST_DIR").getD fallback
        outDir? := env.value? "OUT_DIR"
        onWindows }

/-- The architecture: the part of the target before the first hyphen. -/
def Settings.arch (s : Settings) : String :=
  String.ofList (s.target.toList.takeWhile (· != '-'))

/-- The lines that show an environment, sorted by name. -/
def Environment.lines (env : Environment) : List String :=
  (env.mergeSort fun a b => a.1 ≤ b.1).map fun v => "Env[" ++ v.1 ++ "]=" ++ v.2

end EventMessages
