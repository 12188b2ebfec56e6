import EventMessages.Build.Step
import EventMessages.CommandLine.Verdict

/-!
# EventMessages.CommandLine.Translate

The command that makes a constants file from a header that is there already, without running any
tool. The stamp is the digest of the definition that the header was compiled from.

A switch that must be given may still come without a value. The command then does what it can do
without that path, and fails where the path is needed.
-/

namespace EventMessages.CommandLine

/-- The switches of the translation command. -/
def translateGrammar : Grammar where
  program := "__main__.py"
  switches := [
    { names := ["-h", "--help"], asksHelp := true },
    { names := ["-o", "--output"], takesValue := true, required := true },
    { names := ["--origin"], takesValue := true, required := true }]
  operand? := some "header"
  usage := "usage: __main__.py [-h] -o OUTPUT --origin ORIGIN header"
  explanation := "\n".intercalate [
    "Translate a message-compiler header into Rust constants",
    "",
    "positional arguments:",
    "  header                Input header generated by mc/windmc",
    "",
    "options:",
    "  -h, --help            show this help message and exit",
    "  -o OUTPUT, --output OUTPUT",
    "                        Output .rs file",
    "  --origin ORIGIN       Message definition (.mc) file whose hash stamps the",
    "                        output"]

/-- Translates a header. It is opened even when there is no path to write to. -/
def translateTo (job : Job) (header : String) (generated? : Option String) (stamp : String) :
    Except Failure Nat × Job :=
  match generated? with
  | some generated => job.translate header generated stamp
  | none =>
    match job.files.content header with
    | .error fault => (.error (.access fault), job)
    | .ok _ => (.error .noPath, job)

/-- Hashes the definition and translates the header under its digest. -/
def runTranslate (job : Job) (header : String) (generated? origin? : Option String) :
    Except Failure Unit × Job :=
  match origin? with
  | none => (.error .noPath, job)
  | some origin =>
    match job.hashFile origin with
    | (.error failure, last) => (.error failure, last)
    | (.ok digest, hashed) =>
      match translateTo hashed header generated? digest with
      | (.error failure, last) => (.error failure, last)
      | (.ok _, last) => (.ok (), last)

/-- The translation command. -/
def translateCommand (job : Job) (argv : List String) : Verdict Unit × Job :=
  translateGrammar.dispatch argv job fun f =>
    let (result, last) :=
      runTranslate job (f.operand?.getD "") (f.value? "--output") (f.value? "--origin")
    conclude last result

end EventMessages.CommandLine
