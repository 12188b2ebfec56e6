import EventMessages.FileSystem.Access
import EventMessages.Text.Lines
import EventMessages.Text.Utf8
import EventMessages.Tool.Program

/-!
# EventMessages.Tool.Run

Running tools. What the programs of a machine do is not known here: it is given as a list of
performances, one for each start, in order. A performance says which files the program makes and
how it ends; a start beyond the list makes nothing and ends well.

A program that cannot be started is a result like any other, and so is one that ends badly. Only a
call with a NUL in it fails: the system can take no such word, so nothing is started and there is no
result.
-/

namespace EventMessages

open Text

/-! ## Programs -/

/-- How a started program ends. -/
inductive Ending where
  /-- It could not be started. The fault is about the program when `named` is set. -/
  | refused (number : Int) (reason : String) (named : Bool)
  /-- It ran and left this status and this output. -/
  | ended (status : Int) (output errors : List UInt8)
  deriving DecidableEq, Repr

/-- What one start of a program does. -/
structure Performance where
  /-- The files it makes, in order. -/
  writes : List (String × List UInt8) := []
  ending : Ending := .ended 0 [] []
  deriving DecidableEq, Repr

/-- What became of a tool. -/
inductive Outcome where
  /-- It did not start, for this reason. -/
  | notStarted (reason : String)
  | ended (status : Int) (output errors : String)
  deriving DecidableEq, Repr

/-- Whether the program ran. -/
def Outcome.started : Outcome → Bool
  | .notStarted _ => false
  | .ended _ _ _ => true

/-- A run of a tool: the program it was and what became of it. -/
structure ToolResult where
  program : String
  outcome : Outcome
  deriving DecidableEq, Repr

/-! ## Jobs -/

/-- A build in progress: the files, what the programs will do, what was printed, line by line, and
the programs that were called, each with its arguments. -/
structure Job where
  files : FileSystem
  script : List Performance := []
  log : List String := []
  calls : List (List String) := []
  deriving DecidableEq, Repr

namespace Job

/-- Prints a line. -/
def say (job : Job) (line : String) : Job := { job with log := job.log ++ [line] }

/-- Prints lines. -/
def sayAll (job : Job) (lines : List String) : Job := { job with log := job.log ++ lines }

/-- The job with other files. -/
def withFiles (job : Job) (files : FileSystem) : Job := { job with files }

/-! ## One tool -/

/-- Makes files until one cannot be made. -/
def makeFiles (fs : FileSystem) :
    List (String × List UInt8) → FileSystem × Option AccessFault
  | [] => (fs, none)
  | (path, bytes) :: rest =>
    match fs.store path bytes with
    | (made, .error fault) => (made, some fault)
    | (made, .ok ()) => makeFiles made rest

/-- The output of a program as text. -/
def outputText (bytes : List UInt8) : String :=
  String.ofList (unifyBreaks (Utf8.decodeLossy bytes))

/-- What becomes of a program that performs like this. Files that cannot be made keep it from
starting. -/
def outcomeOf (program : String) (fault? : Option AccessFault) : Ending → Outcome
  | .refused number reason named =>
    match fault? with
    | some (.system fault) => .notStarted fault.message
    | _ => .notStarted (SystemFault.message ⟨number, reason, if named then some program else none⟩)
  | .ended status output errors =>
    match fault? with
    | some (.system fault) => .notStarted fault.message
    | _ => .ended status (outputText output) (outputText errors)

/-- A text without the line breaks at its end. -/
def trimBreaks (text : String) : String :=
  String.ofList (text.toList.reverse.dropWhile (· == '\n')).reverse

/-- The lines that report an outcome: the errors, then the output, then a status that is not 0. -/
def outcomeLines (program : String) : Outcome → List String
  | .notStarted reason => ["ERROR: Failed to run command: " ++ program ++ ", error: " ++ reason]
  | .ended status output errors =>
    (if errors.isEmpty then [] else [trimBreaks errors]) ++
      (if output.isEmpty then [] else [trimBreaks output]) ++
      (if status = 0 then [] else [program ++ " exited with status " ++ toString status])

/-- Whether the system can take these words for a program and its arguments. None of them may hold a
NUL. -/
def isStartable (call : List String) : Bool := call.all fun word => !FileSystem.hasNul word

/-- Prints a call and counts it among those that were made. -/
def attempt (job : Job) (call : List String) : Job :=
  { job with log := job.log ++ [">>> " ++ " ".intercalate call], calls := job.calls ++ [call] }

/-- Lets a program perform and prints what came of it. -/
def perform (job : Job) (program : String) : ToolResult × Job :=
  let performance := job.script.headD {}
  let (files, fault?) := makeFiles job.files performance.writes
  let outcome := outcomeOf program fault? performance.ending
  (⟨program, outcome⟩,
    { job with files, script := job.script.tail, log := job.log ++ outcomeLines program outcome })

/-- Runs a tool whose call the system can take. -/
def runTool (job : Job) (settings : Settings) (tool : String) (args : List String) :
    ToolResult × Job :=
  let program := settings.program tool
  (job.attempt (program :: args)).perform program

/-- Calls a tool. A call that the system cannot take fails, and no program performs. -/
def callTool (job : Job) (settings : Settings) (tool : String) (args : List String) :
    Except Failure ToolResult × Job :=
  let call := settings.program tool :: args
  if isStartable call then
    let (result, ran) := job.runTool settings tool args
    (.ok result, ran)
  else (.error (.access .embeddedNul), job.attempt call)

end Job

end EventMessages
