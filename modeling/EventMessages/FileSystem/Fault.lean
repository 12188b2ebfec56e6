import EventMessages.Text.Quoted

/-!
# EventMessages.FileSystem.Fault

What the system answers when it cannot do what it was asked.
-/

namespace EventMessages

/-- The refusals of a file system. -/
inductive Refusal where
  | noEntry
  | alreadyExists
  | notDirectory
  | isDirectory
  | nameTooLong
  deriving DecidableEq, Repr

/-- The number of a refusal. -/
def Refusal.number : Refusal → Int
  | .noEntry => 2
  | .alreadyExists => 17
  | .notDirectory => 20
  | .isDirectory => 21
  | .nameTooLong => 36

/-- The words of a refusal. -/
def Refusal.reason : Refusal → String
  | .noEntry => "No such file or directory"
  | .alreadyExists => "File exists"
  | .notDirectory => "Not a directory"
  | .isDirectory => "Is a directory"
  | .nameTooLong => "File name too long"

/-- A refused request: its number, its words, and the path it was about, if there is one. -/
structure SystemFault where
  number : Int
  reason : String
  path? : Option String
  deriving DecidableEq, Repr

/-- The message of a fault quotes the path as it was given. -/
def SystemFault.message (f : SystemFault) : String :=
  "[Errno " ++ toString f.number ++ "] " ++ f.reason ++
    match f.path? with
    | none => ""
    | some path => ": " ++ Text.quoted path

/-- A refusal of a request about a path. -/
def Refusal.about (r : Refusal) (path : String) : SystemFault := ⟨r.number, r.reason, some path⟩

/-- Why a file could not be reached. -/
inductive AccessFault where
  /-- The path holds a NUL, which no system call can take. -/
  | embeddedNul
  | system (fault : SystemFault)
  deriving DecidableEq, Repr

example : (Refusal.about .noEntry "a.mc").message = "[Errno 2] No such file or directory: 'a.mc'" := by
  decide

end EventMessages
