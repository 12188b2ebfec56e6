import EventMessages.Digest
import EventMessages.Failure
import EventMessages.FileSystem.Access
import EventMessages.Text.Lines
import EventMessages.Text.Occurrence

/-!
# EventMessages.Stamp

Stamps: the digest of a message definition, and the question whether a constants file carries it.

The question is asked of the text of the file, line by line. A file that is missing or cannot be
read does not carry any stamp, whereas a path that no system call can take is a failure.
-/

namespace EventMessages

open Text

/-! ## Digests of files -/

/-- The digest of a file. -/
def FileSystem.digest (fs : FileSystem) (path : String) : Except Failure String :=
  match fs.content path with
  | .error fault => .error (.access fault)
  | .ok (_, bytes) => .ok (Digest.ofContent bytes)

/-- The line that reports a digest. -/
def digestLine (path digest : String) : String := "file=" ++ path ++ ", hash=" ++ digest

/-! ## Carrying a stamp -/

/-- Whether a line of the text file holds the needle. -/
def lineHolds (bytes : List UInt8) (needle : String) : Bool :=
  (lines (unifyBreaks (Utf8.decodeLossy bytes))).any (occursIn needle.toList)

/-- What a file says about a stamp. -/
inductive Presence where
  | present
  | absent
  /-- The file could not be read. -/
  | unreadable (fault : SystemFault)
  deriving DecidableEq, Repr

/-- Whether the stamp is known to be there. -/
def Presence.isPresent : Presence → Bool
  | .present => true
  | .absent => false
  | .unreadable _ => false

/-- Looks for a stamp in a file. -/
def FileSystem.stamp? (fs : FileSystem) (path needle : String) : Except Failure Presence :=
  match fs.content path with
  | .error .embeddedNul => .error (.access .embeddedNul)
  | .error (.system fault) => .ok (.unreadable fault)
  | .ok (_, bytes) => .ok (if lineHolds bytes needle then .present else .absent)

/-- The line that reports a look for a stamp. -/
def Presence.line (path needle : String) : Presence → String
  | .present => "file=" ++ path ++ " contains " ++ needle
  | .absent => "file=" ++ path ++ " does not contain " ++ needle
  | .unreadable fault =>
    "file=" ++ path ++ " unreadable (" ++ fault.message ++ "), treating as stale"

end EventMessages
