import EventMessages.Failure
import EventMessages.FileSystem.Access
import EventMessages.Header.ConstantsFile

/-!
# EventMessages.Translation

From a header to a constants file.

The header is opened first, so a header that cannot be read leaves everything as it was. Then the
directories on the way to the constants file are made, the file is emptied and its first line is
written, and only after that the header is read. So a header that is its own constants file yields
no constants, unless the first line is so long that it does not wait in the buffer of the file: then
that line is all that is read.
-/

namespace EventMessages

/-- Writes the constants of a header under a stamp. The answer is their number. -/
def FileSystem.translate (fs : FileSystem) (header generated stamp : String) :
    FileSystem × Except Failure Nat :=
  match fs.content header with
  | .error fault => (fs, .error (.access fault))
  | .ok (source, bytes) =>
    match fs.openForWriting generated with
    | (opened, .error fault) => (opened, .error (.access fault))
    | (opened, .ok location) =>
      let constants :=
        Constant.ofHeader (if source = location then ConstantsFile.begun stamp else bytes)
      (opened.put location (.file (ConstantsFile.bytes stamp constants)), .ok constants.length)

/-- The line that reports a translation. -/
def translationLine (generated : String) (count : Nat) : String :=
  "  wrote " ++ generated ++ " (" ++ toString count ++ " constants)"

end EventMessages
