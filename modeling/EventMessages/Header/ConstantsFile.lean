import EventMessages.Header.Constant

/-!
# EventMessages.Header.ConstantsFile

The generated constants file. Its first line names the digest of the message definition it was made
from, and each further line declares one constant:

```
// Auto-generated from origin with SHA256 DIGEST.
pub const NAME: u32 = VALUE;
```
-/

namespace EventMessages

open Text

/-- The line that says which definition a constants file was made from. -/
def provenance (stamp : String) : String :=
  "// Auto-generated from origin with SHA256 " ++ stamp ++ "."

namespace Constant

/-- The type of every constant. -/
def typeName : String := "u32"

/-- The declaration of a constant. -/
def declaration (c : Constant) : String :=
  "pub const " ++ c.name ++ ": " ++ typeName ++ " = " ++ c.value ++ ";"

end Constant

namespace ConstantsFile

/-- The text of a constants file. -/
def text (stamp : String) (constants : List Constant) : List Char :=
  (provenance stamp).toList ++ '\n' :: constants.flatMap fun c => c.declaration.toList ++ ['\n']

/-- The content of a constants file. -/
def bytes (stamp : String) (constants : List Constant) : List UInt8 :=
  Utf8.encode (text stamp constants)

/-- How many bytes are written at once. Fewer wait until there are more or the file is closed. -/
def bufferSize : Nat := 8192

/-- What has come of the first line by the time that the constants are looked for. -/
def begun (stamp : String) : List UInt8 :=
  if (bytes stamp []).length < bufferSize then [] else bytes stamp []

end ConstantsFile

end EventMessages
