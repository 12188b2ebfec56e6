import EventMessages.FileSystem.Fault
import EventMessages.Text.Utf8
import EventMessages.Yaml.Fault

/-!
# EventMessages.Failure

Why a request cannot be fulfilled, and the words for it. A failure is a cause; its message is put
together in one place, here.
-/

namespace EventMessages

/-- What is wrong with the surroundings or with a project file. -/
inductive Invalid where
  /-- A variable that must be set is missing or empty. -/
  | variable (name : String)
  /-- The project file is no well-formed YAML. -/
  | yaml
  /-- The project file holds something else than a mapping. -/
  | root
  /-- A key that must be there is missing or null. -/
  | missingSection
  /-- The section of the project is something else than a mapping. -/
  | sectionKind
  /-- A field of the project is no text, or a blank one. -/
  | field (name : String)
  deriving DecidableEq, Repr

/-- The key of a project file that everything else stands under. -/
def sectionKey : String := "msggen"

/-- The message of an invalid setting. Of a project file that is no well-formed YAML it says only
that; what the reader of YAML says of it is left out. -/
def Invalid.message : Invalid → String
  | .variable name => "Missing required environment variable '" ++ name ++ "'"
  | .yaml => "Invalid YAML"
  | .root => "YAML root must be a mapping"
  | .missingSection => "Missing required field '" ++ sectionKey ++ "' in root section"
  | .sectionKind => "'" ++ sectionKey ++ "' section must be a mapping"
  | .field name => "Field '" ++ name ++ "' in " ++ sectionKey ++ " section must be a non-empty string"

/-- What is wrong with a byte string that should be text. -/
def Text.Utf8.Reason.words : Text.Utf8.Reason → String
  | .start => "invalid start byte"
  | .continuation => "invalid continuation byte"
  | .truncated => "unexpected end of data"

/-- The message of a fault names the byte, or the range of bytes when there are several. -/
def Text.Utf8.Fault.message (f : Text.Utf8.Fault) : String :=
  let bytes :=
    match f.bytes with
    | [b] =>
      "byte 0x" ++ String.ofList (Text.hexPadded 2 b.toNat) ++ " in position " ++
        toString f.position
    | _ =>
      "bytes in position " ++ toString f.position ++ "-" ++
        toString (f.position + f.bytes.length - 1)
  "'utf-8' codec can't decode " ++ bytes ++ ": " ++ f.reason.words

/-- Why a request cannot be fulfilled. -/
inductive Failure where
  | invalid (cause : Invalid)
  /-- A path is needed where none was given. -/
  | noPath
  | access (fault : AccessFault)
  | undecodable (fault : Text.Utf8.Fault)
  | scalar (fault : Yaml.ScalarFault)
  deriving DecidableEq, Repr

/-- The message of a failure. -/
def Failure.message : Failure → String
  | .invalid cause => cause.message
  | .noPath => "expected str, bytes or os.PathLike object, not list"
  | .access .embeddedNul => "embedded null byte"
  | .access (.system fault) => fault.message
  | .undecodable fault => fault.message
  | .scalar fault => fault.message

/-- Whether a command reports the failure itself. Invalid settings and refusals of the system are
reported; a missing path, a path with a NUL, bytes that are no text and a scalar without meaning
are not. -/
def Failure.isReported : Failure → Bool
  | .invalid _ => true
  | .noPath => false
  | .access (.system _) => true
  | .access .embeddedNul => false
  | .undecodable _ => false
  | .scalar _ => false

end EventMessages
