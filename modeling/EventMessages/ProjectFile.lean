import EventMessages.Failure
import EventMessages.FileSystem.Access
import EventMessages.Project
import EventMessages.Text.Blank
import EventMessages.Text.Lines
import EventMessages.Yaml.Filling

/-!
# EventMessages.ProjectFile

Project files. A project file is a YAML mapping with one section, whose fields may name the
definition, the resource directory and the project:

```
msggen:
  input: res/eventmsgs.mc
  res_dir: res
  name: eventmsgs
```

A field that is missing or null keeps its default, and so does every field when there is no file or
nothing but blanks in it. Whatever else the file holds does not matter.
-/

namespace EventMessages

namespace Project

/-! ## Data -/

/-- The text of a field: its default when it is missing or null. A text must hold more than
blanks. -/
def fieldOf (d : Yaml.Document) (entries : List (Yaml.NodeId × Yaml.NodeId))
    (name fallback : String) : Except Invalid String :=
  match d.value? entries name with
  | none => .ok fallback
  | some .null => .ok fallback
  | some (.text value) =>
    if Text.allBlank value.toList then .error (.field name) else .ok value
  | some _ => .error (.field name)

/-- The project that the entries of a section describe. -/
def ofSection (d : Yaml.Document) (entries : List (Yaml.NodeId × Yaml.NodeId)) :
    Except Invalid Project := do
  let stock : Project := {}
  let input ← fieldOf d entries "input" stock.input
  let resDir ← fieldOf d entries "res_dir" stock.resDir
  let name ← fieldOf d entries "name" stock.name
  pure ⟨input, resDir, name⟩

/-- The project that a document describes. -/
def ofDocument (d : Yaml.Document) : Except Invalid Project :=
  match d.root with
  | .mapping entries =>
    match d.value? entries sectionKey with
    | none => .error .missingSection
    | some .null => .error .missingSection
    | some (.mapping fields) => ofSection d fields
    | some _ => .error .sectionKind
  | _ => .error .root

/-! ## Texts and files -/

/-- The project that a text describes, whose data are found by this reader. A text without a
character that is not blank describes the default project and is not handed to the reader. -/
def ofTextBy (read : List Char → Except Yaml.Fault Yaml.Document) (text : List Char) :
    Except Failure Project :=
  if Text.allBlank text then .ok {}
  else
    match read text with
    | .error .malformed => .error (.invalid .yaml)
    | .error (.scalar fault) => .error (.scalar fault)
    | .ok d =>
      match ofDocument d with
      | .error cause => .error (.invalid cause)
      | .ok project => .ok project

/-- The project that a text describes. -/
def ofText (text : List Char) : Except Failure Project := ofTextBy Yaml.Document.ofText text

/-- The project that a byte string describes. It must be text. -/
def ofBytes (bytes : List UInt8) : Except Failure Project :=
  match Text.Utf8.decodeStrict bytes with
  | .error fault => .error (.undecodable fault)
  | .ok text => ofText (Text.unifyBreaks text)

/-- The project of a file. A path that leads nowhere stands for the default project. -/
def load (fs : FileSystem) (path : String) : Except Failure Project :=
  if fs.pathExists path then
    match fs.content path with
    | .error fault => .error (.access fault)
    | .ok (_, bytes) => ofBytes bytes
  else .ok {}

/-- The name of the project file in a project root. -/
def fileName : String := "msggen.yaml"

end Project

end EventMessages
