import EventMessages.FileSystem.Basic
import EventMessages.FileSystem.Fault
import EventMessages.Path

/-!
# EventMessages.FileSystem.Access

Reaching files by path: walking, reading, creating files and directories.

A path is walked name by name from the home directory, or from the root when it is absolute. Each
name but the last must lead to a directory; `.` stays and `..` goes up. There are no links, so a
location that has been reached is named by its names alone. What a request may change is one
location: the file it creates or the directory it makes.
-/

namespace EventMessages.FileSystem

/-! ## Walking -/

/-- The longest name a directory can hold, in bytes. -/
def nameLimit : Nat := 255

/-- A path must be shorter than this, in bytes. -/
def pathLimit : Nat := 4096

/-- What a name in a directory leads to. -/
def lookIn (fs : FileSystem) (directory : Location) (name : String) :
    Except Refusal (Option Entry) :=
  if nameLimit < name.utf8ByteSize then .error .nameTooLong
  else .ok (fs.item? (name :: directory))

/-- One step into a directory. -/
def enter (fs : FileSystem) (directory : Location) (name : String) : Except Refusal Location :=
  if name = "." then .ok directory
  else if name = ".." then .ok directory.tail
  else
    match fs.lookIn directory name with
    | .error r => .error r
    | .ok none => .error .noEntry
    | .ok (some (.file _)) => .error .notDirectory
    | .ok (some .directory) => .ok (name :: directory)

/-- Where a path leads: to a directory by way of dots, or to a name in a directory. -/
inductive Destination where
  | directory (location : Location)
  | name (directory : Location) (name : String) (closed : Bool)
  deriving DecidableEq, Repr

/-- Walks all names but the last one. -/
def walk (fs : FileSystem) (closed : Bool) : Location → List String → Except Refusal Destination
  | here, [] => .ok (.directory here)
  | here, [last] =>
    if last = "." then .ok (.directory here)
    else if last = ".." then .ok (.directory here.tail)
    else .ok (.name here last closed)
  | here, name :: rest =>
    match fs.enter here name with
    | .error r => .error r
    | .ok there => walk fs closed there rest

/-- Where a path leads. The empty path leads nowhere. -/
def follow (fs : FileSystem) (path : String) : Except Refusal Destination :=
  if path.isEmpty then .error .noEntry
  else if pathLimit ≤ path.utf8ByteSize then .error .nameTooLong
  else
    let route := Path.route path
    fs.walk route.closed (if route.absolute then [] else fs.home) route.names

/-- The location that a path names and what is there. -/
def find (fs : FileSystem) (path : String) : Except Refusal (Location × Entry) :=
  match fs.follow path with
  | .error r => .error r
  | .ok (.directory location) => .ok (location, .directory)
  | .ok (.name directory name closed) =>
    match fs.lookIn directory name with
    | .error r => .error r
    | .ok none => .error .noEntry
    | .ok (some (.file bytes)) =>
      if closed then .error .notDirectory else .ok (name :: directory, .file bytes)
    | .ok (some .directory) => .ok (name :: directory, .directory)

/-! ## Requests -/

/-- Whether a path can be handed to the system at all. -/
def hasNul (path : String) : Bool := path.toList.contains '\x00'

/-- A request about a path, refused or answered. -/
def request (path : String) (answer : Except Refusal α) : Except AccessFault α :=
  if hasNul path then .error .embeddedNul
  else
    match answer with
    | .error r => .error (.system (r.about path))
    | .ok a => .ok a

/-- Whether a path leads to something. -/
def pathExists (fs : FileSystem) (path : String) : Bool :=
  match request path (fs.find path) with
  | .ok _ => true
  | .error _ => false

/-- Whether a path leads to a directory. -/
def isDirectory (fs : FileSystem) (path : String) : Bool :=
  match request path (fs.find path) with
  | .ok (_, .directory) => true
  | _ => false

/-- The file that a path names: its location and its content. -/
def content (fs : FileSystem) (path : String) : Except AccessFault (Location × List UInt8) :=
  request path <|
    match fs.find path with
    | .error r => .error r
    | .ok (_, .directory) => .error .isDirectory
    | .ok (location, .file bytes) => .ok (location, bytes)

/-- Where a file of this path would be written: a new name or a file that is already there. -/
def target (fs : FileSystem) (path : String) : Except Refusal Location :=
  match fs.follow path with
  | .error r => .error r
  | .ok (.directory _) => .error .isDirectory
  | .ok (.name directory name closed) =>
    if closed then .error .isDirectory
    else
      match fs.lookIn directory name with
      | .error r => .error r
      | .ok (some .directory) => .error .isDirectory
      | .ok _ => .ok (name :: directory)

/-- Opens a file for writing. It is empty from then on. -/
def createFile (fs : FileSystem) (path : String) : Except AccessFault (Location × FileSystem) :=
  request path <|
    match fs.target path with
    | .error r => .error r
    | .ok location => .ok (location, fs.put location (.file []))

/-- Makes one directory. -/
def makeDirectory (fs : FileSystem) (path : String) : Except AccessFault FileSystem :=
  request path <|
    match fs.follow path with
    | .error r => .error r
    | .ok (.directory _) => .error .alreadyExists
    | .ok (.name directory name _) =>
      match fs.lookIn directory name with
      | .error r => .error r
      | .ok (some _) => .error .alreadyExists
      | .ok none => .ok (fs.put (name :: directory) .directory)

/-- A fault of a request that is no fault when the path names a directory. -/
def orDirectory (fs : FileSystem) (path : String) (fault : AccessFault) : Except AccessFault Unit :=
  match fault with
  | .embeddedNul => .error .embeddedNul
  | .system f => if fs.isDirectory path then .ok () else .error (.system f)

/-- The directory of a path and its last name, a slash at the end left aside. -/
def splitLast (path : List Char) : List Char × List Char :=
  let head := Path.parentChars path
  match Path.afterSlash path with
  | [] => (Path.parentChars head, Path.afterSlash head)
  | last => (head, last)

/-- Makes a directory and, before it, those on the way to it that are missing, at most `n` of them.
What has been made stays when a later step is refused. -/
def makeDirectoriesUpTo : Nat → FileSystem → List Char → FileSystem × Except AccessFault Unit
  | n, fs, path =>
    let (head, last) := splitLast path
    let make (fs : FileSystem) : FileSystem × Except AccessFault Unit :=
      match fs.makeDirectory (String.ofList path) with
      | .ok made => (made, .ok ())
      | .error fault => (fs, fs.orDirectory (String.ofList path) fault)
    if head = [] || last = [] || fs.pathExists (String.ofList head) then make fs
    else
      match n with
      | 0 => make fs
      | n + 1 =>
        match makeDirectoriesUpTo n fs head with
        | (made, .error (.system f)) =>
          if f.number = Refusal.alreadyExists.number then
            if last = ['.'] then (made, .ok ()) else make made
          else (made, .error (.system f))
        | (made, .error .embeddedNul) => (made, .error .embeddedNul)
        | (made, .ok ()) => if last = ['.'] then (made, .ok ()) else make made

/-- Makes a directory and those on the way to it that are missing. A directory that is already
there is no fault. -/
def makeDirectories (fs : FileSystem) (path : String) : FileSystem × Except AccessFault Unit :=
  makeDirectoriesUpTo path.length fs path.toList

/-- The directory that a file of this path lies in. -/
def parentOf (path : String) : String :=
  let directory := Path.parent path
  if directory.isEmpty then "." else directory

/-- Opens a file for writing after making the directories on the way to it. -/
def openForWriting (fs : FileSystem) (path : String) :
    FileSystem × Except AccessFault Location :=
  match fs.makeDirectories (parentOf path) with
  | (made, .error fault) => (made, .error fault)
  | (made, .ok ()) =>
    match made.createFile path with
    | .error fault => (made, .error fault)
    | .ok (location, opened) => (opened, .ok location)

/-- Writes a whole file, and makes the directories on the way to it. -/
def store (fs : FileSystem) (path : String) (bytes : List UInt8) :
    FileSystem × Except AccessFault Unit :=
  match fs.openForWriting path with
  | (opened, .error fault) => (opened, .error fault)
  | (opened, .ok location) => (opened.put location (.file bytes), .ok ())

end EventMessages.FileSystem
