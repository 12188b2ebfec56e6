import EventMessages.Path

/-!
# EventMessages.Project

A project: the names of its message definition and of what is made from it.

The definition lies somewhere below the project root. The header and the resource script get their
stem from the definition's file name, whereas the constants file and the library are named by the
project. All of them lie in one directory, the resource directory of the project unless a build
puts them elsewhere.
-/

namespace EventMessages

/-- The names of a project's files. -/
structure Project where
  /-- The message definition, seen from the project root. -/
  input : String := "res/eventmsgs.mc"
  /-- The directory of the generated files, seen from the project root. -/
  resDir : String := "res"
  /-- The stem of the constants file and of the library. -/
  name : String := "eventmsgs"
  deriving DecidableEq, Repr

namespace Project

/-- The stem of the header and of the resource script. -/
def compiledStem (p : Project) : String := Path.stem p.input

/-- The message definition. -/
def inputPath (p : Project) (root : String) : String := Path.join root p.input

/-- The resource directory. -/
def resPath (p : Project) (root : String) : String := Path.join root p.resDir

/-- The header in a directory. -/
def headerIn (p : Project) (directory : String) : String :=
  Path.join directory (p.compiledStem ++ ".h")

/-- The resource script in a directory. -/
def scriptIn (p : Project) (directory : String) : String :=
  Path.join directory (p.compiledStem ++ ".rc")

/-- The library in a directory. -/
def libraryIn (p : Project) (directory : String) : String :=
  Path.join directory (p.name ++ ".lib")

/-- The constants file in a directory. -/
def constantsIn (p : Project) (directory : String) : String :=
  Path.join directory (p.name ++ ".rs")

end Project

end EventMessages
