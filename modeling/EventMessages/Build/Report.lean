import EventMessages.Tool.Run

/-!
# EventMessages.Build.Report

What a build reports: the branch it took, the digest of the definition, whether the constants file
was made anew, the tools that ran, and the directives that link the library.
-/

namespace EventMessages

/-- The two ways to build. -/
inductive Branch where
  /-- On Windows, into the resource directory of the project. -/
  | native
  /-- Anywhere else, into the scratch directory of the build. -/
  | cross
  deriving DecidableEq, Repr

/-- The name of a branch. -/
def Branch.name : Branch → String
  | .native => "native"
  | .cross => "cross"

/-- What a build did. -/
structure Report where
  branch : Branch
  digest : String
  regenerated : Bool := false
  constants : Nat := 0
  tools : List ToolResult := []
  directives : List String := []
  deriving DecidableEq, Repr

/-- The lines that make the compiler link the library of this name in this directory. -/
def linkDirectives (directory name : String) : List String :=
  ["cargo:rustc-link-search=native=" ++ directory, "cargo:rustc-link-lib=dylib=" ++ name]

end EventMessages
