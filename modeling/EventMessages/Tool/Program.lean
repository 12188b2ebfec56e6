import EventMessages.Settings
import EventMessages.Text.Occurrence

/-!
# EventMessages.Tool.Program

Which program a tool is. On Windows, and for a target that names MSVC, a tool is run by its own
name. Otherwise it comes from the MinGW-w64 tools of the target's architecture:

```
ARCH-w64-mingw32-TOOL
```
-/

namespace EventMessages

/-- The vendor part of the names of cross tools. -/
def crossVendor : String := "w64-mingw32"

namespace Settings

/-- Whether the tools are cross tools. -/
def isCross (s : Settings) : Bool := !s.onWindows && !Text.occursIn "msvc".toList s.target.toList

/-- What stands before the name of a tool. -/
def toolPrelude (s : Settings) : String :=
  if s.isCross then s.arch ++ "-" ++ crossVendor ++ "-" else ""

/-- The program that a tool is. -/
def program (s : Settings) (tool : String) : String := s.toolPrelude ++ tool

end Settings

end EventMessages
