/-!
# EventMessages.Path

File names as text. Names are separated by slashes, a name that starts with a slash is absolute,
and everything here looks at the text alone: no file is consulted.
-/

namespace EventMessages.Path

/-! ## Splitting -/

/-- What follows the last slash. -/
def afterSlash (path : List Char) : List Char := (path.reverse.takeWhile (· != '/')).reverse

/-- What comes up to the last slash, that slash included. -/
def throughSlash (path : List Char) : List Char := (path.reverse.dropWhile (· != '/')).reverse

/-- The two parts are the path. -/
theorem throughSlash_append_afterSlash (path : List Char) :
    throughSlash path ++ afterSlash path = path := by
  rw [throughSlash, afterSlash, ← List.reverse_append, List.takeWhile_append_dropWhile,
    List.reverse_reverse]

/-- The path without the slashes at its end, unless it holds nothing else. -/
def trimSlashes (path : List Char) : List Char :=
  if path.all (· == '/') then path else (path.reverse.dropWhile (· == '/')).reverse

/-- The directory part of a path. -/
def parentChars (path : List Char) : List Char := trimSlashes (throughSlash path)

/-- The directory part of a path: empty for a bare name. -/
def parent (path : String) : String := String.ofList (parentChars path.toList)

/-! ## Joining -/

/-- A path seen from a directory. An absolute path stays as it is. -/
def joinChars (directory path : List Char) : List Char :=
  if path.head? = some '/' then path
  else if directory = [] ∨ directory.getLast? = some '/' then directory ++ path
  else directory ++ '/' :: path

/-- A path seen from a directory. An absolute path stays as it is. -/
def join (directory path : String) : String :=
  String.ofList (joinChars directory.toList path.toList)

@[simp] theorem toList_join (directory path : String) :
    (join directory path).toList = joinChars directory.toList path.toList := by
  simp [join]

/-! ## Stems -/

/-- A name without its extension. Dots at the start of a name begin no extension. -/
def stemChars (name : List Char) : List Char :=
  let dots := name.takeWhile (· == '.')
  let body := name.dropWhile (· == '.')
  let upToDot := (body.reverse.dropWhile (· != '.')).reverse
  if upToDot = [] then name else dots ++ upToDot.dropLast

/-- The last name of a path without its extension. -/
def stem (path : String) : String := String.ofList (stemChars (afterSlash path.toList))

/-- The extension is what the last dot begins, and a leading dot begins none. -/
example : stem "res/app.v1.mc" = "app.v1" ∧ stem "res/.mc" = ".mc" ∧ stem "a.b/noext" = "noext" := by
  decide

/-! ## Names -/

/-- The parts between slashes, the empty ones included. -/
def segments : List Char → List (List Char)
  | [] => [[]]
  | c :: rest =>
    if c = '/' then [] :: segments rest
    else
      match segments rest with
      | [] => [[c]]
      | first :: others => (c :: first) :: others

/-- A path as the system walks it. -/
structure Route where
  /-- Whether the walk starts at the root. -/
  absolute : Bool
  /-- The names to follow, in order. -/
  names : List String
  /-- Whether a slash follows the last name, which must then be a directory. -/
  closed : Bool
  deriving DecidableEq, Repr

/-- The walk that a path asks for. -/
def route (path : String) : Route where
  absolute := path.toList.head? = some '/'
  names := ((segments path.toList).filter (· ≠ [])).map String.ofList
  closed := path.toList.getLast? = some '/'

end EventMessages.Path
