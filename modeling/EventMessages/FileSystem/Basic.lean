/-!
# EventMessages.FileSystem.Basic

File systems as values: which locations hold a file or a directory, and which directory relative
paths start from.

A location is a list of names, the innermost first, so the location's directory is its tail and the
root is the empty list. The root is always a directory. Everything that is asked of a file system
goes through `item?`, and two file systems that agree on it behave alike.
-/

namespace EventMessages

/-- A place in the tree: the names from the file up to the root. -/
abbrev Location := List String

/-- What a location holds. -/
inductive Entry where
  | file (bytes : List UInt8)
  | directory
  deriving DecidableEq, Repr

/-- A tree of files and directories. -/
structure FileSystem where
  /-- The directory that relative paths start from. -/
  home : Location
  /-- What the locations hold, the root left out. -/
  entries : List (Location × Entry)
  deriving DecidableEq, Repr

namespace FileSystem

/-! ## One location -/

/-- The first value that a list of pairs gives a location. -/
def valueOf (location : Location) : List (Location × Entry) → Option Entry
  | [] => none
  | (k, v) :: rest => if k = location then some v else valueOf location rest

/-- Replaces the value of a location where it stands, or adds the pair at the end. -/
def setValue (location : Location) (value : Entry) :
    List (Location × Entry) → List (Location × Entry)
  | [] => [(location, value)]
  | (k, v) :: rest =>
    if k = location then (location, value) :: rest else (k, v) :: setValue location value rest

theorem valueOf_setValue (location other : Location) (value : Entry)
    (entries : List (Location × Entry)) :
    valueOf other (setValue location value entries) =
      if other = location then some value else valueOf other entries := by
  induction entries with
  | nil => simp [setValue, valueOf, eq_comm]
  | cons head rest ih => grind [setValue, valueOf]

/-- What a location holds, if anything. -/
def item? (fs : FileSystem) : Location → Option Entry
  | [] => some .directory
  | location => valueOf location fs.entries

@[simp] theorem item?_root (fs : FileSystem) : fs.item? [] = some .directory := rfl

/-- The file system with this entry at this location. -/
def put (fs : FileSystem) (location : Location) (entry : Entry) : FileSystem :=
  { fs with entries := setValue location entry fs.entries }

/-- A location holds what was put there. -/
@[simp] theorem item?_put_self (fs : FileSystem) (location : Location) (entry : Entry)
    (h : location ≠ []) : (fs.put location entry).item? location = some entry := by
  cases location with
  | nil => exact absurd rfl h
  | cons name rest => simp [put, item?, valueOf_setValue]

/-- Every other location holds what it held. -/
theorem item?_put_of_ne (fs : FileSystem) {location other : Location} (entry : Entry)
    (h : other ≠ location) : (fs.put location entry).item? other = fs.item? other := by
  cases other with
  | nil => rfl
  | cons name rest => simp [put, item?, valueOf_setValue, h]

@[simp] theorem home_put (fs : FileSystem) (location : Location) (entry : Entry) :
    (fs.put location entry).home = fs.home := rfl

/-! ## Subtrees -/

/-- The file system without a location and all that lies below it. -/
def removeTree (fs : FileSystem) (location : Location) : FileSystem :=
  { fs with entries := fs.entries.filter fun e => !location.isSuffixOf e.1 }

/-- The locations below a directory, each written from that directory, with what they hold. -/
def below (fs : FileSystem) (directory : Location) : List (String × Entry) :=
  fs.entries.filterMap fun e =>
    if directory.isSuffixOf e.1 && e.1.length != directory.length then
      some ("/".intercalate (e.1.take (e.1.length - directory.length)).reverse, e.2)
    else none

/-- A location and the directories above it, the root left out. -/
def ancestry : Location → List Location
  | [] => []
  | name :: rest => (name :: rest) :: ancestry rest

/-- A tree with the given directory and nothing else, seen from there. -/
def rootedAt (home : Location) : FileSystem :=
  ⟨home, (ancestry home).map fun location => (location, .directory)⟩

end FileSystem

end EventMessages
