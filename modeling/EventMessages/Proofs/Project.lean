import EventMessages.Project
import EventMessages.Proofs.FileSystem.Parent

/-!
# EventMessages.Proofs.Project

The generated files of a project are different files: a header and a constants file never share a
location, however the project is named and wherever it is built.
-/

namespace EventMessages

/-! ## How paths end -/

namespace Path

theorem getLast?_afterSlash {path : List Char} (h : afterSlash path ≠ []) :
    (afterSlash path).getLast? = path.getLast? := by
  conv => rhs; rw [← throughSlash_append_afterSlash path]
  rw [List.getLast?_append, Option.or_of_isSome (by simpa using h)]

theorem getLast?_joinChars (directory : List Char) {path : List Char} (h : path ≠ []) :
    (joinChars directory path).getLast? = path.getLast? := by
  rw [joinChars]
  split
  · rfl
  · split
    · rw [List.getLast?_append, Option.or_of_isSome (by simpa using h)]
    · rw [List.getLast?_append, Option.or_of_isSome (by simp), List.getLast?_cons_of_ne_nil h]

end Path

namespace Project

variable {fs later : FileSystem} {location other : Location}

theorem getLast?_headerIn (p : Project) (directory : String) :
    (p.headerIn directory).toList.getLast? = some 'h' := by
  rw [headerIn, Path.toList_join, Path.getLast?_joinChars] <;> simp [String.toList_append]

theorem getLast?_constantsIn (p : Project) (directory : String) :
    (p.constantsIn directory).toList.getLast? = some 's' := by
  rw [constantsIn, Path.toList_join, Path.getLast?_joinChars] <;> simp [String.toList_append]

/-- The name of a file ends as its path ends. -/
theorem getLast?_of_target {path : String} (h : fs.target path = .ok location) :
    (location.head?.map fun name => name.toList.getLast?) = some path.toList.getLast? := by
  obtain ⟨directory, name, rfl, -⟩ := FileSystem.follow_of_target h
  obtain ⟨hname, hne⟩ := FileSystem.name_of_target h
  rw [List.head?_cons, Option.map_some, hname, Path.getLast?_afterSlash hne]

/-- A header is never the constants file. -/
theorem headerIn_ne_constantsIn {p : Project} {directory : String}
    (hh : fs.target (p.headerIn directory) = .ok location)
    (hg : later.target (p.constantsIn directory) = .ok other) : location ≠ other := by
  intro he
  have h := getLast?_of_target hh
  rw [he, getLast?_of_target hg, getLast?_headerIn, getLast?_constantsIn] at h
  simp at h

end Project

end EventMessages
