import EventMessages.Proofs.Build.Outcome

/-!
# EventMessages.Proofs.Build.Places

Projects whose files lie in existing directories. The definition, the header and the constants file
are three places, and the paths of the project keep leading there as long as directories are kept
and no directory takes a file's place (`Places.Lead.keep`).
-/

namespace EventMessages

open Job

/-! ## Places of files -/

namespace FileSystem

/-- A path leads to a place for a file, in a directory that is there. -/
structure LeadsTo (fs : FileSystem) (path : String) (location : Location) : Prop where
  nul : hasNul path = false
  target : fs.target path = .ok location

variable {fs later : FileSystem} {path : String} {location other : Location} {bytes : List UInt8}

theorem LeadsTo.item_ne (h : fs.LeadsTo path location) :
    fs.item? location ≠ some .directory := by
  obtain ⟨_, _, -, -, -, hd⟩ := follow_of_target h.target
  exact hd

theorem LeadsTo.ne_root (h : fs.LeadsTo path location) : location ≠ [] := by
  obtain ⟨_, _, hl, -⟩ := follow_of_target h.target
  simp [hl]

theorem LeadsTo.read?_eq_some_iff (h : fs.LeadsTo path location) :
    fs.read? path = some bytes ↔ fs.item? location = some (.file bytes) :=
  FileSystem.read?_eq_some_iff h.nul h.target

/-- What is read at a path depends on its place alone. -/
theorem LeadsTo.read?_eq (h : fs.LeadsTo path location) (h' : later.LeadsTo path location)
    (hi : later.item? location = fs.item? location) : later.read? path = fs.read? path := by
  apply Option.ext
  intro bytes
  rw [h.read?_eq_some_iff, h'.read?_eq_some_iff, hi]

/-- A place can be computed. -/
theorem leadsTo_of_toOption (hnul : hasNul path = false)
    (ht : (fs.target path).toOption = some location) : fs.LeadsTo path location := by
  refine ⟨hnul, ?_⟩
  cases h : fs.target path with
  | error r =>
      rw [h] at ht
      cases ht
  | ok there =>
      rw [h] at ht
      rw [Option.some.inj ht]

/-- A path keeps its place while directories are kept. -/
theorem LeadsTo.keep (h : fs.LeadsTo path location) (hk : KeepsDirectories fs later)
    (hd : later.item? location ≠ some .directory) : later.LeadsTo path location :=
  ⟨h.nul, hk.target h.target hd⟩

/-- While directories are kept, a path leads to no other place. -/
theorem LeadsTo.eq_of_target (h : fs.LeadsTo path location) (hk : KeepsDirectories fs later)
    (ht : later.target path = .ok other) : other = location := by
  obtain ⟨directory, name, rfl, hf, -⟩ := follow_of_target h.target
  obtain ⟨directory', name', rfl, hf', -⟩ := follow_of_target ht
  rw [hk.follow hf, Except.ok.injEq, Destination.name.injEq] at hf'
  obtain ⟨rfl, rfl, -⟩ := hf'
  rfl

/-- So what is read at a path is the file at its place, even if a directory has come there. -/
theorem LeadsTo.read?_eq_some_iff_of_keeps (h : fs.LeadsTo path location)
    (hk : KeepsDirectories fs later) :
    later.read? path = some bytes ↔ later.item? location = some (.file bytes) := by
  constructor
  · intro hr
    obtain ⟨there, hc⟩ := content_of_read? hr
    obtain ⟨-, ht, hi⟩ := content_eq_ok_iff.mp hc
    rw [← h.eq_of_target hk ht]
    exact hi
  · intro hi
    have h' : later.LeadsTo path location := h.keep hk (by simp [hi])
    exact h'.read?_eq_some_iff.mpr hi

/-- The file system without what is at this location. -/
def erase (fs : FileSystem) (location : Location) : FileSystem :=
  { fs with entries := fs.entries.filter fun e => e.1 ≠ location }

theorem valueOf_filter_of_ne (h : other ≠ location) (entries : List (Location × Entry)) :
    valueOf other (entries.filter fun e => e.1 ≠ location) = valueOf other entries := by
  induction entries with
  | nil => rfl
  | cons e entries ih =>
      obtain ⟨k, v⟩ := e
      by_cases hk : k = location
      · have hne : k ≠ other := fun he => h (he.symm.trans hk)
        rw [List.filter_cons_of_neg (by simp [hk]), ih, valueOf, if_neg hne]
      · rw [List.filter_cons_of_pos (by simp [hk]), valueOf, valueOf, ih]

theorem valueOf_filter_self (location : Location) (entries : List (Location × Entry)) :
    valueOf location (entries.filter fun e => e.1 ≠ location) = none := by
  induction entries with
  | nil => rfl
  | cons e entries ih =>
      obtain ⟨k, v⟩ := e
      by_cases hk : k = location
      · rw [List.filter_cons_of_neg (by simp [hk]), ih]
      · rw [List.filter_cons_of_pos (by simp [hk]), valueOf, if_neg hk, ih]

theorem item?_erase_of_ne (fs : FileSystem) (h : other ≠ location) :
    (fs.erase location).item? other = fs.item? other := by
  cases other with
  | nil => rfl
  | cons name rest => exact valueOf_filter_of_ne h fs.entries

theorem item?_erase_self (fs : FileSystem) (h : location ≠ []) :
    (fs.erase location).item? location = none := by
  cases location with
  | nil => exact absurd rfl h
  | cons name rest => exact valueOf_filter_self _ fs.entries

theorem keepsDirectories_erase (hd : fs.item? location ≠ some .directory) :
    KeepsDirectories fs (fs.erase location) := by
  refine ⟨rfl, fun other ho => ?_⟩
  have hne : other ≠ location := fun he => hd (he ▸ ho)
  rw [item?_erase_of_ne fs hne, ho]

/-- Putting a file makes no directory. -/
theorem item?_put_file_ne (hl : location ≠ []) (hd : fs.item? other ≠ some .directory) :
    (fs.put location (.file bytes)).item? other ≠ some .directory := by
  by_cases he : other = location
  · rw [he, item?_put_self fs location _ hl]
    simp
  · rw [item?_put_of_ne fs _ he]
    exact hd

end FileSystem

/-! ## Places of a project -/

/-- Where the three files of a project lie that a build reads and writes. -/
structure Places where
  definition : Location
  header : Location
  constants : Location
  definition_ne_header : definition ≠ header
  definition_ne_constants : definition ≠ constants
  header_ne_constants : header ≠ constants

namespace Places

variable {places : Places} {settings : Settings} {project : Project}
variable {fs later : FileSystem} {bytes : List UInt8}

/-- The paths of the project lead to these places. -/
structure Lead (places : Places) (settings : Settings) (project : Project)
    (fs : FileSystem) : Prop where
  definition : fs.LeadsTo (project.inputPath settings.root) places.definition
  header : fs.LeadsTo (nativeHeader settings project) places.header
  constants : fs.LeadsTo (nativeConstants settings project) places.constants

theorem Lead.keep (h : places.Lead settings project fs)
    (hk : FileSystem.KeepsDirectories fs later)
    (hd : ∀ location ∈ [places.definition, places.header, places.constants],
      later.item? location ≠ some .directory) : places.Lead settings project later where
  definition := h.definition.keep hk (hd _ (by simp))
  header := h.header.keep hk (hd _ (by simp))
  constants := h.constants.keep hk (hd _ (by simp))

theorem Lead.item_ne (h : places.Lead settings project fs) :
    ∀ location ∈ [places.definition, places.header, places.constants],
      fs.item? location ≠ some .directory := by
  intro location hm
  simp only [List.mem_cons, List.not_mem_nil, or_false] at hm
  obtain rfl | rfl | rfl := hm
  · exact h.definition.item_ne
  · exact h.header.item_ne
  · exact h.constants.item_ne

/-- Putting a file in a file's place keeps all places. -/
theorem Lead.put_file {location : Location} (h : places.Lead settings project fs)
    (hl : location ≠ []) (hd : fs.item? location ≠ some .directory) :
    places.Lead settings project (fs.put location (.file bytes)) :=
  h.keep (FileSystem.keepsDirectories_put_file hd) fun other hm =>
    FileSystem.item?_put_file_ne hl (h.item_ne other hm)

/-- So does taking the constants file away. -/
theorem Lead.erase_constants (h : places.Lead settings project fs) :
    places.Lead settings project (fs.erase places.constants) := by
  refine h.keep (FileSystem.keepsDirectories_erase h.constants.item_ne) fun other hm => ?_
  by_cases he : other = places.constants
  · rw [he, FileSystem.item?_erase_self fs h.constants.ne_root]
    simp
  · rw [FileSystem.item?_erase_of_ne fs he]
    exact h.item_ne other hm

/-- Overwriting the definition puts it in its place. -/
theorem Lead.store_definition (h : places.Lead settings project fs) (bytes : List UInt8) :
    (fs.store (project.inputPath settings.root) bytes).1 =
      fs.put places.definition (.file bytes) := by
  rw [FileSystem.store_of_target h.definition.nul h.definition.target]

end Places

end EventMessages
