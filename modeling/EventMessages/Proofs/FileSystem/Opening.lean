import EventMessages.Proofs.FileSystem.Way

/-!
# EventMessages.Proofs.FileSystem.Opening

Opening a file for writing. Two statements say all there is to know:

* `openForWriting_eq_ok` — directories are made on the way, and an empty file is put where the path
  leads;
* `openForWriting_eq_error` — only directories on the way are new, and the path cannot be read
  either.

In a directory that is there, nothing is made but the file (`openForWriting_of_target`).
-/

namespace EventMessages.FileSystem

variable {fs made : FileSystem} {path : String} {location : Location} {bytes : List UInt8}

/-! ## Opening a file -/

theorem createFile_eq_ok_iff {opened : FileSystem} :
    fs.createFile path = .ok (location, opened) ↔
      hasNul path = false ∧ fs.target path = .ok location ∧
        opened = fs.put location (.file []) := by
  unfold createFile request
  cases hasNul path with
  | true => simp
  | false =>
      cases fs.target path with
      | error r => simp
      | ok there => grind

/-- Opening a file makes directories on the way and puts an empty file at the path. -/
theorem openForWriting_eq_ok {opened : FileSystem}
    (h : fs.openForWriting path = (opened, .ok location)) :
    ∃ made, MakesDirectories (OnTheWay path) fs made ∧ hasNul path = false ∧
      made.target path = .ok location ∧ opened = made.put location (.file []) := by
  have hway := makesDirectories_parentOf fs path
  unfold openForWriting at h
  rcases hm : fs.makeDirectories (parentOf path) with ⟨made, answer⟩
  rw [hm] at h hway
  cases answer with
  | error fault => cases h
  | ok u =>
      dsimp only at h
      split at h
      · cases h
      · next there new hc =>
        rw [Prod.mk.injEq, Except.ok.injEq] at h
        obtain ⟨rfl, rfl⟩ := h
        obtain ⟨hnul, ht, hnew⟩ := createFile_eq_ok_iff.mp hc
        exact ⟨made, hway, hnul, ht, hnew⟩

/-- A file that could not be opened cannot be read either, and only directories on the way are
new. -/
theorem openForWriting_eq_error {fault : AccessFault}
    (h : fs.openForWriting path = (made, .error fault)) :
    MakesDirectories (OnTheWay path) fs made ∧ made.read? path = none := by
  have hway := makesDirectories_parentOf fs path
  unfold openForWriting at h
  rcases hm : fs.makeDirectories (parentOf path) with ⟨ready, answer⟩
  rw [hm] at h hway
  cases answer with
  | error refused =>
      rw [Prod.mk.injEq] at h
      obtain ⟨rfl, -⟩ := h
      refine ⟨hway, Option.eq_none_iff_forall_ne_some.mpr fun bytes hr => ?_⟩
      -- a file that can be read lies in a directory, and this one could not be made
      obtain ⟨location, hc⟩ := content_of_read? hr
      obtain ⟨hnul, ht, -⟩ := content_eq_ok_iff.mp hc
      rw [makeDirectories] at hm
      have hd := isDirectory_of_makeDirectoriesUpTo hm
      rw [String.ofList_toList, isDirectory_parentOf hnul ht] at hd
      cases hd
  | ok u =>
      dsimp only at h
      split at h
      · next refused hc =>
        rw [Prod.mk.injEq] at h
        obtain ⟨rfl, -⟩ := h
        refine ⟨hway, Option.eq_none_iff_forall_ne_some.mpr fun bytes hr => ?_⟩
        obtain ⟨location, hcontent⟩ := content_of_read? hr
        obtain ⟨hnul, ht, -⟩ := content_eq_ok_iff.mp hcontent
        rw [createFile_eq_ok_iff.mpr ⟨hnul, ht, rfl⟩] at hc
        cases hc
      · cases h

/-- A file cannot be opened for a NUL only if its path holds one. -/
theorem hasNul_of_openForWriting (h : fs.openForWriting path = (made, .error .embeddedNul)) :
    hasNul path = true := by
  unfold openForWriting at h
  rcases hm : fs.makeDirectories (parentOf path) with ⟨ready, answer⟩
  rw [hm] at h
  cases answer with
  | error fault =>
      rw [Prod.mk.injEq, Except.error.injEq] at h
      obtain ⟨-, rfl⟩ := h
      have hparent := hasNul_of_makeDirectoriesUpTo hm
      rw [String.ofList_toList, parentOf] at hparent
      split at hparent
      · -- the current directory has no NUL in its name
        cases hparent
      · have hp : (Path.parent path).toList <+: path.toList := by
          simpa [Path.parent] using Path.parentChars_isPrefix path.toList
        exact hasNul_mono hp hparent
  | ok u =>
      dsimp only at h
      split at h
      · next refused hc =>
        rw [Prod.mk.injEq, Except.error.injEq] at h
        obtain ⟨-, rfl⟩ := h
        exact request_eq_embeddedNul_iff.mp hc
      · cases h

/-- In a directory that is there, nothing is made but the file. -/
theorem openForWriting_of_target (hnul : hasNul path = false)
    (ht : fs.target path = .ok location) :
    fs.openForWriting path = (fs.put location (.file []), .ok location) := by
  have hd := isDirectory_parentOf hnul ht
  rw [← String.ofList_toList (s := parentOf path)] at hd
  have hc : fs.createFile path = .ok (location, fs.put location (.file [])) :=
    createFile_eq_ok_iff.mpr ⟨hnul, ht, rfl⟩
  unfold openForWriting makeDirectories
  rw [makeDirectoriesUpTo_of_isDirectory hd]
  simp only [hc]

/-! ## Writing whole files -/

theorem keepsDirectories_store (fs : FileSystem) (path : String) (bytes : List UInt8) :
    KeepsDirectories fs (fs.store path bytes).1 := by
  unfold store
  rcases ho : fs.openForWriting path with ⟨opened, answer⟩
  cases answer with
  | error fault => exact (openForWriting_eq_error ho).1.toAddsDirectories.keepsDirectories
  | ok location =>
      obtain ⟨made, hway, -, ht, rfl⟩ := openForWriting_eq_ok ho
      obtain ⟨_, _, -, -, -, hd⟩ := follow_of_target ht
      simp only [put_put]
      exact hway.toAddsDirectories.keepsDirectories.trans (keepsDirectories_put_file hd)

/-- What is written at a path is read there. -/
theorem read?_of_store (h : fs.store path bytes = (made, .ok ())) :
    made.read? path = some bytes := by
  unfold store at h
  rcases ho : fs.openForWriting path with ⟨opened, answer⟩
  cases answer with
  | error fault =>
      rw [ho] at h
      cases h
  | ok location =>
      obtain ⟨ready, -, hnul, ht, rfl⟩ := openForWriting_eq_ok ho
      simp only [ho, put_put, Prod.mk.injEq, and_true] at h
      rw [← h]
      exact read?_put_file hnul ht

theorem store_of_target (hnul : hasNul path = false) (ht : fs.target path = .ok location) :
    fs.store path bytes = (fs.put location (.file bytes), .ok ()) := by
  unfold store
  rw [openForWriting_of_target hnul ht]
  simp only [put_put]

end EventMessages.FileSystem
