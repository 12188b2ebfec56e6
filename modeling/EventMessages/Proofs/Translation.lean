import EventMessages.Proofs.FileSystem.Opening
import EventMessages.Proofs.Project
import EventMessages.Proofs.Stamp
import EventMessages.Translation

/-!
# EventMessages.Proofs.Translation

What a translation leaves behind. Either the constants file holds the constants of the header under
the stamp, and carries it, or no constants file can be read that was not there before.
-/

namespace EventMessages

namespace FileSystem

variable {fs files : FileSystem} {header generated stamp : String} {count : Nat}

theorem read?_eq_none_iff {path : String} :
    fs.read? path = none ↔ ∃ fault, fs.content path = .error fault := by
  rw [read?]
  cases fs.content path with
  | error fault => simp
  | ok found => simp

/-- A translation that succeeds puts a constants file where the path leads. -/
theorem translate_eq_ok (h : fs.translate header generated stamp = (files, .ok count)) :
    ∃ source bytes made location, fs.content header = .ok (source, bytes) ∧
      MakesDirectories (OnTheWay generated) fs made ∧ hasNul generated = false ∧
      made.target generated = .ok location ∧
      files = made.put location (.file (ConstantsFile.bytes stamp (Constant.ofHeader
        (if source = location then ConstantsFile.begun stamp else bytes)))) ∧
      count = (Constant.ofHeader
        (if source = location then ConstantsFile.begun stamp else bytes)).length := by
  unfold translate at h
  cases hc : fs.content header with
  | error fault => simp [hc] at h
  | ok found =>
      obtain ⟨source, bytes⟩ := found
      rcases ho : fs.openForWriting generated with ⟨opened, answer⟩
      cases answer with
      | error fault => simp [hc, ho] at h
      | ok location =>
          obtain ⟨made, hway, hnul, ht, rfl⟩ := openForWriting_eq_ok ho
          simp only [hc, ho, put_put, Prod.mk.injEq, Except.ok.injEq] at h
          obtain ⟨rfl, rfl⟩ := h
          exact ⟨source, bytes, made, location, rfl, hway, hnul, ht, rfl, rfl⟩

/-- A translation that fails leaves all files as they were when the header cannot be read, and no
readable constants file when that one cannot be opened. -/
theorem translate_eq_error {failure : Failure}
    (h : fs.translate header generated stamp = (files, .error failure)) :
    (files = fs ∧ fs.read? header = none) ∨
      (MakesDirectories (OnTheWay generated) fs files ∧ files.read? generated = none) := by
  unfold translate at h
  cases hc : fs.content header with
  | error fault =>
      simp only [hc, Prod.mk.injEq] at h
      exact Or.inl ⟨h.1.symm, read?_eq_none_iff.mpr ⟨fault, hc⟩⟩
  | ok found =>
      rcases ho : fs.openForWriting generated with ⟨opened, answer⟩
      cases answer with
      | error fault =>
          simp only [hc, ho, Prod.mk.injEq] at h
          rw [← h.1]
          exact Or.inr (openForWriting_eq_error ho)
      | ok location => simp [hc, ho] at h

/-- A translation fails for a reason that is reported, or because one of its paths holds a NUL. -/
theorem failure_of_translate {failure : Failure}
    (h : fs.translate header generated stamp = (files, .error failure)) :
    failure.isReported = true ∨
      failure = .access .embeddedNul ∧ (hasNul header = true ∨ hasNul generated = true) := by
  unfold translate at h
  cases hc : fs.content header with
  | error fault =>
      simp only [hc, Prod.mk.injEq, Except.error.injEq] at h
      obtain ⟨-, rfl⟩ := h
      cases fault with
      | system f => exact Or.inl rfl
      | embeddedNul => exact Or.inr ⟨rfl, Or.inl (content_eq_embeddedNul_iff.mp hc)⟩
  | ok found =>
      rcases ho : fs.openForWriting generated with ⟨opened, answer⟩
      cases answer with
      | ok location => simp [hc, ho] at h
      | error fault =>
          simp only [hc, ho, Prod.mk.injEq, Except.error.injEq] at h
          obtain ⟨-, rfl⟩ := h
          cases fault with
          | system f => exact Or.inl rfl
          | embeddedNul => exact Or.inr ⟨rfl, Or.inr (hasNul_of_openForWriting ho)⟩

/-- A translation succeeds when the header can be read and the constants file can be opened. -/
theorem translate_isOk_iff : (fs.translate header generated stamp).2.isOk = true ↔
    (fs.read? header).isSome = true ∧ (fs.openForWriting generated).2.isOk = true := by
  unfold translate read?
  cases fs.content header with
  | error fault => simp [Except.isOk, Except.toBool]
  | ok found =>
      obtain ⟨opened, answer⟩ := fs.openForWriting generated
      cases answer <;> simp [Except.isOk, Except.toBool]

/-- A constants file that was written carries its stamp. -/
theorem carries_of_translate (hd : Digest.IsDigest stamp)
    (h : fs.translate header generated stamp = (files, .ok count)) :
    files.carries generated stamp = true := by
  obtain ⟨source, bytes, made, location, -, -, hnul, ht, rfl, -⟩ := translate_eq_ok h
  rw [carries_of_read? (read?_put_file hnul ht)]
  exact (lineHolds_bytes_iff hd hd _).mpr (Or.inl rfl)

/-- A header that is not its own constants file gives all its constants. -/
theorem read?_of_translate_of_ne {source : Location} {bytes : List UInt8}
    (hheader : fs.content header = .ok (source, bytes))
    (h : fs.translate header generated stamp = (files, .ok count))
    (hne : files.target generated ≠ .ok source) :
    count = (Constant.ofHeader bytes).length ∧
      files.read? generated = some (ConstantsFile.bytes stamp (Constant.ofHeader bytes)) := by
  obtain ⟨source', bytes', made, location, hc, -, hnul, ht, rfl, hcount⟩ := translate_eq_ok h
  obtain ⟨rfl, rfl⟩ : source = source' ∧ bytes = bytes' := by
    rw [hheader] at hc
    simpa using hc
  have hother : source ≠ location := by
    rintro rfl
    exact hne (target_put_file _ ht).1
  rw [if_neg hother] at hcount ⊢
  exact ⟨hcount, read?_put_file hnul ht⟩

/-- Between two different files in directories that are there, nothing can go wrong. -/
theorem translate_of_target {source location : Location} {bytes : List UInt8}
    (hh : fs.content header = .ok (source, bytes)) (hnul : hasNul generated = false)
    (ht : fs.target generated = .ok location) (hne : source ≠ location) :
    fs.translate header generated stamp =
      (fs.put location (.file (ConstantsFile.bytes stamp (Constant.ofHeader bytes))),
        .ok (Constant.ofHeader bytes).length) := by
  unfold translate
  simp only [hh, openForWriting_of_target hnul ht, if_neg hne, put_put]

/-- Neither can it from a file to itself, but of the header nothing is left. -/
theorem translate_of_target_self {source : Location} {bytes : List UInt8}
    (hh : fs.content header = .ok (source, bytes)) (hnul : hasNul generated = false)
    (ht : fs.target generated = .ok source) :
    fs.translate header generated stamp =
      (fs.put source (.file (ConstantsFile.bytes stamp
          (Constant.ofHeader (ConstantsFile.begun stamp)))),
        .ok (Constant.ofHeader (ConstantsFile.begun stamp)).length) := by
  unfold translate
  simp only [hh, openForWriting_of_target hnul ht, if_true, put_put]

end FileSystem

namespace Project

variable {fs files : FileSystem} {p : Project} {directory stamp : String} {count : Nat}

/-- **Translation of a project**: the constants file holds the stamp and all constants of the
header. -/
theorem read?_of_translate
    (h : fs.translate (p.headerIn directory) (p.constantsIn directory) stamp =
      (files, .ok count)) :
    ∃ bytes, fs.read? (p.headerIn directory) = some bytes ∧
      count = (Constant.ofHeader bytes).length ∧
      files.read? (p.constantsIn directory) =
        some (ConstantsFile.bytes stamp (Constant.ofHeader bytes)) := by
  obtain ⟨source, bytes, made, location, hc, -, hnul, ht, hfiles, hcount⟩ :=
    FileSystem.translate_eq_ok h
  obtain ⟨-, hsource, -⟩ := FileSystem.content_eq_ok_iff.mp hc
  have hne : source ≠ location := headerIn_ne_constantsIn hsource ht
  rw [if_neg hne] at hfiles hcount
  refine ⟨bytes, FileSystem.read?_of_content hc, hcount, ?_⟩
  rw [hfiles]
  exact FileSystem.read?_put_file hnul ht

end Project

end EventMessages
