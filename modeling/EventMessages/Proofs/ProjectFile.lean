import EventMessages.ProjectFile
import EventMessages.Proofs.FileSystem.Reading

/-!
# EventMessages.Proofs.ProjectFile

Why a project file cannot be used. A file that is no YAML, or that describes no project, is invalid,
and commands report that. They do not report a file that is no text, nor one in which a scalar is
not what its form says, such as a date in month 13 (`Project.Breaks`).
-/

namespace EventMessages.Project

variable {fs : FileSystem} {path : String} {bytes : List UInt8} {failure : Failure}

/-- The reading of these bytes breaks off with a failure that no command reports. -/
inductive Breaks (bytes : List UInt8) : Failure → Prop where
  /-- The bytes are no text. -/
  | undecodable {fault : Text.Utf8.Fault} (h : Text.Utf8.decodeStrict bytes = .error fault) :
    Breaks bytes (.undecodable fault)
  /-- A scalar of the text is not what its form or its tag says. -/
  | scalar {text : List Char} {fault : Yaml.ScalarFault}
    (hdecoded : Text.Utf8.decodeStrict bytes = .ok text)
    (hblank : Text.allBlank (Text.unifyBreaks text) = false)
    (hread : Yaml.Document.ofText (Text.unifyBreaks text) = .error (.scalar fault)) :
    Breaks bytes (.scalar fault)

theorem Breaks.isReported (h : Breaks bytes failure) : failure.isReported = false := by
  cases h <;> rfl

/-- The text of a project file fails without a report exactly for a scalar. -/
theorem ofText_eq_error_iff {text : List Char} (hr : failure.isReported = false) :
    ofText text = .error failure ↔ Text.allBlank text = false ∧
      ∃ fault, Yaml.Document.ofText text = .error (.scalar fault) ∧ failure = .scalar fault := by
  unfold ofText ofTextBy
  cases hb : Text.allBlank text with
  | true => simp
  | false =>
      cases hy : Yaml.Document.ofText text with
      | error fault =>
          cases fault with
          | malformed =>
              have hne : Failure.invalid .yaml ≠ failure := fun he => by
                rw [← he] at hr
                cases hr
              simp [hne]
          | scalar fault => simp [eq_comm]
      | ok d =>
          cases ho : ofDocument d with
          | error cause =>
              have hne : Failure.invalid cause ≠ failure := fun he => by
                rw [← he] at hr
                cases hr
              simp [ho, hne]
          | ok project => simp [ho]

theorem breaks_iff (hr : failure.isReported = false) :
    Breaks bytes failure ↔ ofBytes bytes = .error failure := by
  unfold ofBytes
  constructor
  · intro h
    cases h with
    | undecodable hd => rw [hd]
    | scalar hd hb hy =>
        rw [hd]
        exact (ofText_eq_error_iff rfl).mpr ⟨hb, _, hy, rfl⟩
  · intro h
    cases hd : Text.Utf8.decodeStrict bytes with
    | error fault =>
        simp only [hd, Except.error.injEq] at h
        exact h ▸ Breaks.undecodable hd
    | ok text =>
        simp only [hd] at h
        obtain ⟨hb, fault, hy, rfl⟩ := (ofText_eq_error_iff hr).mp h
        exact Breaks.scalar hd hb hy

/-- **Project files**: what a file breaks off with without a report, it breaks off with for its
bytes. -/
theorem load_eq_error_iff (hr : failure.isReported = false) :
    load fs path = .error failure ↔ ∃ bytes, fs.read? path = some bytes ∧ Breaks bytes failure := by
  constructor
  · intro h
    unfold load at h
    split at h
    · next hexists =>
      cases hc : fs.content path with
      | error fault =>
          simp only [hc, Except.error.injEq] at h
          rw [← h] at hr
          -- a path with a NUL does not exist, and all other refusals are reported
          cases fault with
          | system f => cases hr
          | embeddedNul =>
              rw [FileSystem.pathExists_eq_false_of_hasNul
                (FileSystem.content_eq_embeddedNul_iff.mp hc)] at hexists
              cases hexists
      | ok found =>
          obtain ⟨location, bytes⟩ := found
          simp only [hc] at h
          exact ⟨bytes, FileSystem.read?_of_content hc, (breaks_iff hr).mpr h⟩
    · cases h
  · rintro ⟨bytes, hread, hbreaks⟩
    obtain ⟨location, hc⟩ := FileSystem.content_of_read? hread
    rw [load, if_pos (FileSystem.pathExists_of_read? hread), hc]
    exact (breaks_iff hr).mp hbreaks

end EventMessages.Project
