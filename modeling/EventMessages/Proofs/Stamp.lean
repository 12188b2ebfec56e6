import EventMessages.Header.ConstantsFile
import EventMessages.Proofs.Digest
import EventMessages.Proofs.FileSystem.Reading
import EventMessages.Proofs.Text.Occurrence
import EventMessages.Proofs.Text.Utf8
import EventMessages.Stamp

/-!
# EventMessages.Proofs.Stamp

Which stamps a constants file carries. It carries the stamp it was written under, and another
digest only where a constant spells it (`lineHolds_bytes_iff`).
-/

namespace EventMessages

open Text Digest

/-! ## Looking for a digest -/

/-- A look for a needle without line breaks goes through the whole text of the file. -/
theorem lineHolds_iff_occurs {bytes : List UInt8} {needle : String} (hne : needle.toList ≠ [])
    (hlf : '\n' ∉ needle.toList) (hcr : '\r' ∉ needle.toList) :
    lineHolds bytes needle = true ↔ needle.toList <:+: Utf8.decodeLossy bytes := by
  rw [lineHolds, any_occursIn_lines_iff hne hlf, infix_unifyBreaks_iff hlf hcr]

theorem lineHolds_iff {bytes : List UInt8} {stamp : String} (h : IsDigest stamp) :
    lineHolds bytes stamp = true ↔ stamp.toList <:+: Utf8.decodeLossy bytes :=
  lineHolds_iff_occurs h.ne_nil (h.notMem (by decide)) (h.notMem (by decide))

/-! ## The text of a constants file -/

section ConstantsFile

variable {stamp digest : String}

/-- A digest is too long to stand in a short text. -/
theorem Digest.IsDigest.not_infix_of_length (h : IsDigest digest) {text : List Char}
    (hl : text.length < 64) : ¬ digest.toList <:+: text := by
  intro hi
  have := hi.length_le
  have := h.length
  omega

theorem toList_provenance (stamp : String) : (provenance stamp).toList =
    "// Auto-generated from origin with SHA256".toList ++ ' ' :: (stamp.toList ++ ['.']) := by
  have hwords : "// Auto-generated from origin with SHA256 ".toList =
      "// Auto-generated from origin with SHA256".toList ++ [' '] := by decide
  have hdot : ".".toList = ['.'] := by decide
  unfold provenance
  rw [String.toList_append, String.toList_append, hwords, hdot, List.append_assoc,
    List.append_assoc, List.singleton_append]

/-- A provenance line holds the digest it names and no other. -/
theorem infix_provenance_iff (h : IsDigest digest) (hs : IsDigest stamp) :
    digest.toList <:+: (provenance stamp).toList ↔ digest = stamp := by
  rw [toList_provenance, infix_append_cons_iff (h.notMem (by decide)),
    infix_append_cons_iff (h.notMem (by decide))]
  constructor
  · rintro (hp | hd | hn)
    · exact absurd hp (h.not_infix_of_length (by decide))
    · exact String.toList_inj.mp (hd.eq_of_length (h.length.trans hs.length.symm))
    · exact absurd hn (h.not_infix_of_length (by decide))
  · rintro rfl
    exact Or.inr (Or.inl List.infix_rfl)

/-- The name or the value of the constant holds the digest. -/
def Constant.Spells (c : Constant) (digest : String) : Prop :=
  digest.toList <:+: c.name.toList ∨ digest.toList <:+: c.value.toList

/-- A short name and a short value spell no digest. -/
theorem Constant.not_spells_of_length {c : Constant} (h : IsDigest digest)
    (hn : c.name.toList.length < 64) (hv : c.value.toList.length < 64) : ¬ c.Spells digest := by
  rintro (hs | hs)
  · exact h.not_infix_of_length hn hs
  · exact h.not_infix_of_length hv hs

theorem toList_declaration (c : Constant) : c.declaration.toList =
    "pub const".toList ++ ' ' :: (c.name.toList ++ ':' :: (" u32 =".toList ++
      ' ' :: (c.value.toList ++ [';']))) := by
  have hopen : "pub const ".toList = "pub const".toList ++ [' '] := by decide
  have hcolon : ": ".toList = [':', ' '] := by decide
  have hequal : " = ".toList = [' ', '=', ' '] := by decide
  have htype : " u32 =".toList = ' ' :: ("u32".toList ++ [' ', '=']) := by decide
  have hend : ";".toList = [';'] := by decide
  unfold Constant.declaration Constant.typeName
  simp only [String.toList_append, hopen, hcolon, hequal, htype, hend, List.append_assoc,
    List.cons_append, List.nil_append]

/-- A declaration holds a digest in its name or in its value. -/
theorem infix_declaration_iff (h : IsDigest digest) (c : Constant) :
    digest.toList <:+: c.declaration.toList ↔ c.Spells digest := by
  rw [toList_declaration, infix_append_cons_iff (h.notMem (by decide)),
    infix_append_cons_iff (h.notMem (by decide)), infix_append_cons_iff (h.notMem (by decide)),
    infix_append_cons_iff (h.notMem (by decide)), Constant.Spells]
  constructor
  · rintro (hp | hn | ht | hv | he)
    · exact absurd hp (h.not_infix_of_length (by decide))
    · exact Or.inl hn
    · exact absurd ht (h.not_infix_of_length (by decide))
    · exact Or.inr hv
    · exact absurd he (h.not_infix_of_length (by decide))
  · rintro (hn | hv)
    · exact Or.inr (Or.inl hn)
    · exact Or.inr (Or.inr (Or.inr (Or.inl hv)))

theorem infix_declarations_iff (h : IsDigest digest) (constants : List Constant) :
    digest.toList <:+: (constants.flatMap fun c => c.declaration.toList ++ ['\n']) ↔
      ∃ c ∈ constants, c.Spells digest := by
  induction constants with
  | nil => simp [h.ne_nil]
  | cons c constants ih =>
      rw [List.flatMap_cons, List.append_assoc, List.singleton_append,
        infix_append_cons_iff (h.notMem (by decide)), infix_declaration_iff h, ih]
      simp

/-- **The stamps of a constants file**: the digest it was written under, and those that its
constants spell. -/
theorem lineHolds_bytes_iff (h : IsDigest digest) (hs : IsDigest stamp)
    (constants : List Constant) :
    lineHolds (ConstantsFile.bytes stamp constants) digest = true ↔
      digest = stamp ∨ ∃ c ∈ constants, c.Spells digest := by
  rw [lineHolds_iff h, ConstantsFile.bytes, Utf8.decodeLossy_encode, ConstantsFile.text,
    infix_append_cons_iff (h.notMem (by decide)), infix_provenance_iff h hs,
    infix_declarations_iff h]

end ConstantsFile

/-! ## Files that carry a stamp -/

namespace FileSystem

/-- Whether a path leads to a file that carries the stamp. -/
def carries (fs : FileSystem) (path stamp : String) : Bool :=
  match fs.read? path with
  | none => false
  | some bytes => lineHolds bytes stamp

variable {fs : FileSystem} {path stamp : String} {bytes : List UInt8}

theorem carries_of_read? (h : fs.read? path = some bytes) :
    fs.carries path stamp = lineHolds bytes stamp := by
  rw [carries, h]

theorem carries_of_read?_eq_none (h : fs.read? path = none) : fs.carries path stamp = false := by
  rw [carries, h]

theorem carries_of_read?_eq {later : FileSystem} (h : later.read? path = fs.read? path) :
    later.carries path stamp = fs.carries path stamp := by
  rw [carries, carries, h]

theorem digest_eq_ok_iff {digest : String} : fs.digest path = .ok digest ↔
    ∃ bytes, fs.read? path = some bytes ∧ digest = Digest.ofContent bytes := by
  rw [FileSystem.digest, read?]
  cases fs.content path with
  | error fault => simp
  | ok found =>
      obtain ⟨location, bytes⟩ := found
      simp [eq_comm]

/-- A file has no digest for a reason that is reported, or because its path holds a NUL. -/
theorem failure_of_digest {failure : Failure} (h : fs.digest path = .error failure) :
    failure.isReported = true ∨ failure = .access .embeddedNul ∧ hasNul path = true := by
  rw [FileSystem.digest] at h
  cases hc : fs.content path with
  | ok found => simp [hc] at h
  | error fault =>
      simp only [hc, Except.error.injEq] at h
      subst h
      cases fault with
      | system f => exact Or.inl rfl
      | embeddedNul => exact Or.inr ⟨rfl, content_eq_embeddedNul_iff.mp hc⟩

/-- The digest of a file is read off its bytes. -/
theorem digest_of_read?_eq {later : FileSystem} {digest : String}
    (h : later.read? path = fs.read? path) (hd : fs.digest path = .ok digest) :
    later.digest path = .ok digest := by
  rw [digest_eq_ok_iff] at hd ⊢
  rw [h]
  exact hd

theorem isDigest_of_digest {digest : String} (h : fs.digest path = .ok digest) :
    IsDigest digest := by
  obtain ⟨bytes, -, rfl⟩ := digest_eq_ok_iff.mp h
  exact isDigest_ofContent bytes

/-- A look for a stamp tells whether the file carries it. -/
theorem isPresent_of_stamp? {presence : Presence} (h : fs.stamp? path stamp = .ok presence) :
    presence.isPresent = fs.carries path stamp := by
  rw [FileSystem.stamp?] at h
  rw [carries, read?]
  cases hc : fs.content path with
  | error fault =>
      cases fault with
      | embeddedNul => simp [hc] at h
      | system f =>
          simp only [hc, Except.ok.injEq] at h
          rw [← h]
          rfl
  | ok found =>
      obtain ⟨location, bytes⟩ := found
      simp only [hc, Except.ok.injEq] at h
      rw [← h]
      cases hl : lineHolds bytes stamp <;> simp [hl, Presence.isPresent]

/-- A look for a stamp fails for no other reason than a NUL in the path. -/
theorem stamp?_eq_error {failure : Failure} (h : fs.stamp? path stamp = .error failure) :
    hasNul path = true ∧ fs.carries path stamp = false := by
  rw [FileSystem.stamp?] at h
  cases hc : fs.content path with
  | ok found => simp [hc] at h
  | error fault =>
      cases fault with
      | system f => simp [hc] at h
      | embeddedNul =>
          exact ⟨content_eq_embeddedNul_iff.mp hc, by rw [carries, read?, hc]⟩

theorem stamp?_of_carries (h : fs.carries path stamp = true) :
    fs.stamp? path stamp = .ok .present := by
  cases hs : fs.stamp? path stamp with
  | error failure =>
      rw [(stamp?_eq_error hs).2] at h
      cases h
  | ok presence =>
      rw [← isPresent_of_stamp? hs] at h
      cases presence with
      | present => rfl
      | absent => cases h
      | unreadable fault => cases h

theorem stamp?_of_not_carries (hnul : hasNul path = false) (h : fs.carries path stamp = false) :
    ∃ presence, fs.stamp? path stamp = .ok presence ∧ presence.isPresent = false := by
  cases hs : fs.stamp? path stamp with
  | error failure =>
      rw [(stamp?_eq_error hs).1] at hnul
      cases hnul
  | ok presence => exact ⟨presence, rfl, (isPresent_of_stamp? hs).trans h⟩

end FileSystem

end EventMessages
