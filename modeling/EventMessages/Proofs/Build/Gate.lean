import EventMessages.Proofs.Build.Outcome
import EventMessages.Proofs.Text.Seam

/-!
# EventMessages.Proofs.Build.Gate

The question that a native build asks before it calls a compiler, seen from the bytes of the
constants file. The question is put to the text of the file, line by line. A needle without line
breaks and without U+FFFD is found there exactly when its bytes stand in the file as a block
(`carries_iff_holds`), and a digest is such a needle. So a build regenerates exactly when the
characters of its digest do not stand in the bytes of the constants file.
-/

namespace EventMessages

open Text Digest

/-! ## Needles -/

/-- A text that a reader of lines neither cuts nor takes for something else. -/
structure IsNeedle (needle : String) : Prop where
  nonempty : needle ≠ ""
  plain : ∀ c ∈ needle.toList, c ≠ '\n' ∧ c ≠ '\r' ∧ c ≠ '\uFFFD'

/-- The path leads to a file in which the bytes of the text stand as a block. -/
def FileSystem.Holds (fs : FileSystem) (path needle : String) : Prop :=
  ∃ location bytes, fs.content path = .ok (location, bytes) ∧
    needle.toUTF8.data.toList <:+: bytes

theorem Digest.IsDigest.isNeedle {stamp : String} (h : IsDigest stamp) : IsNeedle stamp where
  nonempty := by
    rintro rfl
    exact h.ne_nil (by decide)
  plain c hc := by
    have hdigit := h.digits c hc
    refine ⟨?_, ?_, ?_⟩ <;> rintro rfl <;> exact absurd hdigit (by decide)

/-- The digits of a digest are bytes. -/
theorem Digest.IsDigest.toUTF8_eq {stamp : String} (h : IsDigest stamp) :
    stamp.toUTF8.data.toList = stamp.toList.map fun c => UInt8.ofNat c.toNat := by
  have hdigits := h.digits
  rw [← Utf8.encode_toList]
  generalize stamp.toList = digits at hdigits
  induction digits with
  | nil => rfl
  | cons c digits ih =>
      have hdigit := hdigits c List.mem_cons_self
      have hascii : c.val.toNat ≤ 127 := by
        simp only [isDigit, Bool.or_eq_true, Bool.and_eq_true, decide_eq_true_eq, Char.le_def,
          UInt32.le_iff_toNat_le, Char.reduceVal, UInt32.reduceToNat] at hdigit
        omega
      rw [Utf8.encode_cons, ih fun x hx => hdigits x (List.mem_cons_of_mem _ hx),
        String.utf8EncodeChar, if_pos hascii]
      rfl

theorem lineHolds_iff_bytes {needle : String} (h : IsNeedle needle) (bytes : List UInt8) :
    lineHolds bytes needle = true ↔ needle.toUTF8.data.toList <:+: bytes := by
  have hne : needle.toList ≠ [] := by simpa using h.nonempty
  have hlf : '\n' ∉ needle.toList := fun hc => (h.plain _ hc).1 rfl
  have hcr : '\r' ∉ needle.toList := fun hc => (h.plain _ hc).2.1 rfl
  have hreplacement : '\uFFFD' ∉ needle.toList := fun hc => (h.plain _ hc).2.2 rfl
  rw [lineHolds_iff_occurs hne hlf hcr, Utf8.infix_decodeLossy_iff hreplacement, Utf8.encode_toList]

/-- A look for a needle is a search through the bytes of the file. -/
theorem carries_iff_holds {needle : String} (h : IsNeedle needle) (fs : FileSystem)
    (path : String) : fs.carries path needle = true ↔ fs.Holds path needle := by
  rw [FileSystem.carries, FileSystem.read?, FileSystem.Holds]
  cases fs.content path with
  | error fault => simp
  | ok found =>
      obtain ⟨location, bytes⟩ := found
      refine (lineHolds_iff_bytes h bytes).trans ⟨fun hi => ⟨location, bytes, rfl, hi⟩, ?_⟩
      rintro ⟨_, _, heq, hi⟩
      obtain ⟨rfl, rfl⟩ := Prod.mk.inj (Except.ok.inj heq)
      exact hi

/-! ## The gate -/

namespace Job

theorem lookFor_of_isNeedle {path needle : String} (job : Job)
    (hnul : FileSystem.hasNul path = false) (h : IsNeedle needle) :
    ∃ presence, job.lookFor path needle = (.ok presence, job.say (presence.line path needle)) ∧
      (presence.isPresent = true ↔ job.files.Holds path needle) := by
  unfold lookFor
  cases hs : job.files.stamp? path needle with
  | error failure =>
      rw [(FileSystem.stamp?_eq_error hs).1] at hnul
      cases hnul
  | ok presence =>
      exact ⟨presence, rfl, by rw [FileSystem.isPresent_of_stamp? hs, carries_iff_holds h]⟩

/-- **The gate searches bytes**: a look for a needle prints and does nothing else, and it finds the
needle exactly when the path leads to a file in which the bytes of the needle stand as a block,
whatever bytes stand around them. A native build looks for the 64 digits of its digest: it calls the
compilers exactly when they do not stand in the bytes of the constants file, and it calls none
exactly when they do. -/
theorem gate_searches_bytes (job : Job) :
    (∀ path needle, FileSystem.hasNul path = false → IsNeedle needle →
      ∃ presence, job.lookFor path needle = (.ok presence, job.say (presence.line path needle)) ∧
        (presence.isPresent = true ↔ job.files.Holds path needle)) ∧
    ∀ settings project digest answer last,
      job.files.digest (project.inputPath settings.root) = .ok digest →
      FileSystem.hasNul (nativeConstants settings project) = false →
      job.buildNative settings project = (answer, last) →
      IsNeedle digest ∧ digest.toList.length = 64 ∧
      digest.toUTF8.data.toList = digest.toList.map (fun c => UInt8.ofNat c.toNat) ∧
      (last.calls = job.calls ++ compilerCalls .native settings project
          (project.resPath settings.root) ↔
        ¬ job.files.Holds (nativeConstants settings project) digest) ∧
      (last.calls = job.calls ↔ job.files.Holds (nativeConstants settings project) digest) ∧
      ∀ report, answer = .ok report →
        (report.regenerated = true ↔
          ¬ job.files.Holds (nativeConstants settings project) digest) := by
  refine ⟨fun path needle => job.lookFor_of_isNeedle, fun settings project digest answer last hm
    hnul h => ?_⟩
  have hdigest : IsDigest digest := FileSystem.isDigest_of_digest hm
  have hcalls := compilerCalls_ne_nil .native settings project (project.resPath settings.root)
  refine ⟨hdigest.isNeedle, hdigest.length, hdigest.toUTF8_eq, ?_⟩
  rw [← carries_iff_holds hdigest.isNeedle]
  obtain ⟨⟨failure, -, hf⟩, -⟩ | ⟨found, hm', hcases⟩ := buildNative_cases h
  · obtain he | ⟨-, he⟩ := hf
    · rw [hm] at he
      cases he
    · rw [hnul] at he
      cases he
  obtain rfl : digest = found := Except.ok.inj (hm.symm.trans hm')
  obtain ⟨hc, rfl, -, hcalled⟩ | ⟨hc, hcalled, hanswer⟩ := hcases
  · rw [hc, hcalled]
    refine ⟨by simpa using hcalls, by simp, fun report hr => ?_⟩
    obtain rfl := Except.ok.inj hr
    simp [nativeReport]
  · rw [hc, hcalled]
    refine ⟨by simp, by simpa using hcalls, fun report hr => ?_⟩
    obtain ⟨-, result, -, rfl⟩ | ⟨-, rfl, -⟩ := hanswer
    · cases result with
      | error failure => cases hr
      | ok constants =>
          obtain rfl := Except.ok.inj hr
          simp [regeneratedReport]
    · cases hr

/-- The digest of a small definition. -/
def smallDigest : String := Digest.ofContent (Utf8.encode "MessageId=1".toList)

/-- A small project whose constants file is damaged: a cut character stands right before the digest,
and a CR and a byte that is no text stand right behind it. -/
def damaged : Job where
  files := (smallTree "MessageId=1").put ["eventmsgs.rs", "res"]
    (.file ([0xe2, 0x82] ++ smallDigest.toUTF8.data.toList ++ [0x0d, 0xff]))

/-- The digest is found in the damaged file, and a build calls no compiler. -/
theorem gate_searches_bytes_damaged :
    (∃ presence, (damaged.lookFor "res/eventmsgs.rs" smallDigest).1 = .ok presence ∧
      presence.isPresent = true) ∧
    (damaged.buildNative windowsHost {}).2.calls = [] := by
  have hdigest : IsDigest smallDigest := isDigest_ofContent _
  have hm : damaged.files.digest "res/eventmsgs.mc" = .ok smallDigest :=
    FileSystem.digest_eq_ok_iff.mpr ⟨_, by decide +kernel, rfl⟩
  have htarget : (smallTree "MessageId=1").target "res/eventmsgs.rs" =
      .ok ["eventmsgs.rs", "res"] := by decide +kernel
  have hholds : damaged.files.Holds "res/eventmsgs.rs" smallDigest := by
    obtain ⟨location, hc⟩ := FileSystem.content_of_read?
      (FileSystem.read?_put_file (by decide +kernel) htarget)
    exact ⟨location, _, hc, List.infix_append _ _ _⟩
  obtain ⟨hlook, hbuild⟩ := gate_searches_bytes damaged
  constructor
  · obtain ⟨presence, heq, hpresent⟩ := hlook "res/eventmsgs.rs" smallDigest (by decide +kernel)
      hdigest.isNeedle
    exact ⟨presence, by rw [heq], hpresent.mpr hholds⟩
  · obtain ⟨-, -, -, -, hcalls, -⟩ := hbuild windowsHost {} smallDigest _ _ hm (by decide +kernel)
      (Prod.eta _).symm
    exact hcalls.mpr hholds

end Job

end EventMessages
