import EventMessages.Proofs.Build.Outcome

/-!
# EventMessages.Proofs.Build.StaleHeader

Message compilers that fail. A build does not stop for them, so what counts is the header that is
there: if an older build has left one, its constants are recorded under the digest of the current
definition, and if none can be read the build fails and the constants file stays stale.
-/

namespace EventMessages

/-! ## Tools that fail -/

/-- Whether a program does not start or leaves a status other than 0. -/
def Ending.fails : Ending → Bool
  | .refused _ _ _ => true
  | .ended status _ _ => status != 0

/-- Whether a program did not start or left a status other than 0. -/
def Outcome.failed : Outcome → Bool
  | .notStarted _ => true
  | .ended status _ _ => status != 0

namespace Job

theorem failed_outcomeOf {ending : Ending} (program : String) (fault? : Option AccessFault)
    (h : ending.fails = true) : (outcomeOf program fault? ending).failed = true := by
  cases ending with
  | refused number reason named => rcases fault? with _ | _ | fault <;> rfl
  | ended status output errors =>
      obtain _ | _ | fault := fault?
      · exact h
      · exact h
      · rfl

/-- Compilers that write nothing leave all files as they are. -/
theorem afterCompilers_of_writes_eq_nil {script : List Performance} (fs : FileSystem)
    (h : ∀ performance ∈ script.take 2, performance.writes = []) :
    afterCompilers fs script = fs := by
  have hfirst : (script.headD {}).writes = [] := by
    cases script with
    | nil => rfl
    | cons message script => exact h message (by simp)
  have hsecond : (script.tail.headD {}).writes = [] := by
    obtain _ | ⟨message, _ | ⟨resource, script⟩⟩ := script
    · rfl
    · rfl
    · exact h resource (by simp)
  rw [afterCompilers, afterMessages, hfirst, hsecond, makeFiles_nil, makeFiles_nil]

end Job

/-! ## Translations that fail -/

namespace FileSystem

variable {fs files : FileSystem} {header generated stamp digest : String}

/-- A translation that fails leaves no stamp that was not there. -/
theorem carries_of_translate_eq_error {failure : Failure}
    (h : fs.translate header generated stamp = (files, .error failure))
    (hstale : fs.carries generated digest = false) : files.carries generated digest = false := by
  obtain ⟨hfiles, -⟩ | ⟨-, hnone⟩ := translate_eq_error h
  · rw [hfiles]
    exact hstale
  · exact carries_of_read?_eq_none hnone

end FileSystem

/-! ## Builds -/

namespace Job

variable {job next last : Job} {settings : Settings} {project : Project} {digest : String}

theorem hasNul_of_calls_ne {answer : Except Failure Report}
    (hm : job.files.digest (project.inputPath settings.root) = .ok digest)
    (h : job.buildNative settings project = (answer, last)) (hcalled : last.calls ≠ job.calls) :
    FileSystem.hasNul (nativeConstants settings project) = false := by
  rw [Bool.eq_false_iff]
  intro hnul
  rw [buildNative_of_hasNul hm hnul, Prod.mk.injEq] at h
  rw [← h.2] at hcalled
  exact hcalled rfl

/-- A stale constants file makes a build call its compilers. -/
theorem calls_of_not_carries
    (hm : job.files.digest (project.inputPath settings.root) = .ok digest)
    (hstale : job.files.carries (nativeConstants settings project) digest = false)
    (hnul : FileSystem.hasNul (nativeConstants settings project) = false) :
    (job.buildNative settings project).2.calls = job.calls ++
      compilerCalls .native settings project (project.resPath settings.root) := by
  by_cases hcalls : CanCall .native settings project (project.resPath settings.root)
  · obtain ⟨log, h⟩ := buildNative_of_not_carries hm hstale hcalls
    rw [h]
  · obtain ⟨log, h⟩ := buildNative_of_not_canCall hm hstale hnul hcalls
    rw [h, interrupted]

/-- A build that cannot call its compilers, for all that it has a definition and can look for its
stamp, has no header: the NUL is in the directory. -/
theorem read?_nativeHeader_of_not_canCall
    (hm : job.files.digest (project.inputPath settings.root) = .ok digest)
    (hnul : FileSystem.hasNul (nativeConstants settings project) = false)
    (hfront : FileSystem.hasNul settings.toolPrelude = false)
    (hcalls : ¬CanCall .native settings project (project.resPath settings.root)) :
    job.files.read? (nativeHeader settings project) = none := by
  obtain ⟨definition, hr, -⟩ := FileSystem.digest_eq_ok_iff.mp hm
  cases hheader : job.files.read? (nativeHeader settings project) with
  | none => rfl
  | some header =>
      refine absurd (Branch.native.canCall_iff.mpr ⟨hfront, ?_, ?_, hnul⟩) hcalls
      · exact Project.hasNul_directory_of_headerIn (FileSystem.hasNul_of_read? hheader)
      · exact FileSystem.hasNul_of_read? hr

/-- **Failed message compilers**: if the constants file is stale, the message compiler fails and no
compiler writes a file, then the constants file carries the current digest afterwards exactly if
the build returns, and the build returns exactly if a header was left behind and the constants file
can be opened. A build that returns has recorded the constants of that header, and the failure is in
its report. After a build that fails, the next one makes the same calls again. On Windows the names
of programs have no front, and so no NUL in it. -/
theorem buildNative_of_failedMessageCompiler {answer : Except Failure Report}
    (hfront : FileSystem.hasNul settings.toolPrelude = false)
    (hm : job.files.digest (project.inputPath settings.root) = .ok digest)
    (hstale : job.files.carries (project.constantsIn (project.resPath settings.root)) digest =
      false)
    (hfails : (job.script.headD {}).ending.fails = true)
    (hwrites : ∀ performance ∈ job.script.take 2, performance.writes = [])
    (h : job.buildNative settings project = (answer, last))
    (hcalled : last.calls ≠ job.calls) :
    (last.files.carries (project.constantsIn (project.resPath settings.root)) digest = true ↔
      answer.isOk = true) ∧
    (answer.isOk = true ↔
      (job.files.read? (project.headerIn (project.resPath settings.root))).isSome = true ∧
      (job.files.openForWriting
        (project.constantsIn (project.resPath settings.root))).2.isOk = true) ∧
    (∀ report, answer = .ok report →
      ∃ header message resource,
        job.files.read? (project.headerIn (project.resPath settings.root)) = some header ∧
        last.files.read? (project.constantsIn (project.resPath settings.root)) =
          some (ConstantsFile.bytes digest (Constant.ofHeader header)) ∧
        report.tools = [message, resource] ∧ message.outcome.failed = true) ∧
    (∀ failure, answer = .error failure → ∀ next : Job,
      next.files.read? (project.inputPath settings.root) =
        job.files.read? (project.inputPath settings.root) →
      next.files.read? (project.constantsIn (project.resPath settings.root)) =
        last.files.read? (project.constantsIn (project.resPath settings.root)) →
      (next.buildNative settings project).2.calls = next.calls ++
        compilerCalls .native settings project (project.resPath settings.root)) := by
  have hnul := hasNul_of_calls_ne hm h hcalled
  have hafter := afterCompilers_of_writes_eq_nil job.files hwrites
  have hok : (job.files.translate (nativeHeader settings project)
      (nativeConstants settings project) digest).2.isOk = true ↔ _ :=
    FileSystem.translate_isOk_iff
  cases answer with
  | error failure =>
      obtain ⟨hfiles, hcalls⟩ | ⟨digest', hm', -, ht⟩ := buildNative_eq_error h
      · -- a build that has called a compiler in vain could not read a header either
        have hheader := read?_nativeHeader_of_not_canCall hm hnul hfront
          (hcalls.resolve_left hcalled)
        rw [nativeHeader] at hheader
        refine ⟨⟨fun hp => ?_, fun hp => by cases hp⟩, ⟨fun hp => (by cases hp), fun hp => ?_⟩,
          fun report hr => (by cases hr), fun _ _ next hinput hconstants => ?_⟩
        · rw [hfiles, hstale] at hp
          cases hp
        · rw [hheader] at hp
          cases hp.1
        · refine calls_of_not_carries (FileSystem.digest_of_read?_eq hinput hm) ?_ hnul
          rw [nativeConstants, FileSystem.carries_of_read?_eq hconstants, hfiles]
          exact hstale
      · obtain rfl : digest = digest' := Except.ok.inj (hm.symm.trans hm')
        rw [hafter] at ht
        rw [ht] at hok
        have hc := FileSystem.carries_of_translate_eq_error ht hstale
        refine ⟨⟨fun hp => ?_, fun hp => by cases hp⟩, hok, fun report hr => (by cases hr),
          fun _ _ next hinput hconstants => ?_⟩
        · rw [nativeConstants, hp] at hc
          cases hc
        · refine calls_of_not_carries (FileSystem.digest_of_read?_eq hinput hm) ?_ hnul
          rw [nativeConstants, FileSystem.carries_of_read?_eq hconstants]
          exact hc
  | ok report =>
      obtain ⟨digest', hm', ⟨hc, -, -, -⟩ | ⟨-, constants, ht, hr, -⟩⟩ := buildNative_eq_ok h
      · obtain rfl : digest = digest' := Except.ok.inj (hm.symm.trans hm')
        rw [nativeConstants, hstale] at hc
        cases hc
      · obtain rfl : digest = digest' := Except.ok.inj (hm.symm.trans hm')
        rw [hafter] at ht
        rw [ht] at hok
        obtain ⟨header, hheader, -, hg⟩ := Project.read?_of_translate ht
        have hc := carries_of_buildNative h
        rw [hr] at hc
        refine ⟨⟨fun _ => rfl, fun _ => hc⟩, hok, fun other ho => ?_, fun _ hr => by cases hr⟩
        obtain rfl := Except.ok.inj ho
        rw [hr]
        exact ⟨header, _, _, hheader, hg, rfl, failed_outcomeOf _ _ hfails⟩

/-- A small project with a header from before, and no message compiler. -/
def leftover : Job where
  files := (smallTree "MessageId=1").put ["eventmsgs.h", "res"]
    (.file (Text.Utf8.encode "#define ALPHA 0x1".toList))
  script := [{ ending := .refused 2 "No such file or directory" true }]

theorem digest_leftover : leftover.files.digest "res/eventmsgs.mc" =
    .ok (Digest.ofContent (Text.Utf8.encode "MessageId=1".toList)) :=
  FileSystem.digest_eq_ok_iff.mpr ⟨_, by decide +kernel, rfl⟩

/-- The constants of the header from before are recorded under the current digest. -/
theorem buildNative_of_failedMessageCompiler_leftover :
    (leftover.buildNative windowsHost {}).2.files.read? "res/eventmsgs.rs" =
      some (ConstantsFile.bytes (Digest.ofContent (Text.Utf8.encode "MessageId=1".toList))
        (Constant.ofHeader (Text.Utf8.encode "#define ALPHA 0x1".toList))) := by
  have h : leftover.buildNative windowsHost {} =
      ((leftover.buildNative windowsHost {}).1, (leftover.buildNative windowsHost {}).2) := rfl
  obtain ⟨-, hok, hreturns, -⟩ := buildNative_of_failedMessageCompiler (by decide +kernel)
    digest_leftover (by decide +kernel) rfl (by decide +kernel) h (by decide +kernel)
  obtain ⟨report, hr⟩ := report_of_isOk (hok.mpr ⟨by decide +kernel, by decide +kernel⟩)
  obtain ⟨header, -, -, hheader, hg, -⟩ := hreturns report hr
  have hread : leftover.files.read? "res/eventmsgs.h" =
      some (Text.Utf8.encode "#define ALPHA 0x1".toList) := by decide +kernel
  obtain rfl := Option.some.inj (hheader.symm.trans hread)
  exact hg

/-- A stale constants file need not stay stale when the message compiler fails. -/
theorem not_forall_stale_of_failedMessageCompiler :
    ¬ ∀ (job last : Job) (settings : Settings) (project : Project) (digest : String)
      (answer : Except Failure Report),
      job.files.digest (project.inputPath settings.root) = .ok digest →
      job.files.carries (project.constantsIn (project.resPath settings.root)) digest = false →
      (job.script.headD {}).ending.fails = true →
      (∀ performance ∈ job.script.take 2, performance.writes = []) →
      job.buildNative settings project = (answer, last) → last.calls ≠ job.calls →
      last.files.carries (project.constantsIn (project.resPath settings.root)) digest = false := by
  intro hstays
  have h : leftover.buildNative windowsHost {} =
      ((leftover.buildNative windowsHost {}).1, (leftover.buildNative windowsHost {}).2) := rfl
  have hc := hstays leftover _ windowsHost {} _ _ digest_leftover (by decide +kernel) rfl
    (by decide +kernel) h (by decide +kernel)
  have hp : (leftover.buildNative windowsHost {}).2.files.carries "res/eventmsgs.rs"
      (Digest.ofContent (Text.Utf8.encode "MessageId=1".toList)) = true := by decide +kernel
  exact absurd (hp.symm.trans hc) (by decide)

end Job

end EventMessages
