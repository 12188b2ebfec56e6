import EventMessages.Proofs.Build.Branches

/-!
# EventMessages.Proofs.Build.CompiledHeader

The header that a build translates. A message compiler is not told where to put its header: it
takes the directory from its arguments and the stem from the definition that it is given, which is
the definition as it is seen from the project root. A build looks for the header by the project
alone. Both arrive at the same path, so what is translated is what the compiler has written
(`Branch.translates_compiledHeader`).
-/

namespace EventMessages

namespace Job

/-! ## The compiler's side -/

/-- The word after a switch, or nothing where the switch is missing. -/
def wordAfter (switch : String) (args : List String) : String :=
  ((args.dropWhile (· ≠ switch)).drop 1).headD ""

/-- Where a message compiler that is called with these arguments puts its header: in the directory
that follows `-h`, under the stem of the last argument. -/
def compiledHeader (args : List String) : String :=
  Path.join (wordAfter "-h" args) (Path.stem (args.getLastD "") ++ ".h")

/-- A program that makes all its files leaves the last one as it has written it. -/
theorem read?_of_makeFiles {fs made : FileSystem} {before : List (String × List UInt8)}
    {path : String} {bytes : List UInt8}
    (h : makeFiles fs (before ++ [(path, bytes)]) = (made, none)) :
    made.read? path = some bytes := by
  induction before generalizing fs with
  | nil =>
      rcases hs : fs.store path bytes with ⟨stored, fault | u⟩
      · rw [List.nil_append, makeFiles_of_store_eq_error hs] at h
        cases h
      · rw [List.nil_append, makeFiles_of_store_eq_ok hs, makeFiles_nil, Prod.mk.injEq] at h
        rw [← h.1]
        exact FileSystem.read?_of_store hs
  | cons file before ih =>
      rcases hs : fs.store file.1 file.2 with ⟨stored, fault | u⟩
      · rw [List.cons_append, makeFiles_of_store_eq_error hs] at h
        cases h
      · rw [List.cons_append, makeFiles_of_store_eq_ok hs] at h
        exact ih h

/-- The compiler and the build name the header alike. -/
theorem compiledHeader_eq (project : Project) (root directory : String) :
    compiledHeader ["-U", "-h", directory, "-r", directory, project.inputPath root] =
      project.headerIn directory := by
  have hword : wordAfter "-h" ["-U", "-h", directory, "-r", directory, project.inputPath root] =
      directory := by
    simp [wordAfter]
  rw [compiledHeader, hword]
  simp [Project.headerIn, Project.compiledStem, Project.inputPath]

end Job

open Job

namespace Branch

variable {branch : Branch} {job last : Job} {settings : Settings} {project : Project}
variable {report : Report}

/-! ## The build's side -/

/-- A build that returns and has regenerated has translated the header that was there after both
compilers. -/
theorem regenerates_of_regenerated (h : branch.build job settings project = (.ok report, last))
    (hr : report.regenerated = true) :
    ∃ directory digest constants, branch.Regenerates job settings project (.ok report) last
      directory digest (.ok constants) := by
  obtain ⟨-, -, ⟨failure, hfailed, -⟩ | ⟨digest, hfound⟩⟩ |
    ⟨directory, digest, count, hregenerates⟩ | ⟨directory, hinterrupts⟩ := build_cases h
  · cases hfailed
  · -- a build that finds its stamp reports that it has not regenerated
    rw [Except.ok.inj hfound] at hr
    cases hr
  · cases count with
    | error failure => cases hregenerates.answered
    | ok constants => exact ⟨directory, digest, constants, hregenerates⟩
  · cases hinterrupts.answered

/-- **Compiled headers**: a build that returns and has regenerated leaves the constants of the very
header that its message compiler has put where its arguments told it to, unless the resource
compiler has changed that header. They stand under the digest that the definition had before the
compilers were called. -/
theorem translates_compiledHeader (h : branch.build job settings project = (.ok report, last))
    (hr : report.regenerated = true) :
    ∃ directory digest program args resource,
      branch.directory? settings project = some directory ∧
      job.files.digest (project.inputPath settings.root) = .ok digest ∧
      report.digest = digest ∧
      last.calls = job.calls ++ [program :: args, resource] ∧
      ∀ header,
        (afterMessages job.files job.script).read? (compiledHeader args) = some header →
        (afterCompilers job.files job.script).read? (compiledHeader args) =
          (afterMessages job.files job.script).read? (compiledHeader args) →
        last.files.read? (project.constantsIn directory) =
            some (ConstantsFile.bytes digest (Constant.ofHeader header)) ∧
          report.constants = (Constant.ofHeader header).length := by
  obtain ⟨directory, digest, constants, hregenerates⟩ := regenerates_of_regenerated h hr
  have hreport : report =
      branch.regeneratedReport job settings project directory digest constants :=
    Except.ok.inj hregenerates.answered
  refine ⟨directory, digest, _, _, _, hregenerates.place, hregenerates.definition,
    by rw [hreport, regeneratedReport], hregenerates.called, fun header hwritten hkept => ?_⟩
  rw [compiledHeader_eq] at hwritten hkept
  rw [hwritten] at hkept
  obtain ⟨found, hfound, hcount, hconstants⟩ :=
    Project.read?_of_translate hregenerates.translated
  obtain rfl : header = found := Option.some.inj (hkept.symm.trans hfound)
  exact ⟨hconstants, by rw [hreport, regeneratedReport, hcount]⟩

/-- A project that is not named after its definition, which it reaches in a roundabout way. -/
def renamed : Project where
  input := "./res/../res//eventmsgs.mc"
  name := "app"

/-- The constants of the header that the compiler of the small tree writes are found under the name
of the project. -/
theorem translates_compiledHeader_renamed :
    (Branch.cross.build smallCross crossHost renamed).2.files.read? "res/app.rs" =
      some (ConstantsFile.bytes (Digest.ofContent (Text.Utf8.encode "MessageId=1".toList))
        (Constant.ofHeader (Text.Utf8.encode "#define ALPHA 0x1".toList))) := by
  have hm : smallCross.files.digest "./res/../res//eventmsgs.mc" =
      .ok (Digest.ofContent (Text.Utf8.encode "MessageId=1".toList)) :=
    FileSystem.digest_eq_ok_iff.mpr ⟨_, by decide +kernel, rfl⟩
  have hok : (Branch.cross.build smallCross crossHost renamed).1.isOk = true := by decide +kernel
  obtain ⟨report, hreport⟩ := report_of_isOk hok
  have hr : (Branch.cross.build smallCross crossHost renamed).1.toOption.map Report.regenerated =
      some true := by decide +kernel
  rw [hreport] at hr
  obtain ⟨directory, digest, program, args, resource, hplace, hdigest, -, hcalls, htranslates⟩ :=
    @translates_compiledHeader Branch.cross smallCross _ crossHost renamed report
      (eq_of_fst_eq_ok hreport) (Option.some.inj hr)
  obtain rfl : directory = "res" := Option.some.inj (hplace.symm.trans (by decide +kernel))
  obtain rfl := Except.ok.inj (hdigest.symm.trans hm)
  have hargs : (Branch.cross.build smallCross crossHost renamed).2.calls.head?.map List.tail =
      some ["-U", "-h", "res", "-r", "res", "./res/../res//eventmsgs.mc"] := by decide +kernel
  rw [hcalls] at hargs
  obtain rfl := Option.some.inj hargs
  have hmade : makeFiles smallCross.files ([] ++ [("res/eventmsgs.h",
      Text.Utf8.encode "#define ALPHA 0x1".toList)]) =
        (afterMessages smallCross.files smallCross.script, none) :=
    Prod.ext rfl (by decide +kernel)
  exact (htranslates _ (read?_of_makeFiles hmade) (by decide +kernel)).1

end Branch

end EventMessages
