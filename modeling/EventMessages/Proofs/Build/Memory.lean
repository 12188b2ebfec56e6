import EventMessages.Proofs.Build.Branches
import EventMessages.Proofs.Build.Places
import EventMessages.Proofs.FileSystem.Contents
import EventMessages.Proofs.Frame

/-!
# EventMessages.Proofs.Build.Memory

What a build on the cross branch remembers of earlier ones: nothing. It reads its definition and its
header, and neither of them is the constants file. So whatever that file holds at the start, and
whatever the tools make of it, the build prints, calls and reports the same, and if it returns it
leaves the same files (`Job.buildCross_forgets`).
-/

namespace EventMessages

open FileSystem

namespace Job

variable {apart : List Location} {job other : Job}

/-! ## Jobs in like files -/

/-- The jobs are at the same point, in file systems that are the same but for what the files at
these locations hold. -/
structure SameBut (apart : List Location) (job other : Job) : Prop where
  files : FileSystem.SameBut apart job.files other.files
  script : other.script = job.script
  log : other.log = job.log
  calls : other.calls = job.calls

/-- Both steps have the same answer and lead to jobs that are the same but for these files. -/
structure SameStep {α : Type} (apart : List Location) (ended other : α × Job) : Prop where
  answer : other.1 = ended.1
  job : SameBut apart ended.2 other.2

theorem SameStep.exists_eq {α : Type} {ended otherEnded : α × Job}
    (h : SameStep apart ended otherEnded) :
    ∃ answer last otherLast, ended = (answer, last) ∧ otherEnded = (answer, otherLast) ∧
      SameBut apart last otherLast :=
  ⟨ended.1, ended.2, otherEnded.2, rfl, Prod.ext h.answer rfl, h.job⟩

theorem SameBut.say (h : SameBut apart job other) (line : String) :
    SameBut apart (job.say line) (other.say line) :=
  ⟨h.files, h.script, congrArg (· ++ [line]) h.log, h.calls⟩

theorem SameBut.sayAll (h : SameBut apart job other) (lines : List String) :
    SameBut apart (job.sayAll lines) (other.sayAll lines) :=
  ⟨h.files, h.script, congrArg (· ++ lines) h.log, h.calls⟩

theorem SameBut.withFiles (h : SameBut apart job other) {files otherFiles : FileSystem}
    (hfiles : FileSystem.SameBut apart files otherFiles) :
    SameBut apart (job.withFiles files) (other.withFiles otherFiles) :=
  ⟨hfiles, h.script, h.log, h.calls⟩

/-! ## Steps -/

/-- A file that is none of these has the same digest. -/
theorem SameBut.hashFile (h : SameBut apart job other) {path : String}
    (hpath : ∀ location ∈ apart, job.files.target path ≠ .ok location) :
    SameStep apart (job.hashFile path) (other.hashFile path) := by
  unfold Job.hashFile FileSystem.digest
  rw [h.files.content hpath]
  cases job.files.content path with
  | error fault => exact ⟨rfl, h⟩
  | ok found => exact ⟨rfl, h.say _⟩

/-- Programs make the same files, and fail to make the same. -/
theorem sameEnd_makeFiles {fs later : FileSystem} (h : FileSystem.SameBut apart fs later)
    (writes : List (String × List UInt8)) :
    SameEnd apart (makeFiles fs writes) (makeFiles later writes) := by
  induction writes generalizing fs later with
  | nil => exact ⟨h, rfl⟩
  | cons file writes ih =>
      obtain ⟨stored, otherStored, answer, hs, ho, hstored⟩ := (h.store file.1 file.2).exists_eq
      cases answer with
      | error fault =>
          rw [makeFiles_of_store_eq_error hs, makeFiles_of_store_eq_error ho]
          exact ⟨hstored, rfl⟩
      | ok u =>
          rw [makeFiles_of_store_eq_ok hs, makeFiles_of_store_eq_ok ho]
          exact ih hstored

theorem sameBut_afterCompilers {fs later : FileSystem} (h : FileSystem.SameBut apart fs later)
    (script : List Performance) :
    FileSystem.SameBut apart (afterCompilers fs script) (afterCompilers later script) :=
  (sameEnd_makeFiles (sameEnd_makeFiles h _).files _).files

theorem SameBut.attempt (h : SameBut apart job other) (call : List String) :
    SameBut apart (job.attempt call) (other.attempt call) :=
  ⟨h.files, h.script, congrArg (· ++ _) h.log, congrArg (· ++ [call]) h.calls⟩

theorem SameBut.perform (h : SameBut apart job other) (program : String) :
    SameStep apart (job.perform program) (other.perform program) := by
  obtain ⟨hfiles, hanswer⟩ := sameEnd_makeFiles h.files (job.script.headD {}).writes
  unfold Job.perform
  dsimp only
  rw [h.script, h.log, h.calls, hanswer]
  exact ⟨rfl, hfiles, rfl, rfl, rfl⟩

theorem SameBut.callTool (h : SameBut apart job other) (settings : Settings) (tool : String)
    (args : List String) :
    SameStep apart (job.callTool settings tool args) (other.callTool settings tool args) := by
  have hcalled := h.attempt (settings.program tool :: args)
  obtain ⟨result, ran, otherRan, hr, ho, hran⟩ :=
    (hcalled.perform (settings.program tool)).exists_eq
  unfold Job.callTool runTool
  dsimp only
  split
  · rw [hr, ho]
    exact ⟨rfl, hran⟩
  · exact ⟨rfl, hcalled⟩

theorem SameBut.invoke (h : SameBut apart job other) (settings : Settings) (tool : String)
    (args : List String) :
    SameStep apart (job.invoke settings tool args) (other.invoke settings tool args) := by
  obtain ⟨answer, ran, otherRan, hr, ho, hran⟩ := (h.callTool settings tool args).exists_eq
  unfold Job.invoke
  rw [hr, ho]
  cases answer with
  | error failure => exact ⟨rfl, hran⟩
  | ok result =>
      dsimp only
      split
      · exact ⟨rfl, hran⟩
      · exact ⟨rfl, hran.say _⟩

/-- A header that is none of these files is translated alike. -/
theorem SameBut.translate (h : SameBut apart job other) {header : String}
    (hheader : ∀ location ∈ apart, job.files.target header ≠ .ok location)
    (generated stamp : String) :
    SameStep apart (job.translate header generated stamp)
      (other.translate header generated stamp) := by
  obtain ⟨files, otherFiles, answer, ht, ho, hfiles⟩ :=
    (h.files.translate hheader generated stamp).exists_eq
  unfold Job.translate
  rw [ht, ho]
  cases answer with
  | error failure => exact ⟨rfl, h.withFiles hfiles⟩
  | ok count => exact ⟨rfl, (h.withFiles hfiles).say _⟩

/-! ## Builds -/

variable {settings : Settings} {project : Project} {directory : String}

/-- Where no header can be one of these files, everything is made anew alike. -/
theorem SameBut.regenerate (h : SameBut apart job other)
    (hheader : ∀ fs : FileSystem, ∀ location ∈ apart,
      fs.target (project.headerIn directory) ≠ .ok location)
    (compilers : Compilers) (settings : Settings) (report : Report) :
    SameStep apart (job.regenerate compilers settings project directory report)
      (other.regenerate compilers settings project directory report) := by
  have hstarted := h.say (generatingLine (project.constantsIn directory)
    (project.inputPath settings.root) report.digest)
  obtain ⟨message, compiled, otherCompiled, hm, hm', hcompiled⟩ :=
    (hstarted.invoke settings compilers.message
      ["-U", "-h", directory, "-r", directory, project.inputPath settings.root]).exists_eq
  unfold Job.regenerate
  simp only [hm, hm']
  cases message with
  | error failure => exact ⟨rfl, hcompiled⟩
  | ok message =>
      obtain ⟨resource, linked, otherLinked, hr, hr', hlinked⟩ :=
        (hcompiled.invoke settings compilers.resource (compilers.resourceArgs
          (project.scriptIn directory) (project.libraryIn directory))).exists_eq
      simp only [hr, hr']
      cases resource with
      | error failure => exact ⟨rfl, hlinked⟩
      | ok resource =>
          obtain ⟨count, last, otherLast, ht, ht', hlast⟩ := (hlinked.translate (hheader _)
            (project.constantsIn directory) report.digest).exists_eq
          simp only [ht, ht']
          cases count with
          | error failure => exact ⟨rfl, hlast⟩
          | ok constants => exact ⟨rfl, hlast.sayAll _⟩

/-- Builds of one definition, which is none of these files, are alike where no header can be one of
them. -/
theorem SameBut.buildCross (h : SameBut apart job other)
    (hd : Branch.cross.directory? settings project = some directory)
    (hdefinition : ∀ location ∈ apart,
      job.files.target (project.inputPath settings.root) ≠ .ok location)
    (hheader : ∀ fs : FileSystem, ∀ location ∈ apart,
      fs.target (project.headerIn directory) ≠ .ok location) :
    SameStep apart (job.buildCross settings project) (other.buildCross settings project) := by
  obtain ⟨ho, he⟩ := Option.filter_eq_some_iff.mp hd
  obtain ⟨digest, hashed, otherHashed, hm, hm', hhashed⟩ := (h.hashFile hdefinition).exists_eq
  unfold Job.buildCross
  simp only [ho, hm, hm']
  rw [if_neg (by simpa using he), if_neg (by simpa using he)]
  cases digest with
  | error failure => exact ⟨rfl, hhashed⟩
  | ok digest => exact hhashed.regenerate hheader _ settings _

/-- A cross build that returns has translated the header that was there after both compilers. -/
theorem translate_of_buildCross {last : Job} {report : Report}
    (hd : Branch.cross.directory? settings project = some directory)
    (h : job.buildCross settings project = (.ok report, last)) :
    (afterCompilers job.files job.script).translate (project.headerIn directory)
      (project.constantsIn directory) report.digest = (last.files, .ok report.constants) := by
  cases hm : job.files.digest (project.inputPath settings.root) with
  | error failure =>
      rw [Branch.buildCross_of_digest_eq_error hd hm] at h
      cases h
  | ok digest =>
      by_cases hcalls : CanCall .cross settings project directory
      · obtain ⟨log, he⟩ := Branch.buildCross_of_canCall hd hm hcalls
        rcases ht : (afterCompilers job.files job.script).translate (project.headerIn directory)
          (project.constantsIn directory) digest with ⟨files, failure | constants⟩
        all_goals
          rw [he, ht, Prod.mk.injEq] at h
          obtain ⟨hr, rfl⟩ := h
        · cases hr
        · obtain rfl := Except.ok.inj hr
          exact ht
      · obtain ⟨log, he⟩ := Branch.buildCross_of_not_canCall hd hm hcalls
        rw [he] at h
        cases h

/-- **No memory**: of two builds into a scratch directory whose constants file, which is not the
definition, holds one thing or another, both print the same, call the same programs and come to the
same end. If they return, they leave the same files: the constants file holds the constants of the
header under the digest of the definition, and nothing of what it held before. -/
theorem buildCross_forgets {files : FileSystem} {place : Location} {last otherLast : Job}
    {answer otherAnswer : Except Failure Report}
    (hout : settings.outDir? = some directory) (hne : directory ≠ "")
    (hplace : job.files.LeadsTo (project.constantsIn directory) place)
    (hfiles : FileSystem.SameBut [place] job.files files)
    (hdefinition : job.files.target (project.inputPath settings.root) ≠ .ok place)
    (h : job.buildCross settings project = (answer, last))
    (hother : (job.withFiles files).buildCross settings project = (otherAnswer, otherLast)) :
    otherAnswer = answer ∧ otherLast.log = last.log ∧ otherLast.calls = last.calls ∧
      ∀ report, answer = .ok report →
        otherLast.files.home = last.files.home ∧
        (∀ location, otherLast.files.item? location = last.files.item? location) ∧
        ∃ header, (afterCompilers job.files job.script).read? (project.headerIn directory) =
            some header ∧
          last.files.read? (project.constantsIn directory) =
            some (ConstantsFile.bytes report.digest (Constant.ofHeader header)) := by
  have hd : Branch.cross.directory? settings project = some directory := by
    simp [Branch.directory?, hout, hne]
  have hheader : ∀ fs : FileSystem, ∀ location ∈ [place],
      fs.target (project.headerIn directory) ≠ .ok location := by
    intro fs location hm ht
    exact Project.headerIn_ne_constantsIn ht hplace.target (List.mem_singleton.mp hm)
  have hsame : SameStep [place] (job.buildCross settings project)
      ((job.withFiles files).buildCross settings project) := by
    refine SameBut.buildCross ⟨hfiles, rfl, rfl, rfl⟩ hd (fun location hm => ?_) hheader
    rw [List.mem_singleton.mp hm]
    exact hdefinition
  rw [h, hother] at hsame
  obtain ⟨rfl, hlast⟩ := hsame
  refine ⟨rfl, hlast.log, hlast.calls, ?_⟩
  rintro report rfl
  -- both translate the same header, and to the same place
  have ht := translate_of_buildCross hd h
  have ht' := translate_of_buildCross hd hother
  obtain ⟨header, hread, -, hwritten⟩ := Project.read?_of_translate ht
  obtain ⟨header', hread', -, hwritten'⟩ := Project.read?_of_translate ht'
  have hafter := sameBut_afterCompilers hfiles job.script
  obtain rfl : header = header' :=
    Option.some.inj (hread.symm.trans ((hafter.read? (hheader _)).symm.trans hread'))
  have hplace' : files.LeadsTo (project.constantsIn directory) place :=
    ⟨hplace.nul, (hfiles.target _).trans hplace.target⟩
  have hitem := (hplace.read?_eq_some_iff_of_keeps
    ((keepsDirectories_afterCompilers _ _).trans
      (writesOnly_of_translate ht).frame.toKeepsDirectories)).mp hwritten
  have hitem' := (hplace'.read?_eq_some_iff_of_keeps
    ((keepsDirectories_afterCompilers _ _).trans
      (writesOnly_of_translate ht').frame.toKeepsDirectories)).mp hwritten'
  refine ⟨hlast.files.home, fun location => ?_, header, hread, hwritten⟩
  obtain he | ⟨hm, -⟩ := hlast.files.item location
  · exact he
  · rw [List.mem_singleton.mp hm, hitem, hitem']

/-- A build of the small project after earlier ones, which have left these bytes in the constants
file. -/
def laterBuild (bytes : List UInt8) : Job where
  files := (smallTree "MessageId=1").put ["eventmsgs.rs", "res"] (.file bytes)
  script := [writesHeader "0x1"]

/-- A constants file that carries the digest of the small project, and no constant. -/
def currentConstants : List UInt8 :=
  ConstantsFile.bytes (Digest.ofContent (Text.Utf8.encode "MessageId=1".toList)) []

/-- A build that finds a current constants file and one that finds bytes that are no text both
return, print the same and leave the same files. -/
theorem buildCross_forgets_later :
    ((laterBuild currentConstants).buildCross Branch.crossHost {}).1.isOk = true ∧
      ((laterBuild [0xff, 0x0d]).buildCross Branch.crossHost {}).2.log =
        ((laterBuild currentConstants).buildCross Branch.crossHost {}).2.log ∧
      ∀ location, ((laterBuild [0xff, 0x0d]).buildCross Branch.crossHost {}).2.files.item? location =
        ((laterBuild currentConstants).buildCross Branch.crossHost {}).2.files.item? location := by
  have hok : ((laterBuild currentConstants).buildCross Branch.crossHost {}).1.isOk = true := by
    decide +kernel
  have hplace : (laterBuild currentConstants).files.LeadsTo
      (Project.constantsIn {} "res") ["eventmsgs.rs", "res"] :=
    leadsTo_of_toOption (by decide +kernel) (by decide +kernel)
  have hdefinition : (laterBuild currentConstants).files.target
      (Project.inputPath {} Branch.crossHost.root) ≠ .ok ["eventmsgs.rs", "res"] := by
    decide +kernel
  have hfiles : FileSystem.SameBut [["eventmsgs.rs", "res"]] (laterBuild currentConstants).files
      (laterBuild [0xff, 0x0d]).files := sameBut_put_file _ _ _ _
  have hother : (laterBuild currentConstants).withFiles (laterBuild [0xff, 0x0d]).files =
      laterBuild [0xff, 0x0d] := rfl
  obtain ⟨report, hr⟩ := report_of_isOk hok
  obtain ⟨-, hlog, -, hsame⟩ := @buildCross_forgets (laterBuild currentConstants)
    Branch.crossHost {} "res" (laterBuild [0xff, 0x0d]).files ["eventmsgs.rs", "res"] _ _ _ _
    rfl (by decide) hplace hfiles hdefinition (Prod.eta _).symm (Prod.eta _).symm
  rw [hother] at hlog hsame
  obtain ⟨-, hitems, -⟩ := hsame report hr
  exact ⟨hok, hlog, hitems⟩

end Job

end EventMessages
