import EventMessages.CommandLine.Build
import EventMessages.Proofs.Build.Branches
import EventMessages.Proofs.ProjectFile

/-!
# EventMessages.Proofs.CommandLine.Reporting

How the build command ends. It is to end in one of three ways (`EndsWell`): with a report, at once
with help or a complaint about the command line, or with a last line that says what went wrong. For
most failures it does. What gets past it is a project file that breaks its own reading off, and a
path with a NUL that is handed to the system, be it of a file or of a program (`Escapes`): such a
failure ends the command without a report (`buildCommand_ends`).
-/

namespace EventMessages

open CommandLine

/-! ## Builds -/

namespace Branch

variable {branch : Branch} {job last : Job} {settings : Settings} {project : Project}
variable {failure : Failure} {directory : String}

/-- A build fails for a reason that is reported, or because it hands a NUL to the system. -/
theorem failure_of_build (h : branch.build job settings project = (.error failure, last)) :
    failure.isReported = true ∨
      failure = .access .embeddedNul ∧ ¬branch.HandsNoNul settings project := by
  obtain ⟨-, -, ⟨refused, he, hrefuses⟩ | ⟨digest, he⟩⟩ |
    ⟨directory, digest, count, hregenerates⟩ | ⟨directory, hinterrupts⟩ := build_cases h
  · obtain rfl := Except.error.inj he
    obtain ⟨-, rfl⟩ | ⟨directory, hd, hm | ⟨rfl, hnul⟩⟩ := hrefuses
    · exact Or.inl rfl
    · obtain hr | ⟨rfl, hnul⟩ := FileSystem.failure_of_digest hm
      · exact Or.inl hr
      · refine Or.inr ⟨rfl, fun hhands => ?_⟩
        obtain ⟨-, -, hinput, -⟩ := hhands directory hd
        rw [hinput] at hnul
        cases hnul
    · refine Or.inr ⟨rfl, fun hhands => ?_⟩
      obtain ⟨-, -, -, hconstants⟩ := hhands directory hd
      rw [hconstants] at hnul
      cases hnul
  · cases he
  · cases count with
    | ok constants => cases hregenerates.answered
    | error refused =>
        obtain rfl := Except.error.inj hregenerates.answered
        obtain hr | ⟨rfl, hnul⟩ := FileSystem.failure_of_translate hregenerates.translated
        · exact Or.inl hr
        · -- a build that has called both compilers has no NUL in its paths
          obtain ⟨-, hd, hinput, hconstants⟩ := (canCall_iff branch).mp hregenerates.callable
          rw [Project.hasNul_headerIn hd hinput, hconstants] at hnul
          obtain hnul | hnul := hnul <;> cases hnul
  · exact Or.inr ⟨Except.error.inj hinterrupts.answered,
      mt (handsNoNul_iff_canCall hinterrupts.place).mp hinterrupts.notCallable⟩

/-- A definition whose path holds a NUL ends a build that has a directory. -/
theorem build_of_hasNul (hd : branch.directory? settings project ≠ none)
    (hnul : FileSystem.hasNul (project.inputPath settings.root) = true) :
    branch.build job settings project = (.error (.access .embeddedNul), job) := by
  have hm : job.files.digest (project.inputPath settings.root) =
      .error (.access .embeddedNul) := by
    rw [FileSystem.digest, FileSystem.content_eq_embeddedNul_iff.mpr hnul]
  cases branch with
  | native => exact Job.buildNative_of_digest_eq_error hm
  | cross =>
      obtain ⟨directory, hdirectory⟩ := Option.ne_none_iff_exists'.mp hd
      exact buildCross_of_digest_eq_error hdirectory hm

/-- A NUL elsewhere ends a cross build of a definition that can be read. -/
theorem buildCross_of_not_handsNoNul {digest : String}
    (hm : job.files.digest (project.inputPath settings.root) = .ok digest)
    (h : ¬cross.HandsNoNul settings project) :
    (job.buildCross settings project).1 = .error (.access .embeddedNul) := by
  rw [handsNoNul_iff, Classical.not_forall] at h
  obtain ⟨directory, h⟩ := h
  obtain ⟨hd, hcalls⟩ := Classical.not_imp.mp h
  obtain ⟨log, hb⟩ := buildCross_of_not_canCall hd hm hcalls
  rw [hb]

end Branch

/-! ## The build command -/

namespace CommandLine

/-- The ways in which a command is to end. -/
inductive EndsWell {α : Type} (g : Grammar) (argv : List String) (job : Job) :
    Verdict α → Job → Prop where
  /-- It has a result. -/
  | done (result : α) (last : Job) : EndsWell g argv job (.done result) last
  /-- It was asked for help and has done nothing but to show it. -/
  | help (h : g.read argv = .help) : EndsWell g argv job (.exited 0 "") (job.say g.helpPage)
  /-- It was misused and has done nothing. -/
  | misuse (m : Misuse) (h : g.read argv = .misuse m) :
    EndsWell g argv job (.exited 2 (g.complaint m)) job
  /-- It has failed, and its last line says why. -/
  | error (last : Job) (message : String) :
    EndsWell g argv job (.exited 1 "") (last.say ("Error: " ++ message))

/-- The project file that a command line asks for. -/
def projectPath (settings : Settings) (f : Found) : String :=
  (f.text? "--config").getD (Path.join settings.root Project.fileName)

/-- What gets past the build command: the failure of a project file that breaks off, and that of a
NUL which the build hands to the system. -/
def Escapes (fs : FileSystem) (settings : Settings) (f : Found) (failure : Failure) : Prop :=
  (∃ bytes, fs.read? (projectPath settings f) = some bytes ∧ Project.Breaks bytes failure) ∨
    failure = .access .embeddedNul ∧ ∃ project, projectFor fs settings f = .ok project ∧
      ¬(Branch.ofHost settings).HandsNoNul settings project

/-- The failure says no more than that the project file is beyond its reader. Whether it shows may
depend on what becomes of the text, and on how deep the reader can go. -/
def IsLimit (failure : Failure) : Prop :=
  failure = .scalar .surrogate ∨ failure = .scalar .endless

variable {job last : Job} {settings : Settings} {f : Found} {failure : Failure}
variable {env : Environment} {defaultRoot currentDirectory : String} {onWindows : Bool}

/-- A project cannot be had exactly when its file cannot be read as one. -/
theorem projectFor_eq_error_iff {fs : FileSystem} :
    projectFor fs settings f = .error failure ↔
      Project.load fs (projectPath settings f) = .error failure := by
  unfold projectFor
  change (Project.load fs (projectPath settings f) >>= _) = _ ↔ _
  cases Project.load fs (projectPath settings f) with
  | error other => exact Iff.rfl
  | ok project => cases f.text? "--input" <;> simp [bind, Except.bind, pure, Except.pure]

theorem conclude_ok {α : Type} (job : Job) (result : α) :
    conclude job (.ok result) = (.done result, job) := rfl

theorem conclude_of_isReported {α : Type} (job : Job) (h : failure.isReported = true) :
    conclude job (.error failure : Except Failure α) =
      (.exited 1 "", job.say ("Error: " ++ failure.message)) := by
  rw [conclude, if_pos h]

theorem conclude_of_not_isReported {α : Type} (job : Job) (h : failure.isReported = false) :
    conclude job (.error failure : Except Failure α) = (.failed failure, job) := by
  rw [conclude, if_neg (by simp [h])]

/-- A build fails for a reason that is reported, or for one that gets past the command. -/
theorem failure_of_runBuild
    (h : runBuild job env defaultRoot currentDirectory onWindows f = (.error failure, last)) :
    failure.isReported = true ∨ ∃ settings,
      Settings.ofEnvironment env (some defaultRoot) currentDirectory onWindows = .ok settings ∧
        Escapes job.files settings f failure := by
  unfold runBuild at h
  cases hs : Settings.ofEnvironment env (some defaultRoot) currentDirectory onWindows with
  | error refused =>
      simp only [hs, Prod.mk.injEq, Except.error.injEq] at h
      obtain ⟨rfl, -⟩ := h
      unfold Settings.ofEnvironment at hs
      split at hs
      · obtain rfl := Except.error.inj hs
        exact Or.inl rfl
      · cases hs
  | ok settings =>
      cases hr : failure.isReported with
      | true => exact Or.inl rfl
      | false =>
          refine Or.inr ⟨settings, rfl, ?_⟩
          cases hp : projectFor job.files settings f with
          | error refused =>
              simp only [hs, hp, Prod.mk.injEq, Except.error.injEq] at h
              obtain ⟨rfl, -⟩ := h
              exact Or.inl ((Project.load_eq_error_iff hr).mp (projectFor_eq_error_iff.mp hp))
          | ok project =>
              simp only [hs, hp] at h
              rw [Branch.build_ofHost] at h
              obtain hreported | ⟨rfl, hnul⟩ := Branch.failure_of_build h
              · rw [hr] at hreported
                cases hreported
              · exact Or.inr ⟨rfl, project, hp, hnul⟩

/-- After the command line has been read, the command builds and comes to an end. -/
theorem buildCommand_of_found {argv : List String} (hread : buildGrammar.read argv = .found f) :
    ∃ started, started.files = job.files ∧
      buildCommand job argv env defaultRoot currentDirectory onWindows =
        conclude (runBuild started env defaultRoot currentDirectory onWindows f).2
          (runBuild started env defaultRoot currentDirectory onWindows f).1 := by
  refine ⟨if f.has "--dump-env" then job.sayAll env.lines else job, by split <;> rfl, ?_⟩
  simp only [buildCommand, Grammar.dispatch, hread]

/-- A command that builds ends well, or with the failure that gets past it. -/
theorem endsWell_or_escapes {argv : List String} {verdict : Verdict Report}
    (h : buildCommand job argv env defaultRoot currentDirectory onWindows = (verdict, last)) :
    EndsWell buildGrammar argv job verdict last ∨
      ∃ f settings failure, buildGrammar.read argv = .found f ∧
        Settings.ofEnvironment env (some defaultRoot) currentDirectory onWindows = .ok settings ∧
        Escapes job.files settings f failure ∧ verdict = .failed failure := by
  cases hread : buildGrammar.read argv with
  | help =>
      simp only [buildCommand, Grammar.dispatch, hread, Prod.mk.injEq] at h
      obtain ⟨rfl, rfl⟩ := h
      exact Or.inl (.help hread)
  | misuse m =>
      simp only [buildCommand, Grammar.dispatch, hread, Prod.mk.injEq] at h
      obtain ⟨rfl, rfl⟩ := h
      exact Or.inl (.misuse m hread)
  | found f =>
      obtain ⟨started, hfiles, hended⟩ := buildCommand_of_found hread
      rcases hrun : runBuild started env defaultRoot currentDirectory onWindows f with
        ⟨answer, ended⟩
      rw [hended, hrun] at h
      cases answer with
      | ok report =>
          rw [conclude_ok, Prod.mk.injEq] at h
          obtain ⟨rfl, rfl⟩ := h
          exact Or.inl (.done report ended)
      | error failure =>
          cases hr : failure.isReported with
          | true =>
              rw [conclude_of_isReported ended hr, Prod.mk.injEq] at h
              obtain ⟨rfl, rfl⟩ := h
              exact Or.inl (.error ended failure.message)
          | false =>
              rw [conclude_of_not_isReported ended hr, Prod.mk.injEq] at h
              obtain ⟨rfl, rfl⟩ := h
              obtain hreported | ⟨settings, hs, hescapes⟩ := failure_of_runBuild hrun
              · rw [hr] at hreported
                cases hreported
              · rw [hfiles] at hescapes
                exact Or.inr ⟨f, settings, failure, rfl, hs, hescapes, rfl⟩

/-- A failure that is not reported gets past the command. -/
theorem buildCommand_of_runBuild {argv : List String} {verdict : Verdict Report}
    (h : buildCommand job argv env defaultRoot currentDirectory onWindows = (verdict, last))
    (hread : buildGrammar.read argv = .found f) (hr : failure.isReported = false)
    (hrun : ∀ started : Job, started.files = job.files →
      (runBuild started env defaultRoot currentDirectory onWindows f).1 = .error failure) :
    verdict = .failed failure := by
  obtain ⟨started, hfiles, hended⟩ := buildCommand_of_found hread
  rw [hended, hrun started hfiles, conclude_of_not_isReported _ hr] at h
  exact (congrArg Prod.fst h).symm

theorem runBuild_of_breaks {bytes : List UInt8}
    (hs : Settings.ofEnvironment env (some defaultRoot) currentDirectory onWindows = .ok settings)
    (hread : job.files.read? (projectPath settings f) = some bytes)
    (hbreaks : Project.Breaks bytes failure) :
    (runBuild job env defaultRoot currentDirectory onWindows f).1 = .error failure := by
  have hp : projectFor job.files settings f = .error failure :=
    projectFor_eq_error_iff.mpr
      ((Project.load_eq_error_iff hbreaks.isReported).mpr ⟨bytes, hread, hbreaks⟩)
  simp only [runBuild, hs, hp]

theorem runBuild_of_hasNul {project : Project}
    (hs : Settings.ofEnvironment env (some defaultRoot) currentDirectory onWindows = .ok settings)
    (hp : projectFor job.files settings f = .ok project)
    (hd : (Branch.ofHost settings).directory? settings project ≠ none)
    (hnul : FileSystem.hasNul (project.inputPath settings.root) = true) :
    (runBuild job env defaultRoot currentDirectory onWindows f).1 =
      .error (.access .embeddedNul) := by
  simp only [runBuild, hs, hp]
  rw [Branch.build_ofHost, Branch.build_of_hasNul hd hnul]

theorem runBuild_of_not_handsNoNul {project : Project} {digest : String}
    (hs : Settings.ofEnvironment env (some defaultRoot) currentDirectory onWindows = .ok settings)
    (hp : projectFor job.files settings f = .ok project) (hhost : settings.onWindows = false)
    (hm : job.files.digest (project.inputPath settings.root) = .ok digest)
    (hhands : ¬Branch.cross.HandsNoNul settings project) :
    (runBuild job env defaultRoot currentDirectory onWindows f).1 =
      .error (.access .embeddedNul) := by
  simp only [runBuild, hs, hp]
  rw [Job.build, hhost]
  exact Branch.buildCross_of_not_handsNoNul hm hhands

/-- **Ends of the build command**: it ends in one of the three ways, or a failure gets past it. A
project file that breaks off does get past it, unless it is but beyond its reader, and so does a
definition whose path holds a NUL. On a host that is not Windows, so does any NUL that a build would
hand to the system, for one in the names of programs. -/
theorem buildCommand_ends {argv : List String} {verdict : Verdict Report}
    (h : buildCommand job argv env defaultRoot currentDirectory onWindows = (verdict, last)) :
    (EndsWell buildGrammar argv job verdict last ∨
      ∃ f settings failure, buildGrammar.read argv = .found f ∧
        Settings.ofEnvironment env (some defaultRoot) currentDirectory onWindows = .ok settings ∧
        Escapes job.files settings f failure ∧ verdict = .failed failure) ∧
    (∀ f settings, buildGrammar.read argv = .found f →
      Settings.ofEnvironment env (some defaultRoot) currentDirectory onWindows = .ok settings →
      (∀ bytes failure, job.files.read? (projectPath settings f) = some bytes →
        Project.Breaks bytes failure → ¬IsLimit failure → verdict = .failed failure) ∧
      (∀ project, projectFor job.files settings f = .ok project →
        (Branch.ofHost settings).directory? settings project ≠ none →
        FileSystem.hasNul (project.inputPath settings.root) = true →
          verdict = .failed (.access .embeddedNul)) ∧
      (∀ project digest, projectFor job.files settings f = .ok project →
        settings.onWindows = false →
        job.files.digest (project.inputPath settings.root) = .ok digest →
        ¬Branch.cross.HandsNoNul settings project →
          verdict = .failed (.access .embeddedNul))) := by
  refine ⟨endsWell_or_escapes h, fun f settings hread hs => ⟨?_, ?_, ?_⟩⟩
  · intro bytes failure hbytes hbreaks _
    exact buildCommand_of_runBuild h hread hbreaks.isReported fun started hfiles =>
      runBuild_of_breaks hs (hfiles ▸ hbytes) hbreaks
  · intro project hp hd hnul
    exact buildCommand_of_runBuild h hread rfl fun started hfiles =>
      runBuild_of_hasNul hs (hfiles ▸ hp) hd hnul
  · intro project digest hp hhost hm hhands
    exact buildCommand_of_runBuild h hread rfl fun started hfiles =>
      runBuild_of_not_handsNoNul hs (hfiles ▸ hp) hhost (hfiles ▸ hm) hhands

/-- A root whose project file is no text. -/
def mangled : Job where
  files := { home := [], entries := [(["msggen.yaml"], .file [0xff])] }

/-- The environment of a build in that root. -/
def gnuTarget : Environment := [("TARGET", "x86_64-pc-windows-gnu")]

theorem breaks_mangled : Project.Breaks [0xff] (.undecodable ⟨0, [0xff], .start⟩) :=
  .undecodable (by decide)

/-- The project file that is no text gets past the command. -/
theorem buildCommand_ends_mangled :
    (buildCommand mangled [] gnuTarget "." "" false).1 =
        .failed (.undecodable ⟨0, [0xff], .start⟩) ∧
      Failure.message (.undecodable ⟨0, [0xff], .start⟩) =
        "'utf-8' codec can't decode byte 0xff in position 0: invalid start byte" := by
  obtain ⟨-, hfound⟩ := @buildCommand_ends mangled _ gnuTarget "." "" false [] _ (Prod.eta _).symm
  obtain ⟨hbreaks, -⟩ := hfound {} ⟨"x86_64-pc-windows-gnu", ".", none, false⟩ (by decide +kernel)
    (by decide +kernel)
  have hcertain : ¬IsLimit (.undecodable ⟨0, [0xff], .start⟩) := by
    rintro (hlimit | hlimit) <;> cases hlimit
  exact ⟨hbreaks [0xff] _ (by decide +kernel) breaks_mangled hcertain, by decide +kernel⟩

/-- The build command does not always end in one of the three ways. -/
theorem not_forall_endsWell :
    ¬ ∀ (job last : Job) (argv : List String) (env : Environment)
      (defaultRoot currentDirectory : String) (onWindows : Bool) (verdict : Verdict Report),
      buildCommand job argv env defaultRoot currentDirectory onWindows = (verdict, last) →
      EndsWell buildGrammar argv job verdict last := by
  intro hends
  have hfailed : (buildCommand mangled [] gnuTarget "." "" false).1 =
      .failed (.undecodable ⟨0, [0xff], .start⟩) := by decide +kernel
  have h := hends mangled _ [] gnuTarget "." "" false _ (Prod.eta _).symm
  rw [hfailed] at h
  cases h

end CommandLine

end EventMessages
