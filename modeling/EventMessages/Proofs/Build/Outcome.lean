import EventMessages.Proofs.Build.Calls
import EventMessages.Proofs.Stamp
import EventMessages.Proofs.Translation

/-!
# EventMessages.Proofs.Build.Outcome

What comes of a build on the native branch. A build that returns has either found its stamp and
left everything alone, or it has called both compilers and translated the header that it found
afterwards (`buildNative_eq_ok`). A build that fails has changed nothing, maybe because the system
could not take its first call, or it has called both compilers and could not translate
(`buildNative_eq_error`).
-/

namespace EventMessages.Job

variable {job last : Job} {settings : Settings} {project : Project} {report : Report}

/-! ## Printing -/

@[simp] theorem files_say (job : Job) (line : String) : (job.say line).files = job.files := rfl

@[simp] theorem script_say (job : Job) (line : String) : (job.say line).script = job.script := rfl

@[simp] theorem calls_say (job : Job) (line : String) : (job.say line).calls = job.calls := rfl

/-! ## Compilers -/

/-- What becomes of a tool that is played by this performance. -/
def toolResult (settings : Settings) (tool : String) (fs : FileSystem)
    (performance : Performance) : ToolResult :=
  ⟨settings.program tool, outcomeOf (settings.program tool) (makeFiles fs performance.writes).2
    performance.ending⟩

/-- A call that the system can take plays the first performance and prints. -/
theorem invoke_of_isStartable (job : Job) {settings : Settings} {tool : String}
    {args : List String} (h : isStartable (settings.program tool :: args) = true) :
    ∃ log, job.invoke settings tool args =
      (.ok (toolResult settings tool job.files (job.script.headD {})),
        { files := (makeFiles job.files (job.script.headD {}).writes).1
          script := job.script.tail
          log
          calls := job.calls ++ [settings.program tool :: args] }) := by
  unfold invoke callTool
  dsimp only
  rw [if_pos h]
  dsimp only
  split
  · exact ⟨_, rfl⟩
  · exact ⟨_, rfl⟩

/-- A call that it cannot take is made and fails. -/
theorem invoke_of_not_isStartable (job : Job) {settings : Settings} {tool : String}
    {args : List String} (h : isStartable (settings.program tool :: args) = false) :
    ∃ log, job.invoke settings tool args =
      (.error (.access .embeddedNul),
        { job with log, calls := job.calls ++ [settings.program tool :: args] }) := by
  unfold invoke callTool
  dsimp only
  rw [if_neg (by simp [h])]
  exact ⟨_, rfl⟩

/-- The files after the message compiler. -/
def afterMessages (fs : FileSystem) (script : List Performance) : FileSystem :=
  (makeFiles fs (script.headD {}).writes).1

/-- The files after both compilers. -/
def afterCompilers (fs : FileSystem) (script : List Performance) : FileSystem :=
  (makeFiles (afterMessages fs script) (script.tail.headD {}).writes).1

/-- What becomes of the two compilers. -/
def compilerResults (compilers : Compilers) (settings : Settings) (fs : FileSystem)
    (script : List Performance) : List ToolResult :=
  [toolResult settings compilers.message fs (script.headD {}),
    toolResult settings compilers.resource (afterMessages fs script) (script.tail.headD {})]

theorem makeFiles_nil (fs : FileSystem) : makeFiles fs [] = (fs, none) := rfl

theorem makeFiles_of_store_eq_error {fs made : FileSystem} {path : String} {bytes : List UInt8}
    {fault : AccessFault} (h : fs.store path bytes = (made, .error fault))
    (writes : List (String × List UInt8)) :
    makeFiles fs ((path, bytes) :: writes) = (made, some fault) := by
  unfold makeFiles
  simp only [h]

theorem makeFiles_of_store_eq_ok {fs made : FileSystem} {path : String} {bytes : List UInt8}
    (h : fs.store path bytes = (made, .ok ())) (writes : List (String × List UInt8)) :
    makeFiles fs ((path, bytes) :: writes) = makeFiles made writes := by
  conv => lhs; unfold makeFiles
  simp only [h]

theorem makeFiles_singleton (fs : FileSystem) (path : String) (bytes : List UInt8) :
    (makeFiles fs [(path, bytes)]).1 = (fs.store path bytes).1 := by
  rcases hs : fs.store path bytes with ⟨made, fault | u⟩
  · rw [makeFiles_of_store_eq_error hs]
  · rw [makeFiles_of_store_eq_ok hs, makeFiles_nil]

/-- Programs make directories, but they remove none. -/
theorem keepsDirectories_makeFiles (fs : FileSystem) (writes : List (String × List UInt8)) :
    FileSystem.KeepsDirectories fs (makeFiles fs writes).1 := by
  induction writes generalizing fs with
  | nil => exact .refl fs
  | cons file writes ih =>
      obtain ⟨path, bytes⟩ := file
      have hs := FileSystem.keepsDirectories_store fs path bytes
      rcases h : fs.store path bytes with ⟨made, answer⟩
      rw [h] at hs
      cases answer with
      | error fault =>
          rw [makeFiles_of_store_eq_error h]
          exact hs
      | ok u =>
          rw [makeFiles_of_store_eq_ok h]
          exact hs.trans (ih made)

theorem keepsDirectories_afterCompilers (fs : FileSystem) (script : List Performance) :
    FileSystem.KeepsDirectories fs (afterCompilers fs script) :=
  (keepsDirectories_makeFiles fs _).trans (keepsDirectories_makeFiles _ _)

theorem afterMessages_congr (fs : FileSystem) {script other : List Performance}
    (h : ∀ i, (other.getD i {}).writes = (script.getD i {}).writes) :
    afterMessages fs other = afterMessages fs script := by
  have hfirst : (other.headD {}).writes = (script.headD {}).writes := by
    have h0 := h 0
    cases other <;> cases script <;> exact h0
  rw [afterMessages, hfirst, afterMessages]

/-- The compilers leave the same files wherever they write the same. -/
theorem afterCompilers_congr (fs : FileSystem) {script other : List Performance}
    (h : ∀ i, (other.getD i {}).writes = (script.getD i {}).writes) :
    afterCompilers fs other = afterCompilers fs script := by
  have hsecond : (other.tail.headD {}).writes = (script.tail.headD {}).writes := by
    have h1 := h 1
    obtain _ | ⟨_, _ | ⟨_, _⟩⟩ := other <;> obtain _ | ⟨_, _ | ⟨_, _⟩⟩ := script <;> exact h1
  rw [afterCompilers, afterMessages_congr fs h, hsecond, afterCompilers]

/-- A job whose build has met a call that the system cannot take. The compiler before it, if there
is one, has performed. -/
def interrupted (job : Job) (compilers : Compilers) (settings : Settings) (project : Project)
    (directory : String) (log : List String) : Job where
  files :=
    if isStartable (messageCall compilers settings project directory) then
      afterMessages job.files job.script
    else job.files
  script :=
    if isStartable (messageCall compilers settings project directory) then job.script.tail
    else job.script
  log
  calls := job.calls ++ compilerCalls compilers settings project directory

/-- Builds that meet such a call leave the same files where their tools write the same. -/
theorem files_interrupted_congr {other : Job} (hfiles : other.files = job.files)
    (hwrites : ∀ i, (other.script.getD i {}).writes = (job.script.getD i {}).writes)
    (compilers : Compilers) (settings : Settings) (project : Project) (directory : String)
    (log otherLog : List String) :
    (other.interrupted compilers settings project directory otherLog).files =
      (job.interrupted compilers settings project directory log).files := by
  rw [interrupted, interrupted]
  dsimp only
  rw [hfiles, afterMessages_congr _ hwrites]

variable {compilers : Compilers} {directory : String}

/-- A build whose first call cannot be taken has left everything alone. -/
theorem interrupted_of_not_isStartable
    (h : isStartable (messageCall compilers settings project directory) = false)
    (job : Job) (log : List String) :
    job.interrupted compilers settings project directory log = { job with
      log
      calls := job.calls ++ [messageCall compilers settings project directory] } := by
  rw [interrupted, compilerCalls, h]
  rfl

theorem files_interrupted_of_not_isStartable
    (h : isStartable (messageCall compilers settings project directory) = false)
    (job : Job) (log : List String) :
    (job.interrupted compilers settings project directory log).files = job.files := by
  rw [interrupted_of_not_isStartable h]

/-- Making everything anew calls both compilers, whatever becomes of them, and translates. -/
theorem regenerate_of_canCall (job : Job) (hcalls : CanCall compilers settings project directory)
    (report : Report) :
    ∃ log, job.regenerate compilers settings project directory report =
      (((afterCompilers job.files job.script).translate (project.headerIn directory)
          (project.constantsIn directory) report.digest).2.map fun constants =>
        { report with
          regenerated := true
          constants
          tools := compilerResults compilers settings job.files job.script
          directives := linkDirectives directory project.name },
        { files := ((afterCompilers job.files job.script).translate (project.headerIn directory)
            (project.constantsIn directory) report.digest).1
          script := job.script.tail.tail
          log
          calls := job.calls ++ compilerCalls compilers settings project directory }) := by
  unfold regenerate
  dsimp only
  obtain ⟨log₁, h₁⟩ := invoke_of_isStartable (job.say (generatingLine
    (project.constantsIn directory) (project.inputPath settings.root) report.digest)) hcalls.1
  rw [h₁]
  dsimp only
  obtain ⟨log₂, h₂⟩ := invoke_of_isStartable
    { files := (makeFiles job.files (job.script.headD {}).writes).1
      script := job.script.tail
      log := log₁
      calls := job.calls ++ [messageCall compilers settings project directory] } hcalls.2
  simp only [files_say, script_say, calls_say, messageCall] at h₂ ⊢
  rw [h₂]
  dsimp only
  unfold Job.translate
  rcases ht : (afterCompilers job.files job.script).translate (project.headerIn directory)
    (project.constantsIn directory) report.digest with ⟨files, answer⟩
  unfold afterCompilers afterMessages at ht
  simp only [ht]
  rw [compilerCalls_of_canCall hcalls]
  cases answer with
  | error failure =>
      refine ⟨log₂, ?_⟩
      simp [withFiles, messageCall, resourceCall, Except.map]
  | ok count =>
      refine ⟨log₂ ++ translationLine (project.constantsIn directory) count ::
        linkDirectives directory project.name, ?_⟩
      simp [withFiles, messageCall, resourceCall, compilerResults, afterMessages, finish, say,
        sayAll, Except.map, toolResult]

/-- A call that the system cannot take ends the making of everything. -/
theorem regenerate_of_not_canCall (job : Job)
    (hcalls : ¬CanCall compilers settings project directory) (report : Report) :
    ∃ log, job.regenerate compilers settings project directory report =
      (.error (.access .embeddedNul),
        job.interrupted compilers settings project directory log) := by
  unfold regenerate interrupted compilerCalls
  dsimp only
  cases hmessage : isStartable (messageCall compilers settings project directory) with
  | false =>
      obtain ⟨log, h⟩ := invoke_of_not_isStartable (job.say (generatingLine
        (project.constantsIn directory) (project.inputPath settings.root) report.digest)) hmessage
      rw [h]
      exact ⟨log, rfl⟩
  | true =>
      have hresource : isStartable (resourceCall compilers settings project directory) = false :=
        Bool.eq_false_iff.mpr fun h => hcalls ⟨hmessage, h⟩
      obtain ⟨log₁, h₁⟩ := invoke_of_isStartable (job.say (generatingLine
        (project.constantsIn directory) (project.inputPath settings.root) report.digest)) hmessage
      rw [h₁]
      dsimp only
      obtain ⟨log₂, h₂⟩ := invoke_of_not_isStartable
        { files := afterMessages job.files job.script
          script := job.script.tail
          log := log₁
          calls := job.calls ++ [messageCall compilers settings project directory] } hresource
      simp only [files_say, script_say, calls_say, messageCall, afterMessages] at h₂ ⊢
      rw [h₂]
      refine ⟨log₂, ?_⟩
      simp [resourceCall]

/-! ## Native builds -/

/-- What every native build reports that returns. -/
def nativeReport (settings : Settings) (project : Project) (digest : String) : Report :=
  { branch := .native
    digest
    directives := linkDirectives (project.resPath settings.root) project.name }

/-- The report of a native build that has regenerated. -/
def regeneratedReport (job : Job) (settings : Settings) (project : Project) (digest : String)
    (constants : Nat) : Report :=
  { nativeReport settings project digest with
    regenerated := true
    constants
    tools := compilerResults .native settings job.files job.script }

/-- The constants file of a native build. -/
def nativeConstants (settings : Settings) (project : Project) : String :=
  project.constantsIn (project.resPath settings.root)

/-- The header of a native build. -/
def nativeHeader (settings : Settings) (project : Project) : String :=
  project.headerIn (project.resPath settings.root)

variable {digest : String}

theorem buildNative_of_digest_eq_error {failure : Failure}
    (hm : job.files.digest (project.inputPath settings.root) = .error failure) :
    job.buildNative settings project = (.error failure, job) := by
  unfold buildNative hashFile
  simp only [hm]

/-- A build whose constants file carries the digest prints and does nothing else. -/
theorem buildNative_of_carries
    (hm : job.files.digest (project.inputPath settings.root) = .ok digest)
    (hc : job.files.carries (nativeConstants settings project) digest = true) :
    job.buildNative settings project =
      (.ok (nativeReport settings project digest),
        job.sayAll (digestLine (project.inputPath settings.root) digest ::
          Presence.line (nativeConstants settings project) digest .present ::
          linkDirectives (project.resPath settings.root) project.name)) := by
  have hs := FileSystem.stamp?_of_carries hc
  unfold nativeConstants at hs ⊢
  unfold buildNative hashFile lookFor
  simp only [hm, files_say, hs, Presence.isPresent, if_true]
  simp [finish, say, sayAll, nativeReport]

/-- A build whose constants file does not carry the digest makes everything anew. -/
theorem buildNative_eq_regenerate
    (hm : job.files.digest (project.inputPath settings.root) = .ok digest)
    (hc : job.files.carries (nativeConstants settings project) digest = false)
    (hnul : FileSystem.hasNul (nativeConstants settings project) = false) :
    ∃ log, job.buildNative settings project =
      Job.regenerate { job with log } .native settings project (project.resPath settings.root)
        { branch := .native, digest } := by
  obtain ⟨presence, hs, hp⟩ := FileSystem.stamp?_of_not_carries hnul hc
  unfold nativeConstants at hs
  unfold buildNative hashFile lookFor
  simp only [hm, files_say, hs, hp, Bool.false_eq_true, if_false]
  exact ⟨_, rfl⟩

/-- Then it calls both compilers and translates, if the system can take both calls. -/
theorem buildNative_of_not_carries
    (hm : job.files.digest (project.inputPath settings.root) = .ok digest)
    (hc : job.files.carries (nativeConstants settings project) digest = false)
    (hcalls : CanCall .native settings project (project.resPath settings.root)) :
    ∃ log, job.buildNative settings project =
      (((afterCompilers job.files job.script).translate (nativeHeader settings project)
          (nativeConstants settings project) digest).2.map
            (regeneratedReport job settings project digest),
        { files := ((afterCompilers job.files job.script).translate (nativeHeader settings project)
            (nativeConstants settings project) digest).1
          script := job.script.tail.tail
          log
          calls := job.calls ++
            compilerCalls .native settings project (project.resPath settings.root) }) := by
  obtain ⟨-, -, -, hnul⟩ := Branch.native.canCall_iff.mp hcalls
  obtain ⟨looked, hb⟩ := buildNative_eq_regenerate hm hc hnul
  obtain ⟨log, hr⟩ := regenerate_of_canCall { job with log := looked } hcalls
    { branch := .native, digest }
  exact ⟨log, hb.trans hr⟩

/-- If it cannot, the build ends with the call that could not be taken. -/
theorem buildNative_of_not_canCall
    (hm : job.files.digest (project.inputPath settings.root) = .ok digest)
    (hc : job.files.carries (nativeConstants settings project) digest = false)
    (hnul : FileSystem.hasNul (nativeConstants settings project) = false)
    (hcalls : ¬CanCall .native settings project (project.resPath settings.root)) :
    ∃ log, job.buildNative settings project = (.error (.access .embeddedNul),
      job.interrupted .native settings project (project.resPath settings.root) log) := by
  obtain ⟨looked, hb⟩ := buildNative_eq_regenerate hm hc hnul
  obtain ⟨log, hr⟩ := regenerate_of_not_canCall { job with log := looked } hcalls
    { branch := .native, digest }
  exact ⟨log, hb.trans hr⟩

/-- A constants file whose path holds a NUL ends the build. -/
theorem buildNative_of_hasNul
    (hm : job.files.digest (project.inputPath settings.root) = .ok digest)
    (hnul : FileSystem.hasNul (nativeConstants settings project) = true) :
    job.buildNative settings project = (.error (.access .embeddedNul),
      job.say (digestLine (project.inputPath settings.root) digest)) := by
  have hs : job.files.stamp? (nativeConstants settings project) digest =
      .error (.access .embeddedNul) := by
    simp [FileSystem.stamp?, FileSystem.content, FileSystem.request, hnul]
  unfold nativeConstants at hs
  unfold buildNative hashFile lookFor
  simp only [hm, files_say, hs]

/-- All that a native build can do: fail at once, for want of a definition or because of a NUL in
the path of the constants file, find the stamp, call both compilers and translate the header that
is there afterwards, or fail with a call that the system cannot take. -/
theorem buildNative_cases {answer : Except Failure Report}
    (h : job.buildNative settings project = (answer, last)) :
    ((∃ failure, answer = .error failure ∧
          (job.files.digest (project.inputPath settings.root) = .error failure ∨
            failure = .access .embeddedNul ∧
              FileSystem.hasNul (nativeConstants settings project) = true)) ∧
        last.files = job.files ∧ last.calls = job.calls) ∨
      ∃ digest, job.files.digest (project.inputPath settings.root) = .ok digest ∧
        ((job.files.carries (nativeConstants settings project) digest = true ∧
            answer = .ok (nativeReport settings project digest) ∧
            last.files = job.files ∧ last.calls = job.calls) ∨
          (job.files.carries (nativeConstants settings project) digest = false ∧
            last.calls = job.calls ++
                compilerCalls .native settings project (project.resPath settings.root) ∧
              ((CanCall .native settings project (project.resPath settings.root) ∧
                  ∃ result, (afterCompilers job.files job.script).translate
                      (nativeHeader settings project) (nativeConstants settings project) digest =
                        (last.files, result) ∧
                    answer = result.map (regeneratedReport job settings project digest)) ∨
                (¬CanCall .native settings project (project.resPath settings.root) ∧
                  answer = .error (.access .embeddedNul) ∧ last.files = job.files)))) := by
  cases hm : job.files.digest (project.inputPath settings.root) with
  | error failure =>
      rw [buildNative_of_digest_eq_error hm, Prod.mk.injEq] at h
      obtain ⟨rfl, rfl⟩ := h
      exact Or.inl ⟨⟨failure, rfl, Or.inl rfl⟩, rfl, rfl⟩
  | ok digest =>
      cases hnul : FileSystem.hasNul (nativeConstants settings project) with
      | true =>
          rw [buildNative_of_hasNul hm hnul, Prod.mk.injEq] at h
          obtain ⟨rfl, rfl⟩ := h
          exact Or.inl ⟨⟨_, rfl, Or.inr ⟨rfl, rfl⟩⟩, rfl, rfl⟩
      | false =>
          refine Or.inr ⟨digest, rfl, ?_⟩
          cases hc : job.files.carries (nativeConstants settings project) digest with
          | true =>
              rw [buildNative_of_carries hm hc, Prod.mk.injEq] at h
              obtain ⟨rfl, rfl⟩ := h
              exact Or.inl ⟨rfl, rfl, rfl, rfl⟩
          | false =>
              refine Or.inr ⟨rfl, ?_⟩
              by_cases hcalls : CanCall .native settings project (project.resPath settings.root)
              · obtain ⟨log, he⟩ := buildNative_of_not_carries hm hc hcalls
                cases ht : (afterCompilers job.files job.script).translate
                  (nativeHeader settings project) (nativeConstants settings project) digest with
                | mk files result =>
                    rw [he, ht, Prod.mk.injEq] at h
                    obtain ⟨rfl, rfl⟩ := h
                    exact ⟨rfl, Or.inl ⟨hcalls, result, rfl, rfl⟩⟩
              · obtain ⟨log, he⟩ := buildNative_of_not_canCall hm hc hnul hcalls
                have hfirst := Branch.native.isStartable_messageCall_of_not_canCall hnul hcalls
                rw [he, Prod.mk.injEq] at h
                obtain ⟨rfl, rfl⟩ := h
                exact ⟨rfl, Or.inr
                  ⟨hcalls, rfl, files_interrupted_of_not_isStartable hfirst job log⟩⟩

/-- **Builds that return**: the stamp was found and nothing has changed, or both compilers were
called and the header that was there afterwards was translated. -/
theorem buildNative_eq_ok (h : job.buildNative settings project = (.ok report, last)) :
    ∃ digest, job.files.digest (project.inputPath settings.root) = .ok digest ∧
      ((job.files.carries (nativeConstants settings project) digest = true ∧
          report = nativeReport settings project digest ∧
          last.files = job.files ∧ last.calls = job.calls) ∨
        (job.files.carries (nativeConstants settings project) digest = false ∧
          ∃ constants, (afterCompilers job.files job.script).translate
              (nativeHeader settings project) (nativeConstants settings project) digest =
                (last.files, .ok constants) ∧
            report = regeneratedReport job settings project digest constants ∧
            last.calls = job.calls ++
              [messageCall .native settings project (project.resPath settings.root),
                resourceCall .native settings project (project.resPath settings.root)])) := by
  obtain ⟨⟨failure, hr, -⟩, -⟩ | ⟨digest, hm, ⟨hc, hr, hlast⟩ |
    ⟨hc, hcalled, ⟨hcalls, result, ht, hr⟩ | ⟨-, hr, -⟩⟩⟩ := buildNative_cases h
  · cases hr
  · exact ⟨digest, hm, Or.inl ⟨hc, Except.ok.inj hr, hlast⟩⟩
  · rw [compilerCalls_of_canCall hcalls] at hcalled
    cases result with
    | error failure => cases hr
    | ok constants => exact ⟨digest, hm, Or.inr ⟨hc, constants, ht, Except.ok.inj hr, hcalled⟩⟩
  · cases hr

/-- **Builds that fail**: nothing has changed, and the build did not come to its compilers or the
system could not take a call, or both compilers were called and the header that was there afterwards
could not be translated. -/
theorem buildNative_eq_error {failure : Failure}
    (h : job.buildNative settings project = (.error failure, last)) :
    (last.files = job.files ∧ (last.calls = job.calls ∨
        ¬CanCall .native settings project (project.resPath settings.root))) ∨
      ∃ digest, job.files.digest (project.inputPath settings.root) = .ok digest ∧
        job.files.carries (nativeConstants settings project) digest = false ∧
        (afterCompilers job.files job.script).translate (nativeHeader settings project)
          (nativeConstants settings project) digest = (last.files, .error failure) := by
  obtain ⟨-, hfiles, hcalls⟩ | ⟨digest, hm, ⟨-, hr, -⟩ |
    ⟨hc, -, ⟨-, result, ht, hr⟩ | ⟨hcalls, -, hfiles⟩⟩⟩ := buildNative_cases h
  · exact Or.inl ⟨hfiles, Or.inl hcalls⟩
  · cases hr
  · cases result with
    | ok constants => cases hr
    | error refused =>
        obtain rfl := Except.error.inj hr
        exact Or.inr ⟨digest, hm, hc, ht⟩
  · exact Or.inl ⟨hfiles, Or.inr hcalls⟩

/-- Where the compilers cannot be called, a build leaves all files alone. -/
theorem files_buildNative_of_not_canCall
    (hcalls : ¬CanCall .native settings project (project.resPath settings.root)) :
    (job.buildNative settings project).2.files = job.files := by
  obtain ⟨-, hfiles, -⟩ | ⟨digest, -, ⟨-, -, hfiles, -⟩ | ⟨-, -, ⟨hcan, -⟩ | ⟨-, -, hfiles⟩⟩⟩ :=
    buildNative_cases (Prod.eta (job.buildNative settings project)).symm
  · exact hfiles
  · exact hfiles
  · exact absurd hcan hcalls
  · exact hfiles

/-- A build that has regenerated could call its compilers. -/
theorem canCall_of_regenerated (h : job.buildNative settings project = (.ok report, last))
    (hr : report.regenerated = true) :
    CanCall .native settings project (project.resPath settings.root) := by
  obtain ⟨⟨failure, hf, -⟩, -⟩ | ⟨digest, -, ⟨-, hf, -⟩ | ⟨-, -, ⟨hcan, -⟩ | ⟨-, hf, -⟩⟩⟩ :=
    buildNative_cases h
  · cases hf
  · rw [Except.ok.inj hf] at hr
    cases hr
  · exact hcan
  · cases hf

/-! ## What a build reports -/

theorem digest_of_buildNative (h : job.buildNative settings project = (.ok report, last)) :
    job.files.digest (project.inputPath settings.root) = .ok report.digest := by
  obtain ⟨digest, hm, ⟨-, hr, -, -⟩ | ⟨-, constants, -, hr, -⟩⟩ := buildNative_eq_ok h
  · rw [hr]
    exact hm
  · rw [hr]
    exact hm

theorem directives_of_buildNative (h : job.buildNative settings project = (.ok report, last)) :
    report.directives = linkDirectives (project.resPath settings.root) project.name := by
  obtain ⟨digest, -, ⟨-, hr, -, -⟩ | ⟨-, constants, -, hr, -⟩⟩ := buildNative_eq_ok h
  · rw [hr]
    rfl
  · rw [hr]
    rfl

/-- A build that returns leaves a constants file that carries the digest. -/
theorem carries_of_buildNative (h : job.buildNative settings project = (.ok report, last)) :
    last.files.carries (nativeConstants settings project) report.digest = true := by
  obtain ⟨digest, hm, ⟨hc, hr, hfiles, -⟩ | ⟨-, constants, ht, hr, -⟩⟩ := buildNative_eq_ok h
  · rw [hr, hfiles]
    exact hc
  · rw [hr]
    exact FileSystem.carries_of_translate (FileSystem.isDigest_of_digest hm) ht

theorem eq_of_fst_eq_ok {outcome : Except Failure Report × Job} (h : outcome.1 = .ok report) :
    outcome = (.ok report, outcome.2) := by
  rw [← h]

theorem report_of_isOk {answer : Except Failure Report} (h : answer.isOk = true) :
    ∃ report, answer = .ok report := by
  cases answer with
  | error failure => cases h
  | ok report => exact ⟨report, rfl⟩

/-! ## A small project -/

/-- A resource directory that holds a message definition. -/
def smallTree (definition : String) : FileSystem where
  home := []
  entries := [(["res"], .directory),
    (["eventmsgs.mc", "res"], .file (Text.Utf8.encode definition.toList))]

theorem digest_smallTree : (smallTree "MessageId=1").digest "res/eventmsgs.mc" =
    .ok (Digest.ofContent (Text.Utf8.encode "MessageId=1".toList)) :=
  FileSystem.digest_eq_ok_iff.mpr ⟨_, by decide +kernel, rfl⟩

/-- A Windows host at the root of the small tree. -/
def windowsHost : Settings where
  target := "x86_64-pc-windows-msvc"
  root := ""
  onWindows := true

/-- A compiler that writes one constant into the header. -/
def writesHeader (value : String) : Performance :=
  { writes := [("res/eventmsgs.h", Text.Utf8.encode ("#define ALPHA " ++ value).toList)] }

end EventMessages.Job
