import EventMessages.Proofs.CommandLine.Reporting

/-!
# EventMessages.Proofs.CommandLine.Surroundings

What the build command takes from its environment: three variables. On Windows, where tools have no
front and nothing is built in a scratch directory, only the project root matters, as long as there
is a target (`buildCommand_of_agrees`).
-/

namespace EventMessages

/-! ## Environments -/

/-- The environments give these variables the same values. An empty value is none. -/
def Environment.Agrees (names : List String) (env other : Environment) : Prop :=
  ∀ name ∈ names, other.value? name = env.value? name

instance (names : List String) (env other : Environment) : Decidable (env.Agrees names other) :=
  inferInstanceAs (Decidable (∀ name ∈ names, other.value? name = env.value? name))

namespace Settings

variable {env other : Environment} {defaultRoot? : Option String} {currentDirectory : String}
variable {onWindows : Bool} {settings otherSettings : Settings}

/-- The variables that settings are read from. -/
def variableNames : List String := ["TARGET", "OUT_DIR", "CARGO_MANIFEST_DIR"]

theorem ofEnvironment_of_agrees (h : env.Agrees variableNames other) :
    ofEnvironment other defaultRoot? currentDirectory onWindows =
      ofEnvironment env defaultRoot? currentDirectory onWindows := by
  have htarget := h "TARGET" (by decide)
  have hdirectory := h "OUT_DIR" (by decide)
  have hroot := h "CARGO_MANIFEST_DIR" (by decide)
  unfold ofEnvironment
  rw [htarget, hdirectory, hroot]

/-- Without a target there are no settings. -/
theorem ofEnvironment_of_no_target (h : env.value? "TARGET" = none) :
    ofEnvironment env defaultRoot? currentDirectory onWindows =
      .error (.invalid (.variable "TARGET")) := by
  unfold ofEnvironment
  rw [h]

/-- The same root, on the same kind of host. -/
structure SamePlace (settings other : Settings) : Prop where
  root : other.root = settings.root
  onWindows : other.onWindows = settings.onWindows

/-- A target and a scratch directory have no bearing on the root. -/
theorem exists_samePlace (hroot : env.Agrees ["CARGO_MANIFEST_DIR"] other)
    (htarget : (env.value? "TARGET").isSome = true)
    (hother : (other.value? "TARGET").isSome = true) :
    ∃ settings otherSettings,
      ofEnvironment env defaultRoot? currentDirectory onWindows = .ok settings ∧
      ofEnvironment other defaultRoot? currentDirectory onWindows = .ok otherSettings ∧
      settings.onWindows = onWindows ∧ settings.SamePlace otherSettings := by
  obtain ⟨target, ht⟩ := Option.isSome_iff_exists.mp htarget
  obtain ⟨otherTarget, ht'⟩ := Option.isSome_iff_exists.mp hother
  have hr := hroot "CARGO_MANIFEST_DIR" (List.mem_singleton_self _)
  unfold ofEnvironment
  rw [ht, ht', hr]
  exact ⟨_, _, rfl, rfl, rfl, rfl, rfl⟩

/-- On Windows, a tool is run by its own name. -/
theorem program_of_onWindows (h : settings.onWindows = true) (tool : String) :
    settings.program tool = tool := by
  rw [program, toolPrelude_of_onWindows h]
  exact String.empty_append

end Settings

/-! ## Native builds -/

namespace Job

variable {settings other : Settings}

theorem invoke_of_onWindows (h : settings.onWindows = true) (h' : other.onWindows = true)
    (job : Job) (tool : String) (args : List String) :
    job.invoke other tool args = job.invoke settings tool args := by
  unfold invoke callTool runTool
  rw [Settings.program_of_onWindows h, Settings.program_of_onWindows h']

/-- On Windows, only the root and the project decide what is built. -/
theorem buildNative_of_samePlace (h : settings.onWindows = true) (hs : settings.SamePlace other)
    (job : Job) (project : Project) :
    job.buildNative other project = job.buildNative settings project := by
  have h' : other.onWindows = true := hs.onWindows.trans h
  unfold buildNative regenerate
  simp only [hs.root, invoke_of_onWindows h h']

end Job

/-! ## The build command -/

namespace CommandLine

variable {job : Job} {f : Found} {argv : List String} {env other : Environment}
variable {defaultRoot currentDirectory : String} {onWindows : Bool}

theorem projectFor_of_samePlace {settings otherSettings : Settings}
    (h : settings.SamePlace otherSettings) (fs : FileSystem) (f : Found) :
    projectFor fs otherSettings f = projectFor fs settings f := by
  rw [projectFor, projectFor, h.root]

theorem runBuild_of_agrees (h : env.Agrees Settings.variableNames other) :
    runBuild job other defaultRoot currentDirectory onWindows f =
      runBuild job env defaultRoot currentDirectory onWindows f := by
  rw [runBuild, Settings.ofEnvironment_of_agrees h, runBuild]

theorem runBuild_of_onWindows (hw : onWindows = true)
    (hroot : env.Agrees ["CARGO_MANIFEST_DIR"] other)
    (htarget : (other.value? "TARGET").isSome = (env.value? "TARGET").isSome) :
    runBuild job other defaultRoot currentDirectory onWindows f =
      runBuild job env defaultRoot currentDirectory onWindows f := by
  cases hsome : (env.value? "TARGET").isSome with
  | false =>
      rw [hsome] at htarget
      rw [runBuild, runBuild, Settings.ofEnvironment_of_no_target (by simpa using htarget),
        Settings.ofEnvironment_of_no_target (by simpa using hsome)]
  | true =>
      obtain ⟨settings, otherSettings, hs, hs', hw', hplace⟩ :=
        Settings.exists_samePlace hroot hsome (htarget.trans hsome)
      rw [runBuild, runBuild, hs, hs']
      dsimp only
      rw [projectFor_of_samePlace hplace]
      cases projectFor job.files settings f with
      | error failure => rfl
      | ok project =>
          have hn := hw'.trans hw
          simp only [Job.build, hplace.onWindows, hn, if_true]
          exact Job.buildNative_of_samePlace hn hplace job project

/-- A command that is not to show its environment depends on what is built in it. -/
theorem buildCommand_congr
    (hdump : ∀ f, buildGrammar.read argv = .found f → f.has "--dump-env" = false)
    (hrun : ∀ f, runBuild job other defaultRoot currentDirectory onWindows f =
      runBuild job env defaultRoot currentDirectory onWindows f) :
    buildCommand job argv other defaultRoot currentDirectory onWindows =
      buildCommand job argv env defaultRoot currentDirectory onWindows := by
  rw [buildCommand, buildCommand, Grammar.dispatch, Grammar.dispatch]
  cases hread : buildGrammar.read argv with
  | help => rfl
  | misuse m => rfl
  | found f =>
      simp only [hdump f hread, Bool.false_eq_true, if_false, hrun]

/-- **Three variables**: a build command that is not told to show its environment ends alike, prints
the same, calls the same programs and leaves the same files wherever the target, the scratch
directory and the root are the same, an empty value being none. On Windows it does so wherever the
root is the same and there is a target, or none, in both. -/
theorem buildCommand_of_agrees
    (hdump : ∀ f, buildGrammar.read argv = .found f → f.has "--dump-env" = false) :
    (env.Agrees ["TARGET", "OUT_DIR", "CARGO_MANIFEST_DIR"] other →
      buildCommand job argv other defaultRoot currentDirectory onWindows =
        buildCommand job argv env defaultRoot currentDirectory onWindows) ∧
    (onWindows = true → env.Agrees ["CARGO_MANIFEST_DIR"] other →
      (other.value? "TARGET").isSome = (env.value? "TARGET").isSome →
      buildCommand job argv other defaultRoot currentDirectory onWindows =
        buildCommand job argv env defaultRoot currentDirectory onWindows) := by
  constructor
  · intro h
    exact buildCommand_congr hdump fun f => runBuild_of_agrees h
  · intro hw hroot htarget
    exact buildCommand_congr hdump fun f => runBuild_of_onWindows hw hroot htarget

/-- The environment of a build for one target. -/
def sparse : Environment := [("TARGET", "x86_64-pc-windows-msvc")]

/-- The environment of a build for another target, with a scratch directory, an empty root and a
variable that nothing looks at. -/
def crowded : Environment :=
  [("PATH", "/bin"), ("OUT_DIR", "elsewhere"), ("CARGO_MANIFEST_DIR", ""), ("TARGET", "i686-gnu")]

/-- On Windows, the small project is built in either environment, and nothing differs. -/
theorem buildCommand_of_agrees_small :
    buildCommand Branch.smallNative ["--input", "res/eventmsgs.mc"] crowded "" "" true =
        buildCommand Branch.smallNative ["--input", "res/eventmsgs.mc"] sparse "" "" true ∧
      (buildCommand Branch.smallNative ["--input", "res/eventmsgs.mc"] sparse "" ""
        true).2.files.read? "res/eventmsgs.rs" ≠ none := by
  have hread : buildGrammar.read ["--input", "res/eventmsgs.mc"] = .found
      { values := [({ names := ["--input"], takesValue := true }, some "res/eventmsgs.mc")] } := by
    decide +kernel
  have hdump : ∀ f, buildGrammar.read ["--input", "res/eventmsgs.mc"] = .found f →
      f.has "--dump-env" = false := by
    intro f hf
    rw [hread] at hf
    obtain rfl := Reading.found.inj hf
    decide
  obtain ⟨-, hwindows⟩ :=
    @buildCommand_of_agrees Branch.smallNative _ sparse crowded "" "" true hdump
  exact ⟨hwindows rfl (by decide) (by decide), by decide +kernel⟩

end CommandLine

end EventMessages
