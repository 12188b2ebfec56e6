import EventMessages.Proofs.Build.Outcome

/-!
# EventMessages.Proofs.Build.History

Histories of native builds. Between two builds the files may change in any way, and so they may
while the compilers run; a `Conduct` says in which. If nobody but the builds writes the constants
file, then what it holds was written by one build of the history (`History.constants_eq`), and a
build that skips its compilers relies on that one.
-/

namespace EventMessages

open Job

/-! ## Calls -/

/-- One build of a history: the files that it found and what the programs did. -/
structure Call where
  files : FileSystem
  script : List Performance

namespace Call

/-- What came of the build and of the files. -/
def build (call : Call) (settings : Settings) (project : Project) : Except Failure Report × Job :=
  ({ files := call.files, script := call.script } : Job).buildNative settings project

/-- The definition that the build found, if any. -/
def definition? (call : Call) (settings : Settings) (project : Project) : Option (List UInt8) :=
  call.files.read? (project.inputPath settings.root)

/-- The header that the build found after its compilers, if any. -/
def header? (call : Call) (settings : Settings) (project : Project) : Option (List UInt8) :=
  (afterCompilers call.files call.script).read? (nativeHeader settings project)

/-- What became of the resource compiler. -/
def resourceOutcome (call : Call) (settings : Settings) : Outcome :=
  (toolResult settings Compilers.native.resource (afterMessages call.files call.script)
    (call.script.tail.headD {})).outcome

/-- The constants file is as this build wrote it, from this header, with this report. -/
structure Wrote (call : Call) (settings : Settings) (project : Project) (report : Report)
    (header : List UInt8) (fs : FileSystem) : Prop where
  returned : (call.build settings project).1 = .ok report
  regenerated : report.regenerated = true
  source : call.header? settings project = some header
  kept : fs.read? (nativeConstants settings project) =
    (call.build settings project).2.files.read? (nativeConstants settings project)
  bytes : fs.read? (nativeConstants settings project) =
    some (ConstantsFile.bytes report.digest (Constant.ofHeader header))

variable {settings : Settings} {project : Project} {report : Report} {header : List UInt8}
variable {fs later : FileSystem}

theorem Wrote.of_read?_eq {call : Call} (h : call.Wrote settings project report header fs)
    (hg : later.read? (nativeConstants settings project) =
      fs.read? (nativeConstants settings project)) :
    call.Wrote settings project report header later :=
  { h with
    kept := hg.trans h.kept
    bytes := hg.trans h.bytes }

/-- The stamps of a constants file that a build wrote. -/
theorem Wrote.carries_iff {call : Call} {digest : String}
    (h : call.Wrote settings project report header fs) (hd : Digest.IsDigest digest) :
    fs.carries (nativeConstants settings project) digest = true ↔
      digest = report.digest ∨ ∃ c ∈ Constant.ofHeader header, c.Spells digest := by
  have hr : Digest.IsDigest report.digest :=
    FileSystem.isDigest_of_digest (digest_of_buildNative (eq_of_fst_eq_ok h.returned))
  rw [FileSystem.carries_of_read? h.bytes, lineHolds_bytes_iff hd hr]

/-- A build leaves the constants file alone, writes it, or leaves none that can be read. -/
theorem read?_build (call : Call)
    (hp : (afterCompilers call.files call.script).read? (nativeConstants settings project) =
      call.files.read? (nativeConstants settings project)) :
    (call.build settings project).2.files.read? (nativeConstants settings project) =
        call.files.read? (nativeConstants settings project) ∨
      (∃ report header,
        call.Wrote settings project report header (call.build settings project).2.files) ∨
      (call.build settings project).2.files.read? (nativeConstants settings project) = none := by
  rcases h : call.build settings project with ⟨answer, last⟩
  cases answer with
  | error failure =>
      obtain ⟨hfiles, -⟩ | ⟨digest, -, -, ht⟩ := buildNative_eq_error h
      · exact Or.inl (by rw [hfiles])
      · obtain ⟨hfiles, -⟩ | ⟨-, hnone⟩ := FileSystem.translate_eq_error ht
        · exact Or.inl (by rw [hfiles]; exact hp)
        · exact Or.inr (Or.inr hnone)
  | ok report =>
      obtain ⟨digest, -, ⟨-, -, hfiles, -⟩ | ⟨-, constants, ht, hr, -⟩⟩ := buildNative_eq_ok h
      · exact Or.inl (by rw [hfiles])
      · obtain ⟨header, hheader, -, hg⟩ := Project.read?_of_translate ht
        refine Or.inr (Or.inl ⟨report, header, ?_⟩)
        rw [hr] at h ⊢
        exact
          { returned := by rw [h]
            regenerated := rfl
            source := hheader
            kept := by rw [h]
            bytes := hg }

/-- A build that has regenerated has called both compilers and reports what became of them. -/
theorem attempts_of_regenerated {call : Call}
    (h : (call.build settings project).1 = .ok report) (hr : report.regenerated = true) :
    (call.build settings project).2.calls =
        [messageCall .native settings project (project.resPath settings.root),
          resourceCall .native settings project (project.resPath settings.root)] ∧
      report.tools = compilerResults .native settings call.files call.script := by
  obtain ⟨digest, -, ⟨-, he, -, -⟩ | ⟨-, constants, -, he, hcalls⟩⟩ :=
    buildNative_eq_ok (eq_of_fst_eq_ok h)
  · rw [he] at hr
    cases hr
  · refine ⟨hcalls, ?_⟩
    rw [he]
    rfl

end Call

/-! ## Histories -/

/-- What others do to the files of a project. -/
structure Conduct where
  /-- What may change between two builds. -/
  changes : FileSystem → FileSystem → Prop
  /-- What the programs of a build may do. -/
  performs : FileSystem → List Performance → Prop

/-- Nobody changes what is read at this path. -/
def Conduct.leaving (path : String) : Conduct where
  changes fs later := later.read? path = fs.read? path
  performs fs script := (afterCompilers fs script).read? path = fs.read? path

/-- The builds of a project so far, and the files that they and all others have left. -/
inductive History (settings : Settings) (project : Project) (conduct : Conduct)
    (start : FileSystem) : List Call → FileSystem → Prop where
  | start : History settings project conduct start [] start
  | change {calls : List Call} {fs later : FileSystem} :
      History settings project conduct start calls fs → conduct.changes fs later →
        History settings project conduct start calls later
  | build {calls : List Call} {fs : FileSystem} {script : List Performance} :
      History settings project conduct start calls fs → conduct.performs fs script →
        History settings project conduct start (calls ++ [⟨fs, script⟩])
          ((Call.mk fs script).build settings project).2.files

namespace History

variable {settings : Settings} {project : Project} {conduct other : Conduct}
variable {start fs : FileSystem} {calls : List Call}

/-- What holds at the start and survives every change and every build holds of all files of a
history, and may be relied on in showing that the history follows another conduct as well. -/
theorem imp {Holds : FileSystem → Prop} (h : History settings project conduct start calls fs)
    (hstart : Holds start)
    (hchange : ∀ fs later, Holds fs → conduct.changes fs later →
      Holds later ∧ other.changes fs later)
    (hbuild : ∀ fs script, Holds fs → conduct.performs fs script →
      Holds ((Call.mk fs script).build settings project).2.files ∧ other.performs fs script) :
    History settings project other start calls fs ∧ Holds fs ∧
      ∀ call ∈ calls, Holds call.files ∧ conduct.performs call.files call.script := by
  induction h with
  | start => exact ⟨.start, hstart, by simp⟩
  | change _ hc ih =>
      obtain ⟨ho, hfs, hcalls⟩ := ih
      obtain ⟨hlater, hc'⟩ := hchange _ _ hfs hc
      exact ⟨ho.change hc', hlater, hcalls⟩
  | build _ hp ih =>
      obtain ⟨ho, hfs, hcalls⟩ := ih
      obtain ⟨hlater, hp'⟩ := hbuild _ _ hfs hp
      refine ⟨ho.build hp', hlater, fun call hm => ?_⟩
      obtain hm | hm := List.mem_append.mp hm
      · exact hcalls call hm
      · obtain rfl := List.mem_singleton.mp hm
        exact ⟨hfs, hp⟩

theorem single (call : Call) (h : conduct.performs call.files call.script) :
    History settings project conduct call.files [call] (call.build settings project).2.files :=
  History.build .start h

/-- **Origin**: a constants file that nobody else writes is missing still, or it is as one build of
the history wrote it. -/
theorem constants_eq
    (h : History settings project (.leaving (nativeConstants settings project)) start calls fs)
    (hstart : start.read? (nativeConstants settings project) = none) :
    fs.read? (nativeConstants settings project) = none ∨
      ∃ call ∈ calls, ∃ report header, call.Wrote settings project report header fs := by
  induction h with
  | start => exact Or.inl hstart
  | change _ hc ih =>
      obtain hnone | ⟨call, hm, report, header, hw⟩ := ih
      · exact Or.inl (hc.trans hnone)
      · exact Or.inr ⟨call, hm, report, header, hw.of_read?_eq hc⟩
  | @build calls fs script _ hp ih =>
      obtain hsame | ⟨report, header, hw⟩ | hnone := Call.read?_build ⟨fs, script⟩ hp
      · obtain hnone | ⟨call, hm, report, header, hw⟩ := ih
        · exact Or.inl (hsame.trans hnone)
        · exact Or.inr
            ⟨call, List.mem_append_left _ hm, report, header, hw.of_read?_eq hsame⟩
      · exact Or.inr ⟨⟨fs, script⟩, List.mem_append_right _ (List.mem_singleton_self _), report,
          header, hw⟩
      · exact Or.inl hnone

/-- A build that skips its compilers has found a constants file that carries the digest. -/
theorem carries_of_skipped {skipped : Call} {report : Report} {last : Job}
    (hskip : skipped.build settings project = (.ok report, last))
    (hregenerated : report.regenerated = false) :
    skipped.files.carries (nativeConstants settings project) report.digest = true := by
  obtain ⟨digest, -, ⟨hc, he, -, -⟩ | ⟨-, constants, -, he, -⟩⟩ := buildNative_eq_ok hskip
  · rw [he]
    exact hc
  · rw [he] at hregenerated
    cases hregenerated

/-- A build that returns in a history that starts without a constants file shows that the compilers
can be called: it has called them itself, or an earlier build has. -/
theorem canCall_of_returned {call : Call} {report : Report} {last : Job}
    (h : History settings project (.leaving (nativeConstants settings project)) start calls
      call.files)
    (hstart : start.read? (nativeConstants settings project) = none)
    (hb : call.build settings project = (.ok report, last)) :
    CanCall .native settings project (project.resPath settings.root) := by
  cases hr : report.regenerated with
  | true => exact canCall_of_regenerated hb hr
  | false =>
      have hc := carries_of_skipped hb hr
      obtain hnone | ⟨earlier, -, written, header, hw⟩ := constants_eq h hstart
      · rw [FileSystem.carries_of_read?_eq_none hnone] at hc
        cases hc
      · exact canCall_of_regenerated (eq_of_fst_eq_ok hw.returned) hw.regenerated

/-- **Skipped builds**: a build that skips its compilers relies on an earlier build of the same
definition. That one returned, and the constants file is as it left it. It called the resource
compiler for the library that the directives name, but what became of the call it only reports. -/
theorem exists_call_of_skipped {skipped : Call} {report : Report} {last : Job}
    (h : History settings project
      (.leaving (project.constantsIn (project.resPath settings.root))) start calls skipped.files)
    (hstart : start.read? (project.constantsIn (project.resPath settings.root)) = none)
    (hskip : skipped.build settings project = (.ok report, last))
    (hregenerated : report.regenerated = false)
    (hspells : ∀ call ∈ calls, ∀ header, call.header? settings project = some header →
      ∀ c ∈ Constant.ofHeader header, ¬ c.Spells report.digest) :
    ∃ call ∈ calls, ∃ earlier after, call.build settings project = (.ok earlier, after) ∧
      earlier.digest = report.digest ∧ earlier.regenerated = true ∧
      earlier.directives = report.directives ∧
      [settings.program "rc.exe", "/v", "/fo",
        project.libraryIn (project.resPath settings.root),
        project.scriptIn (project.resPath settings.root)] ∈ after.calls ∧
      ⟨settings.program "rc.exe", call.resourceOutcome settings⟩ ∈ earlier.tools ∧
      skipped.files.read? (project.constantsIn (project.resPath settings.root)) =
        after.files.read? (project.constantsIn (project.resPath settings.root)) := by
  have hc := carries_of_skipped hskip hregenerated
  have hd : Digest.IsDigest report.digest :=
    FileSystem.isDigest_of_digest (digest_of_buildNative hskip)
  obtain hnone | ⟨call, hm, earlier, header, hw⟩ := constants_eq h hstart
  · rw [FileSystem.carries, hnone] at hc
    cases hc
  · have hb := eq_of_fst_eq_ok hw.returned
    have hdigest : earlier.digest = report.digest := by
      obtain he | ⟨c, hmem, hs⟩ := (hw.carries_iff hd).mp hc
      · exact he.symm
      · exact absurd hs (hspells call hm header hw.source c hmem)
    obtain ⟨hcalls, htools⟩ := Call.attempts_of_regenerated hw.returned hw.regenerated
    refine ⟨call, hm, earlier, _, hb, hdigest, hw.regenerated, ?_, ?_, ?_, hw.kept⟩
    · rw [directives_of_buildNative hb, directives_of_buildNative hskip]
    · rw [hcalls]
      exact List.mem_cons_of_mem _ (List.mem_singleton_self _)
    · rw [htools]
      exact List.mem_cons_of_mem _ (List.mem_singleton_self _)

/-- A build of the small project without a resource compiler. -/
def unlinked : Call where
  files := smallTree "MessageId=1"
  script := [writesHeader "0x1", { ending := .refused 2 "No such file or directory" true }]

/-- The build after the one without a resource compiler. -/
def afterUnlinked : Call where
  files := (unlinked.build windowsHost {}).2.files
  script := []

theorem history_unlinked (h : conduct.performs unlinked.files unlinked.script) :
    History windowsHost {} conduct unlinked.files [unlinked] afterUnlinked.files := by
  unfold afterUnlinked
  dsimp only
  exact single unlinked h

theorem read?_unlinked : (afterCompilers unlinked.files unlinked.script).read? "res/eventmsgs.rs" =
    unlinked.files.read? "res/eventmsgs.rs" := by decide +kernel

theorem not_spells_unlinked {digest : String} (hd : Digest.IsDigest digest) :
    ∀ call ∈ [unlinked], ∀ header, call.header? windowsHost {} = some header →
      ∀ c ∈ Constant.ofHeader header, ¬ c.Spells digest := by
  intro call hm header hheader c hc
  obtain rfl := List.mem_singleton.mp hm
  have hh : unlinked.header? windowsHost {} =
      some (Text.Utf8.encode "#define ALPHA 0x1".toList) := by decide +kernel
  have hcs : Constant.ofHeader (Text.Utf8.encode "#define ALPHA 0x1".toList) =
      [⟨"ALPHA", "0x1"⟩] := by decide +kernel
  obtain rfl := Option.some.inj (hheader.symm.trans hh)
  rw [hcs, List.mem_singleton] at hc
  rw [hc]
  exact Constant.not_spells_of_length hd (by decide) (by decide)

theorem skipped_afterUnlinked : ∃ report last,
    afterUnlinked.build windowsHost {} = (.ok report, last) ∧ report.regenerated = false := by
  have hok : (afterUnlinked.build windowsHost {}).1.toOption.map Report.regenerated =
      some false := by decide +kernel
  rcases h : afterUnlinked.build windowsHost {} with ⟨answer, last⟩
  rw [h] at hok
  cases answer with
  | error failure => cases hok
  | ok report => exact ⟨report, last, rfl, Option.some.inj hok⟩

/-- The second build of the small project relies on the first one, which had no resource
compiler. -/
theorem exists_call_of_skipped_unlinked : ∃ report last,
    afterUnlinked.build windowsHost {} = (.ok report, last) ∧
      ∃ call ∈ [unlinked], ∃ earlier after, call.build windowsHost {} = (.ok earlier, after) ∧
        earlier.digest = report.digest ∧ earlier.regenerated = true := by
  obtain ⟨report, last, hskip, hregenerated⟩ := skipped_afterUnlinked
  have hd : Digest.IsDigest report.digest :=
    FileSystem.isDigest_of_digest (digest_of_buildNative hskip)
  have hstart : unlinked.files.read? "res/eventmsgs.rs" = none := by decide +kernel
  obtain ⟨call, hm, earlier, after, hb, hdigest, hearlier, -⟩ :=
    exists_call_of_skipped (history_unlinked read?_unlinked) hstart hskip hregenerated
      (not_spells_unlinked hd)
  exact ⟨report, last, hskip, call, hm, earlier, after, hb, hdigest, hearlier⟩

/-- No resource compiler need have succeeded before a build that skips its compilers, even if
nothing but the definition changes between builds. -/
theorem not_forall_linked_of_skipped :
    ¬ ∀ (settings : Settings) (project : Project) (start : FileSystem) (calls : List Call)
      (skipped : Call) (report : Report) (last : Job),
      History settings project
        { changes := fun fs later =>
            ∃ bytes, later = (fs.store (project.inputPath settings.root) bytes).1
          performs :=
            (Conduct.leaving (project.constantsIn (project.resPath settings.root))).performs }
        start calls skipped.files →
      start.read? (project.constantsIn (project.resPath settings.root)) = none →
      skipped.build settings project = (.ok report, last) →
      report.regenerated = false →
      (∀ call ∈ calls, ∀ header, call.header? settings project = some header →
        ∀ c ∈ Constant.ofHeader header, ∀ other ∈ skipped :: calls, ∀ digest,
          other.files.digest (project.inputPath settings.root) = .ok digest →
          ¬ c.Spells digest) →
      ∃ call ∈ calls,
        call.files.digest (project.inputPath settings.root) = .ok report.digest ∧
        ∃ output errors, call.resourceOutcome settings = .ended 0 output errors := by
  intro hlinked
  obtain ⟨report, last, hskip, hregenerated⟩ := skipped_afterUnlinked
  have hstart : unlinked.files.read? "res/eventmsgs.rs" = none := by decide +kernel
  obtain ⟨call, hm, -, output, errors, ho⟩ :=
    hlinked windowsHost {} unlinked.files [unlinked] afterUnlinked report last
      (history_unlinked read?_unlinked) hstart hskip hregenerated
      fun call hm header hheader c hc _ _ _ hd =>
        not_spells_unlinked (FileSystem.isDigest_of_digest hd) call hm header hheader c hc
  obtain rfl := List.mem_singleton.mp hm
  have hs : (unlinked.resourceOutcome windowsHost).started = false := by decide +kernel
  rw [ho] at hs
  cases hs

end History

end EventMessages
