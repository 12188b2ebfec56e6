import EventMessages.Proofs.Frame

/-!
# EventMessages.Proofs.CommandLine.Retranslation

The translation command and the builds of a project. Told to translate the header of a project into
its constants file, under the digest of its definition, the command does what a build does after its
compilers (`translateCommand_eq_done_iff`). So it has nothing to do after a build that has
regenerated, and a build has nothing to do after it (`translateCommand_agrees_buildNative`).
-/

namespace EventMessages

open CommandLine Job

/-! ## Translating again -/

namespace FileSystem

variable {fs files : FileSystem} {header generated stamp : String} {count : Nat}

/-- A header that is not its own constants file can be translated again, which changes nothing. -/
theorem translate_again (h : fs.translate header generated stamp = (files, .ok count))
    (hne : files.target header ≠ files.target generated) :
    files.translate header generated stamp = (files, .ok count) := by
  have hframe := (writesOnly_of_translate h).frame
  obtain ⟨source, bytes, made, location, hc, hway, hnul, ht, hfiles, hcount⟩ := translate_eq_ok h
  have hc' : files.content header = .ok (source, bytes) := hframe.content hc hne
  have ht' : files.target generated = .ok location := by
    rw [hfiles]
    exact (target_put_file _ ht).1
  have hother : source ≠ location := by
    intro he
    rw [(content_eq_ok_iff.mp hc').2.1, ht', he] at hne
    exact hne rfl
  rw [if_neg hother] at hfiles hcount
  rw [translate_of_target hc' hnul ht' hother, hcount]
  -- what is put a second time is there already
  conv => lhs; rw [hfiles, put_put, ← hfiles]

end FileSystem

/-- Once a project is translated, its header and its constants file are two files. -/
theorem Project.target_ne_of_translate {fs files : FileSystem} {p : Project}
    {directory stamp : String} {count : Nat}
    (h : fs.translate (p.headerIn directory) (p.constantsIn directory) stamp =
      (files, .ok count)) :
    files.target (p.headerIn directory) ≠ files.target (p.constantsIn directory) := by
  obtain ⟨bytes, -, -, hg⟩ := Project.read?_of_translate h
  obtain ⟨location, hc⟩ := FileSystem.content_of_read? hg
  obtain ⟨-, ht, -⟩ := FileSystem.content_eq_ok_iff.mp hc
  intro he
  exact Project.headerIn_ne_constantsIn (he.trans ht) ht rfl

/-! ## The command line -/

namespace CommandLine

/-- The words that ask for a header to be translated into a constants file, under the digest of a
definition. -/
def translateWords (header generated origin : String) : List String :=
  [header, "-o", generated, "--origin", origin]

/-- A word that is no switch. -/
def IsPlain (word : String) : Prop := word.toList.head? ≠ some '-'

instance (word : String) : Decidable (IsPlain word) :=
  inferInstanceAs (Decidable (word.toList.head? ≠ some '-'))

theorem roles_cons_of_isPlain {word : String} (h : IsPlain word) (g : Grammar)
    (rest : List String) : g.roles (word :: rest) = (g.roles rest).map (.word word :: ·) := by
  have hdashes : word ≠ "--" := by
    rintro rfl
    exact h (by decide)
  have hrole : g.roleOf word = .ok (.word word) := if_pos (Or.inl h)
  rw [Grammar.roles, if_neg hdashes, hrole]

/-- The command reads the three paths off these words. -/
theorem read_translateWords {header generated origin : String} (hh : IsPlain header)
    (hg : IsPlain generated) (ho : IsPlain origin) :
    ∃ f, translateGrammar.read (translateWords header generated origin) = .found f ∧
      f.operand? = some header ∧ f.value? "--output" = some generated ∧
      f.value? "--origin" = some origin := by
  have houtput (rest : List String) : translateGrammar.roles ("-o" :: rest) =
      (translateGrammar.roles rest).map
        (.switch "-o" ⟨⟨["-o", "--output"], true, true, false⟩, "-o", none⟩ :: ·) := rfl
  have horigin (rest : List String) : translateGrammar.roles ("--origin" :: rest) =
      (translateGrammar.roles rest).map
        (.switch "--origin" ⟨⟨["--origin"], true, true, false⟩, "--origin", none⟩ :: ·) := rfl
  rw [Grammar.read, translateWords, roles_cons_of_isPlain hh, houtput, roles_cons_of_isPlain hg,
    horigin, roles_cons_of_isPlain ho]
  exact ⟨_, rfl, rfl, rfl, rfl⟩

variable {job last : Job} {files : FileSystem} {header generated origin : String}

theorem conclude_eq_done_iff {ended : Job} {answer : Except Failure Unit} :
    conclude ended answer = (.done (), last) ↔ (answer, ended) = (.ok (), last) := by
  unfold conclude
  cases answer with
  | ok u => simp
  | error failure =>
      dsimp only
      split <;> simp

/-- The work of the command is a translation under the digest of the definition. -/
theorem runTranslate_eq_ok_iff :
    (∃ last, runTranslate job header (some generated) (some origin) = (.ok (), last) ∧
        last.files = files) ↔
      ∃ digest count, job.files.digest origin = .ok digest ∧
        job.files.translate header generated digest = (files, .ok count) := by
  unfold runTranslate Job.hashFile
  cases hm : job.files.digest origin with
  | error failure => simp [hm]
  | ok digest =>
      unfold translateTo Job.translate
      rcases ht : job.files.translate header generated digest with ⟨made, failure | count⟩
      · simp [hm, ht]
      · simp [hm, ht, Job.withFiles]

/-- **The translation command**: it succeeds where the definition has a digest and the header can be
translated under it, and leaves the files of this translation. -/
theorem translateCommand_eq_done_iff (hh : IsPlain header) (hg : IsPlain generated)
    (ho : IsPlain origin) :
    (∃ last, translateCommand job (translateWords header generated origin) = (.done (), last) ∧
        last.files = files) ↔
      ∃ digest count, job.files.digest origin = .ok digest ∧
        job.files.translate header generated digest = (files, .ok count) := by
  obtain ⟨f, hread, hoperand, houtput, horigin⟩ := read_translateWords hh hg ho
  rw [← runTranslate_eq_ok_iff, translateCommand, Grammar.dispatch, hread]
  simp only [hoperand, houtput, horigin, Option.getD_some, conclude_eq_done_iff]

/-! ## The command and the builds -/

variable {next : Job} {settings : Settings} {project : Project} {report : Report}

/-- The words that ask for what a native build translates. -/
def nativeWords (settings : Settings) (project : Project) : List String :=
  translateWords (nativeHeader settings project) (nativeConstants settings project)
    (project.inputPath settings.root)

/-- The command has nothing to do after a build that has regenerated. -/
theorem translateCommand_of_buildNative (hh : IsPlain (nativeHeader settings project))
    (hg : IsPlain (nativeConstants settings project))
    (hm : IsPlain (project.inputPath settings.root))
    (hb : job.buildNative settings project = (.ok report, last))
    (hr : report.regenerated = true)
    (hkept : (afterCompilers job.files job.script).read? (project.inputPath settings.root) =
      job.files.read? (project.inputPath settings.root))
    (hne : last.files.target (project.inputPath settings.root) ≠
      last.files.target (nativeConstants settings project))
    (hnext : next.files = last.files) :
    ∃ ended, translateCommand next (nativeWords settings project) = (.done (), ended) ∧
      ended.files = next.files := by
  obtain ⟨digest, hd, ⟨-, hreport, -⟩ | ⟨-, constants, ht, -, -⟩⟩ := buildNative_eq_ok hb
  · rw [hreport] at hr
    cases hr
  · have hcompiled := FileSystem.digest_of_read?_eq hkept hd
    have hlast : last.files.digest (project.inputPath settings.root) = .ok digest :=
      (FileSystem.writesOnly_of_translate ht).frame.digest hcompiled hne
    have hagain : last.files.translate (nativeHeader settings project)
        (nativeConstants settings project) digest = (last.files, .ok constants) :=
      FileSystem.translate_again ht (Project.target_ne_of_translate ht)
    rw [← hnext] at hlast hagain
    exact (translateCommand_eq_done_iff hh hg hm).mpr ⟨digest, constants, hlast, hagain⟩

/-- A build has nothing to do after the command. -/
theorem buildNative_of_translateCommand (hh : IsPlain (nativeHeader settings project))
    (hg : IsPlain (nativeConstants settings project))
    (hm : IsPlain (project.inputPath settings.root))
    (hc : translateCommand job (nativeWords settings project) = (.done (), last))
    (hne : last.files.target (project.inputPath settings.root) ≠
      last.files.target (nativeConstants settings project))
    (hnext : next.files = last.files) :
    ∃ digest report ended,
      job.files.digest (project.inputPath settings.root) = .ok digest ∧
      next.buildNative settings project = (.ok report, ended) ∧
      report.digest = digest ∧ report.regenerated = false ∧
      ended.files = next.files ∧ ended.calls = next.calls := by
  obtain ⟨digest, count, hd, ht⟩ :=
    (translateCommand_eq_done_iff hh hg hm).mp ⟨last, hc, rfl⟩
  have hlast : last.files.digest (project.inputPath settings.root) = .ok digest :=
    (FileSystem.writesOnly_of_translate ht).frame.digest hd hne
  have hcarries : last.files.carries (nativeConstants settings project) digest = true :=
    FileSystem.carries_of_translate (FileSystem.isDigest_of_digest hd) ht
  rw [← hnext] at hlast hcarries
  exact ⟨digest, _, _, hd, buildNative_of_carries hlast hcarries, rfl, rfl, rfl, rfl⟩

/-- **Builds and the command agree**, as long as no path looks like a switch and the definition is
not the constants file. After a build that has regenerated, and whose compilers have left the
definition alone, the command succeeds and leaves all files as they are. After a command that has
succeeded, a build calls no compiler, does not regenerate and reports the digest of the
definition that the command was given. -/
theorem translateCommand_agrees_buildNative (hh : IsPlain (nativeHeader settings project))
    (hg : IsPlain (nativeConstants settings project))
    (hm : IsPlain (project.inputPath settings.root)) :
    (∀ (job last next : Job) (report : Report),
      job.buildNative settings project = (.ok report, last) → report.regenerated = true →
      (afterCompilers job.files job.script).read? (project.inputPath settings.root) =
        job.files.read? (project.inputPath settings.root) →
      last.files.target (project.inputPath settings.root) ≠
        last.files.target (nativeConstants settings project) →
      next.files = last.files →
      ∃ ended, translateCommand next (nativeWords settings project) = (.done (), ended) ∧
        ended.files = next.files) ∧
    (∀ job last next : Job,
      translateCommand job (nativeWords settings project) = (.done (), last) →
      last.files.target (project.inputPath settings.root) ≠
        last.files.target (nativeConstants settings project) →
      next.files = last.files →
      ∃ digest report ended,
        job.files.digest (project.inputPath settings.root) = .ok digest ∧
        next.buildNative settings project = (.ok report, ended) ∧
        report.digest = digest ∧ report.regenerated = false ∧
        ended.files = next.files ∧ ended.calls = next.calls) := by
  constructor
  · intro job last next report hb hr hkept hne hnext
    exact translateCommand_of_buildNative hh hg hm hb hr hkept hne hnext
  · intro job last next hc hne hnext
    exact buildNative_of_translateCommand hh hg hm hc hne hnext

/-- The small project after its build. -/
def smallBuilt : Job := (Branch.smallNative.buildNative windowsHost {}).2

/-- The small project is built, translated, which changes nothing, and built again, which calls no
compiler. -/
theorem translateCommand_agrees_buildNative_small :
    ∃ translated, translateCommand smallBuilt (translateWords "res/eventmsgs.h"
        "res/eventmsgs.rs" "res/eventmsgs.mc") = (.done (), translated) ∧
      translated.files = smallBuilt.files ∧
      (translated.buildNative windowsHost {}).2.calls = translated.calls := by
  have hwords : nativeWords windowsHost {} = translateWords "res/eventmsgs.h" "res/eventmsgs.rs"
      "res/eventmsgs.mc" := by decide +kernel
  have hplain : IsPlain (nativeHeader windowsHost {}) ∧ IsPlain (nativeConstants windowsHost {}) ∧
      IsPlain (Project.inputPath {} windowsHost.root) := by decide +kernel
  obtain ⟨hafterBuild, hafterCommand⟩ :=
    translateCommand_agrees_buildNative hplain.1 hplain.2.1 hplain.2.2
  have hok : (Branch.smallNative.buildNative windowsHost {}).1.isOk = true := by decide +kernel
  obtain ⟨report, hr⟩ := report_of_isOk hok
  have hregenerated : (Branch.smallNative.buildNative windowsHost {}).1.toOption.map Report.regenerated =
      some true := by decide +kernel
  rw [hr] at hregenerated
  have hne : smallBuilt.files.target (Project.inputPath {} windowsHost.root) ≠
      smallBuilt.files.target (nativeConstants windowsHost {}) := by decide +kernel
  obtain ⟨translated, hc, hfiles⟩ := hafterBuild Branch.smallNative smallBuilt smallBuilt report
    (eq_of_fst_eq_ok hr) (Option.some.inj hregenerated) (by decide +kernel) hne rfl
  rw [← hfiles] at hne
  obtain ⟨-, report', ended, -, hb, -, -, -, hcalls⟩ :=
    hafterCommand smallBuilt translated translated hc hne rfl
  rw [hwords] at hc
  refine ⟨translated, hc, hfiles, ?_⟩
  rw [hb]
  exact hcalls

end CommandLine

end EventMessages
