import EventMessages.CommandLine.Translate
import EventMessages.Proofs.Build.Branches
import EventMessages.Proofs.Build.StaleHeader

/-!
# EventMessages.Proofs.Frame

What a run leaves alone. A build and the translation command write one file, the constants file. All
other files are as the tools have left them, nothing is gone, and a new directory lies on the way to
the constants file (`FileSystem.Frame`). A run that fails does not write that file either
(`FileSystem.Unwritten`): the header is opened before anything is made, and the constants file is
not emptied before it is known that it can be written.

A build that fails leaves a stale constants file stale, as long as its path does not come to lead
to a file that carries the digest already. The tools can bring that about without writing the file:
they make a directory that the path goes through (`not_forall_stale_of_error`).
-/

namespace EventMessages

open CommandLine Job

namespace FileSystem

/-! ## Frames -/

/-- Nothing is gone, all files but the one at the path hold what they held, and the new directories
are named by what the path goes through. -/
structure Frame (path? : Option String) (fs later : FileSystem) : Prop
    extends KeepsDirectories fs later where
  file : ∀ location bytes, fs.item? location = some (.file bytes) →
    ∃ now, later.item? location = some (.file now)
  other : ∀ location, (∀ path ∈ path?, later.target path ≠ .ok location) → ∀ bytes,
    later.item? location = some (.file bytes) ↔ fs.item? location = some (.file bytes)
  named : ∀ location, fs.item? location ≠ some .directory →
    later.item? location = some .directory →
      fs.item? location = none ∧ ∃ path ∈ path?, ∃ front, OnTheWay path front ∧
        later.find front = .ok (location, .directory)

/-- All files hold what they held, and so does what is read at the path. -/
structure Unwritten (path? : Option String) (fs later : FileSystem) : Prop
    extends Frame path? fs later where
  files : ∀ location bytes,
    later.item? location = some (.file bytes) ↔ fs.item? location = some (.file bytes)
  read? : ∀ path ∈ path?, later.read? path = fs.read? path

/-- A run writes at most the file at the path, and if it fails it writes no file. -/
structure WritesOnly (path? : Option String) (failed : Prop) (fs later : FileSystem) : Prop where
  frame : Frame path? fs later
  unwritten : failed → Unwritten path? fs later

variable {fs made files later : FileSystem} {path header generated stamp : String}
variable {location : Location}

theorem Unwritten.refl (path? : Option String) (fs : FileSystem) : Unwritten path? fs fs where
  toKeepsDirectories := .refl fs
  file _ bytes hi := ⟨bytes, hi⟩
  other _ _ _ := Iff.rfl
  named _ hn hd := absurd hd hn
  files _ _ := Iff.rfl
  read? _ _ := rfl

theorem Unwritten.writesOnly {path? : Option String} (h : Unwritten path? fs later)
    (failed : Prop) : WritesOnly path? failed fs later :=
  ⟨h.toFrame, fun _ => h⟩

theorem WritesOnly.refl (path? : Option String) (failed : Prop) (fs : FileSystem) :
    WritesOnly path? failed fs fs :=
  (Unwritten.refl path? fs).writesOnly failed

/-- New directories are no files. -/
theorem AddsDirectories.item?_eq_file_iff (h : AddsDirectories fs later) {bytes : List UInt8} :
    later.item? location = some (.file bytes) ↔ fs.item? location = some (.file bytes) := by
  obtain he | ⟨hn, hd⟩ := h.item location
  · rw [he]
  · simp [hn, hd]

/-- A directory that was not there before lies on the way. -/
theorem MakesDirectories.exists_onTheWay (h : MakesDirectories (OnTheWay path) fs later)
    (hn : fs.item? location ≠ some .directory) (hd : later.item? location = some .directory) :
    fs.item? location = none ∧ ∃ front, OnTheWay path front ∧
      later.find front = .ok (location, .directory) := by
  have hnone : fs.item? location = none := by
    obtain he | ⟨hnone, -⟩ := h.item location
    · exact absurd (he.symm.trans hd) hn
    · exact hnone
  exact ⟨hnone, h.named location hnone hd⟩

/-- Directories on the way to a file that cannot be read change no file. -/
theorem MakesDirectories.unwritten (h : MakesDirectories (OnTheWay path) fs later)
    (hr : later.read? path = none) : Unwritten (some path) fs later where
  toKeepsDirectories := h.toAddsDirectories.keepsDirectories
  file _ bytes hi := ⟨bytes, h.toAddsDirectories.item_of_some hi⟩
  other _ _ _ := h.toAddsDirectories.item?_eq_file_iff
  named location hn hd := by
    obtain ⟨hnone, front, hway, hf⟩ := h.exists_onTheWay hn hd
    exact ⟨hnone, path, rfl, front, hway, hf⟩
  files _ _ := h.toAddsDirectories.item?_eq_file_iff
  read? other ho := by
    obtain rfl := Option.some.inj ho
    rw [hr, h.toAddsDirectories.read?_eq_none hr]

/-- Directories on the way to a file and the file itself are all that is new. -/
theorem MakesDirectories.frame_put (h : MakesDirectories (OnTheWay path) fs made)
    (ht : made.target path = .ok location) (bytes : List UInt8) :
    Frame (some path) fs (made.put location (.file bytes)) := by
  obtain ⟨-, -, -, -, -, hd⟩ := follow_of_target ht
  have hput : KeepsDirectories made (made.put location (.file bytes)) :=
    keepsDirectories_put_file hd
  obtain ⟨htarget, hself⟩ := target_put_file bytes ht
  refine ⟨h.toAddsDirectories.keepsDirectories.trans hput, fun other old hi => ?_,
    fun other hne old => ?_, fun other hn hnew => ?_⟩
  · by_cases he : other = location
    · exact ⟨bytes, he ▸ hself⟩
    · exact ⟨old, by rw [item?_put_of_ne made _ he, h.toAddsDirectories.item_of_some hi]⟩
  · have he : other ≠ location := fun he => hne path rfl (he ▸ htarget)
    rw [item?_put_of_ne made _ he, h.toAddsDirectories.item?_eq_file_iff]
  · have he : other ≠ location := fun he => by simp [he, hself] at hnew
    rw [item?_put_of_ne made _ he] at hnew
    obtain ⟨hnone, front, hway, hf⟩ := h.exists_onTheWay hn hnew
    exact ⟨hnone, path, rfl, front, hway, hput.find_directory hf⟩

/-- A file that is not the one at the path is found where it was, with what it held. -/
theorem Frame.content {other : String} {bytes : List UInt8} (h : Frame (some other) fs later)
    (hc : fs.content path = .ok (location, bytes)) (hne : later.target path ≠ later.target other) :
    later.content path = .ok (location, bytes) := by
  obtain ⟨hnul, ht, hi⟩ := content_eq_ok_iff.mp hc
  obtain ⟨now, hnow⟩ := h.file location bytes hi
  have htarget : later.target path = .ok location :=
    h.toKeepsDirectories.target ht (by simp [hnow])
  have hsame : later.item? location = some (.file bytes) := by
    refine (h.other location (fun place hplace hother => hne ?_) bytes).mpr hi
    obtain rfl := Option.some.inj hplace
    rw [htarget, hother]
  exact content_eq_ok_iff.mpr ⟨hnul, htarget, hsame⟩

/-- A definition that is not the file at the path keeps its digest. -/
theorem Frame.digest {other digest : String} (h : Frame (some other) fs later)
    (hd : fs.digest path = .ok digest) (hne : later.target path ≠ later.target other) :
    later.digest path = .ok digest := by
  obtain ⟨bytes, hr, rfl⟩ := digest_eq_ok_iff.mp hd
  obtain ⟨location, hc⟩ := content_of_read? hr
  exact digest_eq_ok_iff.mpr ⟨bytes, read?_of_content (h.content hc hne), rfl⟩

/-- A translation writes the constants file or no file. -/
theorem writesOnly_of_translate {answer : Except Failure Nat}
    (h : fs.translate header generated stamp = (files, answer)) :
    WritesOnly (some generated) (answer.isOk = false) fs files := by
  cases answer with
  | ok count =>
      obtain ⟨source, bytes, made, location, -, hway, -, ht, rfl, -⟩ := translate_eq_ok h
      exact ⟨hway.frame_put ht _, fun hfailed => by cases hfailed⟩
  | error failure =>
      obtain ⟨rfl, -⟩ | ⟨hway, hr⟩ := translate_eq_error h
      · exact .refl _ _ _
      · exact (hway.unwritten hr).writesOnly _

end FileSystem

open FileSystem

/-! ## Builds -/

namespace Job

/-- The files after the programs have performed one after another. -/
def playAll (fs : FileSystem) (performances : List Performance) : FileSystem :=
  performances.foldl (fun fs performance => (makeFiles fs performance.writes).1) fs

/-- The programs that have performed between two states of a job: those of the calls that the system
could take. -/
def performedCount (job last : Job) : Nat :=
  (last.calls.drop job.calls.length).countP isStartable

/-- The files after these programs, without what the job itself has written. -/
def playedFiles (job last : Job) : FileSystem :=
  playAll job.files (job.script.take (performedCount job last))

theorem playAll_take_one (fs : FileSystem) (script : List Performance) :
    playAll fs (script.take 1) = afterMessages fs script := by
  obtain _ | ⟨message, script⟩ := script <;> rfl

theorem playAll_take_two (fs : FileSystem) (script : List Performance) :
    playAll fs (script.take 2) = afterCompilers fs script := by
  obtain _ | ⟨message, _ | ⟨resource, script⟩⟩ := script <;> rfl

variable {job last : Job} {settings : Settings} {project : Project}
variable {answer : Except Failure Report} {branch : Branch} {directory digest : String}

theorem performedCount_of_calls_eq {calls : List (List String)}
    (h : last.calls = job.calls ++ calls) : performedCount job last = calls.countP isStartable := by
  rw [performedCount, h, List.drop_left]

theorem playedFiles_of_calls_eq (h : last.calls = job.calls) :
    playedFiles job last = job.files := by
  rw [playedFiles, performedCount_of_calls_eq (h.trans (List.append_nil _).symm)]
  rfl

theorem playedFiles_of_regenerates {count : Except Failure Nat}
    (h : branch.Regenerates job settings project answer last directory digest count) :
    playedFiles job last = afterCompilers job.files job.script := by
  rw [playedFiles, performedCount_of_calls_eq h.called, List.countP_cons_of_pos h.callable.1,
    List.countP_cons_of_pos h.callable.2]
  exact playAll_take_two _ _

/-- A build that ends with a call that the system cannot take leaves the files as the compiler
before it has made them, if there is one. -/
theorem playedFiles_of_interrupts
    (h : branch.Interrupts job settings project answer last directory) :
    playedFiles job last = last.files := by
  obtain ⟨log, rfl⟩ := h.ended
  have hcalled : (job.interrupted branch.compilers settings project directory log).calls =
    job.calls ++ compilerCalls branch.compilers settings project directory := rfl
  rw [playedFiles, performedCount_of_calls_eq hcalled, interrupted, compilerCalls]
  cases hmessage : isStartable (messageCall branch.compilers settings project directory) with
  | false =>
      rw [if_neg Bool.false_ne_true, List.countP_cons_of_neg (by simp [hmessage])]
      rfl
  | true =>
      have hresource : ¬isStartable (resourceCall branch.compilers settings project directory) =
        true := fun hresource => h.notCallable ⟨hmessage, hresource⟩
      rw [if_pos rfl, List.countP_cons_of_pos hmessage, List.countP_cons_of_neg hresource]
      exact playAll_take_one _ _

/-- A build writes the constants file of its branch or no file. -/
theorem writesOnly_of_build (h : job.build settings project = (answer, last)) :
    WritesOnly ((Branch.ofHost settings).constants? settings project) (answer.isOk = false)
      (playedFiles job last) last.files := by
  rw [Branch.build_ofHost] at h
  obtain ⟨hfiles, hcalls, -⟩ | ⟨directory, digest, count, hregenerates⟩ |
      ⟨directory, hinterrupts⟩ :=
    Branch.build_cases h
  · rw [playedFiles_of_calls_eq hcalls, hfiles]
    exact .refl _ _ _
  · have hpath : (Branch.ofHost settings).constants? settings project =
        some (project.constantsIn directory) := by
      rw [Branch.constants?, hregenerates.place, Option.map_some]
    have hwrites := writesOnly_of_translate hregenerates.translated
    rw [playedFiles_of_regenerates hregenerates, hpath]
    refine ⟨hwrites.frame, fun hfailed => hwrites.unwritten ?_⟩
    rw [hregenerates.answered] at hfailed
    cases count with
    | error failure => rfl
    | ok constants => cases hfailed
  · rw [playedFiles_of_interrupts hinterrupts]
    exact .refl _ _ _

end Job

/-! ## The translation command -/

namespace CommandLine

/-- The file that a command line asks to be written, if it asks for one. -/
def outputOf (argv : List String) : Option String :=
  match translateGrammar.read argv with
  | .found f => f.value? "--output"
  | .help => none
  | .misuse _ => none

variable {job last : Job} {header stamp : String} {generated? origin? : Option String}

theorem writesOnly_of_translateTo {answer : Except Failure Nat}
    (h : translateTo job header generated? stamp = (answer, last)) :
    WritesOnly generated? (answer.isOk = false) job.files last.files := by
  cases generated? with
  | none =>
      rw [translateTo] at h
      split at h <;>
      · rw [Prod.mk.injEq] at h
        obtain ⟨-, rfl⟩ := h
        exact .refl _ _ _
  | some generated =>
      rw [translateTo, Job.translate] at h
      split at h <;>
      · next ht =>
        rw [Prod.mk.injEq] at h
        obtain ⟨rfl, rfl⟩ := h
        exact writesOnly_of_translate ht

theorem writesOnly_of_runTranslate {answer : Except Failure Unit}
    (h : runTranslate job header generated? origin? = (answer, last)) :
    WritesOnly generated? (answer.isOk = false) job.files last.files := by
  cases origin? with
  | none =>
      rw [runTranslate, Prod.mk.injEq] at h
      obtain ⟨-, rfl⟩ := h
      exact .refl _ _ _
  | some origin =>
      rw [runTranslate, hashFile] at h
      cases hm : job.files.digest origin with
      | error failure =>
          simp only [hm, Prod.mk.injEq] at h
          obtain ⟨-, rfl⟩ := h
          exact .refl _ _ _
      | ok digest =>
          simp only [hm] at h
          rcases ht : translateTo (job.say (digestLine origin digest)) header generated? digest with
            ⟨count, ended⟩
          have hwrites := writesOnly_of_translateTo ht
          cases count <;>
          · simp only [ht, Prod.mk.injEq] at h
            obtain ⟨rfl, rfl⟩ := h
            exact hwrites

theorem files_conclude {α : Type} (job : Job) (answer : Except Failure α) :
    (conclude job answer).2.files = job.files := by
  unfold conclude
  split
  · rfl
  · split <;> rfl

/-- The translation command writes its output or no file. -/
theorem writesOnly_of_translateCommand {verdict : Verdict Unit} {argv : List String}
    (h : translateCommand job argv = (verdict, last)) :
    WritesOnly (outputOf argv) (verdict ≠ .done ()) job.files last.files := by
  rw [translateCommand, Grammar.dispatch] at h
  unfold outputOf
  cases hread : translateGrammar.read argv with
  | help =>
      simp only [hread, Prod.mk.injEq] at h
      obtain ⟨-, rfl⟩ := h
      exact .refl _ _ _
  | misuse m =>
      simp only [hread, Prod.mk.injEq] at h
      obtain ⟨-, rfl⟩ := h
      exact .refl _ _ _
  | found f =>
      rcases hrun : runTranslate job (f.operand?.getD "") (f.value? "--output")
        (f.value? "--origin") with ⟨answer, ended⟩
      have hwrites := writesOnly_of_runTranslate hrun
      simp only [hread, hrun] at h
      have hfiles : last.files = ended.files := by
        rw [← files_conclude ended answer, h]
      rw [hfiles]
      refine ⟨hwrites.frame, fun hdone => hwrites.unwritten ?_⟩
      cases answer with
      | error failure => rfl
      | ok u =>
          rw [conclude, Prod.mk.injEq] at h
          exact absurd h.1.symm hdone

end CommandLine

/-! ## Stale constants files -/

namespace FileSystem

/-- A look for the stamp answers that it is not there. -/
def IsStale (fs : FileSystem) (path stamp : String) : Prop :=
  ∃ presence, fs.stamp? path stamp = .ok presence ∧ presence.isPresent = false

variable {fs : FileSystem} {path stamp : String}

theorem isStale_iff :
    fs.IsStale path stamp ↔ hasNul path = false ∧ fs.carries path stamp = false := by
  constructor
  · rintro ⟨presence, hs, hp⟩
    refine ⟨?_, (isPresent_of_stamp? hs).symm.trans hp⟩
    rw [Bool.eq_false_iff]
    intro hnul
    simp [stamp?, content, request, hnul] at hs
  · rintro ⟨hnul, hc⟩
    exact stamp?_of_not_carries hnul hc

end FileSystem

namespace Job

variable {job last : Job} {settings : Settings} {project : Project} {digest : String}

/-- A stale constants file that the tools do not write stays stale, unless its path comes to lead to
a file that carries the digest. -/
theorem carries_afterCompilers_eq_false {path : String}
    (hstale : job.files.carries path digest = false)
    (hunwritten : ∀ location, (afterCompilers job.files job.script).target path = .ok location →
      (afterCompilers job.files job.script).item? location = job.files.item? location)
    (hled : ∀ location bytes,
      (afterCompilers job.files job.script).content path = .ok (location, bytes) →
      lineHolds bytes digest = true → job.files.target path = .ok location) :
    (afterCompilers job.files job.script).carries path digest = false := by
  cases hr : (afterCompilers job.files job.script).read? path with
  | none => exact carries_of_read?_eq_none hr
  | some bytes =>
      rw [carries_of_read? hr, Bool.eq_false_iff]
      intro hholds
      obtain ⟨location, hc⟩ := content_of_read? hr
      obtain ⟨hnul, ht, hi⟩ := content_eq_ok_iff.mp hc
      rw [hunwritten location ht] at hi
      have hbefore : job.files.read? path = some bytes :=
        (read?_eq_some_iff hnul (hled location bytes hc hholds)).mpr hi
      rw [carries_of_read? hbefore, hholds] at hstale
      cases hstale

/-- After a build that fails, a stale constants file is still stale, and the next build of the
definition calls the compilers. -/
theorem isStale_of_error {failure : Failure}
    (hm : job.files.digest (project.inputPath settings.root) = .ok digest)
    (hstale : job.files.IsStale (nativeConstants settings project) digest)
    (hunwritten : ∀ location,
      (afterCompilers job.files job.script).target (nativeConstants settings project) =
          .ok location →
        (afterCompilers job.files job.script).item? location = job.files.item? location)
    (hled : ∀ location bytes,
      (afterCompilers job.files job.script).content (nativeConstants settings project) =
          .ok (location, bytes) →
        lineHolds bytes digest = true →
          job.files.target (nativeConstants settings project) = .ok location)
    (h : job.buildNative settings project = (.error failure, last)) :
    last.files.IsStale (nativeConstants settings project) digest ∧
      ∀ next : Job, next.files.digest (project.inputPath settings.root) = .ok digest →
        next.files.read? (nativeConstants settings project) =
            last.files.read? (nativeConstants settings project) →
          (next.buildNative settings project).2.calls = next.calls ++
            compilerCalls .native settings project (project.resPath settings.root) := by
  obtain ⟨hnul, hc⟩ := isStale_iff.mp hstale
  have hlast : last.files.carries (nativeConstants settings project) digest = false := by
    obtain ⟨hfiles, -⟩ | ⟨found, hm', -, ht⟩ := buildNative_eq_error h
    · rw [hfiles]
      exact hc
    · obtain rfl : digest = found := Except.ok.inj (hm.symm.trans hm')
      exact carries_of_translate_eq_error ht
        (carries_afterCompilers_eq_false hc hunwritten hled)
  refine ⟨isStale_iff.mpr ⟨hnul, hlast⟩, fun next hnext hsame => ?_⟩
  exact calls_of_not_carries hnext ((carries_of_read?_eq hsame).trans hlast) hnul

end Job

/-! ## All runs -/

/-- **Frame and atomicity**: a build and the translation command write the constants file or, if
they fail, no file. All other files are as the tools have left them, nothing is gone, and new
directories lie on the way to the constants file. So a build that fails leaves a stale constants
file stale, and the next one calls the compilers again, if the tools do not write the file and its
path does not come to lead to another one that carries the digest. -/
theorem runs_write_constants_only :
    (∀ (job last : Job) (settings : Settings) (project : Project)
      (answer : Except Failure Report), job.build settings project = (answer, last) →
      WritesOnly ((Branch.ofHost settings).constants? settings project) (answer.isOk = false)
        (playedFiles job last) last.files) ∧
    (∀ (job last : Job) (argv : List String) (verdict : Verdict Unit),
      translateCommand job argv = (verdict, last) →
      WritesOnly (outputOf argv) (verdict ≠ .done ()) job.files last.files) ∧
    (∀ (job last : Job) (settings : Settings) (project : Project) (digest : String)
      (failure : Failure),
      job.files.digest (project.inputPath settings.root) = .ok digest →
      job.files.IsStale (project.constantsIn (project.resPath settings.root)) digest →
      (∀ location,
        (afterCompilers job.files job.script).target
            (project.constantsIn (project.resPath settings.root)) = .ok location →
          (afterCompilers job.files job.script).item? location = job.files.item? location) →
      (∀ location bytes,
        (afterCompilers job.files job.script).content
            (project.constantsIn (project.resPath settings.root)) = .ok (location, bytes) →
          lineHolds bytes digest = true →
            job.files.target (project.constantsIn (project.resPath settings.root)) =
              .ok location) →
      job.buildNative settings project = (.error failure, last) →
      last.files.IsStale (project.constantsIn (project.resPath settings.root)) digest ∧
        ∀ next : Job, next.files.digest (project.inputPath settings.root) = .ok digest →
          next.files.read? (project.constantsIn (project.resPath settings.root)) =
              last.files.read? (project.constantsIn (project.resPath settings.root)) →
            (next.buildNative settings project).2.calls = next.calls ++
              compilerCalls .native settings project (project.resPath settings.root)) := by
  refine ⟨fun job last settings project answer h => writesOnly_of_build h,
    fun job last argv verdict h => writesOnly_of_translateCommand h, ?_⟩
  intro job last settings project digest failure hm hstale hunwritten hled h
  exact isStale_of_error hm hstale hunwritten hled h

/-- The small project without any compiler that writes a header. -/
def headless : Job where
  files := smallTree "MessageId=1"
  script := [{ writes := [("res/MSG00001.bin", [])] }]

/-- Without a header, the small project is neither built nor translated: no file is written, and a
second build calls both compilers again. -/
theorem runs_write_constants_only_headless :
    (∀ location bytes,
      (headless.build windowsHost {}).2.files.item? location = some (.file bytes) ↔
        (playedFiles headless (headless.build windowsHost {}).2).item? location =
          some (.file bytes)) ∧
    (translateCommand headless ["res/eventmsgs.h", "-o", "res/eventmsgs.rs", "--origin",
      "res/eventmsgs.mc"]).2.files.read? "res/eventmsgs.rs" =
        headless.files.read? "res/eventmsgs.rs" ∧
    ((headless.buildNative windowsHost {}).2.buildNative windowsHost {}).2.calls.length = 4 := by
  obtain ⟨hbuild, htranslate, hnext⟩ := runs_write_constants_only
  have hplace : (afterCompilers headless.files headless.script).target "res/eventmsgs.rs" =
      .ok ["eventmsgs.rs", "res"] := by decide +kernel
  have hfailed : (headless.buildNative windowsHost {}).1 =
      .error (.access (.system (Refusal.about .noEntry "res/eventmsgs.h"))) := by decide +kernel
  refine ⟨?_, ?_, ?_⟩
  · have hfiles := (hbuild headless _ windowsHost {} _ (Prod.eta _).symm).unwritten
      (by decide +kernel)
    exact hfiles.files
  · have hread := (htranslate headless _ ["res/eventmsgs.h", "-o", "res/eventmsgs.rs", "--origin",
      "res/eventmsgs.mc"] _ (Prod.eta _).symm).unwritten (by decide +kernel)
    exact hread.read? "res/eventmsgs.rs" (by decide +kernel)
  · obtain ⟨-, hcalls⟩ := hnext headless (headless.buildNative windowsHost {}).2 windowsHost {} _ _
      digest_smallTree (isStale_iff.mpr ⟨by decide +kernel, by decide +kernel⟩)
      (fun location ht => by
        obtain rfl := Except.ok.inj (ht.symm.trans hplace)
        decide +kernel)
      (fun location bytes hc _ => by
        obtain rfl := Except.ok.inj ((content_eq_ok_iff.mp hc).2.1.symm.trans hplace)
        decide +kernel)
      (Prod.ext hfailed rfl)
    have hagain := hcalls (headless.buildNative windowsHost {}).2
      (digest_of_read?_eq (by decide +kernel) digest_smallTree) rfl
    rw [hagain]
    decide +kernel

/-- A project whose resource directory is reached by way of another directory. -/
def roundabout : Project where
  input := "a.mc"
  resDir := "x/.."
  name := "f"

/-- A build of that project, with a constants file that carries the digest, but without the
directory on the way to it. The message compiler makes that directory and no header. -/
def detour : Job where
  files :=
    { home := []
      entries := [(["a.mc"], .file (Text.Utf8.encode "MessageId=1".toList)),
        (["f.rs"], .file (Text.Utf8.encode
          (Digest.ofContent (Text.Utf8.encode "MessageId=1".toList)).toList))] }
  script := [{ writes := [("x/MSG00001.bin", [])] }]

/-- A stale constants file that the tools do not write need not stay stale when a build fails. -/
theorem not_forall_stale_of_error :
    ¬ ∀ (job last : Job) (settings : Settings) (project : Project) (digest : String)
      (failure : Failure),
      job.files.digest (project.inputPath settings.root) = .ok digest →
      job.files.IsStale (project.constantsIn (project.resPath settings.root)) digest →
      (∀ location,
        (afterCompilers job.files job.script).target
            (project.constantsIn (project.resPath settings.root)) = .ok location →
          (afterCompilers job.files job.script).item? location = job.files.item? location) →
      job.buildNative settings project = (.error failure, last) →
      last.files.IsStale (project.constantsIn (project.resPath settings.root)) digest := by
  intro hstays
  have hm : detour.files.digest "a.mc" =
      .ok (Digest.ofContent (Text.Utf8.encode "MessageId=1".toList)) :=
    digest_eq_ok_iff.mpr ⟨_, by decide +kernel, rfl⟩
  have hstale : detour.files.IsStale "x/../f.rs"
      (Digest.ofContent (Text.Utf8.encode "MessageId=1".toList)) :=
    isStale_iff.mpr ⟨by decide +kernel, by decide +kernel⟩
  have hunwritten : ∀ location,
      (afterCompilers detour.files detour.script).target "x/../f.rs" = .ok location →
        (afterCompilers detour.files detour.script).item? location =
          detour.files.item? location := by
    intro location ht
    have hplace : (afterCompilers detour.files detour.script).target "x/../f.rs" =
        .ok ["f.rs"] := by decide +kernel
    obtain rfl := Except.ok.inj (ht.symm.trans hplace)
    decide +kernel
  have hfailed : (detour.buildNative windowsHost roundabout).1 =
      .error (.access (.system (Refusal.about .noEntry "x/../a.h"))) := by decide +kernel
  have h := hstays detour (detour.buildNative windowsHost roundabout).2 windowsHost roundabout _ _
    hm hstale hunwritten (Prod.ext hfailed rfl)
  have hcarries : (detour.buildNative windowsHost roundabout).2.files.carries "x/../f.rs"
      (Digest.ofContent (Text.Utf8.encode "MessageId=1".toList)) = true := by decide +kernel
  exact absurd (hcarries.symm.trans (isStale_iff.mp h).2) (by decide)

end EventMessages
