import EventMessages.Proofs.Build.History
import EventMessages.Proofs.Build.Influence
import EventMessages.Proofs.Build.Places
import EventMessages.Proofs.Frame

/-!
# EventMessages.Proofs.Build.Commuting

Two projects that are built one after the other. They may share their header, which each build
overwrites, as long as neither build touches the definition or the constants file of the other
project. Then it does not matter which project is built first (`Site.builds_commute`): what a build
reports, and the constants file that it leaves, depend on its own definition and constants file
alone (`Site.Lead.returns_alike`).
-/

namespace EventMessages

open Job

/-! ## Files that stay -/

namespace FileSystem

variable {fs later last : FileSystem} {path : String} {location : Location} {bytes : List UInt8}

/-- The location holds the same file in both, or a file in neither. -/
def SameFile (location : Location) (fs later : FileSystem) : Prop :=
  ∀ bytes, later.item? location = some (.file bytes) ↔ fs.item? location = some (.file bytes)

theorem SameFile.refl (location : Location) (fs : FileSystem) : SameFile location fs fs :=
  fun _ => Iff.rfl

theorem SameFile.trans (h : SameFile location fs later) (h' : SameFile location later last) :
    SameFile location fs last :=
  fun bytes => (h' bytes).trans (h bytes)

/-- While directories are kept, what is read at a path depends on the file at its place. -/
theorem LeadsTo.read?_eq_of_sameFile {start : FileSystem} (h : start.LeadsTo path location)
    (hk : KeepsDirectories start fs) (hk' : KeepsDirectories start later)
    (hs : SameFile location fs later) : later.read? path = fs.read? path := by
  apply Option.ext
  intro bytes
  rw [h.read?_eq_some_iff_of_keeps hk, h.read?_eq_some_iff_of_keeps hk', hs bytes]

/-- Writing a file changes no other file. -/
theorem sameFile_of_store
    (h : ∀ place, (fs.store path bytes).1.target path = .ok place → place ≠ location) :
    SameFile location fs (fs.store path bytes).1 := by
  unfold store at h ⊢
  rcases ho : fs.openForWriting path with ⟨opened, answer⟩
  cases answer with
  | error fault =>
      obtain ⟨hway, hnone⟩ := openForWriting_eq_error ho
      exact (hway.unwritten hnone).files location
  | ok place =>
      obtain ⟨made, hway, -, ht, rfl⟩ := openForWriting_eq_ok ho
      simp only [ho, put_put] at h ⊢
      exact (hway.frame_put ht bytes).other location fun other ho ht' =>
        h location (Option.some.inj ho ▸ ht') rfl

/-- What can be read of a file that was written is what was written. -/
theorem eq_of_read?_store {found : List UInt8}
    (h : (fs.store path bytes).1.read? path = some found) : found = bytes := by
  rcases hs : fs.store path bytes with ⟨stored, fault | u⟩
  · rw [hs] at h
    unfold store at hs
    rcases ho : fs.openForWriting path with ⟨opened, refused | place⟩
    · simp only [ho, Prod.mk.injEq] at hs
      obtain ⟨-, hnone⟩ := openForWriting_eq_error ho
      rw [← hs.1, hnone] at h
      cases h
    · simp [ho] at hs
  · rw [hs, read?_of_store hs] at h
    exact (Option.some.inj h).symm

end FileSystem

open FileSystem

/-! ## Sites -/

/-- A project on a Windows host. Its message compiler is a function, and its definition and its
constants file have their places. -/
structure Site where
  settings : Settings
  project : Project
  compile : List UInt8 → List UInt8
  definition : Location
  constants : Location

namespace Site

variable {site : Site} {kept : List Location} {call other : Call} {report otherReport : Report}
variable {start left otherLeft : FileSystem}

/-- The paths of the project lead to these places. -/
structure Lead (site : Site) (fs : FileSystem) : Prop where
  definition : fs.LeadsTo (site.project.inputPath site.settings.root) site.definition
  constants : fs.LeadsTo (nativeConstants site.settings site.project) site.constants

/-- The header that is there after both compilers, if any, is the compiled definition, and the
compilers have left the files at these locations as they were. -/
structure Compiles (site : Site) (kept : List Location) (call : Call) : Prop where
  header : ∀ definition header, call.definition? site.settings site.project = some definition →
    call.header? site.settings site.project = some header → header = site.compile definition
  files : ∀ location ∈ kept,
    SameFile location call.files (afterCompilers call.files call.script)

/-- A message compiler that writes the compiled definition to the header and nothing else complies,
as long as the header is none of the files to be kept and the resource compiler leaves it and them
alone. -/
theorem Compiles.of_writes {definition : List UInt8}
    (hm : call.definition? site.settings site.project = some definition)
    (hwrites : (call.script.headD {}).writes =
      [(nativeHeader site.settings site.project, site.compile definition)])
    (hapart : ∀ location, (afterMessages call.files call.script).target
      (nativeHeader site.settings site.project) = .ok location → location ∉ kept)
    (hheader : call.header? site.settings site.project =
      (afterMessages call.files call.script).read? (nativeHeader site.settings site.project))
    (hresources : ∀ location ∈ kept, SameFile location (afterMessages call.files call.script)
      (afterCompilers call.files call.script)) : site.Compiles kept call := by
  have hstored : afterMessages call.files call.script =
      (call.files.store (nativeHeader site.settings site.project)
        (site.compile definition)).1 := by
    rw [afterMessages, hwrites, makeFiles_singleton]
  constructor
  · intro found header hfound hread
    obtain rfl := Option.some.inj (hm.symm.trans hfound)
    rw [hheader, hstored] at hread
    exact eq_of_read?_store hread
  · intro location hkept
    refine SameFile.trans ?_ (hresources location hkept)
    rw [hstored] at hapart ⊢
    exact sameFile_of_store fun place ht he => hapart place ht (he ▸ hkept)

/-- The project is built with tools that comply, and the build returns and leaves these files. -/
structure Returns (site : Site) (kept : List Location) (call : Call) (report : Report)
    (left : FileSystem) : Prop where
  compiles : site.Compiles kept call
  returned : ∃ last, call.build site.settings site.project = (.ok report, last) ∧
    last.files = left

/-- A build that returns keeps all files that it is to keep, but for its own constants file. -/
theorem Lead.returns_keeps (hlead : site.Lead start) (hk : KeepsDirectories start call.files)
    (h : site.Returns kept call report left) :
    KeepsDirectories start left ∧
      ∀ location ∈ kept, location ≠ site.constants → SameFile location call.files left := by
  obtain ⟨last, hb, rfl⟩ := h.returned
  obtain ⟨digest, -, ⟨-, -, hfiles, -⟩ | ⟨-, constants, ht, -, -⟩⟩ := buildNative_eq_ok hb
  · rw [hfiles]
    exact ⟨hk, fun location _ _ => .refl location _⟩
  · have hframe := (writesOnly_of_translate ht).frame
    have hafter := hk.trans (keepsDirectories_afterCompilers call.files call.script)
    have hlast : KeepsDirectories start last.files := hafter.trans hframe.toKeepsDirectories
    refine ⟨hlast, fun location hm hne => (h.compiles.files location hm).trans ?_⟩
    refine hframe.other location fun path hp htarget => hne ?_
    obtain rfl := Option.some.inj hp
    exact hlead.constants.eq_of_target hlast htarget

/-- Builds that find the same definition and the same constants file report the same, but for the
tools, and leave the same constants file. -/
theorem Lead.returns_alike (hlead : site.Lead start) (hk : KeepsDirectories start call.files)
    (hk' : KeepsDirectories start other.files)
    (hdefinition : SameFile site.definition call.files other.files)
    (hconstants : SameFile site.constants call.files other.files)
    (h : site.Returns kept call report left)
    (hother : site.Returns kept other otherReport otherLeft) :
    report.Alike otherReport ∧
      otherLeft.read? (nativeConstants site.settings site.project) =
        left.read? (nativeConstants site.settings site.project) := by
  obtain ⟨last, hb, rfl⟩ := h.returned
  obtain ⟨otherLast, hb', rfl⟩ := hother.returned
  have hm : other.files.read? (site.project.inputPath site.settings.root) =
      call.files.read? (site.project.inputPath site.settings.root) :=
    hlead.definition.read?_eq_of_sameFile hk hk' hdefinition
  have hg : other.files.read? (nativeConstants site.settings site.project) =
      call.files.read? (nativeConstants site.settings site.project) :=
    hlead.constants.read?_eq_of_sameFile hk hk' hconstants
  obtain ⟨digest, hd, hcase⟩ := buildNative_eq_ok hb
  obtain ⟨digest', hd', hcase'⟩ := buildNative_eq_ok hb'
  obtain rfl : digest = digest' := Except.ok.inj ((digest_of_read?_eq hm hd).symm.trans hd')
  have hcarries : other.files.carries (nativeConstants site.settings site.project) digest =
      call.files.carries (nativeConstants site.settings site.project) digest :=
    carries_of_read?_eq hg
  -- both find their stamp, or both translate what their own compiler makes of the definition
  obtain ⟨hc, hr, hfiles, -⟩ | ⟨hc, constants, ht, hr, -⟩ := hcase
  · obtain ⟨-, hr', hfiles', -⟩ | ⟨hc', -⟩ := hcase'
    · rw [hr, hr', hfiles, hfiles']
      exact ⟨rfl, hg⟩
    · exact absurd (hc.symm.trans (hcarries.symm.trans hc')) (by decide)
  · obtain ⟨hc', -⟩ | ⟨-, constants', ht', hr', -⟩ := hcase'
    · exact absurd (hc'.symm.trans (hcarries.trans hc)) (by decide)
    · obtain ⟨definition, hdefinition, -⟩ := digest_eq_ok_iff.mp hd
      obtain ⟨header, hheader, hcount, hwritten⟩ := Project.read?_of_translate ht
      obtain ⟨header', hheader', hcount', hwritten'⟩ := Project.read?_of_translate ht'
      obtain rfl := h.compiles.header definition header hdefinition hheader
      obtain rfl := hother.compiles.header definition header' (hm.trans hdefinition) hheader'
      rw [hr, hr', hcount, hcount']
      exact ⟨rfl, hwritten'.trans hwritten.symm⟩

/-! ## Two sites -/

/-- The files that two sites have for themselves. -/
def ownFiles (a b : Site) : List Location := [a.definition, a.constants, b.definition, b.constants]

/-- **Builds commute**: of two projects whose definitions and constants files are four different
files, and whose compilers leave all four alone, each build reports the same, but for the tools, and
leaves the same constants file, whichever project is built first. -/
theorem builds_commute {a b : Site} {start filesA filesAB filesB filesBA : FileSystem}
    {scriptA scriptAB scriptB scriptBA : List Performance}
    {reportA reportAB reportB reportBA : Report} (hdifferent : (ownFiles a b).Nodup)
    (ha : a.Lead start) (hb : b.Lead start)
    (hA : a.Returns (ownFiles a b) ⟨start, scriptA⟩ reportA filesA)
    (hAB : b.Returns (ownFiles a b) ⟨filesA, scriptAB⟩ reportAB filesAB)
    (hB : b.Returns (ownFiles a b) ⟨start, scriptB⟩ reportB filesB)
    (hBA : a.Returns (ownFiles a b) ⟨filesB, scriptBA⟩ reportBA filesBA) :
    filesBA.read? (a.project.constantsIn (a.project.resPath a.settings.root)) =
        filesAB.read? (a.project.constantsIn (a.project.resPath a.settings.root)) ∧
      filesBA.read? (b.project.constantsIn (b.project.resPath b.settings.root)) =
        filesAB.read? (b.project.constantsIn (b.project.resPath b.settings.root)) ∧
      reportA.Alike reportBA ∧ reportB.Alike reportAB := by
  have hfour : a.definition ≠ b.constants ∧ a.constants ≠ b.definition ∧
      a.constants ≠ b.constants := by
    simp only [ownFiles, List.nodup_cons, List.mem_cons, not_or] at hdifferent
    exact ⟨hdifferent.1.2.2.1, hdifferent.2.1.1, hdifferent.2.1.2.1⟩
  obtain ⟨hac, hca, hcc⟩ := hfour
  -- each build keeps the files of the other project, be it the first or the second one
  obtain ⟨hkA, hkeepA⟩ := ha.returns_keeps (.refl start) hA
  obtain ⟨hkAB, hkeepAB⟩ := hb.returns_keeps hkA hAB
  obtain ⟨hkB, hkeepB⟩ := hb.returns_keeps (.refl start) hB
  obtain ⟨hkBA, hkeepBA⟩ := ha.returns_keeps hkB hBA
  obtain ⟨halikeA, hreadA⟩ := ha.returns_alike (.refl start) hkB
    (hkeepB a.definition (by simp [ownFiles]) hac) (hkeepB a.constants (by simp [ownFiles]) hcc)
    hA hBA
  obtain ⟨halikeB, hreadB⟩ := hb.returns_alike (.refl start) hkA
    (hkeepA b.definition (by simp [ownFiles]) hca.symm)
    (hkeepA b.constants (by simp [ownFiles]) hcc.symm) hB hAB
  have hlastA := ha.constants.read?_eq_of_sameFile hkA hkAB
    (hkeepAB a.constants (by simp [ownFiles]) hcc)
  have hlastB := hb.constants.read?_eq_of_sameFile hkB hkBA
    (hkeepBA b.constants (by simp [ownFiles]) hcc.symm)
  exact ⟨hreadA.trans hlastA.symm, hlastB.trans hreadB.symm, halikeA, halikeB⟩

/-- Two projects with definitions of one name, so that they share their header. -/
def twins : FileSystem where
  home := []
  entries := [(["res"], .directory), (["alt"], .directory),
    (["msgs.mc", "res"], .file (Text.Utf8.encode "#define ALPHA 0x1".toList)),
    (["msgs.mc", "alt"], .file (Text.Utf8.encode "#define BETA 0x2".toList))]

/-- The one project. Its definition is a header already, which the compiler copies. -/
def alpha : Site where
  settings := windowsHost
  project := { input := "res/msgs.mc", name := "alpha" }
  compile := id
  definition := ["msgs.mc", "res"]
  constants := ["alpha.rs", "res"]

/-- The other project. -/
def beta : Site where
  settings := windowsHost
  project := { input := "alt/msgs.mc", name := "beta" }
  compile := id
  definition := ["msgs.mc", "alt"]
  constants := ["beta.rs", "res"]

/-- A build in these files with a message compiler that writes this header. -/
def copyingTo (fs : FileSystem) (header : String) : Call where
  files := fs
  script := [{ writes := [("res/msgs.h", Text.Utf8.encode header.toList)] }]

/-- The files that this build of a project leaves. -/
def copied (site : Site) (fs : FileSystem) (header : String) : FileSystem :=
  ((copyingTo fs header).build site.settings site.project).2.files

/-- The compiler that copies the definition complies with a project that shares this header. -/
theorem returns_copyingTo {site : Site} {fs : FileSystem} {header : String}
    (hshared : nativeHeader site.settings site.project = "res/msgs.h") (hcompile : site.compile = id)
    (hm : fs.read? (site.project.inputPath site.settings.root) =
      some (Text.Utf8.encode header.toList))
    (hplace : ((afterMessages fs (copyingTo fs header).script).target "res/msgs.h").toOption =
      some ["msgs.h", "res"])
    (hok : ((copyingTo fs header).build site.settings site.project).1.isOk = true) :
    ∃ report, site.Returns (ownFiles alpha beta) (copyingTo fs header) report
      (site.copied fs header) := by
  obtain ⟨report, hr⟩ := report_of_isOk hok
  refine ⟨report, ?_, _, eq_of_fst_eq_ok hr, rfl⟩
  have hwrites : ((copyingTo fs header).script.headD {}).writes =
      [(nativeHeader site.settings site.project,
        site.compile (Text.Utf8.encode header.toList))] := by
    rw [hshared, hcompile]
    rfl
  refine Compiles.of_writes hm hwrites (fun location ht => ?_) rfl fun location _ => .refl _ _
  rw [hshared] at ht
  simp only [copyingTo] at ht hplace
  rw [ht] at hplace
  rw [← Option.some.inj hplace.symm]
  decide

/-- The twins once the one project is built. -/
def withAlpha : FileSystem := alpha.copied twins "#define ALPHA 0x1"

/-- The twins once the other project is built. -/
def withBeta : FileSystem := beta.copied twins "#define BETA 0x2"

/-- The twins overwrite each other's header, and yet either order leaves the same files. -/
theorem builds_commute_twins :
    (alpha.copied withBeta "#define ALPHA 0x1").read? "res/alpha.rs" =
        (beta.copied withAlpha "#define BETA 0x2").read? "res/alpha.rs" ∧
      (alpha.copied withBeta "#define ALPHA 0x1").read? "res/beta.rs" =
        (beta.copied withAlpha "#define BETA 0x2").read? "res/beta.rs" := by
  have ha : alpha.Lead twins :=
    ⟨leadsTo_of_toOption (by decide +kernel) (by decide +kernel),
      leadsTo_of_toOption (by decide +kernel) (by decide +kernel)⟩
  have hb : beta.Lead twins :=
    ⟨leadsTo_of_toOption (by decide +kernel) (by decide +kernel),
      leadsTo_of_toOption (by decide +kernel) (by decide +kernel)⟩
  have hsharedA : nativeHeader alpha.settings alpha.project = "res/msgs.h" := by decide +kernel
  have hsharedB : nativeHeader beta.settings beta.project = "res/msgs.h" := by decide +kernel
  have hA : ∃ report, alpha.Returns (ownFiles alpha beta) (copyingTo twins "#define ALPHA 0x1")
      report withAlpha :=
    returns_copyingTo hsharedA rfl (by decide +kernel) (by decide +kernel) (by decide +kernel)
  have hAB : ∃ report, beta.Returns (ownFiles alpha beta)
      (copyingTo withAlpha "#define BETA 0x2") report
      (beta.copied withAlpha "#define BETA 0x2") :=
    returns_copyingTo hsharedB rfl (by decide +kernel) (by decide +kernel) (by decide +kernel)
  have hB : ∃ report, beta.Returns (ownFiles alpha beta) (copyingTo twins "#define BETA 0x2")
      report withBeta :=
    returns_copyingTo hsharedB rfl (by decide +kernel) (by decide +kernel) (by decide +kernel)
  have hBA : ∃ report, alpha.Returns (ownFiles alpha beta)
      (copyingTo withBeta "#define ALPHA 0x1") report
      (alpha.copied withBeta "#define ALPHA 0x1") :=
    returns_copyingTo hsharedA rfl (by decide +kernel) (by decide +kernel) (by decide +kernel)
  obtain ⟨_, hA⟩ := hA
  obtain ⟨_, hAB⟩ := hAB
  obtain ⟨_, hB⟩ := hB
  obtain ⟨_, hBA⟩ := hBA
  have hconstantsA : alpha.project.constantsIn (alpha.project.resPath alpha.settings.root) =
      "res/alpha.rs" := by decide +kernel
  have hconstantsB : beta.project.constantsIn (beta.project.resPath beta.settings.root) =
      "res/beta.rs" := by decide +kernel
  obtain ⟨hreadA, hreadB, -⟩ := builds_commute (by decide) ha hb hA hAB hB hBA
  rw [hconstantsA] at hreadA
  rw [hconstantsB] at hreadB
  exact ⟨hreadA, hreadB⟩

end Site

end EventMessages
