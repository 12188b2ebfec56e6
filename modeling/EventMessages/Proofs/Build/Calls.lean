import EventMessages.Build.Pipeline
import EventMessages.Proofs.Path

/-!
# EventMessages.Proofs.Build.Calls

The calls of the two compilers, and which of them the system can take. A call is made of the name of
a program and of paths, and the system can take it if none of them holds a NUL. A build makes its
calls up to the first one that cannot be taken (`Job.compilerCalls`). Both can be taken when the
front of the names of programs, the directory, the definition and the library are without NUL
(`Branch.canCall_iff`).
-/

namespace EventMessages

/-! ## Paths with a NUL -/

namespace Path

variable {directory path : List Char} {c : Char}

/-- A path ends as it did when it is seen from a directory. -/
theorem isSuffix_joinChars (directory path : List Char) : path <:+ joinChars directory path := by
  rw [joinChars]
  split
  · exact List.suffix_rfl
  · split
    · exact List.suffix_append _ _
    · exact (List.suffix_cons _ _).trans (List.suffix_append _ _)

/-- A path that is not absolute starts with the directory that it is seen from. -/
theorem isPrefix_joinChars (h : path.head? ≠ some '/') :
    directory <+: joinChars directory path := by
  rw [joinChars, if_neg h]
  split <;> exact List.prefix_append _ _

theorem mem_joinChars (h : c ∈ joinChars directory path) : c ∈ directory ∨ c = '/' ∨ c ∈ path := by
  rw [joinChars] at h
  split at h
  · exact Or.inr (Or.inr h)
  · split at h
    · exact (List.mem_append.mp h).imp_right Or.inr
    · exact (List.mem_append.mp h).imp_right List.mem_cons.mp

/-- An extension has no say in how a file name is seen from a directory. -/
theorem mem_joinChars_append_iff {name extension : List Char} (hslash : c ≠ '/')
    (hc : c ∉ extension) (hextension : extension.head? ≠ some '/') :
    c ∈ joinChars directory (name ++ extension) ↔
      c ∈ name ∨ name.head? ≠ some '/' ∧ c ∈ directory := by
  have hhead : (name ++ extension).head? = some '/' ↔ name.head? = some '/' := by
    cases name <;> simp [hextension]
  rw [joinChars]
  simp only [hhead]
  split
  · simp_all
  · split <;> simp_all [or_comm]

theorem mem_of_mem_afterSlash (h : c ∈ afterSlash path) : c ∈ path := by
  rw [← throughSlash_append_afterSlash path]
  exact List.mem_append_right _ h

theorem mem_of_mem_stemChars {name : List Char} (h : c ∈ stemChars name) : c ∈ name := by
  have hname : name.takeWhile (· == '.') ++ name.dropWhile (· == '.') = name :=
    List.takeWhile_append_dropWhile
  rw [stemChars] at h
  split at h
  · exact h
  · rw [← hname]
    obtain hdots | hbody := List.mem_append.mp h
    · exact List.mem_append_left _ hdots
    · have hkept := List.mem_reverse.mp ((List.dropLast_subset _) hbody)
      exact List.mem_append_right _
        (List.mem_reverse.mp ((List.dropWhile_suffix _).subset hkept))

/-- A stem is a bare name. -/
theorem slash_notMem_stem (path : String) : '/' ∉ (stem path).toList := by
  rw [stem, String.toList_ofList]
  exact fun h => slash_notMem_afterSlash _ (mem_of_mem_stemChars h)

end Path

namespace FileSystem

variable {directory path : String}

theorem hasNul_eq_false_iff : hasNul path = false ↔ '\x00' ∉ path.toList := by
  rw [hasNul, List.contains_eq_mem, decide_eq_false_iff_not]

@[simp] theorem hasNul_append (a b : String) : hasNul (a ++ b) = (hasNul a || hasNul b) := by
  simp [hasNul]

theorem hasNul_join (hd : hasNul directory = false) (hp : hasNul path = false) :
    hasNul (Path.join directory path) = false := by
  rw [hasNul_eq_false_iff, Path.toList_join]
  intro h
  obtain h | h | h := Path.mem_joinChars h
  · exact hasNul_eq_false_iff.mp hd h
  · exact absurd h (by decide)
  · exact hasNul_eq_false_iff.mp hp h

theorem hasNul_of_join (h : hasNul (Path.join directory path) = false) : hasNul path = false := by
  rw [hasNul_eq_false_iff, Path.toList_join] at h
  exact hasNul_eq_false_iff.mpr fun hm => h ((Path.isSuffix_joinChars _ _).subset hm)

theorem hasNul_directory_of_join (hpath : path.toList.head? ≠ some '/')
    (h : hasNul (Path.join directory path) = false) : hasNul directory = false := by
  rw [hasNul_eq_false_iff, Path.toList_join] at h
  exact hasNul_eq_false_iff.mpr fun hm => h ((Path.isPrefix_joinChars hpath).subset hm)

theorem hasNul_stem (h : hasNul path = false) : hasNul (Path.stem path) = false := by
  rw [hasNul_eq_false_iff, Path.stem, String.toList_ofList]
  exact fun hm =>
    hasNul_eq_false_iff.mp h (Path.mem_of_mem_afterSlash (Path.mem_of_mem_stemChars hm))

end FileSystem

namespace Project

open FileSystem

variable {p : Project} {root directory : String}

theorem hasNul_compiledStem (h : hasNul (p.inputPath root) = false) :
    hasNul p.compiledStem = false :=
  hasNul_stem (hasNul_of_join h)

theorem hasNul_scriptIn (hd : hasNul directory = false)
    (hinput : hasNul (p.inputPath root) = false) :
    hasNul (p.scriptIn directory) = false :=
  hasNul_join hd (by rw [hasNul_append, hasNul_compiledStem hinput]; decide)

theorem hasNul_headerIn (hd : hasNul directory = false)
    (hinput : hasNul (p.inputPath root) = false) :
    hasNul (p.headerIn directory) = false :=
  hasNul_join hd (by rw [hasNul_append, hasNul_compiledStem hinput]; decide)

/-- A header lies in its directory, however the definition is called. -/
theorem hasNul_directory_of_headerIn (h : hasNul (p.headerIn directory) = false) :
    hasNul directory = false := by
  refine hasNul_directory_of_join (fun hhead => ?_) h
  have hm := List.mem_of_mem_head? hhead
  rw [String.toList_append, List.mem_append] at hm
  exact hm.elim (Path.slash_notMem_stem _) (by decide)

/-- The library and the constants file differ in their extension only. -/
theorem hasNul_libraryIn (p : Project) (directory : String) :
    hasNul (p.libraryIn directory) = hasNul (p.constantsIn directory) := by
  rw [Bool.eq_iff_iff, libraryIn, constantsIn]
  simp only [hasNul, Path.toList_join, String.toList_append, List.contains_iff_mem]
  rw [Path.mem_joinChars_append_iff (by decide) (by decide) (by decide),
    Path.mem_joinChars_append_iff (by decide) (by decide) (by decide)]

end Project

namespace Settings

/-- On Windows the names of programs have no front. -/
theorem toolPrelude_of_onWindows {settings : Settings} (h : settings.onWindows = true) :
    settings.toolPrelude = "" := by
  rw [toolPrelude, isCross, h]
  rfl

end Settings

/-! ## Calls -/

namespace Job

open FileSystem

/-- The call of the message compiler. -/
def messageCall (compilers : Compilers) (settings : Settings) (project : Project)
    (directory : String) : List String :=
  settings.program compilers.message ::
    ["-U", "-h", directory, "-r", directory, project.inputPath settings.root]

/-- The call of the resource compiler. -/
def resourceCall (compilers : Compilers) (settings : Settings) (project : Project)
    (directory : String) : List String :=
  settings.program compilers.resource ::
    compilers.resourceArgs (project.scriptIn directory) (project.libraryIn directory)

/-- The calls that a build makes to its compilers: both, or the first one alone if the system cannot
take that one. -/
def compilerCalls (compilers : Compilers) (settings : Settings) (project : Project)
    (directory : String) : List (List String) :=
  if isStartable (messageCall compilers settings project directory) then
    [messageCall compilers settings project directory,
      resourceCall compilers settings project directory]
  else [messageCall compilers settings project directory]

/-- The system can take the calls of both compilers. -/
def CanCall (compilers : Compilers) (settings : Settings) (project : Project)
    (directory : String) : Prop :=
  isStartable (messageCall compilers settings project directory) = true ∧
    isStartable (resourceCall compilers settings project directory) = true

instance (compilers : Compilers) (settings : Settings) (project : Project) (directory : String) :
    Decidable (CanCall compilers settings project directory) :=
  inferInstanceAs (Decidable (_ ∧ _))

variable {compilers : Compilers} {settings : Settings} {project : Project} {directory : String}

theorem compilerCalls_of_canCall (h : CanCall compilers settings project directory) :
    compilerCalls compilers settings project directory =
      [messageCall compilers settings project directory,
        resourceCall compilers settings project directory] := by
  rw [compilerCalls, if_pos h.1]

theorem compilerCalls_ne_nil (compilers : Compilers) (settings : Settings) (project : Project)
    (directory : String) : compilerCalls compilers settings project directory ≠ [] := by
  rw [compilerCalls]
  split <;> exact List.cons_ne_nil _ _

theorem isStartable_iff {call : List String} :
    isStartable call = true ↔ ∀ word ∈ call, hasNul word = false := by
  simp [isStartable]

end Job

open FileSystem Job

namespace Branch

/-- The compilers of a branch. -/
def compilers : Branch → Compilers
  | .native => .native
  | .cross => .cross

variable {settings : Settings} {project : Project} {directory : String}

theorem isStartable_messageCall_iff (branch : Branch) :
    isStartable (messageCall branch.compilers settings project directory) = true ↔
      hasNul settings.toolPrelude = false ∧ hasNul directory = false ∧
        hasNul (project.inputPath settings.root) = false := by
  have hname : hasNul branch.compilers.message = false := by cases branch <;> decide
  have hwords : hasNul "-U" = false ∧ hasNul "-h" = false ∧ hasNul "-r" = false := by decide
  simp [isStartable_iff, messageCall, Settings.program, hname, hwords]

theorem isStartable_resourceCall_iff (branch : Branch) :
    isStartable (resourceCall branch.compilers settings project directory) = true ↔
      hasNul settings.toolPrelude = false ∧ hasNul (project.scriptIn directory) = false ∧
        hasNul (project.libraryIn directory) = false := by
  have hname : hasNul branch.compilers.resource = false := by cases branch <;> decide
  have hwords : hasNul "/v" = false ∧ hasNul "/fo" = false ∧ hasNul "-v" = false ∧
      hasNul "-i" = false ∧ hasNul "-o" = false := by decide
  cases branch <;>
    simp [isStartable_iff, resourceCall, Settings.program, compilers, Compilers.native,
      Compilers.cross] at hname ⊢ <;>
    simp [hname, hwords, and_comm]

/-- **Calls**: the system can take both calls when nothing that they are made of holds a NUL. -/
theorem canCall_iff (branch : Branch) : CanCall branch.compilers settings project directory ↔
    hasNul settings.toolPrelude = false ∧ hasNul directory = false ∧
      hasNul (project.inputPath settings.root) = false ∧
      hasNul (project.constantsIn directory) = false := by
  rw [CanCall, isStartable_messageCall_iff, isStartable_resourceCall_iff, Project.hasNul_libraryIn]
  constructor
  · rintro ⟨⟨hfront, hd, hinput⟩, -, -, hconstants⟩
    exact ⟨hfront, hd, hinput, hconstants⟩
  · rintro ⟨hfront, hd, hinput, hconstants⟩
    exact ⟨⟨hfront, hd, hinput⟩, hfront, Project.hasNul_scriptIn hd hinput, hconstants⟩

/-- Where the constants file is free of NUL, a NUL that is in a call is in the first one already. -/
theorem isStartable_messageCall_of_not_canCall (branch : Branch)
    (hnul : hasNul (project.constantsIn directory) = false)
    (h : ¬CanCall branch.compilers settings project directory) :
    isStartable (messageCall branch.compilers settings project directory) = false := by
  rw [Bool.eq_false_iff]
  intro hmessage
  obtain ⟨hfront, hd, hinput⟩ := branch.isStartable_messageCall_iff.mp hmessage
  exact h (branch.canCall_iff.mpr ⟨hfront, hd, hinput, hnul⟩)

end Branch

end EventMessages
