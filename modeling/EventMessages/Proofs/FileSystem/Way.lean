import EventMessages.Proofs.FileSystem.Parent

/-!
# EventMessages.Proofs.FileSystem.Way

Making the directories on the way to a file. What is made is directories and nothing else, and each
of them is named by a front part of the path (`makesDirectories_makeDirectoriesUpTo`). A directory
that could not be made is not there (`isDirectory_of_makeDirectoriesUpTo`), and one that is there is
not made again (`makeDirectoriesUpTo_of_isDirectory`).
-/

namespace EventMessages.FileSystem

variable {fs made later last : FileSystem} {path : String} {location : Location}

/-! ## New directories -/

/-- A path that leads to a directory leads there in every later file system. -/
theorem KeepsDirectories.find_directory (h : KeepsDirectories fs later)
    (hf : fs.find path = .ok (location, .directory)) :
    later.find path = .ok (location, .directory) := by
  unfold find at hf ⊢
  cases hd : fs.follow path with
  | error r => simp [hd] at hf
  | ok destination =>
      rw [h.follow hd]
      obtain there | ⟨directory, name, closed⟩ := destination
      · simpa [hd] using hf
      · simp only [hd] at hf ⊢
        by_cases hn : nameLimit < name.utf8ByteSize
        · simp [lookIn, hn] at hf
        · simp only [lookIn, hn, if_false] at hf ⊢
          split at hf
          · contradiction
          · contradiction
          · split at hf <;> simp at hf
          · next hi =>
            rw [h.directory _ (Except.ok.inj hi)]
            exact hf

/-- Nothing has changed but that directories are new, each with a path of this kind. -/
structure MakesDirectories (Named : String → Prop) (fs later : FileSystem) : Prop
    extends AddsDirectories fs later where
  named : ∀ location, fs.item? location = none → later.item? location = some .directory →
    ∃ path, Named path ∧ later.find path = .ok (location, .directory)

variable {Named Others : String → Prop}

theorem MakesDirectories.refl (Named : String → Prop) (fs : FileSystem) :
    MakesDirectories Named fs fs where
  toAddsDirectories := .refl fs
  named location hn hd := by
    rw [hn] at hd
    contradiction

theorem MakesDirectories.trans (h : MakesDirectories Named fs later)
    (h' : MakesDirectories Named later last) : MakesDirectories Named fs last where
  toAddsDirectories := h.toAddsDirectories.trans h'.toAddsDirectories
  named location hn hd := by
    obtain he | ⟨-, hlater⟩ := h.item location
    · exact h'.named location (he.trans hn) hd
    · obtain ⟨path, hp, hf⟩ := h.named location hn hlater
      exact ⟨path, hp, h'.toAddsDirectories.keepsDirectories.find_directory hf⟩

theorem MakesDirectories.mono (h : MakesDirectories Named fs later)
    (hp : ∀ path, Named path → Others path) : MakesDirectories Others fs later where
  toAddsDirectories := h.toAddsDirectories
  named location hn hd := by
    obtain ⟨path, hpath, hf⟩ := h.named location hn hd
    exact ⟨path, hp path hpath, hf⟩

/-! ## One directory -/

theorem isDirectory_iff : fs.isDirectory path = true ↔
    hasNul path = false ∧ ∃ location, fs.find path = .ok (location, .directory) := by
  unfold isDirectory request
  cases hnul : hasNul path with
  | true => simp
  | false =>
      cases hf : fs.find path with
      | error r => simp
      | ok found =>
          obtain ⟨location, entry⟩ := found
          cases entry <;> simp

theorem pathExists_of_isDirectory (h : fs.isDirectory path = true) :
    fs.pathExists path = true := by
  obtain ⟨hnul, location, hf⟩ := isDirectory_iff.mp h
  simp [pathExists, request, hnul, hf]

/-- A directory that is already there is not made again. -/
theorem makeDirectory_of_isDirectory (h : fs.isDirectory path = true) :
    fs.makeDirectory path = .error (.system (Refusal.alreadyExists.about path)) := by
  obtain ⟨hnul, location, hf⟩ := isDirectory_iff.mp h
  unfold find at hf
  unfold makeDirectory request
  rw [if_neg (by simp [hnul])]
  cases hd : fs.follow path with
  | error r => simp [hd] at hf
  | ok destination =>
      obtain there | ⟨directory, name, closed⟩ := destination
      · rfl
      · simp only [hd] at hf ⊢
        split at hf
        · contradiction
        · contradiction
        · next hl => simp only [hl]
        · next hl => simp only [hl]

/-- A directory is made where its path leads and nothing is. -/
theorem makeDirectory_eq_ok (h : fs.makeDirectory path = .ok made) :
    ∃ directory name closed, fs.follow path = .ok (.name directory name closed) ∧
      name.utf8ByteSize ≤ nameLimit ∧ fs.item? (name :: directory) = none ∧
      made = fs.put (name :: directory) .directory := by
  unfold makeDirectory request at h
  split at h
  · contradiction
  · cases hd : fs.follow path with
    | error r => simp [hd] at h
    | ok destination =>
        obtain there | ⟨directory, name, closed⟩ := destination
        · simp [hd] at h
        · simp only [hd] at h
          by_cases hn : nameLimit < name.utf8ByteSize
          · simp [lookIn, hn] at h
          · cases hi : fs.item? (name :: directory) with
            | some entry => simp [lookIn, hn, hi] at h
            | none =>
                simp only [lookIn, hn, hi, if_false, Except.ok.injEq] at h
                exact ⟨directory, name, closed, rfl, Nat.not_lt.mp hn, hi, h.symm⟩

theorem makesDirectories_of_makeDirectory (h : fs.makeDirectory path = .ok made) :
    MakesDirectories (· = path) fs made := by
  obtain ⟨directory, name, closed, hf, hn, hi, rfl⟩ := makeDirectory_eq_ok h
  have hadds := addsDirectories_put_directory hi
  refine ⟨hadds, fun location hnone hd => ⟨path, rfl, ?_⟩⟩
  have hl : location = name :: directory := by
    by_contra hne
    rw [item?_put_of_ne fs _ hne, hnone] at hd
    contradiction
  rw [hl] at hd ⊢
  simp [find, hadds.keepsDirectories.follow hf, lookIn, Nat.not_lt.mpr hn, hd]

/-- Makes one directory unless it is there. -/
def ensureDirectory (fs : FileSystem) (path : List Char) : FileSystem × Except AccessFault Unit :=
  match fs.makeDirectory (String.ofList path) with
  | .ok made => (made, .ok ())
  | .error fault => (fs, fs.orDirectory (String.ofList path) fault)

theorem makesDirectories_ensureDirectory (fs : FileSystem) (path : List Char) :
    MakesDirectories (· = String.ofList path) fs (fs.ensureDirectory path).1 := by
  rw [ensureDirectory]
  cases h : fs.makeDirectory (String.ofList path) with
  | ok made => exact makesDirectories_of_makeDirectory h
  | error fault => exact .refl _ fs

theorem ensureDirectory_of_isDirectory {path : List Char}
    (h : fs.isDirectory (String.ofList path) = true) :
    fs.ensureDirectory path = (fs, .ok ()) := by
  rw [ensureDirectory, makeDirectory_of_isDirectory h]
  simp [orDirectory, h]

theorem isDirectory_of_ensureDirectory {path : List Char} {fault : AccessFault}
    (h : fs.ensureDirectory path = (made, .error fault)) :
    made.isDirectory (String.ofList path) = false := by
  rw [Bool.eq_false_iff]
  intro hd
  have hfs : made = fs := by
    unfold ensureDirectory at h
    split at h
    · cases h
    · exact (congrArg Prod.fst h).symm
  rw [hfs] at hd
  rw [ensureDirectory_of_isDirectory hd] at h
  cases h

/-! ## Directories on the way -/

/-- The last name of a path stands behind the path before it. -/
theorem names_of_splitLast {path head last : List Char} (h : splitLast path = (head, last))
    (hne : last ≠ []) : Path.names path = Path.names head ++ [last] ∧ head <+: path := by
  unfold splitLast at h
  split at h
  · next hlast =>
    rw [Prod.mk.injEq] at h
    obtain ⟨rfl, rfl⟩ := h
    rw [Path.names_of_afterSlash_eq_nil hlast]
    exact ⟨Path.names_eq_concat hne,
      (Path.parentChars_isPrefix _).trans (Path.parentChars_isPrefix path)⟩
  · rw [Prod.mk.injEq] at h
    obtain ⟨rfl, rfl⟩ := h
    exact ⟨Path.names_eq_concat hne, Path.parentChars_isPrefix path⟩

/-- The directory before the last name of a directory is there. -/
theorem isDirectory_of_splitLast {path head last : List Char} (h : splitLast path = (head, last))
    (hhead : head ≠ []) (hlast : last ≠ []) (hd : fs.isDirectory (String.ofList path) = true) :
    fs.isDirectory (String.ofList head) = true := by
  obtain ⟨hnames, hp⟩ := names_of_splitLast h hlast
  obtain ⟨hnul, location, hf⟩ := isDirectory_iff.mp hd
  obtain ⟨destination, hfollow⟩ : ∃ d, fs.follow (String.ofList path) = .ok d := by
    unfold find at hf
    split at hf
    · contradiction
    · next hfollow => exact ⟨_, hfollow⟩
    · next hfollow => exact ⟨_, hfollow⟩
  have hne : String.ofList head ≠ "" := fun he => hhead (by simpa using he)
  rw [← String.toList_ofList (l := path), ← String.toList_ofList (l := head)] at hnames hp
  exact isDirectory_of_isPrefix hnames hp hne hnul hfollow

/-- What making directories comes down to: making the last one, at once or after those before it,
or stopping after those before it. -/
theorem makeDirectoriesUpTo_cases {n : Nat} {path : List Char}
    {result : FileSystem × Except AccessFault Unit}
    (h : fs.makeDirectoriesUpTo n path = result) :
    result = fs.ensureDirectory path ∨
      ∃ m head last inner answer, n = m + 1 ∧ splitLast path = (head, last) ∧ head ≠ [] ∧
        last ≠ [] ∧ fs.pathExists (String.ofList head) = false ∧
        fs.makeDirectoriesUpTo m head = (inner, answer) ∧
        (result = inner.ensureDirectory path ∨ result = (inner, .ok ()) ∨
          ∃ fault, answer = .error fault ∧ result = (inner, .error fault)) := by
  rcases hs : splitLast path with ⟨head, last⟩
  rw [makeDirectoriesUpTo, hs] at h
  dsimp only at h
  split at h
  · exact Or.inl h.symm
  · next hmore =>
    simp only [Bool.or_eq_true, decide_eq_true_eq, not_or, Bool.not_eq_true] at hmore
    obtain ⟨⟨hhead, hlast⟩, hexists⟩ := hmore
    cases n with
    | zero => exact Or.inl h.symm
    | succ m =>
        rcases hm : fs.makeDirectoriesUpTo m head with ⟨inner, answer⟩
        refine Or.inr ⟨m, head, last, inner, answer, rfl, rfl, hhead, hlast, hexists, hm, ?_⟩
        simp only [hm] at h
        cases answer with
        | ok u =>
            dsimp only at h
            split at h
            · exact Or.inr (Or.inl h.symm)
            · exact Or.inl h.symm
        | error fault =>
            cases fault with
            | embeddedNul => exact Or.inr (Or.inr ⟨_, rfl, h.symm⟩)
            | system f =>
                dsimp only at h
                split at h
                · split at h
                  · exact Or.inr (Or.inl h.symm)
                  · exact Or.inl h.symm
                · exact Or.inr (Or.inr ⟨_, rfl, h.symm⟩)

/-- What is made on the way is named by front parts of the path. -/
theorem makesDirectories_makeDirectoriesUpTo (n : Nat) (fs : FileSystem) (path : List Char) :
    MakesDirectories (fun front => front.toList <+: path) fs
      (fs.makeDirectoriesUpTo n path).1 := by
  induction n using Nat.strongRecOn generalizing path with
  | _ n ih =>
      have hlast : ∀ fs : FileSystem, MakesDirectories (fun front => front.toList <+: path) fs
          (fs.ensureDirectory path).1 := fun fs =>
        (makesDirectories_ensureDirectory fs path).mono fun front hf => by simp [hf]
      obtain hr | ⟨m, head, last, inner, answer, rfl, hs, -, hne, -, hm, hr⟩ :=
        makeDirectoriesUpTo_cases (rfl : fs.makeDirectoriesUpTo n path = _)
      · rw [hr]
        exact hlast fs
      · have hinner : MakesDirectories (fun front => front.toList <+: path) fs inner := by
          have h := ih m (Nat.lt_succ_self m) head
          rw [hm] at h
          exact h.mono fun front hf => hf.trans (names_of_splitLast hs hne).2
        obtain hr | hr | ⟨fault, -, hr⟩ := hr
        · rw [hr]
          exact hinner.trans (hlast inner)
        · rw [hr]
          exact hinner
        · rw [hr]
          exact hinner

/-- A directory that could not be made is not there. -/
theorem isDirectory_of_makeDirectoriesUpTo {n : Nat} {path : List Char} {fault : AccessFault}
    (h : fs.makeDirectoriesUpTo n path = (made, .error fault)) :
    made.isDirectory (String.ofList path) = false := by
  induction n using Nat.strongRecOn generalizing path fault with
  | _ n ih =>
      obtain hr | ⟨m, head, last, inner, answer, rfl, hs, hhead, hlast, -, hm, hr⟩ :=
        makeDirectoriesUpTo_cases h
      · exact isDirectory_of_ensureDirectory hr.symm
      · obtain hr | hr | ⟨inside, rfl, hr⟩ := hr
        · exact isDirectory_of_ensureDirectory hr.symm
        · cases hr
        · rw [Prod.mk.injEq] at hr
          obtain ⟨rfl, -⟩ := hr
          have hd := ih m (Nat.lt_succ_self m) hm
          rw [Bool.eq_false_iff] at hd ⊢
          exact fun hp => hd (isDirectory_of_splitLast hs hhead hlast hp)

/-- Where the directory is there, nothing is made. -/
theorem makeDirectoriesUpTo_of_isDirectory {n : Nat} {path : List Char}
    (h : fs.isDirectory (String.ofList path) = true) :
    fs.makeDirectoriesUpTo n path = (fs, .ok ()) := by
  obtain hr | ⟨m, head, last, inner, answer, -, hs, hhead, hlast, hexists, -⟩ :=
    makeDirectoriesUpTo_cases (rfl : fs.makeDirectoriesUpTo n path = _)
  · rw [hr, ensureDirectory_of_isDirectory h]
  · have hd := isDirectory_of_splitLast hs hhead hlast h
    rw [pathExists_of_isDirectory hd] at hexists
    contradiction

/-- Making directories ends at a NUL only if the path holds one. -/
theorem hasNul_of_ensureDirectory {path : List Char}
    (h : fs.ensureDirectory path = (made, .error .embeddedNul)) :
    hasNul (String.ofList path) = true := by
  unfold ensureDirectory at h
  cases hm : fs.makeDirectory (String.ofList path) with
  | ok new => simp [hm] at h
  | error fault =>
      cases fault with
      | embeddedNul => exact request_eq_embeddedNul_iff.mp hm
      | system f =>
          simp only [hm, orDirectory, Prod.mk.injEq] at h
          obtain ⟨-, h⟩ := h
          split at h <;> cases h

theorem hasNul_of_makeDirectoriesUpTo {n : Nat} {path : List Char}
    (h : fs.makeDirectoriesUpTo n path = (made, .error .embeddedNul)) :
    hasNul (String.ofList path) = true := by
  induction n using Nat.strongRecOn generalizing path made with
  | _ n ih =>
      obtain hr | ⟨m, head, last, inner, answer, rfl, hs, -, hlast, -, hm, hr⟩ :=
        makeDirectoriesUpTo_cases h
      · exact hasNul_of_ensureDirectory hr.symm
      · obtain hr | hr | ⟨fault, rfl, hr⟩ := hr
        · exact hasNul_of_ensureDirectory hr.symm
        · cases hr
        · rw [Prod.mk.injEq, Except.error.injEq] at hr
          obtain ⟨-, rfl⟩ := hr
          have hp : (String.ofList head).toList <+: (String.ofList path).toList := by
            simpa using (names_of_splitLast hs hlast).2
          exact hasNul_mono hp (ih m (Nat.lt_succ_self m) hm)

/-! ## The way to a file -/

/-- A path on the way to a file: a front part of the file's path that leaves something out. -/
def OnTheWay (path front : String) : Prop := front.toList <+: path.toList ∧ front ≠ path

/-- Slashes alone lead to the root. -/
theorem location_of_slashes {entry : Entry} (h : ∀ c ∈ path.toList, c = '/')
    (hf : fs.find path = .ok (location, entry)) : location = [] := by
  have hfollow : fs.follow path = .error .noEntry ∨ fs.follow path = .error .nameTooLong ∨
      fs.follow path = .ok (.directory []) := by
    by_cases hempty : path = ""
    · exact Or.inl (by rw [follow, if_pos (by simp [hempty])])
    · by_cases hlimit : pathLimit ≤ path.utf8ByteSize
      · exact Or.inr (Or.inl (by rw [follow, if_neg (by simpa using hempty), if_pos hlimit]))
      · have hnames : (Path.route path).names = [] := by
          have he := Path.names_append_slashes h []
          rw [List.nil_append, Path.names_nil] at he
          rw [Path.route_names, he, List.map_nil]
        have habsolute : (Path.route path).absolute = true := by
          obtain ⟨c, rest, hc⟩ := List.exists_cons_of_ne_nil
            (show path.toList ≠ [] by simpa using hempty)
          have hslash := h c (by simp [hc])
          simp [Path.route, hc, hslash]
        refine Or.inr (Or.inr ?_)
        rw [follow_eq fs path hempty (Nat.not_le.mp hlimit), hnames, habsolute, if_pos rfl, walk]
  obtain he | he | he := hfollow
  · simp [find, he] at hf
  · simp [find, he] at hf
  · simp only [find, he, Except.ok.injEq, Prod.mk.injEq] at hf
    exact hf.1.symm

/-- **The way to a file**: the directories that are made for a file lie on the way to it. -/
theorem makesDirectories_parentOf (fs : FileSystem) (path : String) :
    MakesDirectories (OnTheWay path) fs (fs.makeDirectories (parentOf path)).1 := by
  rw [makeDirectories, parentOf]
  by_cases hp : (Path.parent path).isEmpty = true
  · -- a bare name lies in the current directory, which is there
    have hdot : fs.isDirectory (String.ofList ".".toList) = true := isDirectory_dot fs
    rw [if_pos hp, makeDirectoriesUpTo_of_isDirectory hdot]
    exact .refl _ fs
  · rw [if_neg hp]
    have hl : (Path.parent path).toList = Path.parentChars path.toList := String.toList_ofList
    have h := makesDirectories_makeDirectoriesUpTo (Path.parent path).length fs
      (Path.parent path).toList
    refine ⟨h.toAddsDirectories, fun location hn hd => ?_⟩
    obtain ⟨front, hfront, hf⟩ := h.named location hn hd
    rw [hl] at hfront
    refine ⟨front, ⟨hfront.trans (Path.parentChars_isPrefix _), fun he => ?_⟩, hf⟩
    -- only slashes are their own directory, and they lead to the root, which is never new
    rw [he] at hfront hf
    have hroot := location_of_slashes (Path.eq_slash_of_isPrefix_parentChars hfront) hf
    rw [hroot, item?_root] at hn
    cases hn

end EventMessages.FileSystem
