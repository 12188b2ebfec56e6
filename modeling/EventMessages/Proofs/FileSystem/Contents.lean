import EventMessages.Proofs.FileSystem.Way
import EventMessages.Translation

/-!
# EventMessages.Proofs.FileSystem.Contents

What the contents of files bear on. Paths lead through directories, so file systems that differ in
nothing but what some of their files hold (`SameBut`) answer every request alike, except for one
that reads such a file. What is written is the same in both from then on (`SameBut.put`).
-/

namespace EventMessages.FileSystem

variable {apart : List Location} {fs other : FileSystem} {path : String} {location : Location}

/-! ## Files with other contents -/

/-- The file systems are the same but for what the files at these locations hold. -/
structure SameBut (apart : List Location) (fs other : FileSystem) : Prop where
  home : other.home = fs.home
  item : ∀ location, other.item? location = fs.item? location ∨
    location ∈ apart ∧ ∃ bytes now, fs.item? location = some (.file bytes) ∧
      other.item? location = some (.file now)

theorem SameBut.refl (apart : List Location) (fs : FileSystem) : SameBut apart fs fs :=
  ⟨rfl, fun _ => Or.inl rfl⟩

/-- The same kind of entry, if any, is at each location. -/
theorem SameBut.item_cases (h : SameBut apart fs other) (location : Location) :
    (fs.item? location = none ∧ other.item? location = none) ∨
      (fs.item? location = some .directory ∧ other.item? location = some .directory) ∨
      ∃ bytes now, fs.item? location = some (.file bytes) ∧
        other.item? location = some (.file now) ∧ (location ∉ apart → now = bytes) := by
  obtain he | ⟨hm, bytes, now, hi, ho⟩ := h.item location
  · cases hi : fs.item? location with
    | none => exact Or.inl ⟨rfl, he.trans hi⟩
    | some entry =>
        cases entry with
        | directory => exact Or.inr (Or.inl ⟨rfl, he.trans hi⟩)
        | file bytes => exact Or.inr (Or.inr ⟨bytes, bytes, rfl, he.trans hi, fun _ => rfl⟩)
  · exact Or.inr (Or.inr ⟨bytes, now, hi, ho, fun hn => absurd hm hn⟩)

/-- What is put at a location is no difference any more. -/
theorem SameBut.put (h : SameBut (location :: apart) fs other) (entry : Entry) :
    SameBut apart (fs.put location entry) (other.put location entry) := by
  refine ⟨h.home, fun there => ?_⟩
  by_cases he : there = location
  · subst he
    refine Or.inl ?_
    cases there with
    | nil => rfl
    | cons name rest => rw [item?_put_self _ _ _ (by simp), item?_put_self _ _ _ (by simp)]
  · rw [item?_put_of_ne _ _ he, item?_put_of_ne _ _ he]
    obtain hi | ⟨hm, hfiles⟩ := h.item there
    · exact Or.inl hi
    · exact Or.inr ⟨(List.mem_cons.mp hm).resolve_left he, hfiles⟩

theorem SameBut.mono {more : List Location} (h : SameBut apart fs other)
    (hsub : ∀ location ∈ apart, location ∈ more) : SameBut more fs other :=
  ⟨h.home, fun location => (h.item location).imp_right fun hi => ⟨hsub location hi.1, hi.2⟩⟩

theorem SameBut.put_both (h : SameBut apart fs other) (location : Location) (entry : Entry) :
    SameBut apart (fs.put location entry) (other.put location entry) :=
  (h.mono fun _ hm => List.mem_cons_of_mem location hm).put entry

/-- A file that was written twice. -/
theorem sameBut_put_file (fs : FileSystem) (location : Location) (bytes now : List UInt8) :
    SameBut [location] (fs.put location (.file bytes)) (fs.put location (.file now)) := by
  refine ⟨rfl, fun there => ?_⟩
  by_cases he : there = location
  · subst he
    cases there with
    | nil => exact Or.inl rfl
    | cons name rest =>
        exact Or.inr ⟨List.mem_singleton_self _, bytes, now, item?_put_self _ _ _ (by simp),
          item?_put_self _ _ _ (by simp)⟩
  · rw [item?_put_of_ne _ _ he, item?_put_of_ne _ _ he]
    exact Or.inl rfl

/-- A file that is written over. -/
theorem sameBut_put_of_file {bytes : List UInt8} (h : fs.item? location = some (.file bytes))
    (now : List UInt8) : SameBut [location] fs (fs.put location (.file now)) := by
  have hne : location ≠ [] := by
    rintro rfl
    cases h
  refine ⟨rfl, fun there => ?_⟩
  by_cases he : there = location
  · subst he
    exact Or.inr ⟨List.mem_singleton_self _, bytes, now, h, item?_put_self _ _ _ hne⟩
  · exact Or.inl (item?_put_of_ne _ _ he)

/-! ## Paths -/

theorem SameBut.enter (h : SameBut apart fs other) (directory : Location) (name : String) :
    other.enter directory name = fs.enter directory name := by
  unfold FileSystem.enter lookIn
  split
  · rfl
  split
  · rfl
  by_cases hn : nameLimit < name.utf8ByteSize
  · simp only [hn, if_true]
  · simp only [hn, if_false]
    obtain ⟨hi, ho⟩ | ⟨hi, ho⟩ | ⟨bytes, now, hi, ho, -⟩ := h.item_cases (name :: directory)
    · rw [hi, ho]
    · rw [hi, ho]
    · rw [hi, ho]

theorem SameBut.walk (h : SameBut apart fs other) (closed : Bool) (here : Location)
    (names : List String) : other.walk closed here names = fs.walk closed here names := by
  induction names generalizing here with
  | nil => rfl
  | cons name names ih =>
      cases names with
      | nil => rfl
      | cons next rest =>
          simp only [FileSystem.walk, h.enter]
          cases fs.enter here name with
          | error r => rfl
          | ok there => exact ih there

/-- Every path leads to the same place. -/
theorem SameBut.follow (h : SameBut apart fs other) (path : String) :
    other.follow path = fs.follow path := by
  unfold FileSystem.follow
  simp only [h.home, h.walk]

/-- Every path finds the same kind of entry, in the same place. -/
theorem SameBut.find_cases (h : SameBut apart fs other) (path : String) :
    (∃ r, fs.find path = .error r ∧ other.find path = .error r) ∨
      (∃ location, fs.find path = .ok (location, .directory) ∧
        other.find path = .ok (location, .directory)) ∨
      ∃ location bytes now, fs.find path = .ok (location, .file bytes) ∧
        other.find path = .ok (location, .file now) ∧ (location ∉ apart → now = bytes) := by
  unfold find
  rw [h.follow]
  cases fs.follow path with
  | error r => exact Or.inl ⟨r, rfl, rfl⟩
  | ok destination =>
      obtain there | ⟨directory, name, closed⟩ := destination
      · exact Or.inr (Or.inl ⟨there, rfl, rfl⟩)
      · by_cases hn : nameLimit < name.utf8ByteSize
        · simp only [lookIn, hn, if_true]
          exact Or.inl ⟨_, rfl, rfl⟩
        · simp only [lookIn, hn, if_false]
          obtain ⟨hi, ho⟩ | ⟨hi, ho⟩ | ⟨bytes, now, hi, ho, hsame⟩ :=
            h.item_cases (name :: directory)
          · simp only [hi, ho]
            exact Or.inl ⟨_, rfl, rfl⟩
          · simp only [hi, ho]
            exact Or.inr (Or.inl ⟨_, rfl, rfl⟩)
          · simp only [hi, ho]
            cases closed with
            | true => exact Or.inl ⟨_, rfl, rfl⟩
            | false => exact Or.inr (Or.inr ⟨_, bytes, now, rfl, rfl, hsame⟩)

theorem SameBut.pathExists (h : SameBut apart fs other) (path : String) :
    other.pathExists path = fs.pathExists path := by
  unfold FileSystem.pathExists request
  obtain ⟨r, hf, ho⟩ | ⟨location, hf, ho⟩ | ⟨location, bytes, now, hf, ho, -⟩ := h.find_cases path
  · rw [hf, ho]
  · rw [hf, ho]
  · rw [hf, ho]
    cases hasNul path <;> rfl

theorem SameBut.isDirectory (h : SameBut apart fs other) (path : String) :
    other.isDirectory path = fs.isDirectory path := by
  unfold FileSystem.isDirectory request
  obtain ⟨r, hf, ho⟩ | ⟨location, hf, ho⟩ | ⟨location, bytes, now, hf, ho, -⟩ := h.find_cases path
  · rw [hf, ho]
  · rw [hf, ho]
  · rw [hf, ho]
    cases hasNul path <;> rfl

theorem SameBut.target (h : SameBut apart fs other) (path : String) :
    other.target path = fs.target path := by
  unfold FileSystem.target
  rw [h.follow]
  cases fs.follow path with
  | error r => rfl
  | ok destination =>
      obtain there | ⟨directory, name, closed⟩ := destination
      · rfl
      · by_cases hn : nameLimit < name.utf8ByteSize
        · simp only [lookIn, hn, if_true]
        · simp only [lookIn, hn, if_false]
          obtain ⟨hi, ho⟩ | ⟨hi, ho⟩ | ⟨bytes, now, hi, ho, -⟩ := h.item_cases (name :: directory)
          · rw [hi, ho]
          · rw [hi, ho]
          · rw [hi, ho]

/-- A path that leads to none of these files is read alike. -/
theorem SameBut.content (h : SameBut apart fs other)
    (hpath : ∀ location ∈ apart, fs.target path ≠ .ok location) :
    other.content path = fs.content path := by
  unfold FileSystem.content
  obtain ⟨r, hf, ho⟩ | ⟨location, hf, ho⟩ | ⟨location, bytes, now, hf, ho, hsame⟩ :=
    h.find_cases path
  · rw [hf, ho]
  · rw [hf, ho]
  · rw [hf, ho, hsame fun hm => hpath location hm (target_of_find hf).1]

theorem SameBut.read? (h : SameBut apart fs other)
    (hpath : ∀ location ∈ apart, fs.target path ≠ .ok location) :
    other.read? path = fs.read? path := by
  rw [FileSystem.read?, FileSystem.read?, h.content hpath]

/-! ## Requests -/

/-- Both requests have the same answer and leave file systems that are the same but for these
files. -/
structure SameEnd {α : Type} (apart : List Location) (ended other : FileSystem × α) : Prop where
  files : SameBut apart ended.1 other.1
  answer : other.2 = ended.2

theorem SameEnd.exists_eq {α : Type} {ended otherEnded : FileSystem × α}
    (h : SameEnd apart ended otherEnded) :
    ∃ later otherLater answer, ended = (later, answer) ∧ otherEnded = (otherLater, answer) ∧
      SameBut apart later otherLater :=
  ⟨ended.1, otherEnded.1, ended.2, rfl, Prod.ext rfl h.answer, h.files⟩

theorem SameBut.makeDirectory_cases (h : SameBut apart fs other) (path : String) :
    (∃ fault, fs.makeDirectory path = .error fault ∧ other.makeDirectory path = .error fault) ∨
      ∃ location, fs.makeDirectory path = .ok (fs.put location .directory) ∧
        other.makeDirectory path = .ok (other.put location .directory) := by
  unfold makeDirectory request
  rw [h.follow]
  cases hasNul path with
  | true => exact Or.inl ⟨_, rfl, rfl⟩
  | false =>
      cases fs.follow path with
      | error r => exact Or.inl ⟨_, rfl, rfl⟩
      | ok destination =>
          obtain there | ⟨directory, name, closed⟩ := destination
          · exact Or.inl ⟨_, rfl, rfl⟩
          · by_cases hn : nameLimit < name.utf8ByteSize
            · simp only [lookIn, hn, if_true]
              exact Or.inl ⟨_, rfl, rfl⟩
            · simp only [lookIn, hn, if_false]
              obtain ⟨hi, ho⟩ | ⟨hi, ho⟩ | ⟨bytes, now, hi, ho, -⟩ :=
                h.item_cases (name :: directory)
              · simp only [hi, ho]
                exact Or.inr ⟨_, rfl, rfl⟩
              · simp only [hi, ho]
                exact Or.inl ⟨_, rfl, rfl⟩
              · simp only [hi, ho]
                exact Or.inl ⟨_, rfl, rfl⟩

theorem SameBut.ensureDirectory (h : SameBut apart fs other) (path : List Char) :
    SameEnd apart (fs.ensureDirectory path) (other.ensureDirectory path) := by
  unfold FileSystem.ensureDirectory
  obtain ⟨fault, hm, ho⟩ | ⟨location, hm, ho⟩ := h.makeDirectory_cases (String.ofList path)
  · simp only [hm, ho]
    refine ⟨h, ?_⟩
    cases fault with
    | embeddedNul => rfl
    | system f => simp only [orDirectory, h.isDirectory]
  · simp only [hm, ho]
    exact ⟨h.put_both location .directory, rfl⟩

theorem makeDirectoriesUpTo_zero (fs : FileSystem) (path : List Char) :
    fs.makeDirectoriesUpTo 0 path = fs.ensureDirectory path := by
  rw [makeDirectoriesUpTo]
  dsimp only
  split <;> rfl

/-- Making directories, one step at a time: the last one at once, or after those before it. -/
theorem makeDirectoriesUpTo_succ (n : Nat) (fs : FileSystem) (path : List Char) :
    fs.makeDirectoriesUpTo (n + 1) path =
      if (splitLast path).1 = [] || (splitLast path).2 = [] ||
          fs.pathExists (String.ofList (splitLast path).1) then fs.ensureDirectory path
      else
        let before := fs.makeDirectoriesUpTo n (splitLast path).1
        match before.2 with
        | .error (.system f) =>
          if f.number = Refusal.alreadyExists.number then
            if (splitLast path).2 = ['.'] then (before.1, .ok ()) else before.1.ensureDirectory path
          else (before.1, .error (.system f))
        | .error .embeddedNul => (before.1, .error .embeddedNul)
        | .ok () =>
          if (splitLast path).2 = ['.'] then (before.1, .ok ())
          else before.1.ensureDirectory path := by
  rw [makeDirectoriesUpTo]
  dsimp only
  rcases fs.makeDirectoriesUpTo n (splitLast path).1 with ⟨made, fault | u⟩
  · cases fault <;> rfl
  · rfl

theorem SameBut.makeDirectoriesUpTo (h : SameBut apart fs other) (n : Nat) (path : List Char) :
    SameEnd apart (fs.makeDirectoriesUpTo n path) (other.makeDirectoriesUpTo n path) := by
  induction n generalizing path with
  | zero =>
      rw [makeDirectoriesUpTo_zero, makeDirectoriesUpTo_zero]
      exact h.ensureDirectory path
  | succ n ih =>
      obtain ⟨hfiles, hanswer⟩ := ih (splitLast path).1
      rw [makeDirectoriesUpTo_succ, makeDirectoriesUpTo_succ, h.pathExists]
      dsimp only
      rw [hanswer]
      split
      · exact h.ensureDirectory path
      · split
        · split
          · split
            · exact ⟨hfiles, rfl⟩
            · exact hfiles.ensureDirectory path
          · exact ⟨hfiles, rfl⟩
        · exact ⟨hfiles, rfl⟩
        · split
          · exact ⟨hfiles, rfl⟩
          · exact hfiles.ensureDirectory path

theorem SameBut.makeDirectories (h : SameBut apart fs other) (path : String) :
    SameEnd apart (fs.makeDirectories path) (other.makeDirectories path) :=
  h.makeDirectoriesUpTo path.length path.toList

/-! ## Writing -/

theorem SameBut.createFile_cases (h : SameBut apart fs other) (path : String) :
    (∃ fault, fs.createFile path = .error fault ∧ other.createFile path = .error fault) ∨
      ∃ location, fs.createFile path = .ok (location, fs.put location (.file [])) ∧
        other.createFile path = .ok (location, other.put location (.file [])) := by
  unfold createFile request
  rw [h.target]
  cases hasNul path with
  | true => exact Or.inl ⟨_, rfl, rfl⟩
  | false =>
      cases fs.target path with
      | error r => exact Or.inl ⟨_, rfl, rfl⟩
      | ok location => exact Or.inr ⟨location, rfl, rfl⟩

theorem SameBut.openForWriting (h : SameBut apart fs other) (path : String) :
    SameEnd apart (fs.openForWriting path) (other.openForWriting path) := by
  obtain ⟨made, otherMade, answer, hm, ho, hmade⟩ := (h.makeDirectories (parentOf path)).exists_eq
  unfold FileSystem.openForWriting
  rw [hm, ho]
  cases answer with
  | error fault => exact ⟨hmade, rfl⟩
  | ok u =>
      obtain ⟨fault, hc, hc'⟩ | ⟨location, hc, hc'⟩ := hmade.createFile_cases path
      · simp only [hc, hc']
        exact ⟨hmade, rfl⟩
      · simp only [hc, hc']
        exact ⟨hmade.put_both location _, rfl⟩

theorem SameBut.store (h : SameBut apart fs other) (path : String) (bytes : List UInt8) :
    SameEnd apart (fs.store path bytes) (other.store path bytes) := by
  obtain ⟨opened, otherOpened, answer, hm, ho, hopened⟩ := (h.openForWriting path).exists_eq
  unfold FileSystem.store
  rw [hm, ho]
  cases answer with
  | error fault => exact ⟨hopened, rfl⟩
  | ok location => exact ⟨hopened.put_both location _, rfl⟩

/-- A header that is none of these files is translated alike. -/
theorem SameBut.translate (h : SameBut apart fs other) {header : String}
    (hheader : ∀ location ∈ apart, fs.target header ≠ .ok location) (generated stamp : String) :
    SameEnd apart (fs.translate header generated stamp)
      (other.translate header generated stamp) := by
  obtain ⟨opened, otherOpened, answer, hm, ho, hopened⟩ := (h.openForWriting generated).exists_eq
  unfold FileSystem.translate
  rw [h.content hheader, hm, ho]
  cases fs.content header with
  | error fault => exact ⟨h, rfl⟩
  | ok found =>
      cases answer with
      | error fault => exact ⟨hopened, rfl⟩
      | ok location => exact ⟨hopened.put_both location _, rfl⟩

end EventMessages.FileSystem
