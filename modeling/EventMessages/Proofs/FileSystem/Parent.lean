import EventMessages.Proofs.FileSystem.Reading
import EventMessages.Proofs.Path

/-!
# EventMessages.Proofs.FileSystem.Parent

The directories of a path. Following a path enters all its names but the last, so what a path goes
through before its last name is a directory, and a file lies in the directory that its path names.
-/

namespace EventMessages.FileSystem

variable {fs later : FileSystem} {path : String} {location : Location}

/-! ## Walking through directories -/

/-- Walks into one directory after another. -/
def enterAll (fs : FileSystem) : Location → List String → Except Refusal Location
  | here, [] => .ok here
  | here, name :: rest =>
    match fs.enter here name with
    | .error r => .error r
    | .ok there => enterAll fs there rest

theorem walk_cons_cons {closed : Bool} {here there : Location} {name next : String}
    {rest : List String} (he : fs.enter here name = .ok there) :
    fs.walk closed here (name :: next :: rest) = fs.walk closed there (next :: rest) := by
  simp only [walk, he]

/-- A walk enters all names but the last, and the last one is where it leads. -/
theorem enterAll_of_walk {closed : Bool} {here : Location} {names : List String} {last : String}
    {destination : Destination} (h : fs.walk closed here (names ++ [last]) = .ok destination) :
    ∃ there, fs.enterAll here names = .ok there ∧
      fs.walk closed there [last] = .ok destination := by
  induction names generalizing here with
  | nil => exact ⟨here, rfl, h⟩
  | cons name names ih =>
      obtain ⟨next, rest, hr⟩ := List.exists_cons_of_ne_nil
        (show names ++ [last] ≠ [] by simp)
      rw [List.cons_append, hr] at h
      rw [enterAll]
      cases he : fs.enter here name with
      | error r => simp [walk, he] at h
      | ok there =>
          rw [walk_cons_cons he, ← hr] at h
          exact ih h

theorem walk_singleton_eq_name {closed closed' : Bool} {here directory : Location}
    {last name : String} (h : fs.walk closed here [last] = .ok (.name directory name closed')) :
    name = last ∧ closed' = closed := by
  rw [walk] at h
  by_cases hdot : last = "."
  · simp [hdot] at h
  · by_cases hdots : last = ".."
    · simp [hdots] at h
    · rw [if_neg hdot, if_neg hdots, Except.ok.injEq, Destination.name.injEq] at h
      exact ⟨h.2.1.symm, h.2.2.symm⟩

/-- Where a walk leads to a name, it is the last one. -/
theorem getLast_of_walk {closed closed' : Bool} {here directory : Location} {names : List String}
    {name : String} (h : fs.walk closed here names = .ok (.name directory name closed')) :
    names.getLast? = some name ∧ closed' = closed := by
  obtain rfl | ⟨front, last, rfl⟩ := List.eq_nil_or_concat names
  · rw [walk] at h
    simp at h
  · rw [List.concat_eq_append] at h ⊢
    obtain ⟨there, -, hw⟩ := enterAll_of_walk h
    obtain ⟨rfl, rfl⟩ := walk_singleton_eq_name hw
    exact ⟨List.getLast?_concat, rfl⟩

theorem lookIn_of_enter {directory there : Location} {name : String} (hdot : name ≠ ".")
    (hdots : name ≠ "..") (h : fs.enter directory name = .ok there) :
    fs.lookIn directory name = .ok (some .directory) := by
  rw [enter, if_neg hdot, if_neg hdots] at h
  split at h
  · contradiction
  · contradiction
  · contradiction
  · next hl => exact hl

/-- Names that can be entered lead to a directory. -/
theorem walk_of_enterAll {closed : Bool} {here there : Location} {names : List String}
    (h : fs.enterAll here names = .ok there) :
    fs.walk closed here names = .ok (.directory there) ∨
      ∃ directory name, fs.walk closed here names = .ok (.name directory name closed) ∧
        fs.lookIn directory name = .ok (some .directory) := by
  induction names generalizing here with
  | nil =>
      rw [enterAll, Except.ok.injEq] at h
      exact Or.inl (by rw [walk, h])
  | cons name names ih =>
      rw [enterAll] at h
      cases he : fs.enter here name with
      | error r => simp [he] at h
      | ok next =>
          simp only [he] at h
          cases names with
          | nil =>
              rw [enterAll, Except.ok.injEq] at h
              subst h
              rw [walk]
              by_cases hdot : name = "."
              · rw [enter, if_pos hdot, Except.ok.injEq] at he
                rw [if_pos hdot, he]
                exact Or.inl rfl
              · by_cases hdots : name = ".."
                · rw [enter, if_neg hdot, if_pos hdots, Except.ok.injEq] at he
                  rw [if_neg hdot, if_pos hdots, he]
                  exact Or.inl rfl
                · rw [if_neg hdot, if_neg hdots]
                  exact Or.inr ⟨here, name, rfl, lookIn_of_enter hdot hdots he⟩
          | cons following rest =>
              rw [walk_cons_cons he]
              exact ih h

/-! ## Directories -/

/-- A path can be followed when it is not empty, not too long, and its names can be walked. -/
theorem follow_eq (fs : FileSystem) (path : String) (hne : path ≠ "")
    (hlimit : path.utf8ByteSize < pathLimit) :
    fs.follow path = fs.walk (Path.route path).closed
      (if (Path.route path).absolute then [] else fs.home) (Path.route path).names := by
  rw [follow, if_neg (by simpa using hne), if_neg (Nat.not_le.mpr hlimit)]

theorem limits_of_follow {destination : Destination} (h : fs.follow path = .ok destination) :
    path ≠ "" ∧ path.utf8ByteSize < pathLimit := by
  unfold follow at h
  split at h
  · contradiction
  · split at h
    · contradiction
    · next hempty hlimit => exact ⟨by simpa using hempty, Nat.not_le.mp hlimit⟩

theorem isDirectory_of_walk {names : List String} {there : Location} (hnul : hasNul path = false)
    (hne : path ≠ "") (hlimit : path.utf8ByteSize < pathLimit)
    (hnames : (Path.route path).names = names)
    (h : fs.enterAll (if (Path.route path).absolute then [] else fs.home) names = .ok there) :
    fs.isDirectory path = true := by
  have hf := follow_eq fs path hne hlimit
  rw [hnames] at hf
  obtain hw | ⟨directory, name, hw, hl⟩ := walk_of_enterAll h
  · rw [hw] at hf
    simp [isDirectory, request, hnul, find, hf]
  · rw [hw] at hf
    simp [isDirectory, request, hnul, find, hf, hl]

theorem hasNul_of_isPrefix {head : String} (hp : head.toList <+: path.toList)
    (hnul : hasNul path = false) : hasNul head = false := by
  rw [hasNul, List.contains_eq_mem, decide_eq_false_iff_not] at hnul ⊢
  exact fun hm => hnul (hp.subset hm)

theorem hasNul_mono {head : String} (hp : head.toList <+: path.toList)
    (hhead : hasNul head = true) : hasNul path = true := by
  rw [hasNul, List.contains_iff_mem] at hhead ⊢
  exact hp.subset hhead

theorem utf8ByteSize_le_of_isPrefix {head : String} (hp : head.toList <+: path.toList) :
    head.utf8ByteSize ≤ path.utf8ByteSize := by
  obtain ⟨rest, hr⟩ := hp
  have he : path = head ++ String.ofList rest := by
    rw [← String.toList_inj, String.toList_append, String.toList_ofList, hr]
  rw [he, String.utf8ByteSize_append]
  exact Nat.le_add_right _ _

/-- What a path goes through before its last name is a directory. -/
theorem isDirectory_of_isPrefix {head : String} {last : List Char} {destination : Destination}
    (hnames : Path.names path.toList = Path.names head.toList ++ [last])
    (hp : head.toList <+: path.toList) (hne : head ≠ "") (hnul : hasNul path = false)
    (hf : fs.follow path = .ok destination) : fs.isDirectory head = true := by
  obtain ⟨hpne, hlimit⟩ := limits_of_follow hf
  have hsize := utf8ByteSize_le_of_isPrefix hp
  have habs : (Path.route path).absolute = (Path.route head).absolute := by
    obtain ⟨rest, hr⟩ := hp
    have hh : head.toList ≠ [] := by simpa using hne
    rw [Path.route, Path.route, ← hr, List.head?_append, Option.or_of_isSome (by simpa using hh)]
  rw [follow_eq fs path hpne hlimit, Path.route_names, hnames, List.map_append, List.map_cons,
    List.map_nil, habs] at hf
  obtain ⟨there, he, -⟩ := enterAll_of_walk hf
  exact isDirectory_of_walk (hasNul_of_isPrefix hp hnul) hne (by omega) rfl he

/-! ## The directory of a file -/

/-- A file has the last name of its path. -/
theorem name_of_target {directory : Location} {name : String}
    (ht : fs.target path = .ok (name :: directory)) :
    name.toList = Path.afterSlash path.toList ∧ Path.afterSlash path.toList ≠ [] := by
  obtain ⟨d, n, hl, hf, -, -⟩ := follow_of_target ht
  injection hl with hname _
  obtain ⟨hpne, hlimit⟩ := limits_of_follow hf
  rw [follow_eq fs path hpne hlimit] at hf
  obtain ⟨hlast, hclosed⟩ := getLast_of_walk hf
  have hne : Path.afterSlash path.toList ≠ [] := by
    apply Path.afterSlash_ne_nil (by simpa using hpne)
    simpa [Path.route] using hclosed
  rw [Path.route_names, Path.names_eq_concat hne, List.map_append, List.map_cons, List.map_nil,
    List.getLast?_concat, Option.some.injEq] at hlast
  rw [hname, ← hlast, String.toList_ofList]
  exact ⟨rfl, hne⟩

theorem isDirectory_dot (fs : FileSystem) : fs.isDirectory "." = true := by
  have h : fs.enterAll (if (Path.route ".").absolute then [] else fs.home) ["."] =
      .ok fs.home := rfl
  exact isDirectory_of_walk (by decide) (by decide) (by decide) rfl h

/-- A file lies in a directory. -/
theorem isDirectory_parentOf (hnul : hasNul path = false) (ht : fs.target path = .ok location) :
    fs.isDirectory (parentOf path) = true := by
  obtain ⟨directory, name, rfl, hf, -, -⟩ := follow_of_target ht
  rw [parentOf]
  by_cases hp : (Path.parent path).isEmpty = true
  · rw [if_pos hp]
    exact isDirectory_dot fs
  · rw [if_neg hp]
    have hl : (Path.parent path).toList = Path.parentChars path.toList := String.toList_ofList
    have hnames := Path.names_eq_concat (name_of_target ht).2
    have hprefix := Path.parentChars_isPrefix path.toList
    rw [← hl] at hnames hprefix
    exact isDirectory_of_isPrefix hnames hprefix (by simpa using hp) hnul hf

end EventMessages.FileSystem
