import EventMessages.FileSystem.Access

/-!
# EventMessages.Proofs.FileSystem.Reading

Reading a path, and what it takes for a path to be read as before. A path leads to one location,
where it is read and where it would be written. It keeps that location in every later file system
that still has the directories on the way (`KeepsDirectories`), and it keeps its content where
nothing but new directories was added (`AddsDirectories`).
-/

namespace EventMessages.FileSystem

variable {fs : FileSystem} {path : String} {location : Location} {bytes : List UInt8}

/-! ## Where files lie -/

theorem follow_of_target (h : fs.target path = .ok location) :
    ∃ directory name, location = name :: directory ∧
      fs.follow path = .ok (.name directory name false) ∧ name.utf8ByteSize ≤ nameLimit ∧
      fs.item? location ≠ some .directory := by
  unfold target at h
  cases hf : fs.follow path with
  | error r => simp [hf] at h
  | ok destination =>
      obtain there | ⟨directory, name, closed⟩ := destination
      · simp [hf] at h
      · by_cases hn : nameLimit < name.utf8ByteSize
        · cases closed <;> simp [hf, lookIn, hn] at h
        · cases closed with
          | true => simp [hf] at h
          | false =>
              have hd : fs.item? (name :: directory) ≠ some .directory := by
                intro hd
                simp [hf, lookIn, hn, hd] at h
              have hl : name :: directory = location := by
                simp only [hf, lookIn, hn, if_false, Bool.false_eq_true] at h
                exact Except.ok.inj h
              subst hl
              exact ⟨directory, name, rfl, rfl, Nat.not_lt.mp hn, hd⟩

theorem target_of_follow {directory : Location} {name : String}
    (hf : fs.follow path = .ok (.name directory name false)) (hn : name.utf8ByteSize ≤ nameLimit)
    (hd : fs.item? (name :: directory) ≠ some .directory) :
    fs.target path = .ok (name :: directory) := by
  unfold target
  simp only [hf, lookIn, Nat.not_lt.mpr hn, Bool.false_eq_true, if_false]

theorem find_of_target {entry : Entry} (ht : fs.target path = .ok location)
    (hi : fs.item? location = some entry) : fs.find path = .ok (location, entry) := by
  obtain ⟨directory, name, rfl, hf, hn, hd⟩ := follow_of_target ht
  cases entry with
  | directory => exact absurd hi hd
  | file bytes => simp [find, hf, lookIn, Nat.not_lt.mpr hn, hi]

theorem target_of_find (h : fs.find path = .ok (location, .file bytes)) :
    fs.target path = .ok location ∧ fs.item? location = some (.file bytes) := by
  unfold find at h
  cases hf : fs.follow path with
  | error r => simp [hf] at h
  | ok destination =>
      obtain there | ⟨directory, name, closed⟩ := destination
      · simp [hf] at h
      · by_cases hn : nameLimit < name.utf8ByteSize
        · simp [hf, lookIn, hn] at h
        · simp only [hf, lookIn, hn, if_false] at h
          split at h
          · contradiction
          · contradiction
          · next hi =>
            have hi := Except.ok.inj hi
            cases closed with
            | true => simp at h
            | false =>
                simp only [Bool.false_eq_true, if_false, Except.ok.injEq, Prod.mk.injEq,
                  Entry.file.injEq] at h
                obtain ⟨rfl, rfl⟩ := h
                exact ⟨target_of_follow hf (Nat.not_lt.mp hn) (by rw [hi]; simp), hi⟩
          · simp at h

/-- A path is read exactly where it would be written. -/
theorem content_eq_ok_iff : fs.content path = .ok (location, bytes) ↔
    hasNul path = false ∧ fs.target path = .ok location ∧
      fs.item? location = some (.file bytes) := by
  constructor
  · intro h
    unfold content request at h
    split at h
    · contradiction
    · next hnul =>
      cases hf : fs.find path with
      | error r => simp [hf] at h
      | ok found =>
          obtain ⟨there, entry⟩ := found
          cases entry with
          | directory => simp [hf] at h
          | file content =>
              simp only [hf, Except.ok.injEq, Prod.mk.injEq] at h
              obtain ⟨rfl, rfl⟩ := h
              exact ⟨Bool.eq_false_iff.mpr hnul, target_of_find hf⟩
  · rintro ⟨hnul, ht, hi⟩
    simp [content, request, hnul, find_of_target ht hi]

/-! ## Reading -/

/-- The bytes that a path leads to, if it leads to a file. -/
def read? (fs : FileSystem) (path : String) : Option (List UInt8) :=
  match fs.content path with
  | .error _ => none
  | .ok (_, bytes) => some bytes

theorem read?_of_content (h : fs.content path = .ok (location, bytes)) :
    fs.read? path = some bytes := by
  rw [read?, h]

theorem content_of_read? (h : fs.read? path = some bytes) :
    ∃ location, fs.content path = .ok (location, bytes) := by
  unfold read? at h
  split at h
  · contradiction
  · next location content hc =>
    rw [Option.some.injEq] at h
    subst h
    exact ⟨location, hc⟩

/-- What is read at a path whose location is known. -/
theorem read?_eq_some_iff (hnul : hasNul path = false) (ht : fs.target path = .ok location) :
    fs.read? path = some bytes ↔ fs.item? location = some (.file bytes) := by
  constructor
  · intro h
    obtain ⟨there, hc⟩ := content_of_read? h
    obtain ⟨-, ht', hi⟩ := content_eq_ok_iff.mp hc
    rw [ht, Except.ok.injEq] at ht'
    rw [ht']
    exact hi
  · intro hi
    exact read?_of_content (content_eq_ok_iff.mpr ⟨hnul, ht, hi⟩)

/-- A path that is read holds no NUL. -/
theorem hasNul_of_read? (h : fs.read? path = some bytes) : hasNul path = false := by
  obtain ⟨location, hc⟩ := content_of_read? h
  exact (content_eq_ok_iff.mp hc).1

/-! ## Paths that hold a NUL -/

/-- A request ends at a NUL exactly when its path holds one. -/
theorem request_eq_embeddedNul_iff {α : Type} {answer : Except Refusal α} :
    request path answer = .error .embeddedNul ↔ hasNul path = true := by
  unfold request
  cases hasNul path with
  | true => simp
  | false => cases answer <;> simp

theorem content_eq_embeddedNul_iff :
    fs.content path = .error .embeddedNul ↔ hasNul path = true :=
  request_eq_embeddedNul_iff

theorem pathExists_eq_false_of_hasNul (h : hasNul path = true) : fs.pathExists path = false := by
  rw [pathExists, request_eq_embeddedNul_iff.mpr h]

theorem pathExists_of_read? (h : fs.read? path = some bytes) : fs.pathExists path = true := by
  obtain ⟨location, hc⟩ := content_of_read? h
  obtain ⟨hnul, ht, hi⟩ := content_eq_ok_iff.mp hc
  simp [pathExists, request, hnul, find_of_target ht hi]

/-! ## Later file systems -/

/-- Every directory is still one, and relative paths start where they did. -/
structure KeepsDirectories (fs later : FileSystem) : Prop where
  home : later.home = fs.home
  directory : ∀ location, fs.item? location = some .directory →
    later.item? location = some .directory

/-- Nothing has changed but that some directories are new. -/
structure AddsDirectories (fs later : FileSystem) : Prop where
  home : later.home = fs.home
  item : ∀ location, later.item? location = fs.item? location ∨
    (fs.item? location = none ∧ later.item? location = some .directory)

variable {later last : FileSystem}

theorem KeepsDirectories.refl (fs : FileSystem) : KeepsDirectories fs fs :=
  ⟨rfl, fun _ h => h⟩

theorem KeepsDirectories.trans (h : KeepsDirectories fs later) (h' : KeepsDirectories later last) :
    KeepsDirectories fs last :=
  ⟨h'.home.trans h.home, fun location hd => h'.directory location (h.directory location hd)⟩

theorem AddsDirectories.refl (fs : FileSystem) : AddsDirectories fs fs :=
  ⟨rfl, fun _ => Or.inl rfl⟩

theorem AddsDirectories.trans (h : AddsDirectories fs later) (h' : AddsDirectories later last) :
    AddsDirectories fs last := by
  refine ⟨h'.home.trans h.home, fun location => ?_⟩
  obtain he | ⟨hn, hd⟩ := h'.item location
  · rw [he]
    exact h.item location
  · obtain he | ⟨-, hd'⟩ := h.item location
    · exact Or.inr ⟨he ▸ hn, hd⟩
    · rw [hd'] at hn
      contradiction

/-- What was there is still there. -/
theorem AddsDirectories.item_of_some (h : AddsDirectories fs later) {entry : Entry}
    (hi : fs.item? location = some entry) : later.item? location = some entry := by
  obtain he | ⟨hn, -⟩ := h.item location
  · rw [he, hi]
  · rw [hi] at hn
    contradiction

theorem AddsDirectories.keepsDirectories (h : AddsDirectories fs later) :
    KeepsDirectories fs later :=
  ⟨h.home, fun _ hd => h.item_of_some hd⟩

/-- A file can be put anywhere but in a directory's place. -/
theorem keepsDirectories_put_file (hd : fs.item? location ≠ some .directory) :
    KeepsDirectories fs (fs.put location (.file bytes)) := by
  refine ⟨home_put fs location _, fun other ho => ?_⟩
  have hne : other ≠ location := fun he => hd (he ▸ ho)
  rw [item?_put_of_ne fs _ hne, ho]

theorem addsDirectories_put_directory (hn : fs.item? location = none) :
    AddsDirectories fs (fs.put location .directory) := by
  refine ⟨home_put fs location _, fun other => ?_⟩
  by_cases ho : other = location
  · have hl : location ≠ [] := fun he => by simp [he] at hn
    rw [ho]
    exact Or.inr ⟨hn, item?_put_self fs location _ hl⟩
  · exact Or.inl (item?_put_of_ne fs _ ho)

/-! ## Paths in later file systems -/

theorem KeepsDirectories.enter (h : KeepsDirectories fs later) {directory there : Location}
    {name : String} (he : fs.enter directory name = .ok there) :
    later.enter directory name = .ok there := by
  unfold FileSystem.enter at he ⊢
  by_cases hdot : name = "."
  · rw [if_pos hdot] at he ⊢
    exact he
  · by_cases hdots : name = ".."
    · rw [if_neg hdot, if_pos hdots] at he ⊢
      exact he
    · rw [if_neg hdot, if_neg hdots] at he ⊢
      by_cases hn : nameLimit < name.utf8ByteSize
      · simp [lookIn, hn] at he
      · simp only [lookIn, hn, if_false] at he ⊢
        split at he
        · contradiction
        · contradiction
        · contradiction
        · next hi =>
          rw [h.directory _ (Except.ok.inj hi)]
          exact he

theorem KeepsDirectories.walk (h : KeepsDirectories fs later) {closed : Bool} {names : List String}
    {here : Location} {destination : Destination}
    (hw : fs.walk closed here names = .ok destination) :
    later.walk closed here names = .ok destination := by
  induction names generalizing here with
  | nil => exact hw
  | cons name names ih =>
      cases names with
      | nil => exact hw
      | cons next rest =>
          simp only [FileSystem.walk] at hw ⊢
          cases he : fs.enter here name with
          | error r => simp [he] at hw
          | ok there =>
              simp only [he] at hw
              simp only [h.enter he]
              exact ih hw

theorem KeepsDirectories.follow (h : KeepsDirectories fs later) {destination : Destination}
    (hf : fs.follow path = .ok destination) : later.follow path = .ok destination := by
  unfold FileSystem.follow at hf ⊢
  split at hf
  · contradiction
  · split at hf
    · contradiction
    · next hempty hlimit =>
      rw [if_neg hempty, if_neg hlimit, h.home]
      exact h.walk hf

/-- A path keeps its location as long as no directory takes the file's place. -/
theorem KeepsDirectories.target (h : KeepsDirectories fs later) (ht : fs.target path = .ok location)
    (hd : later.item? location ≠ some .directory) : later.target path = .ok location := by
  obtain ⟨directory, name, rfl, hf, hn, -⟩ := follow_of_target ht
  exact target_of_follow (h.follow hf) hn hd

/-- New directories leave every file readable. -/
theorem AddsDirectories.read? (h : AddsDirectories fs later) (hr : fs.read? path = some bytes) :
    later.read? path = some bytes := by
  obtain ⟨location, hc⟩ := content_of_read? hr
  obtain ⟨hnul, ht, hi⟩ := content_eq_ok_iff.mp hc
  have hi' : later.item? location = some (.file bytes) := h.item_of_some hi
  have ht' := h.keepsDirectories.target ht (by rw [hi']; simp)
  exact read?_of_content (content_eq_ok_iff.mpr ⟨hnul, ht', hi'⟩)

theorem AddsDirectories.read?_eq_none (h : AddsDirectories fs later)
    (hr : later.read? path = none) : fs.read? path = none := by
  cases hread : fs.read? path with
  | none => rfl
  | some bytes =>
      rw [h.read? hread] at hr
      cases hr

theorem setValue_setValue (location : Location) (a b : Entry)
    (entries : List (Location × Entry)) :
    setValue location b (setValue location a entries) = setValue location b entries := by
  induction entries with
  | nil => simp [setValue]
  | cons head rest ih =>
      obtain ⟨k, v⟩ := head
      by_cases hk : k = location
      · simp [setValue, hk]
      · simp [setValue, hk, ih]

/-- What is put last is what stays. -/
@[simp] theorem put_put (fs : FileSystem) (location : Location) (a b : Entry) :
    (fs.put location a).put location b = fs.put location b := by
  simp only [put, setValue_setValue]

/-- A file that is put at a path is where the path leads. -/
theorem target_put_file (bytes : List UInt8) (ht : fs.target path = .ok location) :
    (fs.put location (.file bytes)).target path = .ok location ∧
      (fs.put location (.file bytes)).item? location = some (.file bytes) := by
  obtain ⟨directory, name, hl, -, -, hd⟩ := follow_of_target ht
  have hi : (fs.put location (.file bytes)).item? location = some (.file bytes) :=
    item?_put_self fs location _ (by simp [hl])
  exact ⟨(keepsDirectories_put_file hd).target ht (by simp [hi]), hi⟩

/-- What is put at a path is read there. -/
theorem read?_put_file (hnul : hasNul path = false) (ht : fs.target path = .ok location) :
    (fs.put location (.file bytes)).read? path = some bytes :=
  (read?_eq_some_iff hnul (target_put_file bytes ht).1).mpr (target_put_file bytes ht).2

end EventMessages.FileSystem
