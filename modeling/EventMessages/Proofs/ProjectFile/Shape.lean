import EventMessages.Proofs.FileSystem.Reading
import EventMessages.Proofs.Text.Utf8
import EventMessages.ProjectFile
import Mathlib.Data.List.Basic

/-!
# EventMessages.Proofs.ProjectFile.Shape

The shape of a project file. Its data are a mapping with a section, which is a mapping again, and
each field of the section is missing, null, or a text with more than blanks in it
(`Project.Describes`). Data of this shape describe a project, and no other data do
(`Project.ofDocument_eq_ok_iff`). A field is the text that stands under its own key, so nothing else
in the file bears on it.
-/

namespace EventMessages

/-! ## Mappings -/

namespace Yaml.Document

variable {d : Document} {entries : List (NodeId × NodeId)} {key : String} {value : Datum}

/-- The entries hold this value under the key. If the key stands there more than once, the last
value counts. -/
def Holds (d : Document) (entries : List (NodeId × NodeId)) (key : String) (value : Datum) : Prop :=
  ∃ before entry after, entries = before ++ entry :: after ∧ d.datumAt entry.1 = .text key ∧
    d.datumAt entry.2 = value ∧ ∀ later ∈ after, d.datumAt later.1 ≠ .text key

/-- No entry has this key. -/
def Lacks (d : Document) (entries : List (NodeId × NodeId)) (key : String) : Prop :=
  ∀ entry ∈ entries, d.datumAt entry.1 ≠ .text key

theorem value?_eq_none_iff : d.value? entries key = none ↔ d.Lacks entries key := by
  simp [value?, Lacks]

theorem value?_eq_some_iff : d.value? entries key = some value ↔ d.Holds entries key value := by
  rw [value?, Option.map_eq_some_iff]
  constructor
  · rintro ⟨entry, hfind, hvalue⟩
    obtain ⟨hkey, after, before, hcut, hafter⟩ := List.find?_eq_some_iff_append.mp hfind
    have hentries : entries = before.reverse ++ entry :: after.reverse := by
      simpa using congrArg List.reverse hcut
    exact ⟨before.reverse, entry, after.reverse, hentries, by simpa using hkey, hvalue,
      fun later hlater => by simpa using hafter later (List.mem_reverse.mp hlater)⟩
  · rintro ⟨before, entry, after, rfl, hkey, hvalue, hafter⟩
    refine ⟨entry, List.find?_eq_some_iff_append.mpr ⟨by simpa using hkey, after.reverse,
      before.reverse, by simp, fun later hlater => ?_⟩, hvalue⟩
    simpa using hafter later (List.mem_reverse.mp hlater)

theorem lacks_iff : d.Lacks entries key ↔ ∀ value, ¬ d.Holds entries key value := by
  simp only [← value?_eq_none_iff, ← value?_eq_some_iff, Option.eq_none_iff_forall_ne_some, ne_eq]

end Yaml.Document

namespace Project

open Text Yaml

variable {d : Document} {entries fields : List (NodeId × NodeId)} {name fallback value : String}
variable {p : Project}

/-! ## Fields -/

/-- What a field of a section says: the text under its key, or the fallback when the key is missing
or its value is null. -/
inductive Says (d : Document) (fields : List (NodeId × NodeId)) (name fallback : String) :
    String → Prop where
  | missing : d.Lacks fields name → Says d fields name fallback fallback
  | null : d.Holds fields name .null → Says d fields name fallback fallback
  | written {value : String} : d.Holds fields name (.text value) →
      (∃ c ∈ value.toList, isBlank c = false) → Says d fields name fallback value

theorem fieldOf_eq_ok_iff :
    fieldOf d fields name fallback = .ok value ↔ Says d fields name fallback value := by
  constructor
  · intro h
    unfold fieldOf at h
    split at h
    · next hnone =>
        obtain rfl := Except.ok.inj h
        exact .missing (Document.value?_eq_none_iff.mp hnone)
    · next hnull =>
        obtain rfl := Except.ok.inj h
        exact .null (Document.value?_eq_some_iff.mp hnull)
    · next written htext =>
        split at h
        · cases h
        · next hblank =>
            obtain rfl := Except.ok.inj h
            exact .written (Document.value?_eq_some_iff.mp htext)
              (allBlank_eq_false_iff.mp (Bool.eq_false_iff.mpr hblank))
    · cases h
  · intro h
    unfold fieldOf
    cases h with
    | missing hlacks => rw [Document.value?_eq_none_iff.mpr hlacks]
    | null hholds => rw [Document.value?_eq_some_iff.mpr hholds]
    | written hholds hc =>
        rw [Document.value?_eq_some_iff.mpr hholds]
        simp [allBlank_eq_false_iff.mpr hc]

/-- Nothing but its own key bears on a field. -/
theorem Says.congr {d' : Document} {fields' : List (NodeId × NodeId)}
    (h : ∀ value, d.Holds fields name value ↔ d'.Holds fields' name value)
    (hfield : Says d fields name fallback value) : Says d' fields' name fallback value := by
  cases hfield with
  | missing hlacks =>
      refine .missing (Document.lacks_iff.mpr fun value hholds => ?_)
      exact Document.lacks_iff.mp hlacks value ((h value).mpr hholds)
  | null hholds => exact .null ((h _).mp hholds)
  | written hholds hc => exact .written ((h _).mp hholds) hc

/-! ## Documents -/

/-- The data have the shape of a project file, and this is the project. -/
def Describes (d : Document) (p : Project) : Prop :=
  ∃ entries fields, d.root = .mapping entries ∧ d.Holds entries "msggen" (.mapping fields) ∧
    Says d fields "input" "res/eventmsgs.mc" p.input ∧ Says d fields "res_dir" "res" p.resDir ∧
    Says d fields "name" "eventmsgs" p.name

theorem ofSection_eq_ok_iff : ofSection d fields = .ok p ↔
    Says d fields "input" "res/eventmsgs.mc" p.input ∧ Says d fields "res_dir" "res" p.resDir ∧
      Says d fields "name" "eventmsgs" p.name := by
  simp only [← fieldOf_eq_ok_iff, ofSection]
  cases fieldOf d fields "input" "res/eventmsgs.mc" with
  | error cause => simp [bind, Except.bind]
  | ok input =>
      cases fieldOf d fields "res_dir" "res" with
      | error cause => simp [bind, Except.bind]
      | ok resDir =>
          cases fieldOf d fields "name" "eventmsgs" with
          | error cause => simp [bind, Except.bind]
          | ok name =>
              obtain ⟨input', resDir', name'⟩ := p
              simp [bind, Except.bind, pure, Except.pure]

/-- **The shape of a project file**: data describe a project exactly when they have it. -/
theorem ofDocument_eq_ok_iff : ofDocument d = .ok p ↔ Describes d p := by
  constructor
  · intro h
    unfold ofDocument at h
    split at h
    · next entries hroot =>
        split at h
        · cases h
        · cases h
        · next fields hsection =>
            exact ⟨entries, fields, hroot, Document.value?_eq_some_iff.mp hsection,
              ofSection_eq_ok_iff.mp h⟩
        · cases h
    · cases h
  · rintro ⟨entries, fields, hroot, hsection, hfields⟩
    have hvalue : d.value? entries sectionKey = some (.mapping fields) :=
      Document.value?_eq_some_iff.mpr hsection
    simp only [ofDocument, hroot, hvalue]
    exact ofSection_eq_ok_iff.mpr hfields

theorem ofDocument_eq_error_iff :
    (∃ cause, ofDocument d = .error cause) ↔ ¬ ∃ p, Describes d p := by
  simp only [← ofDocument_eq_ok_iff]
  cases ofDocument d <;> simp

/-! ## Texts and files -/

theorem ofTextBy_of_blank {text : List Char} (h : ∀ c ∈ text, isBlank c = true)
    (read : List Char → Except Fault Document) : ofTextBy read text = .ok {} := by
  have hblank : allBlank text = true := List.all_eq_true.mpr h
  rw [ofTextBy, if_pos hblank]

theorem ofTextBy_of_read {read : List Char → Except Fault Document} {text : List Char}
    (h : ∃ c ∈ text, isBlank c = false) (hread : read text = .ok d) :
    ofTextBy read text = (ofDocument d).mapError Failure.invalid := by
  rw [ofTextBy, allBlank_eq_false_iff.mpr h, if_neg Bool.false_ne_true, hread]
  cases hd : ofDocument d <;> simp [hd, Except.mapError]

theorem load_of_read? {fs : FileSystem} {path : String} {text : List Char}
    (h : fs.read? path = some (Utf8.encode text)) : load fs path = ofText (unifyBreaks text) := by
  obtain ⟨location, hcontent⟩ := FileSystem.content_of_read? h
  rw [load, if_pos (FileSystem.pathExists_of_read? h), hcontent]
  simp only [ofBytes, Utf8.decodeStrict_encode]

/-- **Which project files are accepted**: a text that holds more than blanks and whose data are
found describes a project exactly when the data have the shape of a project file, and then it is the
project that they describe; any other data are reported as invalid. A field depends on what stands
under its key and on nothing else. A text of nothing but blanks describes the default project,
whatever a reader of data would make of it. The project of a file is that of its text with every
line break written as LF, and a path that leads nowhere stands for the default project. -/
theorem accepts_shape :
    (∀ (read : List Char → Except Fault Document) text d,
      (∃ c ∈ text, isBlank c = false) → read text = .ok d →
        (∀ p, ofTextBy read text = .ok p ↔ Describes d p) ∧
        ((∃ cause, ofTextBy read text = .error (.invalid cause)) ↔ ¬ ∃ p, Describes d p)) ∧
    (∀ (d d' : Document) fields fields' name fallback,
      (∀ value, d.Holds fields name value ↔ d'.Holds fields' name value) →
        ∀ value, Says d fields name fallback value ↔ Says d' fields' name fallback value) ∧
    (∀ (read : List Char → Except Fault Document) text,
      (∀ c ∈ text, isBlank c = true) → ofTextBy read text = .ok {}) ∧
    (∀ text, ofText text = ofTextBy Document.ofText text) ∧
    (∀ (fs : FileSystem) path text, fs.read? path = some (Utf8.encode text) →
      load fs path = ofText (unifyBreaks text)) ∧
    ∀ (fs : FileSystem) path, fs.pathExists path = false → load fs path = .ok {} := by
  refine ⟨fun read text d htext hread => ⟨fun p => ?_, ?_⟩,
    fun d d' fields fields' name fallback h value => ⟨Says.congr h, Says.congr fun v => (h v).symm⟩,
    fun read text h => ofTextBy_of_blank h read, fun _ => rfl,
    fun fs path text h => load_of_read? h, fun fs path h => ?_⟩
  · rw [ofTextBy_of_read htext hread, ← ofDocument_eq_ok_iff]
    cases ofDocument d <;> simp [Except.mapError]
  · rw [ofTextBy_of_read htext hread, ← ofDocument_eq_error_iff]
    cases ofDocument d <;> simp [Except.mapError]
  · rw [load, h, if_neg Bool.false_ne_true]

/-- A project file with a name, a key that is no field, and a null field. -/
def namedText : List Char := "msggen:\n  name: a\n  other: 42\n  input:\n".toList

/-- Its data. -/
def namedData : Document where
  data := [some (.mapping [(1, 2)]), some (.text "msggen"),
    some (.mapping [(3, 4), (5, 6), (7, 8)]), some (.text "name"), some (.text "a"),
    some (.text "other"), some (.integer 42), some (.text "input"), some .null]
  root := .mapping [(1, 2)]

/-- The project file describes a project with its name, and with a number for a name it would
describe none. -/
theorem accepts_shape_named :
    ofText namedText = .ok { name := "a" } ∧
    ∃ cause, ofText "msggen:\n  name: 42\n".toList = .error (.invalid cause) := by
  obtain ⟨hshape, -, -, hof, -⟩ := accepts_shape
  constructor
  · obtain ⟨haccepted, -⟩ := hshape Document.ofText namedText namedData
      ⟨'m', by decide, by decide⟩ (by decide +kernel)
    have hfields : namedData.Holds [(1, 2)] "msggen" (.mapping [(3, 4), (5, 6), (7, 8)]) :=
      Document.value?_eq_some_iff.mp (by decide +kernel)
    rw [hof]
    refine (haccepted _).mpr ⟨_, _, rfl, hfields, .null ?_, .missing ?_, .written ?_ ?_⟩
    · exact Document.value?_eq_some_iff.mp (by decide +kernel)
    · exact Document.value?_eq_none_iff.mp (by decide +kernel)
    · exact Document.value?_eq_some_iff.mp (by decide +kernel)
    · exact ⟨'a', by decide, by decide⟩
  · obtain ⟨-, hrejected⟩ := hshape Document.ofText "msggen:\n  name: 42\n".toList
      ⟨[some (.mapping [(1, 2)]), some (.text "msggen"), some (.mapping [(3, 4)]),
        some (.text "name"), some (.integer 42)], .mapping [(1, 2)]⟩
      ⟨'m', by decide, by decide⟩ (by decide +kernel)
    rw [hof]
    exact hrejected.mpr (ofDocument_eq_error_iff.mp ⟨.field "name", by decide +kernel⟩)

end Project

end EventMessages
