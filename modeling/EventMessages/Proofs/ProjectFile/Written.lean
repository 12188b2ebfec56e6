import EventMessages.Proofs.ProjectFile.Shape
import EventMessages.Proofs.Text.Lines
import EventMessages.Proofs.Yaml.Filling
import Mathlib.Data.List.Nodup

/-!
# EventMessages.Proofs.ProjectFile.Written

Project files that are written by a program: the word of the section, and below it one line for each
field that is set, with its text in single quotes.

```
msggen:
  name: 'it''s: # mine'
  input: 'res\messages.mc'
```

Such a file describes the project with these fields (`Project.load_written`). Nothing in a text has
to be looked after but its single quotes, as long as it stays on its line.
-/

namespace EventMessages.Project

open Text Yaml

/-! ## Fields -/

/-- The fields that a project file may set. -/
inductive Field where
  | input
  | resDir
  | name
  deriving DecidableEq, Repr

def Field.key : Field → String
  | .input => "input"
  | .resDir => "res_dir"
  | .name => "name"

/-- The text of a field. -/
def field (p : Project) : Field → String
  | .input => p.input
  | .resDir => p.resDir
  | .name => p.name

/-- The texts that can be the values of fields and that single quotes keep as they are. -/
structure IsWritable (value : String) : Prop where
  visible : ∃ c ∈ value.toList, isBlank c = false
  allowed : ∀ c ∈ value.toList, isAllowed c = true
  unbroken : ∀ c ∈ value.toList, Yaml.isBreak c = false

instance (value : String) : Decidable (IsWritable value) :=
  decidable_of_iff (allBlank value.toList = false ∧ value.toList.all isAllowed = true ∧
      value.toList.all (fun c => !Yaml.isBreak c) = true) <| by
    constructor
    · rintro ⟨hvisible, hallowed, hunbroken⟩
      exact ⟨allBlank_eq_false_iff.mp hvisible, List.all_eq_true.mp hallowed,
        by simpa using hunbroken⟩
    · intro h
      exact ⟨allBlank_eq_false_iff.mpr h.visible, List.all_eq_true.mpr h.allowed,
        by simpa using h.unbroken⟩

/-! ## Lines -/

/-- The line of a field. -/
def settingLine (setting : Field × String) : List Char :=
  "  ".toList ++ setting.1.key.toList ++ ": ".toList ++ Quoted.writeSingle setting.2.toList

/-- The lines of a project file that sets these fields. -/
def fileLines (settings : List (Field × String)) : List (List Char) :=
  "msggen:".toList :: settings.map settingLine

/-- The section of such a file. -/
def fileSection (settings : List (Field × String)) : Section :=
  ⟨sectionKey.toList, settings.map fun setting => ⟨setting.1.key.toList, setting.2.toList⟩⟩

variable {settings : List (Field × String)} {f : Field} {value : String}

theorem isWord_sectionKey : IsWord sectionKey.toList where
  nonempty := by decide
  chars := List.all_eq_true.mp (by decide)
  short := by decide
  text := by decide

theorem Field.isWord_key (f : Field) : IsWord f.key.toList := by
  cases f <;> exact ⟨by decide, List.all_eq_true.mp (by decide), by decide, by decide⟩

theorem isPlain_fileSection (hne : settings ≠ [])
    (hvalues : ∀ setting ∈ settings, IsWritable setting.2) :
    (fileSection settings).IsPlain where
  word := isWord_sectionKey
  entries e he := by
    obtain ⟨setting, hsetting, rfl⟩ := List.mem_map.mp he
    exact ⟨setting.1.isWord_key, (hvalues setting hsetting).unbroken⟩
  nonempty := by simpa [fileSection] using hne

/-- The lines with an LF in front of each but the first. -/
theorem flatMap_fileLines (settings : List (Field × String)) :
    (fileLines settings).flatMap (fun line => '\n' :: line) =
      '\n' :: (fileSection settings).text := by
  simp [fileLines, fileSection, Section.text, sectionKey, settingLine, Entry.text, List.flatMap_map]

theorem isAllowed_text (hvalues : ∀ setting ∈ settings, IsWritable setting.2) :
    ∀ c ∈ (fileSection settings).text, isAllowed c = true := by
  have hkeys : ∀ (f : Field), ∀ c ∈ f.key.toList, isAllowed c = true := by
    intro f
    cases f <;> exact List.all_eq_true.mp (by decide)
  have hquoted : ∀ setting ∈ settings, ∀ c ∈ Quoted.writeSingle setting.2.toList,
      isAllowed c = true := by
    intro setting hsetting c hc
    simp only [Quoted.writeSingle, List.mem_cons, List.mem_append, Quoted.mem_doubleQuotes_iff,
      List.not_mem_nil, or_false] at hc
    rcases hc with rfl | hc | rfl
    · decide
    · exact (hvalues setting hsetting).allowed c hc
    · decide
  intro c hc
  simp only [Section.text, fileSection, Entry.text, List.mem_append, List.mem_cons,
    List.mem_flatMap, List.mem_map] at hc
  rcases hc with hc | rfl | ⟨_, ⟨setting, hsetting, rfl⟩, rfl | rfl | rfl | hc | rfl | rfl | hc⟩
  · exact List.all_eq_true.mp (by decide : sectionKey.toList.all isAllowed = true) c hc
  · decide
  · decide
  · decide
  · decide
  · exact hkeys setting.1 c hc
  · decide
  · decide
  · exact hquoted setting hsetting c hc

/-! ## Data -/

/-- The data of a project file that sets these fields. -/
def fileData (settings : List (Field × String)) : Document :=
  ⟨(fileSection settings).data, .mapping [(1, 2)]⟩

/-- Entries whose keys and values are those of the settings. -/
def Sets (d : Document) (fields : List (NodeId × NodeId)) (settings : List (Field × String)) :
    Prop :=
  List.Forall₂ (fun place setting => d.datumAt place.1 = .text setting.1.key ∧
    d.datumAt place.2 = .text setting.2) fields settings

variable {d : Document} {fields : List (NodeId × NodeId)}

theorem Field.key_injective : Function.Injective Field.key := by
  intro f g
  cases f <;> cases g <;> decide

theorem Sets.lacks (h : Sets d fields settings) (hf : f ∉ settings.map Prod.fst) :
    d.Lacks fields f.key := by
  intro place hplace htext
  induction h with
  | nil => cases hplace
  | @cons first setting fields settings hfirst hothers ih =>
      rw [List.map_cons, List.mem_cons, not_or] at hf
      rcases List.mem_cons.mp hplace with rfl | hplace
      · exact hf.1 (Field.key_injective (Datum.text.inj (htext.symm.trans hfirst.1)))
      · exact ih hf.2 hplace

theorem Sets.holds (h : Sets d fields settings) (hkeys : (settings.map Prod.fst).Nodup)
    (hmem : (f, value) ∈ settings) : d.Holds fields f.key (.text value) := by
  induction h with
  | nil => cases hmem
  | @cons place setting fields settings hfirst hothers ih =>
      rw [List.map_cons, List.nodup_cons] at hkeys
      rcases List.mem_cons.mp hmem with rfl | hmem
      · exact ⟨[], place, fields, rfl, hfirst.1, hfirst.2, Sets.lacks hothers hkeys.1⟩
      · obtain ⟨before, entry, after, rfl, hheld⟩ := ih hkeys.2 hmem
        exact ⟨place :: before, entry, after, rfl, hheld⟩

theorem fileData_sets (settings : List (Field × String)) :
    Sets (fileData settings) (placesFrom 3 (fileSection settings).entries) settings := by
  have hplaces := Document.forall₂_placesFrom (d := fileData settings)
    (fileSection settings).entries
    [some (.mapping [(1, 2)]), some (.text (String.ofList (fileSection settings).word)),
      some (.mapping (placesFrom 3 (fileSection settings).entries))] rfl
  have hsettings := List.forall₂_map_right_iff.mp hplaces
  simpa [Sets, String.ofList_toList] using hsettings

/-- A field has the text that is set for it, or else its default. -/
theorem Sets.exists_text (h : Sets d fields settings) (hkeys : (settings.map Prod.fst).Nodup)
    (hvalues : ∀ setting ∈ settings, IsWritable setting.2) (f : Field) :
    ∃ value, Says d fields f.key (({} : Project).field f) value ∧
      (∀ set, (f, set) ∈ settings → value = set) ∧
      (f ∉ settings.map Prod.fst → value = ({} : Project).field f) := by
  by_cases hf : f ∈ settings.map Prod.fst
  · obtain ⟨⟨_, value⟩, hmem, rfl⟩ := List.mem_map.mp hf
    refine ⟨value, .written (h.holds hkeys hmem) (hvalues _ hmem).visible, fun set hset => ?_,
      fun hnot => absurd hf hnot⟩
    exact congrArg Prod.snd (List.inj_on_of_nodup_map hkeys hmem hset rfl)
  · refine ⟨({} : Project).field f, .missing (h.lacks hf), fun set hset => ?_, fun _ => rfl⟩
    exact absurd (List.mem_map_of_mem hset) hf

/-- The data of a project file describe the project with these fields. -/
theorem exists_describes (hkeys : (settings.map Prod.fst).Nodup)
    (hvalues : ∀ setting ∈ settings, IsWritable setting.2) :
    ∃ p, Describes (fileData settings) p ∧ (∀ f value, (f, value) ∈ settings → p.field f = value) ∧
      ∀ f, f ∉ settings.map Prod.fst → p.field f = ({} : Project).field f := by
  have hsets := fileData_sets settings
  choose text htext hset hdefault using hsets.exists_text hkeys hvalues
  have hfield : ∀ f, field ⟨text .input, text .resDir, text .name⟩ f = text f := by
    intro f
    cases f <;> rfl
  have hsection : (fileData settings).Holds [(1, 2)] "msggen"
      (.mapping (placesFrom 3 (fileSection settings).entries)) :=
    ⟨[], (1, 2), [], rfl, congrArg Datum.text String.ofList_toList, rfl, by simp⟩
  refine ⟨⟨text .input, text .resDir, text .name⟩,
    ⟨_, _, rfl, hsection, htext .input, htext .resDir, htext .name⟩, ?_, ?_⟩
  · intro f value hmem
    rw [hfield, hset f value hmem]
  · intro f hf
    rw [hfield, hdefault f hf]

/-! ## Files -/

/-- **A project file that was written**: when fields are set to texts that single quotes keep, the
file with their lines describes the project with these fields, and with the defaults of all others.
The fields may come in any order, and it matters neither which breaks end the lines nor whether one
ends the last. -/
theorem load_written {fs : FileSystem} {path : String} {text : List Char} (hne : settings ≠ [])
    (hkeys : (settings.map Prod.fst).Nodup) (hvalues : ∀ setting ∈ settings, IsWritable setting.2)
    (htext : LogicalLines text (fileLines settings))
    (hread : fs.read? path = some (Utf8.encode text)) :
    ∃ p, load fs path = .ok p ∧ (∀ f value, (f, value) ∈ settings → p.field f = value) ∧
      ∀ f, f ∉ settings.map Prod.fst → p.field f = ({} : Project).field f := by
  obtain ⟨p, hdescribes, hset, hdefault⟩ := exists_describes hkeys hvalues
  refine ⟨p, ?_, hset, hdefault⟩
  obtain ⟨ending, hending, hunify⟩ := htext.unifyBreaks_eq
  rw [flatMap_fileLines, List.cons_append] at hunify
  have hdata : Document.ofText (unifyBreaks text) = .ok (fileData settings) := by
    rw [(List.cons.inj hunify).2]
    exact Document.ofText_text (isPlain_fileSection hne hvalues) hending (isAllowed_text hvalues)
  have hvisible : ∃ c ∈ unifyBreaks text, isBlank c = false := by
    rw [(List.cons.inj hunify).2]
    exact ⟨'m', by simp [Section.text, fileSection, sectionKey], by decide⟩
  rw [load_of_read? hread, ofText, ofTextBy_of_read hvisible hdata,
    ofDocument_eq_ok_iff.mpr hdescribes]
  rfl

/-- A name with quotes, marks of the format and blanks in it, and a definition that looks like a
null. -/
def quotedSettings : List (Field × String) := [(.name, " it's: # \"a\\b\" é\t"), (.input, "null")]

/-- The project file that sets them. -/
def quotedText : List Char := "msggen:\n  name: ' it''s: # \"a\\b\" é\t'\n  input: 'null'\n".toList

/-- A tree with this project file. -/
def quotedTree : FileSystem := ⟨[], [(["msggen.yaml"], .file (Utf8.encode quotedText))]⟩

/-- Both texts are read as they were. -/
theorem load_written_quoted : quotedTree.read? "msggen.yaml" = some (Utf8.encode quotedText) ∧
    load quotedTree "msggen.yaml" = .ok { name := " it's: # \"a\\b\" é\t", input := "null" } := by
  have hread : quotedTree.read? "msggen.yaml" = some (Utf8.encode quotedText) := by decide +kernel
  have htext : LogicalLines quotedText (fileLines quotedSettings) := by
    have hlines : quotedText = (fileLines quotedSettings).flatMap fun line => line ++ ['\n'] := by
      decide +kernel
    rw [hlines]
    exact logicalLines_flatMap (by decide +kernel)
  have hvalues : ∀ setting ∈ quotedSettings, IsWritable setting.2 := by
    simp only [quotedSettings, List.forall_mem_cons]
    exact ⟨by decide, by decide, List.forall_mem_nil _⟩
  obtain ⟨⟨input, resDir, name⟩, hload, hset, hdefault⟩ :=
    load_written (by decide) (by decide) hvalues htext hread
  obtain rfl : name = " it's: # \"a\\b\" é\t" := hset .name _ (by decide)
  obtain rfl : input = "null" := hset .input _ (by decide)
  obtain rfl : resDir = "res" := hdefault .resDir (by decide)
  exact ⟨hread, hload⟩

end EventMessages.Project
