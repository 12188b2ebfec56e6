import EventMessages.Proofs.Frame
import EventMessages.Proofs.Header.Define
import EventMessages.Proofs.Text.Lines
import EventMessages.Proofs.Text.Malformed

/-!
# EventMessages.Proofs.Header.Transcript

What a translation writes, said without the machines that write it.

The bytes of a header read as one text, and that text has one list of logical lines. Each line that
spells a definition gives one declaration, in order, below the line with the stamp. A header that is
its own constants file has been emptied before it is read. Nothing is found in it, or the line with
the stamp, if that line has been written out by then. No other file is touched.
-/

namespace EventMessages

open Text

/-! ## The lines of a file -/

/-- The logical lines of the text that a file holds. -/
def HasLines (bytes : List UInt8) (others : List (List Char)) : Prop :=
  ∃ text, Utf8.Reads bytes text ∧ LogicalLines text others

theorem exists_hasLines (bytes : List UInt8) : ∃ others, HasLines bytes others := by
  obtain ⟨others, h⟩ := exists_logicalLines (Utf8.decodeLossy bytes)
  exact ⟨others, _, Utf8.reads_iff.mpr rfl, h⟩

variable {bytes : List UInt8} {others others' : List (List Char)}

theorem HasLines.unique (h : HasLines bytes others) (h' : HasLines bytes others') :
    others = others' := by
  obtain ⟨text, hreads, hlines⟩ := h
  obtain ⟨text', hreads', hlines'⟩ := h'
  obtain rfl : text = text' := by
    rw [← Utf8.reads_iff.mp hreads, Utf8.reads_iff.mp hreads']
  exact hlines.unique hlines'

/-- The constants of a header are those of its logical lines. -/
theorem HasLines.ofHeader_eq (h : HasLines bytes others) :
    Constant.ofHeader bytes = others.filterMap Constant.ofLine? := by
  obtain ⟨text, hreads, hlines⟩ := h
  rw [Constant.ofHeader, Constant.ofLines, Utf8.reads_iff.mp hreads]
  exact hlines.filterMap_lines (Define.constant_append (by decide))

/-! ## The constants file -/

namespace ConstantsFile

/-- A constants file as it is read: the stamp, and a declaration for each constant. -/
def transcript (stamp : String) (constants : List Constant) : String :=
  "// Auto-generated from origin with SHA256 " ++ stamp ++ ".\n" ++
    String.join (constants.map fun c => "pub const " ++ c.name ++ ": u32 = " ++ c.value ++ ";\n")

theorem provenance_append (stamp : String) :
    "// Auto-generated from origin with SHA256 " ++ stamp ++ ".\n" = provenance stamp ++ "\n" := by
  have hstop : ".\n" = "." ++ "\n" := by decide
  exact (congrArg _ hstop).trans String.append_assoc.symm

theorem declaration_append (c : Constant) :
    "pub const " ++ c.name ++ ": u32 = " ++ c.value ++ ";\n" = c.declaration ++ "\n" := by
  have htype : ": u32 = " = ": " ++ ("u32" ++ " = ") := by decide
  have hend : ";\n" = ";" ++ "\n" := by decide
  rw [Constant.declaration, Constant.typeName, htype, hend]
  simp only [String.append_assoc]

theorem toList_transcript (stamp : String) (constants : List Constant) :
    (transcript stamp constants).toList = text stamp constants := by
  have hlf : "\n".toList = ['\n'] := by decide
  have htranscript : transcript stamp constants =
      provenance stamp ++ "\n" ++ String.join (constants.map fun c => c.declaration ++ "\n") :=
    congrArg₂ (· ++ ·) (provenance_append stamp)
      (congrArg (fun f => String.join (constants.map f)) (funext declaration_append))
  rw [htranscript, text]
  simp only [String.toList_append, String.toList_join, List.flatMap_map, hlf, List.append_assoc,
    List.singleton_append]

/-- The bytes of a constants file are those of its text. -/
theorem bytes_eq_transcript (stamp : String) (constants : List Constant) :
    ConstantsFile.bytes stamp constants = (transcript stamp constants).toUTF8.data.toList := by
  rw [ConstantsFile.bytes, ← toList_transcript, Utf8.encode_toList]

theorem length_bytes (stamp : String) (constants : List Constant) :
    (ConstantsFile.bytes stamp constants).length = (transcript stamp constants).toUTF8.size := by
  rw [bytes_eq_transcript, Array.length_toList]
  rfl

theorem toList_provenance (stamp : String) : (provenance stamp).toList =
    "// Auto-generated from origin with SHA256 ".toList ++ stamp.toList ++ ".".toList :=
  String.toList_append.trans (congrArg (· ++ ".".toList) String.toList_append)

/-- The line with the stamp is no shorter than the stamp. -/
theorem length_le_size_transcript (stamp : String) :
    stamp.toList.length ≤ (transcript stamp []).toUTF8.size := by
  have hstamp : stamp.toList <:+: (provenance stamp).toList := by
    rw [toList_provenance]
    exact ⟨_, _, rfl⟩
  have hline : (provenance stamp).toList <+: text stamp [] := by
    rw [text]
    exact List.prefix_append _ _
  rw [← length_bytes]
  calc stamp.toList.length
      ≤ (provenance stamp).toList.length := hstamp.length_le
    _ ≤ (text stamp []).length := hline.length_le
    _ ≤ (ConstantsFile.bytes stamp []).length := Utf8.length_le_length_encode _

/-- A short first line waits in the buffer. -/
theorem begun_of_lt {stamp : String} (h : (transcript stamp []).toUTF8.size < bufferSize) :
    begun stamp = [] := by
  rw [begun, length_bytes, if_pos h]

/-- A long one has been written out. -/
theorem begun_of_le {stamp : String} (h : bufferSize ≤ (transcript stamp []).toUTF8.size) :
    begun stamp = (transcript stamp []).toUTF8.data.toList := by
  rw [begun, length_bytes, if_neg (Nat.not_lt.mpr h), bytes_eq_transcript]

end ConstantsFile

/-! ## Translations -/

namespace FileSystem

variable {fs : FileSystem} {header generated : String} {source : Location}

/-- **What a translation writes**: when the header can be opened and the constants file can be
opened for writing, the translation succeeds. It writes the line with the stamp and a declaration
for each logical line of the header that spells a definition, and counts these lines. A header that
is its own constants file has been emptied: if the line with the stamp fits into the buffer of the
file, none is found, and otherwise those are that the stamp itself breaks this line into. No other
file changes. -/
theorem translate_writes_definitions (hheader : fs.content header = .ok (source, bytes))
    (hopen : (fs.openForWriting generated).2.isOk = true) (stamp : String) :
    ∃ lines own files count, (∀ others, HasLines bytes others ↔ others = lines) ∧
      (∀ others, HasLines (ConstantsFile.transcript stamp []).toUTF8.data.toList others ↔
        others = own) ∧
      fs.translate header generated stamp = (files, .ok count) ∧
      (files.target generated ≠ .ok source →
        count = lines.countP (fun line => (Constant.ofLine? line).isSome) ∧
        files.read? generated = some (ConstantsFile.transcript stamp
          (lines.filterMap Constant.ofLine?)).toUTF8.data.toList) ∧
      (files.target generated = .ok source →
        (ConstantsFile.transcript stamp []).toUTF8.size < ConstantsFile.bufferSize →
          count = 0 ∧ files.read? generated =
            some (ConstantsFile.transcript stamp []).toUTF8.data.toList) ∧
      (files.target generated = .ok source →
        ConstantsFile.bufferSize ≤ (ConstantsFile.transcript stamp []).toUTF8.size →
          count = own.countP (fun line => (Constant.ofLine? line).isSome) ∧
          files.read? generated = some (ConstantsFile.transcript stamp
            (own.filterMap Constant.ofLine?)).toUTF8.data.toList) ∧
      ∀ location, files.target generated ≠ .ok location → ∀ content,
        files.item? location = some (.file content) ↔ fs.item? location = some (.file content) := by
  obtain ⟨lines, hlines⟩ := exists_hasLines bytes
  obtain ⟨own, hown⟩ := exists_hasLines (ConstantsFile.transcript stamp []).toUTF8.data.toList
  have hok : (fs.translate header generated stamp).2.isOk = true :=
    translate_isOk_iff.mpr ⟨by rw [read?_of_content hheader]; rfl, hopen⟩
  rcases htranslate : fs.translate header generated stamp with ⟨files, answer⟩
  rw [htranslate] at hok
  cases answer with
  | error failure => cases hok
  | ok count =>
  obtain ⟨source', bytes', made, location, hc, -, hnul, ht, hfiles, hcount⟩ :=
    translate_eq_ok htranslate
  obtain ⟨rfl, rfl⟩ : source = source' ∧ bytes = bytes' := by
    rw [hheader] at hc
    simpa using hc
  have htarget : files.target generated = .ok location := by
    rw [hfiles]
    exact (target_put_file _ ht).1
  have hread : files.read? generated = some (ConstantsFile.transcript stamp (Constant.ofHeader
      (if source = location then ConstantsFile.begun stamp else bytes))).toUTF8.data.toList := by
    rw [hfiles, read?_put_file hnul ht, ConstantsFile.bytes_eq_transcript]
  refine ⟨lines, own, files, count, fun others => ⟨fun h => h.unique hlines, fun h => h ▸ hlines⟩,
    fun others => ⟨fun h => h.unique hown, fun h => h ▸ hown⟩, rfl, fun hother => ?_,
    fun hsame hshort => ?_, fun hsame hlong => ?_, fun place hplace => ?_⟩
  · have hne : source ≠ location := by
      rintro rfl
      exact hother htarget
    rw [if_neg hne, hlines.ofHeader_eq] at hcount hread
    rw [hcount, List.length_filterMap_eq_countP]
    exact ⟨rfl, hread⟩
  · obtain rfl : location = source := Except.ok.inj (htarget.symm.trans hsame)
    rw [if_pos rfl, ConstantsFile.begun_of_lt hshort] at hcount hread
    exact ⟨hcount, hread⟩
  · obtain rfl : location = source := Except.ok.inj (htarget.symm.trans hsame)
    rw [if_pos rfl, ConstantsFile.begun_of_le hlong, hown.ofHeader_eq] at hcount hread
    rw [hcount, List.length_filterMap_eq_countP]
    exact ⟨rfl, hread⟩
  · refine (writesOnly_of_translate htranslate).frame.other place fun path hpath => ?_
    obtain rfl : generated = path := by simpa using hpath
    exact hplace

/-- A header with each kind of break, and with a byte that is no text in a name. -/
def mixedHeader : List UInt8 :=
  Utf8.encode "#define A 0x1\r#define B".toList ++
    0xff :: Utf8.encode " 0x2\r\nnone\n#define A ((DWORD)0x3L)".toList

/-- That header and nothing else. -/
def mixedTree : FileSystem := ⟨[], [(["a.h"], .file mixedHeader)]⟩

theorem hasLines_mixedHeader : HasLines mixedHeader ["#define A 0x1".toList,
    "#define B\uFFFD 0x2".toList, "none".toList, "#define A ((DWORD)0x3L)".toList] := by
  refine ⟨_, Utf8.reads_iff.mpr rfl, ?_⟩
  have htext : Utf8.decodeLossy mixedHeader = "#define A 0x1".toList ++ '\r' ::
      ("#define B\uFFFD 0x2".toList ++ '\r' :: '\n' :: ("none".toList ++ '\n' ::
        "#define A ((DWORD)0x3L)".toList)) := by decide +kernel
  have hunbroken : Unbroken "#define A 0x1".toList ∧ Unbroken "#define B\uFFFD 0x2".toList ∧
      Unbroken "none".toList ∧ Unbroken "#define A ((DWORD)0x3L)".toList := by decide +kernel
  obtain ⟨hA, hB, hnone, hA'⟩ := hunbroken
  rw [htext]
  exact .cr hA (by decide +kernel) (.crlf hB (.lf hnone (.last (by decide) hA')))

/-- Three of its four lines spell a definition, and two of these have one name. -/
theorem translate_writes_definitions_mixed :
    ∃ files, mixedTree.translate "a.h" "out/a.rs" "00" = (files, .ok 3) ∧
      files.read? "out/a.rs" = some (ConstantsFile.transcript "00"
        [⟨"A", "0x1"⟩, ⟨"B\uFFFD", "0x2"⟩, ⟨"A", "0x3"⟩]).toUTF8.data.toList := by
  have hheader : mixedTree.content "a.h" = .ok (["a.h"], mixedHeader) := by decide +kernel
  have hopen : (mixedTree.openForWriting "out/a.rs").2.isOk = true := by decide +kernel
  obtain ⟨lines, own, files, count, hlines, -, htranslate, hother, -⟩ :=
    translate_writes_definitions hheader hopen "00"
  have htarget : (mixedTree.translate "a.h" "out/a.rs" "00").1.target "out/a.rs" ≠ .ok ["a.h"] := by
    decide +kernel
  rw [htranslate] at htarget
  obtain ⟨hcount, hread⟩ := hother htarget
  rw [← (hlines _).mp hasLines_mixedHeader] at hcount hread
  have hthree : count = 3 := by
    rw [hcount]
    decide +kernel
  have hconstants : [
      "#define A 0x1".toList, "#define B\uFFFD 0x2".toList, "none".toList,
      "#define A ((DWORD)0x3L)".toList].filterMap Constant.ofLine? =
      [⟨"A", "0x1"⟩, ⟨"B\uFFFD", "0x2"⟩, ⟨"A", "0x3"⟩] := by decide +kernel
  rw [hconstants] at hread
  rw [hthree] at htranslate
  exact ⟨files, htranslate, hread⟩

/-- A stamp that breaks the first line before and after this line. -/
def brokenStamp (line rest : List Char) : String :=
  String.ofList ('\n' :: (line ++ '\n' :: rest))

theorem toList_brokenStamp (line rest : List Char) :
    (brokenStamp line rest).toList = '\n' :: (line ++ '\n' :: rest) := String.toList_ofList

/-- That line is a logical line then. -/
theorem exists_hasLines_brokenStamp {line rest : List Char} (hline : Unbroken line)
    (hrest : Unbroken rest) : ∃ front back,
      HasLines (ConstantsFile.transcript (brokenStamp line rest) []).toUTF8.data.toList
        [front, line, back] := by
  have hopening : Unbroken "// Auto-generated from origin with SHA256 ".toList := by
    decide +kernel
  have hclosing : Unbroken (rest ++ ".".toList) := by
    intro c hc
    obtain hc | hc := List.mem_append.mp hc
    · exact hrest c hc
    · exact (by decide : Unbroken ".".toList) c hc
  have htext : ConstantsFile.text (brokenStamp line rest) [] =
      "// Auto-generated from origin with SHA256 ".toList ++ '\n' ::
        (line ++ '\n' :: ((rest ++ ".".toList) ++ '\n' :: [])) := by
    rw [ConstantsFile.text, ConstantsFile.toList_provenance, toList_brokenStamp, List.flatMap_nil]
    generalize "// Auto-generated from origin with SHA256 ".toList = front
    simp only [List.append_assoc, List.cons_append]
  have hlines := LogicalLines.lf hopening (.lf hline (.lf hclosing .nil))
  rw [← htext, ← ConstantsFile.toList_transcript] at hlines
  have hreads : Utf8.Reads (ConstantsFile.transcript (brokenStamp line rest) []).toUTF8.data.toList
      (ConstantsFile.transcript (brokenStamp line rest) []).toList := by
    rw [Utf8.reads_iff, ← Utf8.encode_toList, Utf8.decodeLossy_encode]
  exact ⟨_, _, _, hreads, hlines⟩

/-- A definition in such a stamp, which is too long for the buffer. -/
def longStamp : String :=
  brokenStamp "#define A 0x1".toList (List.replicate ConstantsFile.bufferSize 'x')

theorem bufferSize_le_longStamp :
    ConstantsFile.bufferSize ≤ (ConstantsFile.transcript longStamp []).toUTF8.size := by
  have hrest (line rest : List Char) : rest <:+ (brokenStamp line rest).toList := by
    rw [toList_brokenStamp]
    exact ((List.suffix_cons _ _).trans (List.suffix_append _ _)).trans (List.suffix_cons _ _)
  calc ConstantsFile.bufferSize
      = (List.replicate ConstantsFile.bufferSize 'x').length := List.length_replicate.symm
    _ ≤ longStamp.toList.length := (hrest _ _).length_le
    _ ≤ (ConstantsFile.transcript longStamp []).toUTF8.size :=
      ConstantsFile.length_le_size_transcript longStamp

/-- A header that is its own constants file. -/
def selfTree : FileSystem := ⟨[], [(["g.rs"], .file (Utf8.encode "#define B 0x2\n".toList))]⟩

/-- A header that is its own constants file need not be without constants. -/
theorem not_forall_none_of_target_eq :
    ¬ ∀ (fs files : FileSystem) (header generated stamp : String) (source : Location)
      (bytes : List UInt8) (count : Nat),
      fs.content header = .ok (source, bytes) → (fs.openForWriting generated).2.isOk = true →
      fs.translate header generated stamp = (files, .ok count) →
      files.target generated = .ok source →
      count = 0 ∧ files.read? generated =
        some (ConstantsFile.transcript stamp []).toUTF8.data.toList := by
  intro hnone
  have hheader : selfTree.content "g.rs" =
      .ok (["g.rs"], Utf8.encode "#define B 0x2\n".toList) := by decide +kernel
  have htarget : selfTree.target "g.rs" = .ok ["g.rs"] := by decide +kernel
  obtain ⟨hcount, -⟩ := hnone selfTree _ "g.rs" "g.rs" longStamp ["g.rs"] _ _ hheader
    (by decide +kernel) (translate_of_target_self hheader (by decide) htarget)
    (target_put_file _ htarget).1
  -- the definition in the stamp has been read, for the first line was not in the buffer any more
  have hrest : Unbroken (List.replicate ConstantsFile.bufferSize 'x') := by
    intro c hc
    rw [List.eq_of_mem_replicate hc]
    decide
  obtain ⟨front, back, hlines⟩ := exists_hasLines_brokenStamp
    (by decide +kernel : Unbroken "#define A 0x1".toList) hrest
  rw [ConstantsFile.begun_of_le bufferSize_le_longStamp, longStamp, hlines.ofHeader_eq,
    List.length_eq_zero_iff, List.filterMap_eq_nil_iff] at hcount
  have hdefinition := hcount "#define A 0x1".toList (List.mem_cons_of_mem _ List.mem_cons_self)
  exact absurd hdefinition (by decide +kernel)

end FileSystem

end EventMessages
