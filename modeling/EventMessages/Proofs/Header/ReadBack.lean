import EventMessages.Proofs.Header.Define
import EventMessages.Proofs.Text.Lines
import EventMessages.Proofs.Translation

/-!
# EventMessages.Proofs.Header.ReadBack

A constants file can be read back. Its lines end in LF and hold nothing else at which a reader could
break them, because neither a name nor a value of a header holds a blank (`Constant.IsPlain`). The
words of a line are separated by spaces for the same reason, so the stamp is found in the last word
of the first line and a constant in the third and the sixth word of its line
(`ConstantsFile.recover_bytes`), whatever colons, equals signs or quotes a name is made of.
-/

namespace EventMessages

open Text Digest

/-! ## Line boundaries -/

namespace Text

/-- The characters that some reader takes for the end of a line: LF, VT, FF, CR, the separators of
files, groups and records, NEL, and the separators of lines and paragraphs. -/
def isLineBoundary (c : Char) : Bool :=
  let n := c.toNat
  (0x0a ≤ n && n ≤ 0x0d) || (0x1c ≤ n && n ≤ 0x1e) || n == 0x85 || n == 0x2028 || n == 0x2029

theorem isBlank_of_isLineBoundary {c : Char} (h : isLineBoundary c = true) : isBlank c = true := by
  simp only [isLineBoundary, Bool.or_eq_true, Bool.and_eq_true, decide_eq_true_eq,
    beq_iff_eq] at h
  simp only [isBlank, Bool.or_eq_true, Bool.and_eq_true, decide_eq_true_eq, beq_iff_eq]
  omega

theorem isLineBoundary_of_isBreak {c : Char} (h : isBreak c = true) : isLineBoundary c = true := by
  rcases (by simpa [isBreak] using h : c = '\n' ∨ c = '\r') with rfl | rfl <;> decide

/-- A text that no reader breaks. -/
def IsOneLine (line : List Char) : Prop := ∀ c ∈ line, isLineBoundary c = false

instance (line : List Char) : Decidable (IsOneLine line) :=
  decidable_of_iff (line.all (fun c => !isLineBoundary c) = true) (by simp [IsOneLine])

variable {line : List Char}

theorem IsOneLine.append {other : List Char} (h : IsOneLine line) (ho : IsOneLine other) :
    IsOneLine (line ++ other) := fun c hc => (List.mem_append.mp hc).elim (h c) (ho c)

theorem isOneLine_of_not_isBlank (h : ∀ c ∈ line, isBlank c = false) : IsOneLine line := by
  intro c hc
  rw [Bool.eq_false_iff]
  intro hboundary
  have hno := h c hc
  rw [isBlank_of_isLineBoundary hboundary] at hno
  cases hno

theorem IsOneLine.unbroken (h : IsOneLine line) : Unbroken line := by
  intro c hc
  rw [Bool.eq_false_iff]
  intro hbreak
  have hno := h c hc
  rw [isLineBoundary_of_isBreak hbreak] at hno
  cases hno

/-- Lines that are written with an LF behind each are read as they were written. -/
theorem lines_flatMap_append_lf {written : List (List Char)}
    (h : ∀ line ∈ written, Unbroken line) :
    lines (written.flatMap (· ++ ['\n'])) = written.map (· ++ ['\n']) := by
  induction written with
  | nil => rfl
  | cons line written ih =>
      rw [List.flatMap_cons, List.append_assoc, List.singleton_append,
        lines_append_lf (h line List.mem_cons_self),
        ih fun other hm => h other (List.mem_cons_of_mem _ hm), List.map_cons]

/-- The words of a line, between its spaces. -/
def words (line : List Char) : List (List Char) := line.splitOnP (· == ' ')

theorem words_of_notMem {word : List Char} (h : ' ' ∉ word) : words word = [word] := by
  refine List.splitOnP_eq_singleton fun c hc => ?_
  rw [beq_eq_false_iff_ne]
  rintro rfl
  exact h hc

theorem words_append_space {word : List Char} (h : ' ' ∉ word) (rest : List Char) :
    words (word ++ ' ' :: rest) = word :: words rest := by
  rw [words, List.splitOnP_append_cons _ _ (by decide)]
  exact congrArg (· ++ words rest) (words_of_notMem h)

theorem space_notMem (h : ∀ c ∈ line, isBlank c = false) : ' ' ∉ line := fun hm => by
  have hno := h ' ' hm
  contradiction

end Text

/-! ## What a header lets through -/

/-- Neither the name nor the value holds a blank. -/
structure Constant.IsPlain (c : Constant) : Prop where
  name : ∀ x ∈ c.name.toList, isBlank x = false
  value : ∀ x ∈ c.value.toList, isBlank x = false

theorem Define.isBlank_eq_false_of_isHexDigit {c : Char} (h : isHexDigit c = true) :
    isBlank c = false := by
  have hn : 0x30 ≤ c.toNat ∧ c.toNat ≤ 0x66 := by
    simp only [isHexDigit, Bool.or_eq_true, Bool.and_eq_true, decide_eq_true_eq, Char.le_def,
      UInt32.le_iff_toNat_le, Char.reduceVal, UInt32.reduceToNat] at h
    simp only [Char.toNat]
    omega
  simp [isBlank]
  omega

/-- The constants of a header are plain. -/
theorem Constant.isPlain_of_mem_ofHeader {c : Constant} {bytes : List UInt8}
    (h : c ∈ ofHeader bytes) : c.IsPlain := by
  obtain ⟨line, -, hline⟩ := List.mem_filterMap.mp h
  obtain ⟨d, ⟨_, _, _, -, ⟨-, hname⟩, -, -, -, -, ⟨digits, -, hdigits, hvalue⟩, -⟩, rfl⟩ :=
    Define.constant_eq_some_iff.mp hline
  constructor
  · simpa using hname
  · have hx : isBlank 'x' = false := by decide
    have h0 : isBlank '0' = false := by decide
    have hall : ∀ x ∈ digits, isBlank x = false := fun x hm =>
      Define.isBlank_eq_false_of_isHexDigit (List.all_eq_true.mp hdigits x hm)
    simpa [hvalue, h0, hx] using hall

/-! ## Lines and words of a constants file -/

namespace ConstantsFile

variable {stamp : String} {constants : List Constant} {c : Constant}

/-- The lines of a constants file, without the LF that ends each. -/
def writtenLines (stamp : String) (constants : List Constant) : List (List Char) :=
  (provenance stamp).toList :: constants.map fun c => c.declaration.toList

theorem text_eq_flatMap (stamp : String) (constants : List Constant) :
    text stamp constants = (writtenLines stamp constants).flatMap (· ++ ['\n']) := by
  simp [text, writtenLines, List.flatMap_map]

theorem isBlank_eq_false_of_isDigit {x : Char} (h : isDigit x = true) : isBlank x = false :=
  Define.isBlank_eq_false_of_isHexDigit <| by
    simp only [isDigit, Bool.or_eq_true, Bool.and_eq_true, decide_eq_true_eq] at h
    simp only [Define.isHexDigit, Bool.or_eq_true, Bool.and_eq_true, decide_eq_true_eq]
    exact h.imp_left Or.inl

theorem isBlank_eq_false_of_mem_digest (hs : IsDigest stamp) :
    ∀ x ∈ stamp.toList, isBlank x = false :=
  fun x hx => isBlank_eq_false_of_isDigit (hs.digits x hx)

theorem isOneLine_provenance (hs : IsDigest stamp) : IsOneLine (provenance stamp).toList := by
  have hwords : IsOneLine "// Auto-generated from origin with SHA256".toList := by decide
  have hspace : IsOneLine [' '] := by decide
  have hstop : IsOneLine ['.'] := by decide
  have hstamp : IsOneLine stamp.toList :=
    isOneLine_of_not_isBlank (isBlank_eq_false_of_mem_digest hs)
  rw [toList_provenance]
  exact hwords.append (hspace.append (hstamp.append hstop))

theorem isOneLine_declaration (hc : c.IsPlain) : IsOneLine c.declaration.toList := by
  have hopen : IsOneLine "pub const".toList := by decide
  have hspace : IsOneLine [' '] := by decide
  have hcolon : IsOneLine [':'] := by decide
  have htype : IsOneLine " u32 =".toList := by decide
  have hend : IsOneLine [';'] := by decide
  have hname : IsOneLine c.name.toList := isOneLine_of_not_isBlank hc.name
  have hvalue : IsOneLine c.value.toList := isOneLine_of_not_isBlank hc.value
  rw [toList_declaration]
  exact hopen.append (hspace.append (hname.append (hcolon.append (htype.append
    (hspace.append (hvalue.append hend))))))

theorem isOneLine_of_mem_writtenLines (hs : IsDigest stamp) (hc : ∀ c ∈ constants, c.IsPlain) :
    ∀ line ∈ writtenLines stamp constants, IsOneLine line := by
  intro line hline
  obtain rfl | hline := List.mem_cons.mp hline
  · exact isOneLine_provenance hs
  · obtain ⟨c, hm, rfl⟩ := List.mem_map.mp hline
    exact isOneLine_declaration (hc c hm)

/-- The lines of a constants file are the line with the stamp and the declarations. -/
theorem lines_text (hs : IsDigest stamp) (hc : ∀ c ∈ constants, c.IsPlain) :
    lines (text stamp constants) = (writtenLines stamp constants).map (· ++ ['\n']) := by
  rw [text_eq_flatMap]
  exact lines_flatMap_append_lf fun line hm => (isOneLine_of_mem_writtenLines hs hc line hm).unbroken

theorem words_provenance (hs : IsDigest stamp) : words (provenance stamp).toList =
    ["//".toList, "Auto-generated".toList, "from".toList, "origin".toList, "with".toList,
      "SHA256".toList, stamp.toList ++ ['.']] := by
  have hline : (provenance stamp).toList = "//".toList ++ ' ' :: ("Auto-generated".toList ++ ' ' ::
      ("from".toList ++ ' ' :: ("origin".toList ++ ' ' :: ("with".toList ++ ' ' ::
        ("SHA256".toList ++ ' ' :: (stamp.toList ++ ['.'])))))) := by
    have hwords : "// Auto-generated from origin with SHA256".toList = "//".toList ++ ' ' ::
        ("Auto-generated".toList ++ ' ' :: ("from".toList ++ ' ' :: ("origin".toList ++ ' ' ::
          ("with".toList ++ ' ' :: "SHA256".toList)))) := by decide
    rw [toList_provenance, hwords]
    simp only [List.append_assoc, List.cons_append]
  have hstamp : ' ' ∉ stamp.toList ++ ['.'] := by
    simpa using space_notMem (isBlank_eq_false_of_mem_digest hs)
  rw [hline, words_append_space (by decide), words_append_space (by decide),
    words_append_space (by decide), words_append_space (by decide), words_append_space (by decide),
    words_append_space (by decide), words_of_notMem hstamp]

theorem words_declaration (hc : c.IsPlain) : words c.declaration.toList =
    ["pub".toList, "const".toList, c.name.toList ++ [':'], "u32".toList, "=".toList,
      c.value.toList ++ [';']] := by
  have hline : c.declaration.toList = "pub".toList ++ ' ' :: ("const".toList ++ ' ' ::
      ((c.name.toList ++ [':']) ++ ' ' :: ("u32".toList ++ ' ' :: ("=".toList ++ ' ' ::
        (c.value.toList ++ [';']))))) := by
    have hopen : "pub const".toList = "pub".toList ++ ' ' :: "const".toList := by decide
    have htype : " u32 =".toList = ' ' :: ("u32".toList ++ ' ' :: "=".toList) := by decide
    rw [toList_declaration, hopen, htype]
    simp only [List.append_assoc, List.cons_append, List.nil_append]
  have hname : ' ' ∉ c.name.toList ++ [':'] := by simpa using space_notMem hc.name
  have hvalue : ' ' ∉ c.value.toList ++ [';'] := by simpa using space_notMem hc.value
  rw [hline, words_append_space (by decide), words_append_space (by decide),
    words_append_space hname, words_append_space (by decide), words_append_space (by decide),
    words_of_notMem hvalue]

/-! ## Reading back -/

/-- The stamp that a first line names in its last word. -/
def stampOf (line : List Char) : String :=
  String.ofList (((words line).getLastD []).dropLast)

/-- The constant that a declaration names in its third word and in its sixth. -/
def constantOf? (line : List Char) : Option Constant :=
  match words line with
  | [_, _, name, _, _, value] => some ⟨String.ofList name.dropLast, String.ofList value.dropLast⟩
  | _ => none

/-- The stamp and the constants that a constants file was written from. -/
def recover (bytes : List UInt8) : String × List Constant :=
  match lines (Utf8.decodeLossy bytes) with
  | [] => ("", [])
  | first :: others =>
    (stampOf first.dropLast, others.filterMap fun line => constantOf? line.dropLast)

theorem stampOf_provenance (hs : IsDigest stamp) : stampOf (provenance stamp).toList = stamp := by
  rw [stampOf, words_provenance hs]
  simp

theorem constantOf?_declaration (hc : c.IsPlain) : constantOf? c.declaration.toList = some c := by
  rw [constantOf?, words_declaration hc]
  simp

/-- **Reading back**: a constants file tells its stamp and its constants. -/
theorem recover_bytes (hs : IsDigest stamp) (hc : ∀ c ∈ constants, c.IsPlain) :
    recover (ConstantsFile.bytes stamp constants) = (stamp, constants) := by
  have hconstants : (constants.map fun c => c.declaration.toList ++ ['\n']).filterMap
      (fun line => constantOf? line.dropLast) = constants := by
    rw [List.filterMap_map]
    calc constants.filterMap _ = constants.filterMap some :=
          List.filterMap_congr fun c hm => by simp [constantOf?_declaration (hc c hm)]
      _ = constants := List.filterMap_some
  rw [recover, ConstantsFile.bytes, Utf8.decodeLossy_encode, lines_text hs hc]
  simp only [writtenLines, List.map_cons, List.map_map, Function.comp_def, hconstants,
    List.dropLast_concat, stampOf_provenance hs]

/-- Constants files are the same only if they were written from the same. -/
theorem bytes_eq_iff {stamp' : String} {constants' : List Constant} (hs : IsDigest stamp)
    (hs' : IsDigest stamp') (hc : ∀ c ∈ constants, c.IsPlain)
    (hc' : ∀ c ∈ constants', c.IsPlain) :
    ConstantsFile.bytes stamp constants = ConstantsFile.bytes stamp' constants' ↔
      stamp = stamp' ∧ constants = constants' := by
  constructor
  · intro h
    have hrecover := congrArg recover h
    rw [recover_bytes hs hc, recover_bytes hs' hc'] at hrecover
    exact Prod.mk.inj hrecover
  · rintro ⟨rfl, rfl⟩
    rfl

/-- The lines of the bytes: each is ended by LF, and no reader breaks the text anywhere else. -/
def HasWrittenLines (bytes : List UInt8) (written : List (List Char)) : Prop :=
  bytes = Utf8.encode (written.flatMap (· ++ ['\n'])) ∧ ∀ line ∈ written, IsOneLine line

theorem hasWrittenLines_bytes (hs : IsDigest stamp) (hc : ∀ c ∈ constants, c.IsPlain) :
    HasWrittenLines (ConstantsFile.bytes stamp constants) (writtenLines stamp constants) :=
  ⟨congrArg Utf8.encode (text_eq_flatMap stamp constants), isOneLine_of_mem_writtenLines hs hc⟩

end ConstantsFile

/-! ## Translations -/

namespace FileSystem

/-- A translation that succeeds: it reads `bytes` from the header, counts `count` constants and
leaves `written` as the constants file. A header that is its own constants file is read when no more
than the first line can stand in it. -/
def Translates (fs : FileSystem) (header generated stamp : String) (bytes : List UInt8)
    (count : Nat) (written : List UInt8) : Prop :=
  ∃ source found files, fs.content header = .ok (source, found) ∧
    fs.translate header generated stamp = (files, .ok count) ∧
    bytes = (if files.target generated = .ok source then ConstantsFile.begun stamp else found) ∧
    files.read? generated = some written

variable {fs : FileSystem} {header generated stamp : String} {bytes written : List UInt8}
  {count : Nat}

/-- What a translation reads and the stamp are all that its constants file is made of. -/
theorem Translates.eq_bytes (h : fs.Translates header generated stamp bytes count written) :
    count = (Constant.ofHeader bytes).length ∧
      written = ConstantsFile.bytes stamp (Constant.ofHeader bytes) := by
  obtain ⟨source, found, files, hheader, htranslate, hbytes, hread⟩ := h
  obtain ⟨source', found', made, location, hc, -, hnul, ht, rfl, hcount⟩ :=
    translate_eq_ok htranslate
  obtain ⟨rfl, rfl⟩ : source = source' ∧ found = found' := by
    rw [hheader] at hc
    simpa using hc
  have hsame : (if source = location then ConstantsFile.begun stamp else found) = bytes := by
    rw [hbytes, (target_put_file _ ht).1]
    simp only [Except.ok.injEq, eq_comm]
  rw [hsame] at hcount hread
  rw [read?_put_file hnul ht] at hread
  exact ⟨hcount, (Option.some.inj hread).symm⟩

theorem exists_translates_iff :
    (∃ bytes count written, fs.Translates header generated stamp bytes count written) ↔
      (fs.read? header).isSome = true ∧ (fs.openForWriting generated).2.isOk = true := by
  have hok : (fs.translate header generated stamp).2.isOk = true ↔ _ := translate_isOk_iff
  rw [← hok]
  constructor
  · rintro ⟨bytes, count, written, source, found, files, -, h, -⟩
    rw [h]
    rfl
  · intro h
    rcases ht : fs.translate header generated stamp with ⟨files, answer⟩
    rw [ht] at h
    cases answer with
    | error failure => cases h
    | ok count =>
        obtain ⟨source, found, made, location, hc, -, hnul, hl, rfl, -⟩ := translate_eq_ok ht
        exact ⟨_, count, _, source, found, _, hc, ht, rfl, read?_put_file hnul hl⟩

/-- **A constants file can be read back**: a translation of any bytes under a digest leaves one more
line than it counts constants, each ended by LF with no other line boundary in the text, and the
first of them names the digest. The digest and the constants can be told from the file, so two
constants files are the same exactly when their digests are and the constants of their headers are,
one by one and in the same order. -/
theorem translate_reads_back :
    (∀ (fs : FileSystem) header generated stamp,
      (fs.read? header).isSome = true → (fs.openForWriting generated).2.isOk = true →
      ∃ bytes count written, fs.Translates header generated stamp bytes count written) ∧
    (∀ (fs : FileSystem) header generated stamp bytes count written, IsDigest stamp →
      fs.Translates header generated stamp bytes count written →
      (∃ others, others.length = count ∧
        ConstantsFile.HasWrittenLines written ((provenance stamp).toList :: others)) ∧
      ConstantsFile.recover written = (stamp, Constant.ofHeader bytes)) ∧
    ∀ (fs fs' : FileSystem) header header' generated generated' stamp stamp' bytes bytes' count
        count' written written', IsDigest stamp → IsDigest stamp' →
      fs.Translates header generated stamp bytes count written →
      fs'.Translates header' generated' stamp' bytes' count' written' →
      (written = written' ↔
        stamp = stamp' ∧ Constant.ofHeader bytes = Constant.ofHeader bytes') := by
  have hplain (bytes : List UInt8) : ∀ c ∈ Constant.ofHeader bytes, c.IsPlain :=
    fun c hc => Constant.isPlain_of_mem_ofHeader hc
  refine ⟨fun fs header generated stamp hheader hopen => exists_translates_iff.mpr ⟨hheader, hopen⟩,
    ?_, ?_⟩
  · intro fs header generated stamp bytes count written hs h
    obtain ⟨rfl, rfl⟩ := h.eq_bytes
    exact ⟨⟨_, List.length_map _, ConstantsFile.hasWrittenLines_bytes hs (hplain bytes)⟩,
      ConstantsFile.recover_bytes hs (hplain bytes)⟩
  · intro fs fs' header header' generated generated' stamp stamp' bytes bytes' count count' written
      written' hs hs' h h'
    obtain ⟨-, rfl⟩ := h.eq_bytes
    obtain ⟨-, rfl⟩ := h'.eq_bytes
    exact ConstantsFile.bytes_eq_iff hs hs' (hplain bytes) (hplain bytes')

/-- A directory that holds a header and nothing else. -/
def headerTree (bytes : List UInt8) : FileSystem := ⟨[], [(["a.h"], .file bytes)]⟩

/-- Whatever bytes a header is made of, it can be translated. -/
theorem translates_headerTree (bytes : List UInt8) (stamp : String) :
    (headerTree bytes).Translates "a.h" "a.rs" stamp bytes (Constant.ofHeader bytes).length
      (ConstantsFile.bytes stamp (Constant.ofHeader bytes)) := by
  have hheader : (headerTree bytes).content "a.h" = .ok (["a.h"], bytes) := rfl
  have htarget : (headerTree bytes).target "a.rs" = .ok ["a.rs"] := rfl
  have hnul : hasNul "a.rs" = false := by decide
  have hother : (["a.h"] : Location) ≠ ["a.rs"] := by decide
  refine ⟨["a.h"], bytes, _, hheader, translate_of_target hheader hnul htarget hother, ?_,
    read?_put_file hnul htarget⟩
  rw [(target_put_file _ htarget).1, if_neg (by decide)]

/-- A header whose only name is made of what stands between a name and its value. -/
def confusing : List UInt8 := Utf8.encode "#define A:u32=0x2; 0x1L\n".toList

/-- It can be translated, and its constants file tells the name and the digest and differs from that
of an empty header. -/
theorem translate_reads_back_confusing :
    (∃ bytes count written,
      (headerTree confusing).Translates "a.h" "a.rs" (ofContent []) bytes count written) ∧
    ConstantsFile.recover (ConstantsFile.bytes (ofContent []) (Constant.ofHeader confusing)) =
      (ofContent [], [⟨"A:u32=0x2;", "0x1"⟩]) ∧
    ConstantsFile.bytes (ofContent []) (Constant.ofHeader confusing) ≠
      ConstantsFile.bytes (ofContent []) (Constant.ofHeader []) := by
  have hconstants : Constant.ofHeader confusing = [⟨"A:u32=0x2;", "0x1"⟩] := by decide +kernel
  have hs : IsDigest (ofContent []) := isDigest_ofContent []
  have hconfusing := translates_headerTree confusing (ofContent [])
  obtain ⟨htranslates, hback, hsame⟩ := translate_reads_back
  refine ⟨htranslates _ _ _ _ (by decide +kernel) (by decide +kernel), ?_, ?_⟩
  · rw [← hconstants]
    exact (hback _ _ _ _ _ _ _ hs hconfusing).2
  · rw [Ne, hsame _ _ _ _ _ _ _ _ _ _ _ _ _ _ hs hs hconfusing (translates_headerTree [] _),
      hconstants]
    rintro ⟨-, h⟩
    cases h

end FileSystem

end EventMessages
