import EventMessages.Proofs.FileSystem.Contents
import EventMessages.Proofs.Header.Transcript
import EventMessages.Proofs.Text.Seam
import Mathlib.Data.List.Infix

/-!
# EventMessages.Proofs.Header.Lines

A header is translated line by line. Its bytes can be cut at every LF and at every CR, and the
pieces read one by one (`Constant.ofHeader_eq_filterMap`): a sequence that a break cuts short ends
with its line, and the empty piece inside a CR LF defines nothing. So a line that is damaged,
truncated or no text at all has no bearing on the constants of another line, and neither has the way
in which the lines end.
-/

namespace EventMessages

open Text

/-! ## Pieces between breaks -/

namespace Text

/-- A byte that ends a line or belongs to what ends it. -/
def isBreakByte (b : UInt8) : Bool := b == 0x0a || b == 0x0d

theorem isBreakByte_iff {b : UInt8} : isBreakByte b = true ↔ b = 0x0a ∨ b = 0x0d := by
  simp [isBreakByte]

/-- The empty pieces apart, the pieces between breaks are the logical lines. -/
theorem LogicalLines.filterMap_splitOnP {α : Type} {f : List Char → Option α}
    (hf : f [] = none) {text : List Char} {others : List (List Char)}
    (h : LogicalLines text others) :
    (text.splitOnP isBreak).filterMap f = others.filterMap f := by
  have hlf : isBreak '\n' = true := by decide
  have hcr : isBreak '\r' = true := by decide
  induction h with
  | nil => simp [hf]
  | last _ hline => rw [List.splitOnP_eq_singleton hline]
  | lf hline _ ih =>
      rw [List.splitOnP_append_cons _ _ hlf, List.splitOnP_eq_singleton hline,
        List.singleton_append, List.filterMap_cons, List.filterMap_cons, ih]
  | @crlf line rest others hline _ ih =>
      -- the piece between CR and LF is empty
      have hcut : line ++ '\r' :: '\n' :: rest = (line ++ '\r' :: []) ++ '\n' :: rest := by simp
      rw [hcut, List.splitOnP_append_cons _ _ hlf, List.splitOnP_append_cons _ _ hcr,
        List.splitOnP_eq_singleton hline, List.splitOnP_nil, List.singleton_append,
        List.cons_append, List.singleton_append, List.filterMap_cons, List.filterMap_cons_none hf,
        List.filterMap_cons, ih]
  | cr hline _ _ ih =>
      rw [List.splitOnP_append_cons _ _ hcr, List.splitOnP_eq_singleton hline,
        List.singleton_append, List.filterMap_cons, List.filterMap_cons, ih]

/-- A break is one byte, and this byte stands for nothing else. -/
theorem exists_break_of_isBreakByte {b : UInt8} (h : isBreakByte b = true) :
    ∃ c, isBreak c = true ∧ Utf8.encode [c] = [b] := by
  rcases isBreakByte_iff.mp h with rfl | rfl
  · exact ⟨'\n', by decide, by decide⟩
  · exact ⟨'\r', by decide, by decide⟩

theorem isBreak_of_mem_decodeLossy {bytes : List UInt8} {c : Char}
    (hbytes : ∀ b ∈ bytes, isBreakByte b = false) (hc : c ∈ Utf8.decodeLossy bytes) :
    isBreak c = false := by
  have hsearch : ∀ b, isBreakByte b = true → Utf8.encode [c] = [b] → c ≠ '\uFFFD' → False := by
    intro b hb hencode hne
    have hi : Utf8.encode [c] <:+: bytes :=
      (Utf8.infix_decodeLossy_iff (by simpa using hne.symm) bytes).mp
        ((List.singleton_infix_iff c _).mpr hc)
    have hno := hbytes b (hi.subset (by simp [hencode]))
    rw [hb] at hno
    cases hno
  rw [Bool.eq_false_iff]
  intro hbreak
  rcases (by simpa [isBreak] using hbreak : c = '\n' ∨ c = '\r') with rfl | rfl
  · exact hsearch 0x0a (by decide) (by decide) (by decide)
  · exact hsearch 0x0d (by decide) (by decide) (by decide)

/-- Bytes that are cut at the breaks and then read are cut as they are read. -/
theorem splitOnP_decodeLossy (bytes : List UInt8) :
    (Utf8.decodeLossy bytes).splitOnP isBreak =
      (bytes.splitOnP isBreakByte).map Utf8.decodeLossy := by
  induction hn : bytes.length using Nat.strongRecOn generalizing bytes with
  | _ n ih =>
  by_cases hbytes : ∀ b ∈ bytes, isBreakByte b = false
  · rw [List.splitOnP_eq_singleton hbytes,
      List.splitOnP_eq_singleton fun c hc => isBreak_of_mem_decodeLossy hbytes hc, List.map_singleton]
  · obtain ⟨b, hmem, hb⟩ : ∃ b ∈ bytes, isBreakByte b = true := by simpa using hbytes
    obtain ⟨front, back, rfl⟩ := List.append_of_mem hmem
    obtain ⟨c, hc, hencode⟩ := exists_break_of_isBreakByte hb
    have hread := Utf8.decodeLossy_append_encode (List.cons_ne_nil c []) front back
    rw [hencode] at hread
    simp only [List.length_append, List.length_cons] at hn
    simp only [List.singleton_append] at hread
    rw [hread, List.splitOnP_append_cons _ _ hc, List.splitOnP_append_cons _ _ hb, List.map_append,
      ih front.length (by omega) front rfl, ih back.length (by omega) back rfl]

/-- The ways to end a line: LF, CR LF and CR. -/
def lineBreaks : List (List UInt8) := [[0x0a], [0x0d, 0x0a], [0x0d]]

/-- The bytes with another break in place of every LF. -/
def withBreaks (brk bytes : List UInt8) : List UInt8 :=
  bytes.flatMap fun b => if b = 0x0a then brk else [b]

end Text

/-! ## Headers -/

namespace Constant

/-- **A header, line by line**: its constants are those of the pieces between its breaks, each read
on its own. -/
theorem ofHeader_eq_filterMap (bytes : List UInt8) : ofHeader bytes =
    (bytes.splitOnP isBreakByte).filterMap fun line => ofLine? (Utf8.decodeLossy line) := by
  obtain ⟨others, text, hreads, hlines⟩ := exists_hasLines bytes
  have hpieces := hlines.filterMap_splitOnP (f := ofLine?) rfl
  rw [HasLines.ofHeader_eq ⟨text, hreads, hlines⟩, ← hpieces, ← Utf8.reads_iff.mp hreads,
    splitOnP_decodeLossy, List.filterMap_map]
  rfl

theorem ofHeader_append_cons {b : UInt8} (h : isBreakByte b = true) (front back : List UInt8) :
    ofHeader (front ++ b :: back) = ofHeader front ++ ofHeader back := by
  rw [ofHeader_eq_filterMap, List.splitOnP_append_cons _ _ h, List.filterMap_append,
    ← ofHeader_eq_filterMap, ← ofHeader_eq_filterMap]

/-- What stands on the two sides of a break is translated apart. -/
theorem ofHeader_append_break {brk : List UInt8} (h : brk ∈ lineBreaks)
    (front back : List UInt8) :
    ofHeader (front ++ brk ++ back) = ofHeader front ++ ofHeader back := by
  have hlf : isBreakByte 0x0a = true := by decide
  have hcr : isBreakByte 0x0d = true := by decide
  rw [List.append_assoc]
  simp only [lineBreaks, List.mem_cons, List.not_mem_nil, or_false] at h
  rcases h with rfl | rfl | rfl
  · exact ofHeader_append_cons hlf front back
  · have hempty : ofHeader (0x0a :: back) = ofHeader back := ofHeader_append_cons hlf [] back
    rw [List.cons_append, ofHeader_append_cons hcr, List.singleton_append, hempty]
  · exact ofHeader_append_cons hcr front back

/-- It does not matter how the lines of a header end. -/
theorem ofHeader_append_withBreaks {brk : List UInt8} (h : brk ∈ lineBreaks)
    (front bytes : List UInt8) :
    ofHeader (front ++ withBreaks brk bytes) = ofHeader (front ++ bytes) := by
  induction bytes generalizing front with
  | nil => rfl
  | cons b bytes ih =>
      by_cases hb : b = 0x0a
      · subst hb
        have hcut : withBreaks brk (0x0a :: bytes) = brk ++ ([] ++ withBreaks brk bytes) := by
          simp [withBreaks]
        rw [hcut, ← List.append_assoc, ofHeader_append_break h, ih [], List.nil_append,
          ofHeader_append_cons (by decide)]
      · have hkeep : withBreaks brk (b :: bytes) = b :: withBreaks brk bytes := by
          simp [withBreaks, hb]
        rw [hkeep, List.append_cons, ih, ← List.append_cons]

end Constant

/-! ## Translations -/

namespace FileSystem

variable {fs : FileSystem} {header generated stamp : String} {source : Location}
variable {brk bytes : List UInt8}

/-- A header whose lines end in another way is translated alike. -/
theorem translate_withBreaks (h : brk ∈ lineBreaks)
    (hheader : fs.content header = .ok (source, bytes)) (generated stamp : String) :
    ((fs.put source (.file (withBreaks brk bytes))).translate header generated stamp).2 =
        (fs.translate header generated stamp).2 ∧
      ((fs.put source (.file (withBreaks brk bytes))).translate header generated stamp).1.read?
          generated =
        (fs.translate header generated stamp).1.read? generated := by
  obtain ⟨hnul, ht, hi⟩ := content_eq_ok_iff.mp hheader
  obtain ⟨ht', hi'⟩ := target_put_file (withBreaks brk bytes) ht
  have hother : (fs.put source (.file (withBreaks brk bytes))).content header =
      .ok (source, withBreaks brk bytes) := content_eq_ok_iff.mpr ⟨hnul, ht', hi'⟩
  have hconstants : Constant.ofHeader (withBreaks brk bytes) = Constant.ofHeader bytes :=
    Constant.ofHeader_append_withBreaks h [] bytes
  obtain ⟨opened, otherOpened, answer, hopen, hopen', -⟩ :=
    ((sameBut_put_of_file hi (withBreaks brk bytes)).openForWriting generated).exists_eq
  unfold translate
  rw [hheader, hother, hopen, hopen']
  cases answer with
  | error fault =>
      exact ⟨rfl, by rw [(openForWriting_eq_error hopen).2, (openForWriting_eq_error hopen').2]⟩
  | ok location =>
      obtain ⟨made, -, hnul', hlocation, rfl⟩ := openForWriting_eq_ok hopen
      obtain ⟨otherMade, -, -, hlocation', rfl⟩ := openForWriting_eq_ok hopen'
      dsimp only
      rw [put_put, put_put, read?_put_file hnul' hlocation, read?_put_file hnul' hlocation']
      by_cases he : source = location
      · rw [if_pos he, if_pos he]
        exact ⟨rfl, rfl⟩
      · rw [if_neg he, if_neg he, hconstants]
        exact ⟨rfl, rfl⟩

/-- **Line by line**: the constants on the two sides of a break are found apart, so the bytes of a
line, whatever they are, have no bearing on the constants of the other lines. A translation into
another file counts these constants and writes them under the stamp. With another break in place of
every LF the answer and the constants file stay as they are. -/
theorem translate_line_by_line :
    (∀ brk ∈ lineBreaks, ∀ front back,
      Constant.ofHeader (front ++ brk ++ back) =
        Constant.ofHeader front ++ Constant.ofHeader back) ∧
    (∀ brk ∈ lineBreaks, ∀ brk' ∈ lineBreaks, ∀ before line after,
      Constant.ofHeader (before ++ brk ++ line ++ brk' ++ after) =
        Constant.ofHeader before ++ Constant.ofHeader line ++ Constant.ofHeader after) ∧
    ∀ (fs : FileSystem) header source bytes, fs.content header = .ok (source, bytes) →
      ∀ generated stamp,
        (∀ files count, fs.translate header generated stamp = (files, .ok count) →
          files.target generated ≠ .ok source →
          count = (Constant.ofHeader bytes).length ∧
          files.read? generated =
            some (ConstantsFile.bytes stamp (Constant.ofHeader bytes))) ∧
        ∀ brk ∈ lineBreaks, ∀ ended otherEnded,
          ended = fs.translate header generated stamp →
          otherEnded = (fs.put source (.file (withBreaks brk bytes))).translate header generated
            stamp →
          otherEnded.2 = ended.2 ∧ otherEnded.1.read? generated = ended.1.read? generated := by
  refine ⟨fun brk h front back => Constant.ofHeader_append_break h front back,
    fun brk h brk' h' before line after => ?_, fun fs header source bytes hheader generated stamp =>
      ⟨fun files count ht hne => read?_of_translate_of_ne hheader ht hne,
        fun brk h ended otherEnded he he' => ?_⟩⟩
  · rw [Constant.ofHeader_append_break h', Constant.ofHeader_append_break h]
  · rw [he, he']
    exact translate_withBreaks h hheader generated stamp

/-- A line that ends inside a character. -/
def cutLine : List UInt8 := Utf8.encode "#define A 0x1L".toList ++ [0xe2, 0x82]

/-- A header with that line and another one. -/
def cutTree : FileSystem :=
  ⟨[], [(["a.h"], .file (cutLine ++ [0x0a] ++ Utf8.encode "#define B 0x2".toList))]⟩

/-- Both lines give their constants, also when the first one ends in CR LF. -/
theorem translate_line_by_line_cut :
    (cutTree.translate "a.h" "a.rs" "00").1.read? "a.rs" =
      some (ConstantsFile.bytes "00" [⟨"A", "0x1"⟩, ⟨"B", "0x2"⟩]) ∧
    ((cutTree.put ["a.h"] (.file (withBreaks [0x0d, 0x0a]
      (cutLine ++ [0x0a] ++ Utf8.encode "#define B 0x2".toList)))).translate "a.h" "a.rs" "00").2 =
        .ok 2 := by
  obtain ⟨hjoin, -, htranslate⟩ := translate_line_by_line
  have hheader : cutTree.content "a.h" =
      .ok (["a.h"], cutLine ++ [0x0a] ++ Utf8.encode "#define B 0x2".toList) := by decide +kernel
  have hconstants : Constant.ofHeader (cutLine ++ [0x0a] ++ Utf8.encode "#define B 0x2".toList) =
      [⟨"A", "0x1"⟩, ⟨"B", "0x2"⟩] := by
    rw [hjoin [0x0a] (by decide)]
    decide +kernel
  have hanswer : (cutTree.translate "a.h" "a.rs" "00").2 = .ok 2 := by decide +kernel
  have hended : cutTree.translate "a.h" "a.rs" "00" =
      ((cutTree.translate "a.h" "a.rs" "00").1, .ok 2) := by rw [← hanswer]
  have hother : (cutTree.translate "a.h" "a.rs" "00").1.target "a.rs" ≠ .ok ["a.h"] := by
    decide +kernel
  obtain ⟨hwritten, hbreaks⟩ := htranslate cutTree "a.h" ["a.h"] _ hheader "a.rs" "00"
  obtain ⟨-, hread⟩ := hwritten _ 2 hended hother
  obtain ⟨hsame, -⟩ := hbreaks [0x0d, 0x0a] (by decide) _ _ rfl rfl
  exact ⟨by rw [hread, hconstants], by rw [hsame, hanswer]⟩

end FileSystem

end EventMessages
