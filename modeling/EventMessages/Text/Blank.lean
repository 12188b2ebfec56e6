/-!
# EventMessages.Text.Blank

Blank characters. A header line separates its fields with them, and a project field made of
nothing else counts as empty.

A character is blank when Unicode classes it as a space separator, or when the bidirectional
algorithm treats it as white space or as a separator of segments or paragraphs. The second half
adds the four information separators U+001C to U+001F to the White_Space property.
-/

namespace EventMessages.Text

/-- Blank characters: 29 code points in ten runs. -/
def isBlank (c : Char) : Bool :=
  let n := c.toNat
  (9 ≤ n && n ≤ 13) || (0x1c ≤ n && n ≤ 0x20) || n == 0x85 || n == 0xa0 || n == 0x1680 ||
    (0x2000 ≤ n && n ≤ 0x200a) || (0x2028 ≤ n && n ≤ 0x2029) || n == 0x202f || n == 0x205f ||
    n == 0x3000

/-- A text with no other characters than blanks, the empty text among them. -/
def allBlank (text : List Char) : Bool := text.all isBlank

theorem allBlank_eq_false_iff {text : List Char} :
    allBlank text = false ↔ ∃ c ∈ text, isBlank c = false := by
  simp [allBlank]

/-- The text from its first character that is not blank. -/
def skipBlanks (text : List Char) : List Char := text.dropWhile isBlank

/-- Skipping is the removal of a blank run: what is skipped is blank. -/
theorem exists_append_skipBlanks (text : List Char) :
    ∃ run, allBlank run = true ∧ run ++ skipBlanks text = text :=
  ⟨text.takeWhile isBlank, List.all_takeWhile, List.takeWhile_append_dropWhile⟩

end EventMessages.Text
