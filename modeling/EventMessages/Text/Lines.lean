/-!
# EventMessages.Text.Lines

Lines of a text file. A line ends at LF, CR LF or CR and nowhere else; on reading, each of the
three becomes LF. A line keeps its LF, so the lines of a text, put together, are the text.
-/

namespace EventMessages.Text

/-- The text with every line break written as LF. -/
def unifyBreaks : List Char → List Char
  | [] => []
  | '\r' :: '\n' :: rest => '\n' :: unifyBreaks rest
  | '\r' :: rest => '\n' :: unifyBreaks rest
  | c :: rest => c :: unifyBreaks rest

/-- The lines of a text, each with the LF that ends it. The last one may lack it. -/
def lines : List Char → List (List Char)
  | [] => []
  | c :: rest =>
    if c = '\n' then ['\n'] :: lines rest
    else
      match lines rest with
      | [] => [[c]]
      | line :: others => (c :: line) :: others

/-- Lines put together are the text. -/
@[simp] theorem flatten_lines (text : List Char) : (lines text).flatten = text := by
  induction text with
  | nil => rfl
  | cons c rest ih =>
    unfold lines
    split
    · simp_all
    · split <;> simp_all

end EventMessages.Text
