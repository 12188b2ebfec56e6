import EventMessages.Yaml.Fault

/-!
# EventMessages.Yaml.Source

The characters of a YAML text and the place of a reader among them.

The functions that read a part of the text take the characters from some place on and give what
they read and what is left, so they know nothing of places. A `Cursor` adds the line and the column
for those who need them: simple keys, which must end on their line, and block collections, whose
extent is told by columns.
-/

namespace EventMessages.Yaml

/-! ## Characters -/

/-- The characters that a YAML text may hold. -/
def isAllowed (c : Char) : Bool :=
  let n := c.toNat
  n == 0x9 || n == 0xa || n == 0xd || (0x20 ≤ n && n ≤ 0x7e) || n == 0x85 ||
    (0xa0 ≤ n && n ≤ 0xd7ff) || (0xe000 ≤ n && n ≤ 0xfffd) || 0x10000 ≤ n

/-- A line break, or a part of one. -/
def isBreak (c : Char) : Bool :=
  c == '\n' || c == '\r' || c == '\x85' || c == '\u2028' || c == '\u2029'

/-- White space within a line. -/
def isSpace (c : Char) : Bool := c == ' ' || c == '\t'

/-- A letter, a digit, a hyphen or an underscore: what names are made of. -/
def isNameChar (c : Char) : Bool :=
  ('0' ≤ c && c ≤ '9') || ('A' ≤ c && c ≤ 'Z') || ('a' ≤ c && c ≤ 'z') || c == '-' || c == '_'

/-- The value of a hexadecimal digit. -/
def hexDigitValue? (c : Char) : Option Nat :=
  if '0' ≤ c ∧ c ≤ '9' then some (c.toNat - '0'.toNat)
  else if 'a' ≤ c ∧ c ≤ 'f' then some (c.toNat - 'a'.toNat + 10)
  else if 'A' ≤ c ∧ c ≤ 'F' then some (c.toNat - 'A'.toNat + 10)
  else none

/-- Whether a text is at the end of a line. -/
def atLineEnd : List Char → Bool
  | [] => true
  | c :: _ => isBreak c

/-- Whether a text is at the end of a word. -/
def atWordEnd : List Char → Bool
  | [] => true
  | c :: _ => isSpace c || isBreak c

/-- Whether a text is at a blank or at the end of a line. Tabs do not count. -/
def atBlank : List Char → Bool
  | [] => true
  | c :: _ => c == ' ' || isBreak c

/-- Whether a text starts with this character. -/
def startsWith (c : Char) (text : List Char) : Bool := text.head? == some c

/-- Whether a text is at a line that separates documents. The place is taken to be the start of a
line. -/
def atSeparator : List Char → Bool
  | '-' :: '-' :: '-' :: rest => atWordEnd rest
  | '.' :: '.' :: '.' :: rest => atWordEnd rest
  | _ => false

/-- The line break at the start of a text and what follows it. All breaks are LF, but for the line
and paragraph separators, which stay what they are. -/
def takeBreak? : List Char → Option (Char × List Char)
  | '\r' :: '\n' :: rest => some ('\n', rest)
  | '\r' :: rest => some ('\n', rest)
  | '\n' :: rest => some ('\n', rest)
  | '\x85' :: rest => some ('\n', rest)
  | '\u2028' :: rest => some ('\u2028', rest)
  | '\u2029' :: rest => some ('\u2029', rest)
  | _ => none

/-- The text after the line break it starts with, if any. -/
def dropBreak (text : List Char) : List Char :=
  match takeBreak? text with
  | none => text
  | some (_, rest) => rest

/-- The text from the end of its first line. -/
def dropLine : List Char → List Char
  | [] => []
  | c :: rest => if isBreak c then c :: rest else dropLine rest

/-- The text from its first character that is no blank. -/
def dropBlanks (text : List Char) : List Char := text.dropWhile (· == ' ')

/-- What is left of a line that may hold a comment, its break included. Anything else is a
fault. -/
def dropRestOfLine (text : List Char) : Except Fault (List Char) :=
  let text := dropBlanks text
  let text := if startsWith '#' text then dropLine text else text
  if atLineEnd text then .ok (dropBreak text) else .error .malformed

/-! ## Places -/

/-- A place in a text: what follows, and where the place is. -/
structure Cursor where
  rest : List Char
  /-- The number of characters before. -/
  index : Nat := 0
  /-- The number of line breaks before. -/
  line : Nat := 0
  /-- The number of characters before on the same line, byte order marks left out. -/
  column : Nat := 0
  deriving DecidableEq, Repr

namespace Cursor

/-- The place after the next character. A CR before an LF ends no line by itself. -/
def next (c : Cursor) : Cursor :=
  match c.rest with
  | [] => c
  | ch :: rest =>
    if ch == '\r' && startsWith '\n' rest then ⟨rest, c.index + 1, c.line, c.column + 1⟩
    else if isBreak ch then ⟨rest, c.index + 1, c.line + 1, 0⟩
    else if ch == '\uFEFF' then ⟨rest, c.index + 1, c.line, c.column⟩
    else ⟨rest, c.index + 1, c.line, c.column + 1⟩

/-- The place `n` characters on. -/
def skip : Nat → Cursor → Cursor
  | 0, c => c
  | n + 1, c => skip n c.next

/-- The place where this is what follows. -/
def moveTo (c : Cursor) (rest : List Char) : Cursor := c.skip (c.rest.length - rest.length)

theorem rest_next (c : Cursor) : c.next.rest = c.rest.tail := by
  unfold next
  split
  · simp_all
  · next h => simp only [h, List.tail_cons]; split <;> (try split) <;> (try split) <;> rfl

theorem rest_skip (n : Nat) (c : Cursor) : (c.skip n).rest = c.rest.drop n := by
  induction n generalizing c with
  | zero => rfl
  | succ n ih => simp [skip, ih, rest_next]

/-- Moving to an end of the text reaches it. -/
theorem rest_moveTo {c : Cursor} {read rest : List Char} (h : c.rest = read ++ rest) :
    (c.moveTo rest).rest = rest := by
  simp [moveTo, rest_skip, h]

end Cursor

end EventMessages.Yaml
