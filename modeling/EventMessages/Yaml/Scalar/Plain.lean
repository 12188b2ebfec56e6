import EventMessages.Yaml.Source

/-!
# EventMessages.Yaml.Scalar.Plain

Plain scalars: text without quotes. A plain scalar is a row of words with blanks or line breaks
between them. A word ends at a blank, at a line break, at a colon that ends a word itself, and in
flow collections at the characters that structure them. Between words a single line break counts
as a blank, and of several the first is dropped. The scalar ends where a comment starts, where a
document does, and where the text is less indented than its collection.
-/

namespace EventMessages.Yaml.Plain

/-- The characters that structure flow collections. -/
def isFlowMark (c : Char) : Bool :=
  c == ',' || c == '[' || c == ']' || c == '{' || c == '}'

/-- Whether a colon before this text ends a key. -/
def endsKey (flow : Bool) (text : List Char) : Bool :=
  atWordEnd text || (flow && text.head?.any isFlowMark)

/-- Whether a word ends before this character, given what follows the character. -/
def endsWord (flow : Bool) (c : Char) (rest : List Char) : Bool :=
  isSpace c || isBreak c || (c == ':' && endsKey flow rest) ||
    (flow && (isFlowMark c || c == '?'))

/-- The word at the start of a text and what follows it. -/
def takeWord (flow : Bool) : List Char → List Char × List Char
  | [] => ([], [])
  | c :: rest =>
    if endsWord flow c rest then ([], c :: rest)
    else
      let (word, left) := takeWord flow rest
      (c :: word, left)

/-- What stands between two words. -/
structure Gap where
  /-- What it amounts to. There is no further word when it is empty. -/
  text : List Char
  /-- What follows. -/
  rest : List Char
  /-- Whether it goes on to another line. -/
  crossesLine : Bool
  /-- The column after it. -/
  column : Nat
  deriving DecidableEq, Repr

/-- The line breaks and the indentation after a first line break. -/
structure Breaks where
  breaks : List Char
  rest : List Char
  column : Nat
  /-- Whether a document ends there. -/
  separated : Bool
  deriving DecidableEq, Repr

/-- One more break in front of what follows it. Nothing more is read when a document ends there. -/
def Breaks.after (lineBreak : Char) (rest : List Char) (more : Breaks) : Breaks :=
  if atSeparator rest then ⟨[lineBreak], rest, 0, true⟩
  else { more with breaks := lineBreak :: more.breaks }

/-- Reads line breaks and indentation from this column on. -/
def takeBreaks (column : Nat) : List Char → Breaks
  | [] => ⟨[], [], column, false⟩
  | ' ' :: rest => takeBreaks (column + 1) rest
  | '\r' :: '\n' :: rest => .after '\n' rest (takeBreaks 0 rest)
  | '\r' :: rest => .after '\n' rest (takeBreaks 0 rest)
  | '\n' :: rest => .after '\n' rest (takeBreaks 0 rest)
  | '\x85' :: rest => .after '\n' rest (takeBreaks 0 rest)
  | '\u2028' :: rest => .after '\u2028' rest (takeBreaks 0 rest)
  | '\u2029' :: rest => .after '\u2029' rest (takeBreaks 0 rest)
  | c :: rest => ⟨[], c :: rest, column, false⟩

/-- A line break and those after it: a single LF amounts to a blank, and of several breaks an LF
in front is dropped. -/
def foldBreaks (first : Char) (others : List Char) : List Char :=
  if first = '\n' then (if others = [] then [' '] else others) else first :: others

/-- The gap at the start of a text, which stands at the given column. -/
def takeGap (column : Nat) (text : List Char) : Gap :=
  let blanks := text.takeWhile (· == ' ')
  let rest := dropBlanks text
  match takeBreak? rest with
  | none => ⟨blanks, rest, false, column + blanks.length⟩
  | some (first, rest) =>
    if atSeparator rest then ⟨[], rest, true, 0⟩
    else
      let more := takeBreaks 0 rest
      ⟨if more.separated then [] else foldBreaks first more.breaks, more.rest, true, more.column⟩

/-- A plain scalar that was read: its text, what follows, and whether a line was crossed after its
last word. -/
structure Scan where
  text : List Char
  rest : List Char
  crossesLine : Bool
  deriving DecidableEq, Repr

/-- The columns that a word takes: byte order marks take none. -/
def width (word : List Char) : Nat := (word.filter (· != '\uFEFF')).length

/-- Reads at most `n` words. Outside flow collections they must not stand left of the margin. -/
def scanWords (flow : Bool) (margin : Nat) : Nat → Nat → List Char → Scan → Scan
  | 0, _, _, done => done
  | n + 1, column, pending, done =>
    if startsWith '#' done.rest then done
    else
      match takeWord flow done.rest with
      | ([], _) => done
      | (word, rest) =>
        let text := done.text ++ pending ++ word
        let gap := takeGap (column + width word) rest
        let scan := ⟨text, gap.rest, gap.crossesLine⟩
        if gap.text = [] || startsWith '#' gap.rest || (!flow && gap.column < margin) then scan
        else scanWords flow margin n gap.column gap.text scan

/-- Reads a plain scalar that starts at this column. -/
def scan (flow : Bool) (margin column : Nat) (text : List Char) : Scan :=
  scanWords flow margin (text.length + 1) column [] ⟨[], text, false⟩

end EventMessages.Yaml.Plain
