import EventMessages.Text.Blank

/-!
# EventMessages.Header.Define

The lines of a compiled header that give a message its number:

```
#define NAME gap ( (CAST) blanks 0xHEX rest
```

The name is a run of characters that are not blank. At least one blank follows it; the opening
parenthesis, the cast and further blanks may be missing; the value is a hexadecimal literal, and
whatever follows its last digit is left alone. `Define.Spells` states this grammar and
`Define.ofLine?` reads it.
-/

namespace EventMessages

open Text

/-- A definition found at the start of a line. -/
structure Define where
  name : List Char
  /-- The cast with its parentheses. -/
  cast? : Option (List Char)
  /-- The literal with its `0x`. -/
  value : List Char
  /-- What follows the literal. -/
  rest : List Char
  deriving DecidableEq, Repr

namespace Define

/-! ## The grammar -/

/-- A letter of a cast. -/
def isLetter (c : Char) : Bool := ('A' ≤ c && c ≤ 'Z') || ('a' ≤ c && c ≤ 'z')

/-- A digit of a value. -/
def isHexDigit (c : Char) : Bool :=
  ('0' ≤ c && c ≤ '9') || ('A' ≤ c && c ≤ 'F') || ('a' ≤ c && c ≤ 'f')

/-- What a line must start with. -/
def keyword : List Char := ['#', 'd', 'e', 'f', 'i', 'n', 'e', ' ']

/-- A cast: letters in parentheses, at least one. -/
def IsCast (cast : List Char) : Prop :=
  ∃ letters, letters ≠ [] ∧ letters.all isLetter = true ∧ cast = '(' :: letters ++ [')']

/-- A value: hexadecimal digits after `0x`, at least one. -/
def IsValue (value : List Char) : Prop :=
  ∃ digits, digits ≠ [] ∧ digits.all isHexDigit = true ∧ value = '0' :: 'x' :: digits

/-- The line is this definition, and the value is not cut short. -/
def Spells (line : List Char) (d : Define) : Prop :=
  ∃ gap paren blanks,
    line = keyword ++ d.name ++ gap ++ paren ++ d.cast?.getD [] ++ blanks ++ d.value ++ d.rest ∧
    (d.name ≠ [] ∧ ∀ c ∈ d.name, isBlank c = false) ∧
    (gap ≠ [] ∧ allBlank gap = true) ∧
    (paren = [] ∨ paren = ['(']) ∧
    (∀ cast ∈ d.cast?, IsCast cast) ∧
    allBlank blanks = true ∧
    IsValue d.value ∧
    ∀ c ∈ d.rest.head?, isHexDigit c = false

/-! ## Reading -/

/-- The text after a given start. -/
def after? : List Char → List Char → Option (List Char)
  | [], text => some text
  | _ :: _, [] => none
  | c :: start, d :: text => if c = d then after? start text else none

/-- A value after any number of blanks, and what follows it. -/
def readValue? (text : List Char) : Option (List Char × List Char) :=
  match skipBlanks text with
  | '0' :: 'x' :: more =>
    match more.takeWhile isHexDigit with
    | [] => none
    | digits => some ('0' :: 'x' :: digits, more.dropWhile isHexDigit)
  | _ => none

/-- A cast and what follows it. -/
def readCast? : List Char → Option (List Char × List Char)
  | '(' :: more =>
    match more.takeWhile isLetter, more.dropWhile isLetter with
    | [], _ => none
    | letters, ')' :: rest => some ('(' :: letters ++ [')'], rest)
    | _, _ => none
  | _ => none

/-- A value with a cast before it. -/
def readCastValue? (text : List Char) : Option (Option (List Char) × List Char × List Char) := do
  let (cast, more) ← readCast? text
  let (value, rest) ← readValue? more
  pure (some cast, value, rest)

/-- A value without a cast. -/
def readBareValue? (text : List Char) : Option (Option (List Char) × List Char × List Char) := do
  let (value, rest) ← readValue? text
  pure (none, value, rest)

/-- What may stand between the gap and the end of the value: first with an outer parenthesis, then
without one, and each time first with a cast. -/
def readBody? (text : List Char) : Option (Option (List Char) × List Char × List Char) :=
  let plain (text : List Char) := (readCastValue? text).or (readBareValue? text)
  match text with
  | '(' :: more => (plain more).or (plain text)
  | _ => plain text

/-- The definition that a line starts with, if any. -/
def ofLine? (line : List Char) : Option Define := do
  let text ← after? keyword line
  let name := text.takeWhile fun c => !isBlank c
  let tail := text.dropWhile fun c => !isBlank c
  if name = [] ∨ tail = [] then none
  else
    let (cast?, value, rest) ← readBody? (skipBlanks tail)
    pure ⟨name, cast?, value, rest⟩

/-- The number of characters up to the end of the value. -/
def endIn (d : Define) (line : List Char) : Nat := line.length - d.rest.length

end Define

end EventMessages
