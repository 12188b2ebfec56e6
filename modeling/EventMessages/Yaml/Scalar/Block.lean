import EventMessages.Yaml.Source

/-!
# EventMessages.Yaml.Scalar.Block

Block scalars: indented lines of text. The header says how the line breaks at the end are chomped
and may give the indentation; otherwise the first line that is not empty does. A literal scalar
keeps its line breaks. A folded one joins two lines with a blank unless one of them starts with
white space or empty lines lie between them.
-/

namespace EventMessages.Yaml.Block

/-- What is kept of the line breaks at the end. -/
inductive Chomping where
  /-- The break that ends the last line. -/
  | clip
  /-- Nothing. -/
  | strip
  /-- The breaks of empty lines as well. -/
  | keep
  deriving DecidableEq, Repr

/-- What the header of a block scalar says. -/
structure Header where
  chomping : Chomping
  indent? : Option Nat
  deriving DecidableEq, Repr

/-- The sign of a chomping and what follows it. -/
def takeChomping? : List Char → Option (Chomping × List Char)
  | '+' :: rest => some (.keep, rest)
  | '-' :: rest => some (.strip, rest)
  | _ => none

/-- The digit of an indentation and what follows it. Zero is a fault. -/
def takeIndent : List Char → Except Fault (Option Nat × List Char)
  | [] => .ok (none, [])
  | c :: rest =>
    if '0' ≤ c ∧ c ≤ '9' then
      if c = '0' then .error .malformed else .ok (some (c.toNat - '0'.toNat), rest)
    else .ok (none, c :: rest)

/-- Reads the header, with the two signs in either order. -/
def takeHeader (text : List Char) : Except Fault (Header × List Char) := do
  let (header, rest) ←
    match takeChomping? text with
    | some (chomping, rest) => do
      let (indent?, rest) ← takeIndent rest
      pure (⟨chomping, indent?⟩, rest)
    | none => do
      let (indent?, rest) ← takeIndent text
      match indent?, takeChomping? rest with
      | some _, some (chomping, rest) => pure (⟨chomping, indent?⟩, rest)
      | _, _ => pure (⟨.clip, indent?⟩, rest)
  if atBlank rest then pure (header, rest) else throw .malformed

/-- What stands before a line of text. -/
structure Lead where
  /-- The breaks of the empty lines. -/
  breaks : List Char
  rest : List Char
  /-- The number of blanks on the last line. -/
  column : Nat
  /-- The greatest number of blanks on a line. -/
  widest : Nat
  deriving DecidableEq, Repr

/-- The empty lines at the start of a text and the indentation after them. No more blanks than
`limit?` are taken from a line. -/
def takeLead (limit? : Option Nat) (column widest : Nat) : List Char → Lead
  | [] => ⟨[], [], column, widest⟩
  | ' ' :: rest =>
    if limit?.all (column < ·) then takeLead limit? (column + 1) (max widest (column + 1)) rest
    else ⟨[], ' ' :: rest, column, widest⟩
  | '\r' :: '\n' :: rest => another '\n' (takeLead limit? 0 widest rest)
  | '\r' :: rest => another '\n' (takeLead limit? 0 widest rest)
  | '\n' :: rest => another '\n' (takeLead limit? 0 widest rest)
  | '\x85' :: rest => another '\n' (takeLead limit? 0 widest rest)
  | '\u2028' :: rest => another '\u2028' (takeLead limit? 0 widest rest)
  | '\u2029' :: rest => another '\u2029' (takeLead limit? 0 widest rest)
  | c :: rest => ⟨[], c :: rest, column, widest⟩
where
  /-- One more empty line in front. -/
  another (lineBreak : Char) (lead : Lead) : Lead := { lead with breaks := lineBreak :: lead.breaks }

/-- The first line of a text, its break and what follows. -/
def takeLine : List Char → List Char × List Char × List Char
  | [] => ([], [], [])
  | c :: rest =>
    if isBreak c then
      match takeBreak? (c :: rest) with
      | some (lineBreak, left) => ([], [lineBreak], left)
      | none => ([], [], c :: rest)
    else
      let (line, lineBreak, left) := takeLine rest
      (c :: line, lineBreak, left)

/-- Whether a line starts with white space. -/
def startsIndented : List Char → Bool
  | [] => false
  | c :: _ => isSpace c

/-- The lines of the scalar and what follows, at most `n` lines: those that are indented by just
`indent`. -/
def takeLines (folded : Bool) (chomping : Chomping) (indent : Nat) :
    Nat → Lead → List Char × List Char
  | 0, lead => ([], lead.rest)
  | n + 1, lead =>
    if lead.column = indent ∧ lead.rest ≠ [] then
      let (line, lineBreak, left) := takeLine lead.rest
      let next := takeLead (some indent) 0 0 left
      let front := lead.breaks ++ line
      if next.column = indent ∧ next.rest ≠ [] then
        let joint :=
          if folded && lineBreak = ['\n'] && !startsIndented lead.rest && !startsIndented next.rest
          then (if next.breaks = [] then [' '] else [])
          else lineBreak
        let (text, rest) := takeLines folded chomping indent n next
        (front ++ joint ++ text, rest)
      else
        let tail :=
          match chomping with
          | .clip => lineBreak
          | .strip => []
          | .keep => lineBreak ++ next.breaks
        (front ++ tail, next.rest)
    else
      (if chomping = .keep then lead.breaks else [], lead.rest)

/-- Reads a block scalar, the sign that starts it left out, in a collection whose margin is given.
What follows it comes with its text. -/
def scan (folded : Bool) (margin : Nat) (text : List Char) :
    Except Fault (List Char × List Char) := do
  let (header, rest) ← takeHeader text
  let rest ← dropRestOfLine rest
  let least := max margin 1
  let (indent, lead) :=
    match header.indent? with
    | none =>
      let lead := takeLead none 0 0 rest
      (max least lead.widest, lead)
    | some n =>
      let indent := least + n - 1
      (indent, takeLead (some indent) 0 0 rest)
  pure (takeLines folded header.chomping indent (rest.length + 1) lead)

end EventMessages.Yaml.Block
