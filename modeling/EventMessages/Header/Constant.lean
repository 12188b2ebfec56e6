import EventMessages.Header.Define
import EventMessages.Text.Lines
import EventMessages.Text.Utf8

/-!
# EventMessages.Header.Constant

The constants of a header: one for each line that starts with a definition, in order, with name and
value as they are spelled and the cast dropped. Reading is lazy: asking for `k` constants pulls the
lines up to the `k`-th definition and no further.
-/

namespace EventMessages

open Text

/-- A named number of a header. -/
structure Constant where
  name : String
  value : String
  deriving DecidableEq, Repr

namespace Constant

/-! ## Lines -/

/-- The constant that a line defines. -/
def ofLine? (line : List Char) : Option Constant :=
  (Define.ofLine? line).map fun d => ⟨String.ofList d.name, String.ofList d.value⟩

/-- The constants of the lines, in order. -/
def ofLines (lines : List (List Char)) : List Constant := lines.filterMap ofLine?

@[simp] theorem ofLines_append (a b : List (List Char)) :
    ofLines (a ++ b) = ofLines a ++ ofLines b := by
  simp [ofLines]

/-- The constants of a header file. Bytes that are no text become U+FFFD, and lines end at LF, CR LF
and CR alone. -/
def ofHeader (bytes : List UInt8) : List Constant :=
  ofLines (lines (unifyBreaks (Utf8.decodeLossy bytes)))

/-! ## One at a time -/

/-- Pulls lines until one defines a constant. The lines after it are left. -/
def next? : List (List Char) → Option (Constant × List (List Char))
  | [] => none
  | line :: rest =>
    match ofLine? line with
    | some c => some (c, rest)
    | none => next? rest

/-- Takes at most `k` constants, and gives the lines that are left. -/
def take : Nat → List (List Char) → List Constant × List (List Char)
  | 0, lines => ([], lines)
  | k + 1, lines =>
    match next? lines with
    | none => ([], [])
    | some (c, rest) =>
      let (more, left) := take k rest
      (c :: more, left)

end Constant

end EventMessages
