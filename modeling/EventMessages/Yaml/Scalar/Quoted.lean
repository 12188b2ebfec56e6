import EventMessages.Yaml.Source

/-!
# EventMessages.Yaml.Scalar.Quoted

Quoted scalars. Between single quotes a doubled quote stands for one, and all else for itself.
Between double quotes a backslash starts an escape. In both, line breaks are folded: blanks around
them vanish, a single one counts as a blank, and of several the first is dropped. A backslash at
the end of a line joins it to the next one.

`writeSingle` is the other direction for single quotes.
-/

namespace EventMessages.Yaml.Quoted

/-! ## Writing -/

/-- A text with every single quote doubled. -/
def doubleQuotes : List Char → List Char
  | [] => []
  | c :: rest => if c = '\'' then '\'' :: '\'' :: doubleQuotes rest else c :: doubleQuotes rest

/-- A text between single quotes. -/
def writeSingle (text : List Char) : List Char := '\'' :: (doubleQuotes text ++ ['\''])

/-! ## Escapes -/

/-- What an escape of one letter stands for. -/
def escape? : Char → Option Char
  | '0' => some '\x00'
  | 'a' => some '\x07'
  | 'b' => some '\x08'
  | 't' => some '\t'
  | '\t' => some '\t'
  | 'n' => some '\n'
  | 'v' => some '\x0b'
  | 'f' => some '\x0c'
  | 'r' => some '\r'
  | 'e' => some '\x1b'
  | ' ' => some ' '
  | '"' => some '"'
  | '\\' => some '\\'
  | '/' => some '/'
  | 'N' => some '\x85'
  | '_' => some '\u00a0'
  | 'L' => some '\u2028'
  | 'P' => some '\u2029'
  | _ => none

/-- The number of digits of an escaped code point. -/
def codeWidth? : Char → Option Nat
  | 'x' => some 2
  | 'u' => some 4
  | 'U' => some 8
  | _ => none

/-- The number that hexadecimal digits write. -/
def hexNumber? (digits : List Char) : Option Nat :=
  digits.foldl (fun n c => do pure ((← n) * 16 + (← hexDigitValue? c))) (some 0)

/-- The character of a code point. A surrogate has none. -/
def charOfCode (code : Nat) : Except Fault Char :=
  if code > 0x7fffffff then .error (.scalar .wideCodePoint)
  else if code > 0x10ffff then .error (.scalar .codePoint)
  else if 0xd800 ≤ code ∧ code ≤ 0xdfff then .error (.scalar .surrogate)
  else .ok (Char.ofNat code)

/-- The character of a code point that is written in `width` digits, and what follows them. -/
def takeCode (width : Nat) (text : List Char) : Except Fault (Char × List Char) :=
  let digits := text.take width
  if digits.length < width then .error .malformed
  else
    match hexNumber? digits with
    | none => .error .malformed
    | some code => (charOfCode code).map fun c => (c, text.drop width)

/-! ## Line breaks -/

/-- Whether the white space at the start of a text leads to a line break. -/
def leadsToBreak : List Char → Bool
  | [] => false
  | c :: rest => isBreak c || (isSpace c && leadsToBreak rest)

/-- The text from its first character that is no white space. -/
def dropSpaces (text : List Char) : List Char := text.dropWhile isSpace

/-- The empty lines at the start of a text, at most `n`, and what follows them and the indentation
after them. A document must not end there. -/
def takeEmptyLines : Nat → List Char → Except Fault (List Char × List Char)
  | 0, text => .ok ([], text)
  | n + 1, text =>
    if atSeparator text then .error .malformed
    else
      match takeBreak? (dropSpaces text) with
      | none => .ok ([], dropSpaces text)
      | some (c, rest) => (takeEmptyLines n rest).map fun (breaks, left) => (c :: breaks, left)

/-- What the line breaks at the start of a text, after white space, amount to, and what follows
them. -/
def takeFold (text : List Char) : Except Fault (List Char × List Char) :=
  match takeBreak? (dropSpaces text) with
  | none => .ok ([], dropSpaces text)
  | some (first, rest) =>
    (takeEmptyLines (rest.length + 1) rest).map fun (breaks, left) =>
      (if first = '\n' then (if breaks = [] then [' '] else breaks) else first :: breaks, left)

/-! ## Reading -/

/-- Reads on and puts the given characters in front of what was read. -/
def prepend (front : List Char) (more : Except Fault (List Char × List Char)) :
    Except Fault (List Char × List Char) :=
  more.map fun (text, rest) => (front ++ text, rest)

/-- Reads up to the closing single quote, in at most `n` steps. -/
def scanSingleUpTo : Nat → List Char → Except Fault (List Char × List Char)
  | 0, _ => .error .malformed
  | _ + 1, [] => .error .malformed
  | n + 1, c :: rest =>
    if c = '\'' then
      match rest with
      | '\'' :: rest => prepend ['\''] (scanSingleUpTo n rest)
      | _ => .ok ([], rest)
    else if leadsToBreak (c :: rest) then
      match takeFold (c :: rest) with
      | .error fault => .error fault
      | .ok (fold, rest) => prepend fold (scanSingleUpTo n rest)
    else prepend [c] (scanSingleUpTo n rest)

/-- Reads up to the closing double quote, in at most `n` steps. -/
def scanDoubleUpTo : Nat → List Char → Except Fault (List Char × List Char)
  | 0, _ => .error .malformed
  | _ + 1, [] => .error .malformed
  | n + 1, c :: rest =>
    if c = '"' then .ok ([], rest)
    else if c = '\\' then
      match rest with
      | [] => .error .malformed
      | e :: more =>
        match escape? e with
        | some ch => prepend [ch] (scanDoubleUpTo n more)
        | none =>
          match codeWidth? e with
          | some width =>
            match takeCode width more with
            | .error fault => .error fault
            | .ok (ch, more) => prepend [ch] (scanDoubleUpTo n more)
          | none =>
            match takeBreak? rest with
            | none => .error .malformed
            | some (_, more) =>
              match takeEmptyLines (more.length + 1) more with
              | .error fault => .error fault
              | .ok (breaks, more) => prepend breaks (scanDoubleUpTo n more)
    else if leadsToBreak (c :: rest) then
      match takeFold (c :: rest) with
      | .error fault => .error fault
      | .ok (fold, rest) => prepend fold (scanDoubleUpTo n rest)
    else prepend [c] (scanDoubleUpTo n rest)

/-- Reads a scalar in single quotes, the opening one left out, and gives what follows it. -/
def scanSingle (text : List Char) : Except Fault (List Char × List Char) :=
  scanSingleUpTo (text.length + 1) text

/-- Reads a scalar in double quotes, the opening one left out, and gives what follows it. -/
def scanDouble (text : List Char) : Except Fault (List Char × List Char) :=
  scanDoubleUpTo (text.length + 1) text

end EventMessages.Yaml.Quoted
