import EventMessages.Yaml.Source
import EventMessages.Text.Utf8

/-!
# EventMessages.Yaml.Token

Tokens: the marks, names and scalars that a YAML text is made of, and the readers of those tokens
that can be told from the text alone.
-/

namespace EventMessages.Yaml

/-- An instruction to the reader, in front of a document. -/
inductive Directive where
  /-- The version of the format. -/
  | version (major minor : Nat)
  /-- A short form for the start of tags. -/
  | tagHandle (handle start : List Char)
  /-- Any other directive has no effect. -/
  | unknown
  deriving DecidableEq, Repr

/-- The tokens of a YAML text. -/
inductive Token where
  | directive (d : Directive)
  | documentStart
  | documentEnd
  | streamEnd
  | blockSequenceStart
  | blockMappingStart
  | blockEnd
  | flowSequenceStart
  | flowSequenceEnd
  | flowMappingStart
  | flowMappingEnd
  | blockEntry
  | flowEntry
  | key
  | value
  | alias (name : List Char)
  | anchor (name : List Char)
  /-- A tag: a handle, if it is written with one, and the rest of it. -/
  | tag (handle? : Option (List Char)) (rest : List Char)
  | scalar (text : List Char) (plain : Bool)
  deriving DecidableEq, Repr

/-! ## Names -/

/-- The name at the start of a text, which must not be empty, and what follows it. -/
def takeName (text : List Char) : Except Fault (List Char × List Char) :=
  match text.takeWhile isNameChar with
  | [] => .error .malformed
  | name => .ok (name, text.dropWhile isNameChar)

/-- Whether a name of an anchor may end here. -/
def endsAnchor : List Char → Bool
  | [] => true
  | c :: rest => atWordEnd (c :: rest) || "?:,]\x7d%@`".toList.contains c

/-- The name of an anchor or alias and what follows it. -/
def takeAnchor (text : List Char) : Except Fault (List Char × List Char) := do
  let (name, rest) ← takeName text
  if endsAnchor rest then pure (name, rest) else throw .malformed

/-! ## Tags -/

/-- The characters of a tag, escapes aside. -/
def isTagChar (c : Char) : Bool :=
  ('0' ≤ c && c ≤ '9') || ('A' ≤ c && c ≤ 'Z') || ('a' ≤ c && c ≤ 'z') ||
    "-;/?:@&=+$,_.!~*'()[]".toList.contains c

/-- The bytes that a row of escapes at the start of a text writes, and what follows it. -/
def takeEscapes : List Char → Except Fault (List UInt8 × List Char)
  | '%' :: a :: b :: rest =>
    match hexDigitValue? a, hexDigitValue? b with
    | some high, some low =>
      (takeEscapes rest).map fun (bytes, left) => (UInt8.ofNat (high * 16 + low) :: bytes, left)
    | _, _ => .error .malformed
  | '%' :: _ => .error .malformed
  | text => .ok ([], text)

/-- The characters of a tag at the start of a text, in at most `n` parts, and what follows them. -/
def takeTagTextUpTo : Nat → List Char → Except Fault (List Char × List Char)
  | 0, text => .ok ([], text)
  | n + 1, text =>
    let chars := text.takeWhile isTagChar
    match text.dropWhile isTagChar with
    | '%' :: rest => do
      let (bytes, left) ← takeEscapes ('%' :: rest)
      match Text.Utf8.decodeStrict bytes with
      | .error _ => throw .malformed
      | .ok escaped => do
        let (more, left) ← takeTagTextUpTo n left
        pure (chars ++ escaped ++ more, left)
    | rest => .ok (chars, rest)

/-- The text of a tag, which must not be empty, and what follows it. -/
def takeTagText (text : List Char) : Except Fault (List Char × List Char) :=
  if text.head?.any fun c => isTagChar c || c == '%' then takeTagTextUpTo text.length text
  else .error .malformed

/-- A handle of tags: an exclamation mark, or a name between two of them. -/
def takeHandle : List Char → Except Fault (List Char × List Char)
  | '!' :: ' ' :: rest => .ok (['!'], ' ' :: rest)
  | '!' :: rest =>
    match rest.dropWhile isNameChar with
    | '!' :: left => .ok ('!' :: rest.takeWhile isNameChar ++ ['!'], left)
    | _ => .error .malformed
  | _ => .error .malformed

/-- Whether a second exclamation mark follows in the same word. -/
def hasHandle : List Char → Bool
  | [] => false
  | c :: rest => c == '!' || (!atBlank (c :: rest) && hasHandle rest)

/-- A tag, the exclamation mark that starts it left out, and what follows it. -/
def takeTag (text : List Char) : Except Fault (Token × List Char) := do
  let (token, rest) ←
    match text with
    | '<' :: rest => do
      let (tag, left) ← takeTagText rest
      match left with
      | '>' :: left => pure (Token.tag none tag, left)
      | _ => throw .malformed
    | _ =>
      if atWordEnd text then pure (Token.tag none ['!'], text)
      else do
        let (handle, left) ← if hasHandle text then takeHandle ('!' :: text) else pure (['!'], text)
        let (tag, left) ← takeTagText left
        pure (Token.tag (some handle) tag, left)
  if atBlank rest then pure (token, rest) else throw .malformed

/-! ## Directives -/

/-- A number at the start of a text and what follows it. -/
def takeNumber (text : List Char) : Except Fault (Nat × List Char) :=
  let isDigit (c : Char) : Bool := '0' ≤ c && c ≤ '9'
  match text.takeWhile isDigit with
  | [] => .error .malformed
  | digits =>
    if digitLimit < digits.length then .error (.scalar (.longInteger digits.length))
    else
      .ok (digits.foldl (fun n c => n * 10 + (c.toNat - '0'.toNat)) 0, text.dropWhile isDigit)

/-- The version that a directive gives. -/
def takeVersion (text : List Char) : Except Fault (Directive × List Char) := do
  let (major, rest) ← takeNumber (dropBlanks text)
  match rest with
  | '.' :: rest => do
    let (minor, rest) ← takeNumber rest
    if atBlank rest then pure (.version major minor, rest) else throw .malformed
  | _ => throw .malformed

/-- The short form of tags that a directive gives. -/
def takeTagHandle (text : List Char) : Except Fault (Directive × List Char) := do
  let (handle, rest) ← takeHandle (dropBlanks text)
  if startsWith ' ' rest then do
    let (start, rest) ← takeTagText (dropBlanks rest)
    if atBlank rest then pure (.tagHandle handle start, rest) else throw .malformed
  else throw .malformed

/-- A directive, the percent sign left out, and what follows its line. -/
def takeDirective (text : List Char) : Except Fault (Directive × List Char) := do
  let (name, rest) ← takeName text
  if !atBlank rest then throw .malformed
  let (directive, rest) ←
    if name = "YAML".toList then takeVersion rest
    else if name = "TAG".toList then takeTagHandle rest
    else pure (Directive.unknown, dropLine rest)
  let rest ← dropRestOfLine rest
  pure (directive, rest)

end EventMessages.Yaml
