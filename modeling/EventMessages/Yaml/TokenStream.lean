import EventMessages.Yaml.Scalar.Block
import EventMessages.Yaml.Scalar.Plain
import EventMessages.Yaml.Scalar.Quoted
import EventMessages.Yaml.Token

/-!
# EventMessages.Yaml.TokenStream

The tokens of a whole text.

Most tokens are told by their first characters. Two things need memory. Block collections are told
by indentation: a margin is kept for each open one, and a line left of it closes it. And a key is
often known for a key only when the colon after it has been read: the place of each token that may
be a key is kept, and when the colon comes, the tokens that open the mapping and announce the key
are put in there. Such a key must lie on one line and within 1024 characters.

A fault ends the stream. The tokens in front of it are good, but for those from the first possible
key on, for which it is not settled yet whether more tokens belong in front of them.
-/

namespace EventMessages.Yaml

/-- A token that may turn out to be a key. -/
structure KeyPlace where
  /-- The number of tokens before it. -/
  number : Nat
  /-- Whether nothing but a key can stand there. -/
  required : Bool
  index : Nat
  line : Nat
  column : Nat
  deriving DecidableEq, Repr

/-- The tokens read so far and what must be known to read on. -/
structure Lexer where
  cursor : Cursor
  /-- The tokens, the latest first. -/
  tokens : List Token := []
  /-- The first column inside the innermost block collection; 0 outside all of them. -/
  margin : Nat := 0
  /-- The margins of the outer block collections, the innermost first. -/
  margins : List Nat := []
  /-- The possible key of the innermost flow collection, or of the block context. -/
  key? : Option KeyPlace := none
  /-- The possible keys of the contexts around it, the innermost first. -/
  outerKeys : List (Option KeyPlace) := []
  /-- Whether a key may start here. -/
  keyAllowed : Bool := true
  /-- Whether the text is read to its end. -/
  finished : Bool := false
  deriving DecidableEq, Repr

namespace Lexer

/-! ## Keeping track -/

/-- Whether a flow collection is open. -/
def inFlow (s : Lexer) : Bool := !s.outerKeys.isEmpty

/-- The longest way from the start of a key to its colon. -/
def keyLimit : Nat := 1024

/-- Whether a key at this place can no longer get its colon. -/
def isStale (c : Cursor) (k : KeyPlace) : Bool :=
  k.line != c.line || keyLimit < c.index - k.index

/-- Forgets a key that can no longer get its colon. -/
def dropStaleKey (c : Cursor) : Option KeyPlace → Except Fault (Option KeyPlace)
  | none => .ok none
  | some k =>
    if isStale c k then (if k.required then .error .malformed else .ok none) else .ok (some k)

/-- Forgets the keys that can no longer get their colon. -/
def dropStale (s : Lexer) : Except Fault Lexer := do
  let key? ← dropStaleKey s.cursor s.key?
  let outerKeys ← s.outerKeys.mapM (dropStaleKey s.cursor)
  pure { s with key?, outerKeys }

/-- Gives up the possible key of this context. -/
def dropKey (s : Lexer) : Except Fault Lexer :=
  if s.key?.any (·.required) then .error .malformed else .ok { s with key? := none }

/-- Notes that the next token may be a key. -/
def noteKey (s : Lexer) : Except Fault Lexer :=
  if s.keyAllowed then do
    let c := s.cursor
    let s ← s.dropKey
    let required := !s.inFlow && s.margin == c.column + 1
    pure { s with key? := some ⟨s.tokens.length, required, c.index, c.line, c.column⟩ }
  else .ok s

/-- Adds a token. -/
def push (s : Lexer) (t : Token) : Lexer := { s with tokens := t :: s.tokens }

/-- Puts tokens in front of the token of this number. -/
def insert (s : Lexer) (number : Nat) (ts : List Token) : Lexer :=
  let later := s.tokens.length - number
  { s with tokens := s.tokens.take later ++ ts.reverse ++ s.tokens.drop later }

/-- Closes the block collections that do not reach this far to the left. -/
def closeBlocks (s : Lexer) (margin : Nat) : Lexer :=
  if s.inFlow then s
  else
    let rec go (s : Lexer) : List Nat → Lexer
      | [] => s
      | outer :: rest =>
        if margin < s.margin then
          go { s with tokens := .blockEnd :: s.tokens, margin := outer, margins := rest } rest
        else s
    go s s.margins

/-- Opens a block collection at this column, if it is right of the one that is open. -/
def openBlock? (s : Lexer) (column : Nat) : Option Lexer :=
  if s.margin ≤ column then
    some { s with margin := column + 1, margins := s.margin :: s.margins }
  else none

/-- Moves on to where this is what follows. -/
def moveTo (s : Lexer) (rest : List Char) : Lexer := { s with cursor := s.cursor.moveTo rest }

/-- Moves on by this many characters. -/
def skip (s : Lexer) (n : Nat) : Lexer := { s with cursor := s.cursor.skip n }

/-! ## Between tokens -/

/-- What follows the white space and the comments at the start of a text, and whether a line was
ended. At most `n` lines are passed over. -/
def skipGapUpTo : Nat → List Char → List Char × Bool
  | 0, text => (text, false)
  | n + 1, text =>
    let text := dropBlanks text
    let text := if startsWith '#' text then dropLine text else text
    match takeBreak? text with
    | none => (text, false)
    | some (_, rest) => ((skipGapUpTo n rest).1, true)

/-- Moves on to the next token. In block context a new line may start with a key. A byte order mark
in front of everything is passed over. -/
def skipGap (s : Lexer) : Lexer :=
  let start := s.cursor.rest
  let start := if s.cursor.index = 0 ∧ startsWith '\uFEFF' start then start.tail else start
  let (rest, newLine) := skipGapUpTo (start.length + 1) start
  let moved := s.moveTo rest
  if newLine && !s.inFlow then { moved with keyAllowed := true } else moved

/-! ## Tokens -/

/-- The end of the text. -/
def readEnd (s : Lexer) : Except Fault Lexer := do
  let s ← (s.closeBlocks 0).dropKey
  pure { s.push .streamEnd with keyAllowed := false, key? := none, finished := true }

/-- A directive. -/
def readDirective (s : Lexer) : Except Fault Lexer := do
  let s ← (s.closeBlocks 0).dropKey
  let (directive, rest) ← takeDirective s.cursor.rest.tail
  pure { (s.moveTo rest).push (.directive directive) with keyAllowed := false }

/-- The start or the end of a document. -/
def readSeparator (s : Lexer) (t : Token) : Except Fault Lexer := do
  let s ← (s.closeBlocks 0).dropKey
  pure { (s.skip 3).push t with keyAllowed := false }

/-- The start of a flow collection. -/
def readFlowStart (s : Lexer) (t : Token) : Except Fault Lexer := do
  let s ← s.noteKey
  pure { (s.skip 1).push t with
    key? := none, outerKeys := s.key? :: s.outerKeys, keyAllowed := true }

/-- The end of a flow collection. -/
def readFlowEnd (s : Lexer) (t : Token) : Except Fault Lexer := do
  let s ← s.dropKey
  pure { (s.skip 1).push t with
    key? := s.outerKeys.headD none, outerKeys := s.outerKeys.tail, keyAllowed := false }

/-- A comma between the entries of a flow collection. -/
def readFlowEntry (s : Lexer) : Except Fault Lexer := do
  let s ← s.dropKey
  pure { (s.skip 1).push .flowEntry with keyAllowed := true }

/-- In block context, opens a collection where the next token is, if need be. -/
def openHere (s : Lexer) (t : Token) : Except Fault Lexer :=
  if s.inFlow then .ok s
  else if !s.keyAllowed then .error .malformed
  else
    match s.openBlock? s.cursor.column with
    | none => .ok s
    | some opened => .ok (opened.push t)

/-- The hyphen in front of an entry of a block sequence. -/
def readBlockEntry (s : Lexer) : Except Fault Lexer := do
  let s ← s.openHere .blockSequenceStart
  let s ← s.dropKey
  pure { (s.skip 1).push .blockEntry with keyAllowed := true }

/-- The question mark in front of a key. -/
def readKey (s : Lexer) : Except Fault Lexer := do
  let s ← s.openHere .blockMappingStart
  let s ← s.dropKey
  pure { (s.skip 1).push .key with keyAllowed := !s.inFlow }

/-- The colon in front of a value. If a token before it may be a key, it is one. -/
def readValue (s : Lexer) : Except Fault Lexer :=
  match s.key? with
  | some k =>
    let keyed := { s with key? := none, keyAllowed := false }
    let announced :=
      match if s.inFlow then none else keyed.openBlock? k.column with
      | none => keyed.insert k.number [.key]
      | some opened => opened.insert k.number [.blockMappingStart, .key]
    .ok ((announced.skip 1).push .value)
  | none => do
    let s ← s.openHere .blockMappingStart
    let s ← s.dropKey
    pure { (s.skip 1).push .value with keyAllowed := !s.inFlow }

/-- A token that may be a key. -/
def readKeyable (s : Lexer) (read : List Char → Except Fault (Token × List Char)) :
    Except Fault Lexer := do
  let s ← s.noteKey
  let (t, rest) ← read s.cursor.rest
  pure { (s.moveTo rest).push t with keyAllowed := false }

/-- An alias or an anchor. -/
def readAnchor (s : Lexer) (token : List Char → Token) : Except Fault Lexer :=
  s.readKeyable fun text => (takeAnchor text.tail).map fun (name, rest) => (token name, rest)

/-- A block scalar. -/
def readBlockScalar (s : Lexer) (folded : Bool) : Except Fault Lexer := do
  let s ← s.dropKey
  let (text, rest) ← Block.scan folded s.margin s.cursor.rest.tail
  pure { (s.moveTo rest).push (.scalar text false) with keyAllowed := true }

/-- A quoted scalar. -/
def readQuoted (s : Lexer) (scan : List Char → Except Fault (List Char × List Char)) :
    Except Fault Lexer :=
  s.readKeyable fun text => (scan text.tail).map fun (value, rest) => (.scalar value false, rest)

/-- A plain scalar. A key may follow it when it is followed by a line break. -/
def readPlain (s : Lexer) : Except Fault Lexer := do
  let s ← s.noteKey
  let scan := Plain.scan s.inFlow s.margin s.cursor.column s.cursor.rest
  pure { (s.moveTo scan.rest).push (.scalar scan.text true) with keyAllowed := scan.crossesLine }

/-- The characters that cannot start a plain scalar. -/
def indicators : List Char := "-?:,[]\x7b\x7d#&*!|>'\"%@`".toList

/-- Whether a plain scalar starts with this character, given what follows it. -/
def startsPlain (flow : Bool) (c : Char) (rest : List Char) : Bool :=
  (!isSpace c && !isBreak c && !indicators.contains c) ||
    (!atWordEnd rest && (c == '-' || (!flow && (c == '?' || c == ':'))))

/-- Reads the token that starts with this character. -/
def readToken (s : Lexer) (c : Char) (rest : List Char) : Except Fault Lexer :=
  let flow := s.inFlow
  let lineStart := s.cursor.column == 0
  if c = '%' ∧ lineStart then s.readDirective
  else if c = '-' ∧ lineStart ∧ atSeparator (c :: rest) then s.readSeparator .documentStart
  else if c = '.' ∧ lineStart ∧ atSeparator (c :: rest) then s.readSeparator .documentEnd
  else if c = '[' then s.readFlowStart .flowSequenceStart
  else if c = '\x7b' then s.readFlowStart .flowMappingStart
  else if c = ']' then s.readFlowEnd .flowSequenceEnd
  else if c = '\x7d' then s.readFlowEnd .flowMappingEnd
  else if c = ',' then s.readFlowEntry
  else if c = '-' ∧ atWordEnd rest then s.readBlockEntry
  else if c = '?' ∧ (flow || atWordEnd rest) then s.readKey
  else if c = ':' ∧ (flow || atWordEnd rest) then s.readValue
  else if c = '*' then s.readAnchor .alias
  else if c = '&' then s.readAnchor .anchor
  else if c = '!' then s.readKeyable fun text => takeTag text.tail
  else if c = '|' ∧ !flow then s.readBlockScalar false
  else if c = '>' ∧ !flow then s.readBlockScalar true
  else if c = '\'' then s.readQuoted Quoted.scanSingle
  else if c = '"' then s.readQuoted Quoted.scanDouble
  else if startsPlain flow c rest then s.readPlain
  else .error .malformed

/-- Reads the next token, and whatever tokens go along with it. -/
def read (s : Lexer) : Except Fault Lexer := do
  let s ← s.skipGap.dropStale
  let s := s.closeBlocks (s.cursor.column + 1)
  match s.cursor.rest with
  | [] => s.readEnd
  | c :: rest => s.readToken c rest

/-! ## The stream -/

/-- The number of the first token that may still turn out to be a key. -/
def firstOpenKey (s : Lexer) : Nat :=
  (s.key? :: s.outerKeys).foldl (fun n key? =>
    match key? with
    | none => n
    | some k => if isStale s.cursor k then n else min n k.number) s.tokens.length

/-- The tokens that are settled. -/
def settled (s : Lexer) : List Token := s.tokens.reverse.take s.firstOpenKey

end Lexer

/-- The tokens of a text, and the fault that ends them if they end before their time. -/
structure TokenStream where
  tokens : List Token
  fault? : Option Fault
  deriving DecidableEq, Repr

/-- Reads at most `n` times. -/
def Lexer.run : Nat → Lexer → TokenStream
  | 0, s => ⟨s.settled, some .malformed⟩
  | n + 1, s =>
    match s.read with
    | .error fault => ⟨s.settled, some fault⟩
    | .ok next => if next.finished then ⟨next.tokens.reverse, none⟩ else run n next

/-- The tokens of a text. Every token takes at least one character, the last one excepted. -/
def TokenStream.ofText (text : List Char) : TokenStream :=
  Lexer.run (text.length + 1) { cursor := ⟨text, 0, 0, 0⟩ }

end EventMessages.Yaml
