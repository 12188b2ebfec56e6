import EventMessages.Text.Decimal
import EventMessages.Yaml.Fault

/-!
# EventMessages.Yaml.Tag

Tags: what kind of data a node is. A node may say its tag. A scalar that does not, and that is not
quoted, has the tag that its text looks like.
-/

namespace EventMessages.Yaml

/-- The kinds of data. -/
inductive Tag where
  | null
  | boolean
  | integer
  | real
  | binary
  | timestamp
  | orderedMap
  | pairs
  | set
  | text
  | sequence
  | mapping
  /-- The key of a mapping whose entries are to be merged in. -/
  | merge
  /-- The key of the default value of a mapping. -/
  | default
  /-- Any other tag. -/
  | other
  deriving DecidableEq, Repr

/-- What the names of the standard tags start with. -/
def standardTags : List Char := "tag:yaml.org,2002:".toList

/-- The standard tags by name. -/
def Tag.ofName? (name : List Char) : Option Tag :=
  if name = "null".toList then some .null
  else if name = "bool".toList then some .boolean
  else if name = "int".toList then some .integer
  else if name = "float".toList then some .real
  else if name = "binary".toList then some .binary
  else if name = "timestamp".toList then some .timestamp
  else if name = "omap".toList then some .orderedMap
  else if name = "pairs".toList then some .pairs
  else if name = "set".toList then some .set
  else if name = "str".toList then some .text
  else if name = "seq".toList then some .sequence
  else if name = "map".toList then some .mapping
  else if name = "merge".toList then some .merge
  else if name = "value".toList then some .default
  else none

/-- The tag of a full name. -/
def Tag.ofText (text : List Char) : Tag :=
  if standardTags.isPrefixOf text then (ofName? (text.drop standardTags.length)).getD .other
  else .other

/-! ## Looks -/

/-- A digit of the decimal system, in ASCII. -/
def isDigit (c : Char) : Bool := '0' ≤ c && c ≤ '9'

/-- A digit or an underscore. -/
def isDigitOrGap (c : Char) : Bool := isDigit c || c == '_'

/-- The text without one sign at its start. -/
def dropSign (text : List Char) : List Char :=
  match text with
  | '+' :: rest => rest
  | '-' :: rest => rest
  | _ => text

/-- One character of a kind at the start of a text, and what follows it. -/
def takeOne? (kind : Char → Bool) : List Char → Option (List Char)
  | [] => none
  | c :: rest => if kind c then some rest else none

/-- One or two digits at the start of a text: their number, and what follows them. -/
def takeTwoDigits? : List Char → Option (List Char × List Char)
  | [] => none
  | c :: rest =>
    if isDigit c then
      match rest with
      | d :: rest => if isDigit d then some ([c, d], rest) else some ([c], d :: rest)
      | [] => some ([c], [])
    else none

/-- Whether a text is an exponent, or nothing: a letter, a sign, and digits. -/
def isExponent : List Char → Bool
  | [] => true
  | e :: s :: d :: rest =>
    (e == 'e' || e == 'E') && (s == '+' || s == '-') && (d :: rest).all isDigit
  | _ => false

/-- The minutes or seconds at the start of a text, after a colon: below 60, in one or two
digits. -/
def takeSixtieth? : List Char → Option (List Char)
  | ':' :: text =>
    match takeTwoDigits? text with
    | some ([c, _], rest) => if c ≤ '5' then some rest else some (text.drop 1)
    | some (_, rest) => some rest
    | none => none
  | _ => none

/-- Whether a text is a row of sixtieths and then `ending` holds of the rest. At most `n` are
read. -/
def isSexagesimal (ending : List Char → Bool) : Nat → List Char → Bool
  | 0, _ => false
  | n + 1, text =>
    match takeSixtieth? text with
    | none => false
    | some rest => ending rest || isSexagesimal ending n rest

/-- Whether a text reads as a real number. -/
def looksReal (text : List Char) : Bool :=
  let unsigned := dropSign text
  let fraction (text : List Char) : Bool :=
    match text with
    | '.' :: rest => isExponent (rest.dropWhile isDigitOrGap)
    | _ => false
  let lastFraction (text : List Char) : Bool :=
    match text with
    | '.' :: rest => rest.all isDigitOrGap
    | _ => false
  (match takeOne? isDigit unsigned with
    | some rest =>
      fraction (rest.dropWhile isDigitOrGap) ||
        isSexagesimal lastFraction text.length (rest.dropWhile isDigitOrGap)
    | none => false) ||
  (match text with
    | '.' :: rest => (takeOne? isDigit rest).isSome && fraction text
    | _ => false) ||
  ["inf", "Inf", "INF"].any (fun word => unsigned = '.' :: word.toList) ||
  ["nan", "NaN", "NAN"].any (fun word => text = '.' :: word.toList)

/-- Whether a text reads as an integer. -/
def looksInteger (text : List Char) : Bool :=
  match dropSign text with
  | ['0'] => true
  | '0' :: 'b' :: rest => !rest.isEmpty && rest.all fun c => c == '0' || c == '1' || c == '_'
  | '0' :: 'x' :: rest =>
    !rest.isEmpty &&
      rest.all fun c => isDigitOrGap c || ('a' ≤ c && c ≤ 'f') || ('A' ≤ c && c ≤ 'F')
  | '0' :: rest => rest.all fun c => ('0' ≤ c && c ≤ '7') || c == '_'
  | c :: rest =>
    isDigit c &&
      (rest.all isDigitOrGap ||
        isSexagesimal List.isEmpty text.length (rest.dropWhile isDigitOrGap))
  | [] => false

/-! ## Timestamps -/

/-- The offset of a time zone: its sign, hours and minutes. -/
structure Offset where
  negative : Bool
  hours : Nat
  minutes : Nat
  deriving DecidableEq, Repr

/-- A time of day. The fraction of its second is left out. -/
structure ClockTime where
  hour : Nat
  minute : Nat
  second : Nat
  offset? : Option Offset
  deriving DecidableEq, Repr

/-- A date with a time of day or without one. -/
structure Timestamp where
  year : Nat
  month : Nat
  day : Nat
  time? : Option ClockTime
  deriving DecidableEq, Repr

/-- The number that digits write. -/
def numberOfDigits (digits : List Char) : Nat :=
  digits.foldl (fun n c => n * 10 + (c.toNat - '0'.toNat)) 0

/-- The digits at the start of a text, exactly `n`, and what follows them. -/
def takeDigits? (n : Nat) (text : List Char) : Option (Nat × List Char) :=
  let digits := text.take n
  if digits.length = n && digits.all isDigit then some (numberOfDigits digits, text.drop n)
  else none

/-- One or two digits at the start of a text as a number, and what follows them. -/
def takeShort? (text : List Char) : Option (Nat × List Char) :=
  (takeTwoDigits? text).map fun (digits, rest) => (numberOfDigits digits, rest)

/-- The text after this character. -/
def afterChar? (c : Char) : List Char → Option (List Char)
  | [] => none
  | d :: rest => if d = c then some rest else none

/-- A zone at the end of a text, or nothing: none, that of Greenwich, or an offset. -/
def zone? (text : List Char) : Option (Option Offset) :=
  if text.isEmpty then some none
  else
    match text.dropWhile fun c => c == ' ' || c == '\t' with
    | ['Z'] => some none
    | sign :: rest =>
      if sign = '+' ∨ sign = '-' then do
        let (hours, rest) ← takeShort? rest
        let minutes ←
          if rest.isEmpty then pure 0
          else do
            let (minutes, rest) ← takeDigits? 2 (← afterChar? ':' rest)
            if rest.isEmpty then pure minutes else none
        pure (some ⟨sign = '-', hours, minutes⟩)
      else none
    | [] => none

/-- A time of day at the end of a text. -/
def clockTime? (text : List Char) : Option ClockTime := do
  let (hour, rest) ← takeShort? text
  let (minute, rest) ← takeDigits? 2 (← afterChar? ':' rest)
  let (second, rest) ← takeDigits? 2 (← afterChar? ':' rest)
  let rest :=
    match rest with
    | '.' :: more => more.dropWhile isDigit
    | _ => rest
  let offset? ← zone? rest
  pure ⟨hour, minute, second, offset?⟩

/-- The time of day after a date: behind a letter T or white space. -/
def timeAfterDate? : List Char → Option ClockTime
  | [] => none
  | c :: rest =>
    if c = 'T' ∨ c = 't' then clockTime? rest
    else if c = ' ' ∨ c = '\t' then clockTime? (rest.dropWhile fun c => c == ' ' || c == '\t')
    else none

/-- The timestamp that a text writes. -/
def Timestamp.ofText? (text : List Char) : Option Timestamp := do
  let (year, rest) ← takeDigits? 4 text
  let (month, rest) ← takeShort? (← afterChar? '-' rest)
  let (day, rest) ← takeShort? (← afterChar? '-' rest)
  if rest.isEmpty then pure ⟨year, month, day, none⟩
  else do
    let time ← timeAfterDate? rest
    pure ⟨year, month, day, some time⟩

/-- Whether a text reads as a timestamp. Without a time of day, month and day have two digits. -/
def looksTimestamp (text : List Char) : Bool :=
  match Timestamp.ofText? text with
  | none => false
  | some t => t.time?.isSome || text.length = 10

/-! ## Resolution -/

/-- The words for truth values. -/
def booleanWords : List (String × Bool) :=
  [("yes", true), ("no", false), ("true", true), ("false", false), ("on", true), ("off", false)]

/-- Whether a text is the word in lower case, capitalised or in upper case. -/
def isCasing (word text : List Char) : Bool :=
  text = word ||
    match word, text with
    | w :: word, t :: text => t = w.toUpper && (text = word || text = word.map Char.toUpper)
    | _, _ => false

/-- Whether a look is that of the text, or that of the text without a line break at its end. -/
def hasLook (look : List Char → Bool) (text : List Char) : Bool :=
  look text || (text.length > 1 && text.getLast? = some '\n' && look text.dropLast)

/-- The tag that a scalar looks like. -/
def Tag.ofLook (text : List Char) : Tag :=
  if hasLook (fun t => booleanWords.any fun word => isCasing word.1.toList t) text then .boolean
  else if hasLook looksReal text then .real
  else if hasLook looksInteger text then .integer
  else if hasLook (· = ['<', '<']) text then .merge
  else if hasLook (fun t => t = [] || t = ['~'] || isCasing "null".toList t) text then .null
  else if hasLook looksTimestamp text then .timestamp
  else if hasLook (· = ['=']) text then .default
  else if hasLook (fun t => t = ['!'] || t = ['&'] || t = ['*']) text then .other
  else .text

end EventMessages.Yaml
