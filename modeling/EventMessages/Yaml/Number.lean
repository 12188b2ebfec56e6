import EventMessages.Text.Blank
import EventMessages.Text.LowerCase
import EventMessages.Yaml.Tag

/-!
# EventMessages.Yaml.Number

The content of scalars that are tagged as numbers, truth values, timestamps or binary data.

What a tag asks for is wider than what an untagged scalar must look like, so a tagged scalar may
turn out to be none of its kind. Digits may belong to any script, and blanks around a number do
not matter.
-/

namespace EventMessages.Yaml

open Text

/-! ## Digits -/

/-- A text in which digits and blanks of all scripts are those of ASCII. A text that is ASCII
already stays as it is, and what is neither digit nor blank becomes a question mark. -/
def asciiForm (text : List Char) : List Char :=
  text.map fun c =>
    if c.toNat < 128 then c
    else if isBlank c then ' '
    else
      match decimalValue? c with
      | some n => Nat.digitChar n
      | none => '?'

/-- The white space that may surround a number. -/
def isPadding (c : Char) : Bool := c == ' ' || (9 ≤ c.toNat && c.toNat ≤ 13)

/-- A text without the white space around it. -/
def trimPadding (text : List Char) : List Char :=
  ((text.dropWhile isPadding).reverse.dropWhile isPadding).reverse

/-- The value of a digit in some base up to 36. -/
def digitValue? (c : Char) : Option Nat :=
  if '0' ≤ c ∧ c ≤ '9' then some (c.toNat - '0'.toNat)
  else if 'a' ≤ c ∧ c ≤ 'z' then some (c.toNat - 'a'.toNat + 10)
  else if 'A' ≤ c ∧ c ≤ 'Z' then some (c.toNat - 'A'.toNat + 10)
  else none

/-- Whether a character is a digit in this base. -/
def isDigitIn (base : Nat) (c : Char) : Bool :=
  match digitValue? c with
  | some n => n < base
  | none => false

/-- The letter that announces a base. -/
def baseLetter? : Nat → Option Char
  | 2 => some 'b'
  | 8 => some 'o'
  | 16 => some 'x'
  | _ => none

/-- A text without the zero and the letter that announce its base. -/
def dropBase (base : Nat) (text : List Char) : List Char :=
  match text with
  | '0' :: letter :: rest =>
    if (baseLetter? base).any fun l => letter = l || letter = l.toUpper then rest else text
  | _ => text

/-- The number that a text writes in a base, with a sign or without one. -/
def integerIn (base : Nat) (text : List Char) : Except ScalarFault Int :=
  let trimmed := (asciiForm text).dropWhile isPadding
  let negative := trimmed.head? = some '-'
  let unsigned := dropBase base (dropSign trimmed)
  let digits := unsigned.takeWhile (isDigitIn base)
  let after := (unsigned.dropWhile (isDigitIn base)).dropWhile isPadding
  if base = 10 ∧ digitLimit < digits.length then .error (.longInteger digits.length)
  else if digits = [] ∨ after ≠ [] then .error (.integer base (String.ofList text))
  else
    let n := digits.foldl (fun n c => n * base + (digitValue? c).getD 0) 0
    .ok (if negative then -n else n)

/-- The parts of a text between colons. -/
def colonParts : List Char → List (List Char)
  | [] => [[]]
  | c :: rest =>
    if c = ':' then [] :: colonParts rest
    else
      match colonParts rest with
      | [] => [[c]]
      | first :: others => (c :: first) :: others

/-! ## Numbers -/

/-- The integer of a tagged scalar. Underscores do not count, and colons join sixtieths. -/
def integerOf (text : List Char) : Except ScalarFault Int :=
  match text.filter (· != '_') with
  | [] => .error .emptyNumber
  | sign :: more =>
    let signed := sign == '+' || sign == '-'
    let value := if signed then more else sign :: more
    let number : Except ScalarFault Int :=
      match value with
      | [] => .error .emptyNumber
      | ['0'] => .ok 0
      | '0' :: 'b' :: digits => integerIn 2 digits
      | '0' :: 'x' :: digits => integerIn 16 digits
      | '0' :: _ => integerIn 8 value
      | _ =>
        if value.contains ':' then
          ((colonParts value).mapM (integerIn 10)).map (List.foldl (fun n part => n * 60 + part) 0)
        else integerIn 10 value
    number.map fun n => if sign = '-' then -n else n

/-- Whether a text is a row of digits with a point in it, or without one. At least one digit is
there. -/
def isDecimalNumber (text : List Char) : Bool :=
  let whole := text.takeWhile isDigit
  match text.dropWhile isDigit with
  | [] => !whole.isEmpty
  | '.' :: fraction => fraction.all isDigit && !(whole.isEmpty && fraction.isEmpty)
  | _ => false

/-- Whether a text writes a real number, an infinity or no number. -/
def isReal (text : List Char) : Bool :=
  let unsigned := dropSign (trimPadding (asciiForm text))
  let isMark (c : Char) : Bool := c == 'e' || c == 'E'
  let lower := unsigned.map Char.toLower
  ["inf", "infinity", "nan"].any (fun word => lower = word.toList) ||
    match unsigned.dropWhile fun c => !isMark c with
    | [] => isDecimalNumber unsigned
    | _ :: exponent =>
      isDecimalNumber (unsigned.takeWhile fun c => !isMark c) &&
        !(dropSign exponent).isEmpty && (dropSign exponent).all isDigit

/-- Refuses what is no real number. -/
def checkReal (text : List Char) : Except ScalarFault Unit :=
  if isReal text then .ok () else .error (.real (String.ofList text))

/-- The greatest number of sixtieths that a real number can be made of. -/
def sixtiethLimit : Nat := 174

/-- Refuses a tagged scalar that is no real number. -/
def checkRealScalar (text : List Char) : Except ScalarFault Unit :=
  match lowerCase (text.filter (· != '_')) with
  | [] => .error .emptyNumber
  | sign :: more =>
    let value := if sign = '+' ∨ sign = '-' then more else sign :: more
    if value = ".inf".toList ∨ value = ".nan".toList then .ok ()
    else if value.contains ':' then do
      let parts := colonParts value
      parts.forM checkReal
      if sixtiethLimit < parts.length then throw .hugeReal
    else checkReal value

/-! ## Truth values -/

/-- The truth value of a tagged scalar. -/
def booleanOf (text : List Char) : Except ScalarFault Bool :=
  let word := lowerCase text
  match booleanWords.find? fun w => w.1.toList = word with
  | some (_, value) => .ok value
  | none => .error (.boolean (String.ofList word))

/-! ## Timestamps -/

/-- Whether a year has a 29 February. -/
def isLeapYear (year : Nat) : Bool :=
  year % 4 == 0 && (year % 100 != 0 || year % 400 == 0)

/-- The number of days of a month. -/
def daysIn (year month : Nat) : Nat :=
  if month = 2 then (if isLeapYear year then 29 else 28)
  else if [4, 6, 9, 11].contains month then 30
  else 31

/-- Refuses a time zone that is a day or more off. -/
def Offset.check (o : Offset) : Except ScalarFault Unit :=
  let seconds := o.hours * 3600 + o.minutes * 60
  if seconds < 86400 then .ok ()
  else .error (.offset (if o.negative then -(seconds : Int) else seconds))

/-- Refuses a date that does not exist. -/
def Timestamp.checkDate (t : Timestamp) : Except ScalarFault Unit :=
  if t.year = 0 then .error (.year t.year)
  else if t.month = 0 ∨ 12 < t.month then .error .month
  else if t.day = 0 ∨ daysIn t.year t.month < t.day then .error .day
  else .ok ()

/-- Refuses a time of day that does not exist. -/
def ClockTime.check (t : ClockTime) : Except ScalarFault Unit :=
  if 23 < t.hour then .error .hour
  else if 59 < t.minute then .error .minute
  else if 59 < t.second then .error .second
  else .ok ()

/-- Refuses a timestamp that does not exist: the zone is looked at first, then the date. -/
def Timestamp.check (t : Timestamp) : Except ScalarFault Unit :=
  match t.time? with
  | none => t.checkDate
  | some time => do
    match time.offset? with
    | none => pure ()
    | some offset => offset.check
    t.checkDate
    time.check

/-- Refuses a tagged scalar that is no timestamp. One line break may end it. -/
def checkTimestamp (text : List Char) : Except ScalarFault Unit :=
  let unbroken := if text.getLast? = some '\n' then text.dropLast else text
  match (Timestamp.ofText? text).or (Timestamp.ofText? unbroken) with
  | none => .error .noTimestamp
  | some t => t.check

/-! ## Binary data -/

/-- Whether a character is a digit of base 64. -/
def isBase64 (c : Char) : Bool :=
  ('0' ≤ c && c ≤ '9') || ('A' ≤ c && c ≤ 'Z') || ('a' ≤ c && c ≤ 'z') || c == '+' || c == '/'

/-- Whether a text of base 64 comes to an end in good order. Four digits make a group; the last
group may have two or three digits with equals signs in place of the others, and nothing after
them counts. Other characters do not count at all. -/
def isBinaryFrom (digits signs : Nat) : List Char → Bool
  | [] => digits == 0
  | c :: rest =>
    if c = '=' then
      if 2 ≤ digits then
        if 4 ≤ digits + (signs + 1) then true else isBinaryFrom digits (signs + 1) rest
      else isBinaryFrom digits signs rest
    else if isBase64 c then isBinaryFrom ((digits + 1) % 4) 0 rest
    else isBinaryFrom digits signs rest

/-- Whether a text is binary data in base 64. -/
def isBinary (text : List Char) : Bool := text.all (·.toNat < 128) && isBinaryFrom 0 0 text

end EventMessages.Yaml
