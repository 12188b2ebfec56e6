import EventMessages.Text.Quoted

/-!
# EventMessages.Yaml.Fault

Why a YAML text has no meaning. Most faults are faults of form and need no further words. The rest
are scalars whose form says what they are and whose content then is none of it, such as a date in
month 13; those name what is wrong with the content. Two faults say no more than that the text is
beyond its reader: it spells what is no character, or it goes deeper than can be followed.
-/

namespace EventMessages.Yaml

/-- A scalar that is not what its form or its tag says. -/
inductive ScalarFault where
  /-- An escaped code point above the last one. -/
  | codePoint
  /-- An escaped code point that takes all 32 bits. -/
  | wideCodePoint
  /-- An escaped surrogate, which is half of a character. A text with one in it is neither a path nor
  a name, so the reading ends with it. -/
  | surrogate
  /-- A tagged number without a single character. -/
  | emptyNumber
  | integer (base : Nat) (text : String)
  /-- More decimal digits than an integer may have. -/
  | longInteger (digits : Nat)
  | real (text : String)
  /-- A sexagesimal number beyond the range of reals. -/
  | hugeReal
  | boolean (text : String)
  /-- A tagged timestamp that has no date in it. -/
  | noTimestamp
  /-- A tagged timestamp that is a mapping. -/
  | mappedTimestamp
  | year (n : Nat)
  | month
  | day
  | hour
  | minute
  | second
  /-- A zone offset of a day or more, in seconds. -/
  | offset (seconds : Int)
  /-- Collections in collections, or values that stand for one another, beyond any depth that can be
  followed. A scalar that is its own value is among them. -/
  | endless
  deriving DecidableEq, Repr

/-- The greatest number of decimal digits of an integer. -/
def digitLimit : Nat := 4300

/-- How many collections may stand in one another. The reader makes two calls for each of them, and
the calls that it may be in at once are limited. -/
def nestingLimit : Nat := 480

/-- How many values may stand for one another, at one call for each. -/
def chainLimit : Nat := 2 * nestingLimit

/-- A length of time in days and seconds. -/
def spanText (seconds : Int) : String :=
  let days := toString (seconds.fdiv 86400)
  let rest := seconds.fmod 86400
  if rest = 0 then "datetime.timedelta(days=" ++ days ++ ")"
  else "datetime.timedelta(days=" ++ days ++ ", seconds=" ++ toString rest ++ ")"

/-- The message of a scalar fault. -/
def ScalarFault.message : ScalarFault → String
  | .codePoint => "chr() arg not in range(0x110000)"
  | .wideCodePoint => "Python int too large to convert to C int"
  | .surrogate => "surrogates not allowed"
  | .emptyNumber => "string index out of range"
  | .integer base text =>
    let shown := (Text.quoted text).toList.take 200
    "invalid literal for int() with base " ++ toString base ++ ": " ++ String.ofList shown
  | .longInteger digits =>
    "Exceeds the limit (" ++ toString digitLimit ++
      " digits) for integer string conversion: value has " ++ toString digits ++
      " digits; use sys.set_int_max_str_digits() to increase the limit"
  | .real text => "could not convert string to float: " ++ Text.quoted text
  | .hugeReal => "int too large to convert to float"
  | .boolean text => Text.quoted text
  | .noTimestamp => "'NoneType' object has no attribute 'groupdict'"
  | .mappedTimestamp => "expected string or bytes-like object, got 'list'"
  | .year n => "year " ++ toString n ++ " is out of range"
  | .month => "month must be in 1..12"
  | .day => "day is out of range for month"
  | .hour => "hour must be in 0..23"
  | .minute => "minute must be in 0..59"
  | .second => "second must be in 0..59"
  | .offset seconds =>
    "offset must be a timedelta strictly between -timedelta(hours=24) and " ++
      "timedelta(hours=24), not " ++ spanText seconds ++ "."
  | .endless => "maximum recursion depth exceeded"

/-- Why a YAML text has no meaning. -/
inductive Fault where
  /-- The text is not well formed. -/
  | malformed
  | scalar (fault : ScalarFault)
  deriving DecidableEq, Repr

example : (ScalarFault.integer 16 "").message = "invalid literal for int() with base 16: ''" := by
  decide

end EventMessages.Yaml
