import EventMessages.Text.Printable

/-!
# EventMessages.Text.Quoted

Names quoted in messages. A name stands between single quotes, or between double quotes when it
holds a single quote and no double one. The quote in use and the backslash are escaped with a
backslash, and a character that cannot be shown is written as its code.
-/

namespace EventMessages.Text

/-- A number in hexadecimal, lower case, with at least the given number of digits. -/
def hexPadded (width n : Nat) : List Char :=
  let digits := Nat.toDigits 16 n
  List.replicate (width - digits.length) '0' ++ digits

/-- One character of a quoted name. -/
def quotedChar (quote c : Char) : List Char :=
  if c = quote || c = '\\' then ['\\', c]
  else if c = '\t' then ['\\', 't']
  else if c = '\n' then ['\\', 'n']
  else if c = '\r' then ['\\', 'r']
  else if isPrintable c then [c]
  else if c.toNat ≤ 0xff then '\\' :: 'x' :: hexPadded 2 c.toNat
  else if c.toNat ≤ 0xffff then '\\' :: 'u' :: hexPadded 4 c.toNat
  else '\\' :: 'U' :: hexPadded 8 c.toNat

/-- The quote that surrounds a name. -/
def quoteFor (name : List Char) : Char :=
  if name.contains '\'' && !name.contains '"' then '"' else '\''

/-- A name as it stands in a message. -/
def quoted (name : String) : String :=
  let quote := quoteFor name.toList
  String.ofList (quote :: name.toList.flatMap (quotedChar quote) ++ [quote])

/-- A name of ordinary characters only gets its two quotes. -/
example : quoted "res/app.mc" = "'res/app.mc'" := by decide

/-- A lone apostrophe changes the quotes, and with both quotes inside the apostrophe is escaped. -/
example : quoted "it's" = "\"it's\"" ∧ quoted "a'\"b" = "'a\\'\"b'" := by decide

end EventMessages.Text
