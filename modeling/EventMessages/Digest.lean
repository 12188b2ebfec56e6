import EventMessages.Digest.Sha256

/-!
# EventMessages.Digest

The digest of a file: its SHA-256 in hexadecimal. A file is read in portions of a fixed size, and
the portions are hashed one after another.
-/

namespace EventMessages.Digest

/-- The digit of a number below 16. -/
def hexDigit (n : Nat) : Char := Nat.digitChar n

/-- Bytes in hexadecimal, lower case, two digits a byte. -/
def hex (bytes : List UInt8) : List Char :=
  bytes.flatMap fun b => [hexDigit (b.toNat / 16), hexDigit (b.toNat % 16)]

theorem length_hex (bytes : List UInt8) : (hex bytes).length = 2 * bytes.length := by
  induction bytes with
  | nil => rfl
  | cons b rest ih => simp only [hex, List.flatMap_cons, List.length_append] at *; simp [ih]; omega

/-- The digest of a byte string. -/
def ofBytes (bytes : List UInt8) : String := String.ofList (hex (Sha256.hash bytes))

/-- The bytes cut into portions of the given size, the last one shorter, at most `n` of them. -/
def portionsUpTo (size : Nat) : Nat → List UInt8 → List (List UInt8)
  | 0, _ => []
  | n + 1, bytes =>
    if bytes.isEmpty then [] else bytes.take size :: portionsUpTo size n (bytes.drop size)

/-- What a reader gets that asks for `size` bytes at a time until there are none left. -/
def portions (size : Nat) (bytes : List UInt8) : List (List UInt8) :=
  portionsUpTo size bytes.length bytes

/-- The digest of a message that arrives in portions. -/
def ofPortions (parts : List (List UInt8)) : String :=
  String.ofList (hex (parts.foldl Sha256.Hasher.update .initial).finish)

/-- Files are read 64 KiB at a time. -/
def portionSize : Nat := 64 * 1024

/-- The digest of a file's content. -/
def ofContent (bytes : List UInt8) : String := ofPortions (portions portionSize bytes)

end EventMessages.Digest
