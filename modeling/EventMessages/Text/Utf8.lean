/-!
# EventMessages.Text.Utf8

UTF-8, written and read.

Reading cuts a byte string into pieces: characters, and maximal invalid parts. An invalid part is
the longest run that starts like a well-formed sequence and cannot be completed, or a single byte
that starts none. A reader then either puts U+FFFD in place of each invalid part (`decodeLossy`) or
refuses the text and names the first one (`decodeStrict`).

The reader goes through the bytes once and keeps only the sequence it is in the middle of. A byte
below 0x80 always ends that sequence, so nothing before a line break bears on what follows it.
-/

namespace EventMessages.Text.Utf8

/-! ## Writing -/

/-- The UTF-8 bytes of a text. -/
def encode (text : List Char) : List UInt8 := text.flatMap String.utf8EncodeChar

@[simp] theorem encode_nil : encode [] = [] := rfl

@[simp] theorem encode_cons (c : Char) (text : List Char) :
    encode (c :: text) = String.utf8EncodeChar c ++ encode text := rfl

@[simp] theorem encode_append (a b : List Char) : encode (a ++ b) = encode a ++ encode b := by
  simp [encode]

/-! ## Pieces -/

/-- Why a run of bytes is no character. -/
inductive Reason where
  /-- The byte starts no sequence. -/
  | start
  /-- The byte after the run does not continue it. -/
  | continuation
  /-- The bytes end inside a sequence. -/
  | truncated
  deriving DecidableEq, Repr

/-- What a byte string is made of. -/
inductive Piece where
  | scalar (c : Char)
  | invalid (bytes : List UInt8) (reason : Reason)
  deriving DecidableEq, Repr

/-- A sequence whose last bytes are still to come. -/
structure Pending where
  /-- The bytes read so far. -/
  bytes : List UInt8
  /-- The bits they carry. -/
  bits : Nat
  /-- The number of bytes that follow the next one. -/
  after : Nat
  /-- The least byte that may come next. -/
  low : UInt8
  /-- The greatest byte that may come next. -/
  high : UInt8
  deriving DecidableEq, Repr

/-- What a byte that continues no sequence stands for. -/
inductive Lead where
  | piece (p : Piece)
  | pending (p : Pending)

/-- The role of a first byte. The ranges of the second byte leave out overlong forms, surrogates
and what lies above U+10FFFF. -/
def lead (b : UInt8) : Lead :=
  let n := b.toNat
  if n < 0x80 then .piece (.scalar (Char.ofNat n))
  else if n < 0xc2 then .piece (.invalid [b] .start)
  else if n < 0xe0 then .pending ⟨[b], n - 0xc0, 0, 0x80, 0xbf⟩
  else if n < 0xf0 then
    .pending ⟨[b], n - 0xe0, 1, if n = 0xe0 then 0xa0 else 0x80, if n = 0xed then 0x9f else 0xbf⟩
  else if n < 0xf5 then
    .pending ⟨[b], n - 0xf0, 2, if n = 0xf0 then 0x90 else 0x80, if n = 0xf4 then 0x8f else 0xbf⟩
  else .piece (.invalid [b] .start)

/-- Whether the byte may come next in the sequence. -/
def Pending.admits (p : Pending) (b : UInt8) : Bool := p.low ≤ b && b ≤ p.high

/-- The sequence with one more byte: a character when it was the last one. -/
def Pending.push (p : Pending) (b : UInt8) : Lead :=
  let bits := p.bits * 64 + (b.toNat - 0x80)
  match p.after with
  | 0 => .piece (.scalar (Char.ofNat bits))
  | n + 1 => .pending ⟨p.bytes ++ [b], bits, n, 0x80, 0xbf⟩

/-- The pieces of a byte string that is read from inside the given sequence, if any. -/
def piecesFrom : Option Pending → List UInt8 → List Piece
  | none, [] => []
  | some p, [] => [.invalid p.bytes .truncated]
  | none, b :: rest =>
    match lead b with
    | .piece q => q :: piecesFrom none rest
    | .pending q => piecesFrom (some q) rest
  | some p, b :: rest =>
    if p.admits b then
      match p.push b with
      | .piece q => q :: piecesFrom none rest
      | .pending q => piecesFrom (some q) rest
    else
      match lead b with
      | .piece q => .invalid p.bytes .continuation :: q :: piecesFrom none rest
      | .pending q => .invalid p.bytes .continuation :: piecesFrom (some q) rest

/-- The characters and the invalid parts of a byte string, in order. -/
def pieces (bytes : List UInt8) : List Piece := piecesFrom none bytes

@[simp] theorem pieces_nil : pieces [] = [] := rfl

/-! ## Reading -/

/-- The replacement character stands for an invalid part. -/
def replacement : Char := '\uFFFD'

/-- The character that a lossy reader sees. -/
def Piece.char : Piece → Char
  | .scalar c => c
  | .invalid _ _ => replacement

/-- The text of a byte string, with one U+FFFD for each maximal invalid part. -/
def decodeLossy (bytes : List UInt8) : List Char := (pieces bytes).map Piece.char

/-- The first invalid part of a byte string: where it starts, its bytes, and what is wrong. -/
structure Fault where
  position : Nat
  bytes : List UInt8
  reason : Reason
  deriving DecidableEq, Repr

/-- The text of pieces that start at the given offset, or the first fault among them. -/
def textOfPieces (position : Nat) : List Piece → Except Fault (List Char)
  | [] => .ok []
  | .invalid bytes reason :: _ => .error ⟨position, bytes, reason⟩
  | .scalar c :: rest => (textOfPieces (position + c.utf8Size) rest).map (c :: ·)

/-- The text of a byte string, or its first invalid part. -/
def decodeStrict (bytes : List UInt8) : Except Fault (List Char) := textOfPieces 0 (pieces bytes)

end EventMessages.Text.Utf8
