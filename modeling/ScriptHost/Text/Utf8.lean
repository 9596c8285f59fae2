/-!
# UTF-8

A byte sequence is read from left to right into pieces: characters that are encoded well, and
damage. One piece of damage is the longest start of some character that the bytes break off, or a
single byte that starts no character.

* `encode` : the bytes of a text.
* `pieces` : the reading of a byte sequence.
* `Piece.toChar` : the character that a piece is read as.
-/

namespace ScriptHost.Text

/-- U+FFFD, which stands for what cannot be read. -/
def replacement : Char := '\ufffd'

namespace Utf8

/-- The bytes of a text. -/
def encode (text : List Char) : List UInt8 := text.flatMap String.utf8EncodeChar

/-- The number of bytes of a text. -/
def size (text : List Char) : Nat := text.foldr (fun c rest => c.utf8Size + rest) 0

structure ByteRange where
  low : UInt8
  high : UInt8

def ByteRange.contains (range : ByteRange) (byte : UInt8) : Bool :=
  range.low ≤ byte && byte ≤ range.high

/-- A byte that continues a character, when the byte before it sets no narrower limits. -/
def continuation : ByteRange := ⟨0x80, 0xbf⟩

/-- What a first byte announces: the leading bits of the code point, and the ranges of the bytes
that must follow. The narrower ranges keep out long forms, surrogates and what is past the last
code point. -/
def lead? (byte : UInt8) : Option (Nat × List ByteRange) :=
  if byte ≤ 0x7f then some (byte.toNat, [])
  else if byte < 0xc2 then none
  else if byte ≤ 0xdf then some (byte.toNat - 0xc0, [continuation])
  else if byte = 0xe0 then some (0, [⟨0xa0, 0xbf⟩, continuation])
  else if byte = 0xed then some (0xd, [⟨0x80, 0x9f⟩, continuation])
  else if byte ≤ 0xef then some (byte.toNat - 0xe0, [continuation, continuation])
  else if byte = 0xf0 then some (0, [⟨0x90, 0xbf⟩, continuation, continuation])
  else if byte ≤ 0xf3 then some (byte.toNat - 0xf0, [continuation, continuation, continuation])
  else if byte = 0xf4 then some (4, [⟨0x80, 0x8f⟩, continuation, continuation])
  else none

/-- A piece of a byte sequence. -/
inductive Piece
  | intact (character : Char)
  | damage
deriving DecidableEq

/-- Where a reading stands: between pieces, or within a character whose further bytes must lie in
the given ranges. -/
inductive Reading
  | between
  | within (bits : Nat) (next : ByteRange) (later : List ByteRange)

/-- The reading after a byte that starts a piece, and the pieces it completes. -/
def start (byte : UInt8) : List Piece × Reading :=
  match lead? byte with
  | none => ([.damage], .between)
  | some (bits, []) => ([.intact (Char.ofNat bits)], .between)
  | some (bits, next :: later) => ([], .within bits next later)

/-- The reading after one more byte, and the pieces it completes. -/
def advance : Reading → UInt8 → List Piece × Reading
  | .between, byte => start byte
  | .within bits next later, byte =>
    if next.contains byte then
      let bits := bits * 64 + byte.toNat % 64
      match later with
      | [] => ([.intact (Char.ofNat bits)], .between)
      | next :: later => ([], .within bits next later)
    else
      let (done, reading) := start byte
      (.damage :: done, reading)

/-- The pieces of the bytes that follow. A character that the end breaks off is damage. -/
def piecesFrom : Reading → List UInt8 → List Piece
  | .between, [] => []
  | .within _ _ _, [] => [.damage]
  | reading, byte :: bytes =>
    let (done, reading) := advance reading byte
    done ++ piecesFrom reading bytes

/-- The pieces of a byte sequence. -/
def pieces (bytes : List UInt8) : List Piece := piecesFrom .between bytes

namespace Piece

/-- The character a piece is read as. -/
def toChar : Piece → Char
  | .intact character => character
  | .damage => replacement

def isIntact : Piece → Bool
  | .intact _ => true
  | .damage => false

end Piece

end Utf8

end ScriptHost.Text
