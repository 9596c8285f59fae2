import ScriptHost.Text.Utf8

/-!
# UTF-16 and UTF-32

* `Utf16.encode` : the 16-bit units of a text, two for a character past the first plane.
* `Utf16.decode` : the text of any units; a surrogate without its partner is replaced.
* `Utf32.encode`, `Utf32.decodeOne` : code points, and the character of any 32-bit code.
-/

namespace ScriptHost.Text

namespace Utf32

/-- The code points of a text. -/
def encode (text : List Char) : List UInt32 := text.map Char.val

/-- The character of a code, replaced if the code is no scalar value. -/
def decodeOne (code : Nat) : Char := if code.isValidChar then Char.ofNat code else replacement

end Utf32

namespace Utf16

/-- The units of one character. -/
def encodeChar (character : Char) : List UInt16 :=
  if character.toNat < 0x10000 then [UInt16.ofNat character.toNat]
  else
    let above := character.toNat - 0x10000
    [UInt16.ofNat (0xd800 + above / 0x400), UInt16.ofNat (0xdc00 + above % 0x400)]

/-- The units of a text. -/
def encode (text : List Char) : List UInt16 := text.flatMap encodeChar

/-- Whether a unit opens a surrogate pair. -/
def isHigh (unit : UInt16) : Bool := 0xd800 ≤ unit && unit ≤ 0xdbff

/-- Whether a unit closes a surrogate pair. -/
def isLow (unit : UInt16) : Bool := 0xdc00 ≤ unit && unit ≤ 0xdfff

/-- The character of a surrogate pair. -/
def pair (high low : UInt16) : Char :=
  Char.ofNat (0x10000 + (high.toNat - 0xd800) * 0x400 + (low.toNat - 0xdc00))

/-- The text of any units. -/
def decode : List UInt16 → List Char
  | [] => []
  | [unit] => [Utf32.decodeOne unit.toNat]
  | unit :: next :: rest =>
    if isHigh unit && isLow next then pair unit next :: decode rest
    else Utf32.decodeOne unit.toNat :: decode (next :: rest)

end Utf16

end ScriptHost.Text
