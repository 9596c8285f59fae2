import ScriptHost.Text.Blank
import ScriptHost.Text.HiddenTable

/-!
# Inspected text

A text is shown between quotes, with what would not show or would end it written as an escape.

* `inspect` : the quoted form of a text.
* `escapeByte` : a byte as error messages show it.
-/

namespace ScriptHost.Text

/-- The digits of a number in base sixteen. -/
def hexadecimal (n : Nat) : List Char := Nat.toDigits 16 n

/-- Whether a character is written by its code point. -/
def isHidden (character : Char) : Bool :=
  character.toNat < 0x20 || character.toNat == 0x7f || inRanges hiddenRanges character.toNat

/-- A character inside a quoted text. -/
def inspectChar (character : Char) : List Char :=
  match character with
  | '\x00' => ['\x5c', '0']
  | '\t' => ['\x5c', 't']
  | '\r' => ['\x5c', 'r']
  | '\n' => ['\x5c', 'n']
  | '\x22' => ['\x5c', '\x22']
  | '\x5c' => ['\x5c', '\x5c']
  | _ =>
    if isHidden character then
      ['\x5c', 'u', '\x7b'] ++ hexadecimal character.toNat ++ ['\x7d']
    else [character]

/-- The quoted form of a text. -/
def inspect (text : List Char) : List Char := '\x22' :: (text.flatMap inspectChar ++ ['\x22'])

/-- A byte as error messages show it: printable ASCII as it is, the rest escaped. -/
def escapeByte (byte : UInt8) : List Char :=
  if byte = 0x09 then ['\x5c', 't']
  else if byte = 0x0a then ['\x5c', 'n']
  else if byte = 0x0d then ['\x5c', 'r']
  else if byte = 0x22 then ['\x5c', '\x22']
  else if byte = 0x27 then ['\x5c', '\x27']
  else if byte = 0x5c then ['\x5c', '\x5c']
  else if 0x20 ≤ byte && byte < 0x7f then [Char.ofNat byte.toNat]
  else ['\x5c', 'x', Nat.digitChar (byte.toNat / 16), Nat.digitChar (byte.toNat % 16)]

end ScriptHost.Text
