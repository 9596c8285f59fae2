import ScriptHost.Text.Utf8

/-!
# Spans of a text

Positions and lengths count code points. A span that reaches past the end is cut there.

* `slice` : the characters of a span.
* `byteSpan` : the byte positions where a span begins and ends.
* `readBytes?` : the characters between two byte positions, if both lie between characters.
* `replaceSpan` : a text with the characters of a span exchanged.
-/

namespace ScriptHost.Text

/-- `length` characters from the position `start` on, as far as there are any. -/
def slice (text : List Char) (start length : Nat) : List Char := (text.drop start).take length

/-- The byte position of a code-point position, up to the end of the text. -/
def byteOffset? (text : List Char) (position : Nat) : Option Nat :=
  if position ≤ text.length then some (Utf8.size (text.take position)) else none

/-- The byte positions where a span begins and ends. -/
def byteSpan (text : List Char) (start length : Nat) : Nat × Nat :=
  (Utf8.size (text.take start), Utf8.size (text.take (start + length)))

/-- What follows the first `bytes` bytes, if they are whole characters. -/
def dropBytes? : List Char → Nat → Option (List Char)
  | text, 0 => some text
  | [], _ + 1 => none
  | character :: text, bytes + 1 =>
    if character.utf8Size ≤ bytes + 1 then dropBytes? text (bytes + 1 - character.utf8Size)
    else none

/-- The first `bytes` bytes, if they are whole characters. -/
def takeBytes? : List Char → Nat → Option (List Char)
  | _, 0 => some []
  | [], _ + 1 => none
  | character :: text, bytes + 1 =>
    if character.utf8Size ≤ bytes + 1 then
      (takeBytes? text (bytes + 1 - character.utf8Size)).map (character :: ·)
    else none

/-- The characters between two byte positions, if both lie between characters. -/
def readBytes? (text : List Char) (start stop : Nat) : Option (List Char) :=
  if start ≤ stop then (dropBytes? text start).bind fun rest => takeBytes? rest (stop - start)
  else none

/-- A text with the characters of a span exchanged. -/
def replaceSpan (text : List Char) (start length : Nat) (written : List Char) : List Char :=
  text.take start ++ written ++ text.drop (start + length)

end ScriptHost.Text
