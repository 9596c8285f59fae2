import ScriptHost.Error
import ScriptHost.Text.Utf8

/-!
# Bytes from outside

Bytes from outside are meant to be a text, but need not be one. A new string is made of them in any
case, and a buffer is repaired in place; a check refuses them.

* `Utf8.repair` : the text in which every piece of damage is one replacement character.
* `Utf8.intactLength?` : how many bytes come before the first damage, if there is any.
* `Utf8.sanitize` : a buffer repaired in place.
* `Utf8.check` : the text that a byte sequence is, or where it stops being one.
* `received` : the text of bytes from outside, repaired if they are none.
* `validated` : the text of bytes from outside, which must be one.
-/

namespace ScriptHost.Text

namespace Utf8

/-- The text in which every piece of damage is one replacement character. -/
def repair (bytes : List UInt8) : List Char := (pieces bytes).map Piece.toChar

/-- Whether a byte sequence is a text. -/
def isValid (bytes : List UInt8) : Bool := (pieces bytes).all Piece.isIntact

/-- The number of bytes before the first damage, if there is any. -/
def intactLength? (bytes : List UInt8) : Option Nat :=
  if isValid bytes then none
  else some (size (((pieces bytes).takeWhile Piece.isIntact).map Piece.toChar))

/-- A byte buffer made into a text, and whether that changed it. -/
def sanitize (bytes : List UInt8) : List UInt8 × Bool :=
  if isValid bytes then (bytes, false) else (encode (repair bytes), true)

/-- The text that a byte sequence is, or the number of bytes before the first damage. -/
def check (bytes : List UInt8) : Except Nat String :=
  match String.fromUTF8? bytes.toByteArray with
  | some text => .ok text
  | none => .error ((intactLength? bytes).getD bytes.length)

end Utf8

/-- The text of bytes from outside, repaired if they are none. -/
def received (bytes : List UInt8) : String :=
  match Utf8.check bytes with
  | .ok text => text
  | .error _ => String.ofList (Utf8.repair bytes)

/-- The text of bytes from outside, which must be one. -/
def validated (bytes : List UInt8) : Except Error String :=
  (Utf8.check bytes).mapError .invalidUnicode

end ScriptHost.Text
