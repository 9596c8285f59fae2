import ScriptHost.Text.Utf8

/-!
# Damage in a byte sequence

A byte sequence is read from left to right. A character that begins where the reading stands is
copied. Where none does, the bytes are damaged: what is skipped there is the longest start of some
character that they break off, or a single byte if they have no such start, and one replacement
character stands for it.

* `IsText` : the byte sequences that are texts.
* `IsBrokenOff` : the starts of characters that are not whole.
* `Longest` : the longest front of a byte sequence among those of some kind.
* `IsDamage` : what is skipped where no character begins.
* `Repaired` : the reading from left to right.
-/

namespace ScriptHost.Text.Utf8

/-- The bytes of some text. -/
def IsText (bytes : List UInt8) : Prop := ∃ text, bytes = encode text

/-- The bytes of some character but for the last ones; not all of them are missing. -/
def IsBrokenOff (front : List UInt8) : Prop :=
  front ≠ [] ∧ ∃ c, front <+: String.utf8EncodeChar c ∧ front ≠ String.utf8EncodeChar c

/-- The longest front of a byte sequence among those of some kind. -/
structure Longest (kind : List UInt8 → Prop) (bytes front : List UInt8) : Prop where
  isPrefix : front <+: bytes
  isKind : kind front
  longest : ∀ other, other <+: bytes → kind other → other.length ≤ front.length

/-- What is skipped at the front of a byte sequence because no character begins there. -/
structure IsDamage (bytes skipped : List UInt8) : Prop where
  noCharacter : ∀ c, ¬ String.utf8EncodeChar c <+: bytes
  skips : Longest IsBrokenOff bytes skipped ∨
    (∀ front, front <+: bytes → ¬ IsBrokenOff front) ∧ ∃ byte rest, bytes = byte :: rest ∧
      skipped = [byte]

/-- The reading of a byte sequence from left to right, and the text that it gives. -/
inductive Repaired : List UInt8 → List Char → Prop
  | nil : Repaired [] []
  | copied (c : Char) {bytes : List UInt8} {text : List Char} :
    Repaired bytes text → Repaired (String.utf8EncodeChar c ++ bytes) (c :: text)
  | replaced {skipped bytes : List UInt8} {text : List Char} :
    IsDamage (skipped ++ bytes) skipped → Repaired bytes text →
      Repaired (skipped ++ bytes) (replacement :: text)

end ScriptHost.Text.Utf8
