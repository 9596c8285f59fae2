import ScriptHost.Text.Utf8

/-!
# Texts in memory

A text lies in memory as its bytes. A code-point position is found by a walk over the characters,
and the bytes may be cut only where a character begins or the text ends.

* `Buffer.offset?` : the walk to a code-point position.
* `Buffer.span` : the walk to the two ends of a span.
* `Buffer.isBoundary` : whether the bytes may be cut at a position.
* `Buffer.cut?`, `Buffer.exchange?` : bytes taken out of a buffer, and put in their place.
* `Buffer.passed?`, `Buffer.find?` : a search among the bytes, and the code-point position it finds.
-/

namespace ScriptHost.Text.Buffer

/-- The characters of a text, each with the byte position at which it begins. The first one begins
at the given position. -/
def characters (offset : Nat) : List Char → List (Nat × Char)
  | [] => []
  | c :: text => (offset, c) :: characters (offset + c.utf8Size) text

/-- The byte position of a code-point position. -/
def offset? (text : List Char) (position : Nat) : Option Nat :=
  match (characters 0 text)[position]? with
  | some (offset, _) => some offset
  | none => if position = text.length then some (Utf8.encode text).length else none

/-- The byte positions where a span begins and ends, both cut at the end of the text. -/
def span (text : List Char) (start length : Nat) : Nat × Nat :=
  let rest := (characters 0 text).drop start
  match rest.head? with
  | none => ((Utf8.encode text).length, (Utf8.encode text).length)
  | some (first, _) =>
    if length = 0 then (first, first)
    else
      match rest[length]? with
      | some (last, _) => (first, last)
      | none => (first, (Utf8.encode text).length)

/-- Whether a character begins at a byte position, or the bytes begin or end there. -/
def isBoundary (bytes : List UInt8) (offset : Nat) : Bool :=
  match bytes[offset]? with
  | some byte => offset == 0 || !Utf8.continuation.contains byte
  | none => offset == bytes.length

/-- Whether the bytes between two positions may be cut out. -/
def isCut (bytes : List UInt8) (first last : Nat) : Bool :=
  first ≤ last && isBoundary bytes first && isBoundary bytes last

/-- The bytes between two positions, if they may be cut out. -/
def cut? (bytes : List UInt8) : Nat × Nat → Option (List UInt8)
  | (first, last) => if isCut bytes first last then some ((bytes.take last).drop first) else none

/-- Other bytes in place of those between two positions, if these may be cut out. -/
def exchange? (bytes : List UInt8) (span : Nat × Nat) (written : List UInt8) :
    Option (List UInt8) :=
  if isCut bytes span.1 span.2 then some (bytes.take span.1 ++ written ++ bytes.drop span.2)
  else none

/-- The first position at which other bytes stand in a buffer. -/
def occurrence? (bytes wanted : List UInt8) : Option Nat :=
  (List.range (bytes.length + 1)).find? fun position => wanted.isPrefixOf (bytes.drop position)

/-- How many characters begin in a buffer. -/
def count (bytes : List UInt8) : Nat := bytes.countP fun byte => !Utf8.continuation.contains byte

/-- The byte positions between which a search passes over the text: from a code-point position to
where the bytes of the target stand. -/
def passed? (text target : List Char) (start : Nat) : Option (Nat × Nat) := do
  let first ← offset? text start
  let distance ← occurrence? ((Utf8.encode text).drop first) (Utf8.encode target)
  some (first, first + distance)

/-- The first code-point position not before `start` at which the target stands: the characters
that the search passes over are counted. -/
def find? (text target : List Char) (start : Nat) : Option Nat := do
  let (first, last) ← passed? text target start
  some (start + count (((Utf8.encode text).take last).drop first))

end ScriptHost.Text.Buffer
