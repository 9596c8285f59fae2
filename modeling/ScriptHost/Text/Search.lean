/-!
# Occurrences in a text

All functions look for occurrences from the left, and the next one starts after the last has ended.

* `find?` : the first position at which a text occurs.
* `split` : the pieces between the occurrences of a separator.
* `replace` : the text with every occurrence of a pattern exchanged.
* `trim` : the text without the characters of a set at its ends.
-/

namespace ScriptHost.Text

/-- How many positions of a text leave room for a target. -/
def room (text target : List Char) : Nat := text.length + 1 - target.length

/-- The first of the next `count` positions, counted on from `position`, at which the target
occurs. -/
def findFrom? (target : List Char) : Nat → Nat → List Char → Option Nat
  | 0, _, _ => none
  | count + 1, position, text =>
    if target.isPrefixOf text then some position
    else findFrom? target count (position + 1) text.tail

/-- The first position not before `start` at which the target occurs. -/
def find? (text target : List Char) (start : Nat) : Option Nat :=
  if start ≤ text.length then
    let rest := text.drop start
    findFrom? target (room rest target) start rest
  else none

/-- The pieces between the occurrences of the separator `first :: rest`, which is looked for at the
next `count` positions. -/
def splitNext (first : Char) (rest : List Char) : Nat → List Char → List (List Char)
  | 0, text => [text]
  | _ + 1, [] => [[]]
  | count + 1, character :: text =>
    if (first :: rest).isPrefixOf (character :: text) then
      [] :: splitNext first rest (count - rest.length) (text.drop rest.length)
    else (splitNext first rest count text).modifyHead (character :: ·)
termination_by count => count
decreasing_by all_goals omega

/-- The pieces between the occurrences of the separator `first :: rest`. -/
def split (first : Char) (rest text : List Char) : List (List Char) :=
  splitNext first rest (room text (first :: rest)) text

/-- The text with every occurrence of the pattern `first :: rest` exchanged, which is looked for at
the next `count` positions. -/
def replaceNext (first : Char) (rest written : List Char) : Nat → List Char → List Char
  | 0, text => text
  | _ + 1, [] => []
  | count + 1, character :: text =>
    if (first :: rest).isPrefixOf (character :: text) then
      written ++ replaceNext first rest written (count - rest.length) (text.drop rest.length)
    else character :: replaceNext first rest written count text
termination_by count => count
decreasing_by all_goals omega

/-- The text with every occurrence of the pattern `first :: rest` exchanged. -/
def replace (first : Char) (rest written text : List Char) : List Char :=
  replaceNext first rest written (room text (first :: rest)) text

/-- The text with every occurrence of a pattern exchanged; the empty pattern occurs nowhere. -/
def replaceAll (text pattern written : List Char) : List Char :=
  match pattern with
  | [] => text
  | first :: rest => replace first rest written text

/-- The pieces between the occurrences of a separator; the empty separator gives the single
characters. -/
def splitAll (text separator : List Char) : List (List Char) :=
  match separator with
  | [] => text.map fun character => [character]
  | first :: rest => split first rest text

/-- The ends at which a text is trimmed. -/
inductive TrimSide
  | leading
  | trailing
  | both
deriving DecidableEq, Repr

namespace TrimSide

/-- The numbers by which scripts name the sides. -/
def ofCode? : Int → Option TrimSide
  | 1 => some .leading
  | 2 => some .trailing
  | 3 => some .both
  | _ => none

def name : TrimSide → String
  | .leading => "leading"
  | .trailing => "trailing"
  | .both => "both"

end TrimSide

def trimLeading (set text : List Char) : List Char := text.dropWhile set.contains

def trimTrailing (set text : List Char) : List Char :=
  (text.reverse.dropWhile set.contains).reverse

/-- The text without the characters of a set at the given ends. -/
def trim (set : List Char) : TrimSide → List Char → List Char
  | .leading, text => trimLeading set text
  | .trailing, text => trimTrailing set text
  | .both, text => trimTrailing set (trimLeading set text)

end ScriptHost.Text
