import ScriptHost.Error
import ScriptHost.Text.Case
import ScriptHost.Text.Search
import ScriptHost.Text.Span
import ScriptHost.Text.Utf16

/-!
# Strings with an identity

A string that scripts can change in place has an identity, which no copy shares, and a generation,
which counts the changes made to it. A view names a span of one string; it can be read as long as
identity and generation are those it was taken from.

* `ScriptString.make` : a string with a new identity.
* `ScriptString.push` … `ScriptString.replaceSpan` : changes in place, each one generation.
* `View.read` : the text of a view, unless the string was changed or replaced.
-/

namespace ScriptHost

structure ScriptString where
  text : String
  id : UInt64
  generation : UInt64
deriving DecidableEq, Inhabited

namespace ScriptString

/-- A string with the next identity, and the identity after it. -/
def make (text : String) (next : UInt64) : ScriptString × UInt64 :=
  ({ text, id := next, generation := 0 }, next + 1)

/-- A copy: the same text under the next identity. -/
def copy (s : ScriptString) (next : UInt64) : ScriptString × UInt64 := make s.text next

/-- The string with a new text, changed once more. -/
def changed (s : ScriptString) (text : List Char) : ScriptString :=
  { s with text := String.ofList text, generation := s.generation + 1 }

/-! ## Changes in place -/

def push (s : ScriptString) (added : String) : ScriptString :=
  s.changed (s.text.toList ++ added.toList)

def upper (s : ScriptString) : ScriptString := s.changed (Text.upper s.text.toList)

def lower (s : ScriptString) : ScriptString := s.changed (Text.lower s.text.toList)

def trim (s : ScriptString) (set : String) (side : Text.TrimSide) : ScriptString :=
  s.changed (Text.trim set.toList side s.text.toList)

/-- Every occurrence of the pattern exchanged. The empty pattern occurs nowhere, but asking for it
is a change all the same. -/
def replace (s : ScriptString) (pattern written : String) : ScriptString :=
  s.changed (Text.replaceAll s.text.toList pattern.toList written.toList)

def remove (s : ScriptString) (pattern : String) : ScriptString := s.replace pattern ""

/-- A position as error messages give it: a signed word of 64 bits. -/
def signedWord (n : Nat) : Int := Int.bmod n (2 ^ 64)

/-- The characters of a span exchanged. A span may not begin past the end. -/
def replaceSpan (s : ScriptString) (start length : Nat) (written : String) :
    Except Error ScriptString :=
  let count := s.text.toList.length
  if count < start then .error (.indexOutOfRange (signedWord start) count)
  else .ok (s.changed (Text.replaceSpan s.text.toList start length written.toList))

end ScriptString

/-! ## Views -/

/-- A span of one string in one generation, as byte positions. -/
structure View where
  owner : UInt64
  generation : UInt64
  start : Nat
  stop : Nat
deriving DecidableEq, Inhabited

namespace View

/-- The view of a span. -/
def take (s : ScriptString) (start length : Nat) : View :=
  let (first, last) := Text.byteSpan s.text.toList start length
  { owner := s.id, generation := s.generation, start := first, stop := last }

def isEmpty (view : View) : Bool := view.start == view.stop

/-- Whether a string is the one the view was taken from, unchanged since. -/
def isValidFor (view : View) (s : ScriptString) : Bool :=
  view.owner == s.id && view.generation == s.generation

/-- The text of a view. -/
def read (view : View) (s : ScriptString) : Except Error String :=
  if view.isValidFor s then
    match Text.readBytes? s.text.toList view.start view.stop with
    | some text => .ok (String.ofList text)
    | none => .error .staleView
  else .error .staleView

/-- The text of a view as a string of its own. -/
def copy (view : View) (s : ScriptString) (next : UInt64) :
    Except Error (ScriptString × UInt64) :=
  (view.read s).map fun text => ScriptString.make text next

end View

end ScriptHost
