import ScriptHost.Error
import ScriptHost.Text.Span
import ScriptHost.Value

/-!
# Subscripts

Indices count from one. A list of indices walks into nested arrays; on a string it ends the walk,
with one index for a character or with two for a span.

* `Subscript.position` : the place of an index.
* `Subscript.span` : the span of a pair of indices on a string.
* `Value.subscript` : what a list of indices selects.
-/

namespace ScriptHost

namespace Subscript

/-- The place, counted from zero, of an index into a container of the given length. -/
def position (container : Kind) (index : Value) (length : Nat) : Except Error Nat :=
  match index with
  | .integer n =>
    if n.toInt < 1 ∨ (length : Int) < n.toInt then .error (.indexOutOfRange n.toInt length)
    else .ok (n.toInt.toNat - 1)
  | _ => .error (.typeMismatch .index container index.kind)

/-- Start and length of the span that two indices name in a string of the given length. A span may
begin right behind the last character, and may reach past the end. -/
def span (length : Nat) : Value → Value → Except Error (Nat × Nat)
  | .integer first, .integer count =>
    if first.toInt < 1 ∨ (length : Int) + 1 < first.toInt then
      .error (.indexOutOfRange first.toInt length)
    else if count.toInt < 0 then .error (.indexOutOfRange count.toInt length)
    else .ok (first.toInt.toNat - 1, count.toInt.toNat)
  | .integer _, count => .error (.typeMismatch .index .string count.kind)
  | first, _ => .error (.typeMismatch .index .string first.kind)

/-- The text that an assignment writes into a string. -/
def assignedText : Value → Except Error String
  | .string text => .ok text
  | target => .error (.typeMismatch .assign .string target.kind)

end Subscript

namespace Value

/-- The characters of a span of a string. -/
def slice (text : String) (start length : Nat) : Value :=
  .string (String.ofList (Text.slice text.toList start length))

/-- What one index selects. -/
def item (value index : Value) : Except Error Value :=
  match value with
  | .array items => do
    let position ← Subscript.position .array index items.length
    match items[position]? with
    | some item => .ok item
    | none => .error (.indexOutOfRange (position + 1) items.length)
  | .string text => do
    let position ← Subscript.position .string index text.toList.length
    .ok (slice text position 1)
  | value => .error (.typeMismatch .index value.kind index.kind)

/-- What a list of indices selects. -/
def subscript (value : Value) : List Value → Except Error Value
  | [] => .error (.invalidArgument .noIndex)
  | [index] => value.item index
  | first :: second :: rest =>
    match value with
    | .string text =>
      match rest with
      | [] => do
        let (start, length) ← Subscript.span text.toList.length first second
        .ok (slice text start length)
      | _ :: _ => .error (.invalidArgument .stringIndices)
    | .array items => do
      let position ← Subscript.position .array first items.length
      match items[position]? with
      | some item => item.subscript (second :: rest)
      | none => .error (.indexOutOfRange (position + 1) items.length)
    | value => .error (.typeMismatch .index value.kind first.kind)

end Value

end ScriptHost
