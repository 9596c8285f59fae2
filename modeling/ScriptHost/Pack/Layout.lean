import ScriptHost.Pack.Writer

/-!
# Where arrays begin in packed values

The stream form of a value is one item, which holds the items of its elements. The tags of arrays
are listed in the order of the text, each with the number of arrays that its item lies in.

* `Pack.arrayTags` : the tags of all arrays in the stream form of a value.
-/

namespace ScriptHost.Pack

/-- The tag of an array: how many bytes come before it, and how many arrays its item lies in. -/
structure ArrayTag where
  offset : Nat
  around : Nat
deriving DecidableEq, Repr

mutual

/-- The tags of the arrays in an item, given what comes before the item. -/
def arrayTagsFrom (offset around : Nat) : Value → List ArrayTag
  | .array values =>
    ⟨offset, around⟩ ::
      elementTagsFrom (offset + Text.Utf8.size (counted 'a' values.length)) (around + 1) values
  | _ => []

/-- The tags of the arrays in items that stand one behind the other. -/
def elementTagsFrom (offset around : Nat) : List Value → List ArrayTag
  | [] => []
  | value :: values =>
    arrayTagsFrom offset around value ++
      elementTagsFrom (offset + Text.Utf8.size (item value)) around values

end

/-- The tags of the arrays in the stream form of a value. -/
def arrayTags (value : Value) : List ArrayTag := arrayTagsFrom 0 0 value

end ScriptHost.Pack
