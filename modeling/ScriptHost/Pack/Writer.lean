import ScriptHost.Text.Utf8
import ScriptHost.Value

/-!
# Packing values

A packed value is a tag with a payload. A string that stands alone has its characters as payload;
inside a stream its length comes first, so that its characters may be any. Numbers need no mark at
their end, as no tag can be part of one.

* `Pack.item` : the stream form of a value.
* `Value.pack` : the form of a value that stands alone.
-/

namespace ScriptHost

namespace Pack

/-- A tag, a count and a colon. -/
def counted (tag : Char) (count : Nat) : List Char := tag :: (Nat.toDigits 10 count ++ [':'])

mutual

/-- The stream form of a value. -/
def item : Value → List Char
  | .uninit => ['u']
  | .boolean b => ['b', if b then '1' else '0']
  | .integer n => 'i' :: (toString n.toInt).toList
  | .double d => 'r' :: d.text.toList
  | .string text => counted 'S' (Text.Utf8.size text.toList) ++ text.toList
  | .array values => counted 'a' values.length ++ items values

/-- The stream forms of values one behind the other. -/
def items : List Value → List Char
  | [] => []
  | value :: values => item value ++ items values

end

end Pack

namespace Value

/-- A text with the stream form of a value put behind it. -/
def packOnto (written : String) (value : Value) : String :=
  written ++ String.ofList (Pack.item value)

/-- The packed form of a value that stands alone. -/
def pack : Value → String
  | .string text => "s" ++ text
  | value => value.packOnto ""

/-- The bytes of the packed form. -/
def packBytes (value : Value) : List UInt8 := Text.Utf8.encode value.pack.toList

end Value

end ScriptHost
