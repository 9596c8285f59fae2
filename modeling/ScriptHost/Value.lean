import ScriptHost.Double.Text
import ScriptHost.Text.Inspect

/-!
# Values

A value is what a variable holds, without regard to where it is stored.

* `Kind.name`, `Kind.isNumeric` : the label of a kind, and the kinds that mix in arithmetic.
* `Value.kind`, `Value.isTrue` : the kind and the truth of a value.
* `Value.printed`, `Value.quoted` : the text of a value, and its text inside an array.
* `Value.inspect` : the text that shows the construction of a value.
* `Value.depth` : how deeply arrays are nested.
-/

namespace ScriptHost

/-! ## Kinds -/

inductive Kind
  | uninit
  | boolean
  | integer
  | double
  | string
  | array
deriving DecidableEq, Repr

namespace Kind

/-- The label of a kind in answers and messages. -/
def name : Kind → String
  | .uninit => "Uninit"
  | .boolean => "Boolean"
  | .integer => "Integer"
  | .double => "Double"
  | .string => "String"
  | .array => "Array"

/-- The kinds that mix in arithmetic. -/
def isNumeric : Kind → Bool
  | .integer | .double => true
  | _ => false

end Kind

/-! ## Values -/

inductive Value
  | uninit
  | boolean (b : Bool)
  | integer (n : Int32)
  | double (d : Double)
  | string (text : String)
  | array (items : List Value)
deriving Inhabited

namespace Value

def kind : Value → Kind
  | .uninit => .uninit
  | .boolean _ => .boolean
  | .integer _ => .integer
  | .double _ => .double
  | .string _ => .string
  | .array _ => .array

/-- Truth: what is empty, zero or unset is false. -/
def isTrue : Value → Bool
  | .uninit => false
  | .boolean b => b
  | .integer n => n != 0
  | .double d => !d.isZero
  | .string text => !text.isEmpty
  | .array items => !items.isEmpty

/-! ## Parts -/

def boolean? : Value → Option Bool
  | .boolean b => some b
  | _ => none

def integer? : Value → Option Int32
  | .integer n => some n
  | _ => none

/-- The number that an integer or a double stands for. -/
def number? : Value → Option Double
  | .integer n => some (Double.ofInt n.toInt)
  | .double d => some d
  | _ => none

def string? : Value → Option String
  | .string text => some text
  | _ => none

def array? : Value → Option (List Value)
  | .array items => some items
  | _ => none

/-! ## Printed form -/

/-- Texts between braces, with commas. -/
def braced (texts : List String) : String :=
  if texts.isEmpty then "\x7b \x7d" else "\x7b " ++ ", ".intercalate texts ++ " \x7d"

/-- A text between quotes. -/
def quote (text : String) : String := "\"" ++ text ++ "\""

mutual

/-- The text of a value. -/
def printed : Value → String
  | .uninit => "<uninitialized object>"
  | .boolean b => if b then "true" else "false"
  | .integer n => toString n.toInt
  | .double d => d.text
  | .string text => text
  | .array items => braced (quotedAll items)

/-- The texts of an array's items; strings stand between quotes. -/
def quotedAll : List Value → List String
  | [] => []
  | .string text :: items => quote text :: quotedAll items
  | item :: items => printed item :: quotedAll items

end

/-- The text of a value inside an array. -/
def quoted : Value → String
  | .string text => quote text
  | value => value.printed

/-! ## Inspected form -/

mutual

/-- The text that shows the construction of a value. -/
def inspect : Value → String
  | .uninit => "Uninit"
  | .boolean b => "Bool(" ++ (if b then "true" else "false") ++ ")"
  | .integer n => "Long(" ++ toString n.toInt ++ ")"
  | .double d => "Double(" ++ d.inspect ++ ")"
  | .string text =>
    "String(StringValue(" ++ String.ofList (Text.inspect text.toList) ++ "))"
  | .array items => "Array([" ++ ", ".intercalate (inspectAll items) ++ "])"

def inspectAll : List Value → List String
  | [] => []
  | item :: items => inspect item :: inspectAll items

end

/-- The inspected form of a slot that holds a value. -/
def inspectSlot (value : Value) : String := "ValueRef(" ++ value.inspect ++ ")"

/-! ## Measures -/

mutual

/-- The depth of nested arrays; an array without elements has depth one. -/
def depth : Value → Nat
  | .array items => depthAll items + 1
  | _ => 0

/-- The depth of the deepest of several values. -/
def depthAll : List Value → Nat
  | [] => 0
  | item :: items => max (depth item) (depthAll items)

end

mutual

/-- An estimate of the bytes a value occupies, which grows with its content. -/
def footprint : Value → Nat
  | .string text => 40 + text.utf8ByteSize
  | .array items => 40 + footprintAll items
  | _ => 40

def footprintAll : List Value → Nat
  | [] => 0
  | item :: items => 8 + footprint item + footprintAll items

end

end Value

end ScriptHost
