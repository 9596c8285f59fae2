import ScriptHost.Method.Arguments
import ScriptHost.Store.Assign
import ScriptHost.Text.Case
import ScriptHost.Text.Incoming
import ScriptHost.Text.Utf16

/-!
# Calling methods

Methods count positions from one. A method that fails leaves what it was called on as it was.

* `TextMethod.query` : the methods that only look at a string.
* `TextMethod.update` : the methods that change a string.
* `Store.callMethod` : a method called on a slot by its name.
* `ConstantString.call` : a method called on a string that cannot be changed.
-/

namespace ScriptHost

namespace Value

/-- A string of characters. -/
def ofChars (text : List Char) : Value := .string (String.ofList text)

/-- An array of numbers as integers. -/
def ofUnits (units : List Nat) : Value := .array (units.map fun n => .integer (Int32.ofNat n))

/-- A count as an integer. -/
def ofCount (n : Nat) : Value := .integer (Int32.ofNat n)

end Value

namespace TextMethod

/-- The characters that `trim` takes away when it is not told which. -/
def defaultTrimSet : String := " \t\r\n"

/-- The text joined from printed items. -/
def joined (separator : String) (items : List Value) : String :=
  separator.intercalate (items.map Value.printed)

/-- The position of a target, counted from one; zero if there is none. -/
def foundAt (text target : String) (start : Nat) : Value :=
  match Text.find? text.toList target.toList start with
  | some position => Value.ofCount (position + 1)
  | none => Value.ofCount 0

/-- The result of a method that only looks at a string. -/
def query (text : String) (method : Method) (arguments : List Value) : Except Error Value :=
  match method, arguments with
  | .length, [] => .ok (Value.ofCount text.toList.length)
  | .upper, [] => .ok (Value.ofChars (Text.upper text.toList))
  | .lower, [] => .ok (Value.ofChars (Text.lower text.toList))
  | .find, [target] => do
    let target ← Arguments.text .find 1 target
    .ok (foundAt text target 0)
  | .find, [target, start] => do
    let target ← Arguments.text .find 1 target
    let start ← Arguments.start .find 2 start text.toList.length
    .ok (foundAt text target start)
  | .trim, [] => .ok (Value.ofChars (Text.trim defaultTrimSet.toList .both text.toList))
  | .trim, [set] => do
    let set ← Arguments.text .trim 1 set
    .ok (Value.ofChars (Text.trim set.toList .both text.toList))
  | .trim, [set, side] => do
    let set ← Arguments.text .trim 1 set
    let side ← Arguments.side side
    .ok (Value.ofChars (Text.trim set.toList side text.toList))
  | .substr, [start, length] => do
    let start ← Arguments.start .substr 1 start text.toList.length
    let length ← Arguments.length .substr 2 length
    .ok (Value.slice text start length)
  | .split, [] => .ok (.array ((Text.words text.toList).map Value.ofChars))
  | .split, [separator] => do
    let separator ← Arguments.text .split 1 separator
    .ok (.array ((Text.splitAll text.toList separator.toList).map Value.ofChars))
  | .join, [items] => do
    let items ← Arguments.items .join 1 items
    .ok (.string (joined text items))
  | .isValidUnicode, [] => .ok (.boolean (Text.Utf8.isValid (Text.Utf8.encode text.toList)))
  | .utf16, [] => .ok (Value.ofUnits ((Text.Utf16.encode text.toList).map UInt16.toNat))
  | .utf32, [] => .ok (Value.ofUnits ((Text.Utf32.encode text.toList).map UInt32.toNat))
  | method, arguments => .error (Arguments.miscounted method arguments)

/-- The string after a method that changes it. -/
def update (s : ScriptString) (method : Method) (arguments : List Value) :
    Except Error ScriptString :=
  match method, arguments with
  | .replace, [pattern, written] => do
    let pattern ← Arguments.text .replace 1 pattern
    let written ← Arguments.text .replace 2 written
    .ok (s.replace pattern written)
  | .subreplace, [written, start, length] => do
    let written ← Arguments.text .subreplace 1 written
    let start ← Arguments.start .subreplace 2 start s.text.toList.length
    let length ← Arguments.length .subreplace 3 length
    s.replaceSpan start length written
  | method, arguments => .error (Arguments.miscounted method arguments)

end TextMethod

namespace Store

/-- A method called on a slot that holds a string. -/
def callOnString (st : Store) (slot : Nat) (s : ScriptString) (method : Method)
    (arguments : List Value) : Except Error (Value × Store) :=
  if method.mutates then
    (TextMethod.update s method arguments).map fun s => (.string s.text, st.put slot (.string s))
  else (TextMethod.query s.text method arguments).map fun result => (result, st)

/-- A method called on a slot that holds an array with the given element slots. -/
def callOnArray (st : Store) (slot : Nat) (slots : List Nat) (method : Method)
    (arguments : List Value) : Except Error (Value × Store) :=
  match method, arguments with
  | .size, [] => .ok (Value.ofCount slots.length, st)
  | .append, item :: items =>
    .ok (Value.ofCount (slots.length + (items.length + 1)), st.append slot slots (item :: items))
  | .insert, [position, value] => do
    let position ← Arguments.start .insert 1 position slots.length
    match st.insertItem slot slots position value with
    | some st => .ok (Value.ofCount (slots.length + 1), st)
    | none => .error (.indexOutOfRange (position + 1) slots.length)
  | .erase, [position] => do
    let n ← Arguments.integer .erase 1 position
    if n < 1 then .error (.indexOutOfRange n slots.length)
    else
      match st.removeItem slot slots (n.toNat - 1) with
      | some result => .ok result
      | none => .error (.indexOutOfRange n slots.length)
  | .reverse, [] => .ok (.uninit, st.reverseItems slot slots)
  | method, arguments => .error (Arguments.miscounted method arguments)

/-- A method of the catalog called on a slot. -/
def call (st : Store) (slot : Nat) (method : Method) (arguments : List Value) :
    Except Error (Value × Store) :=
  match st.cell slot, method.receiver with
  | .string s, .string => st.callOnString slot s method arguments
  | .array slots, .array => st.callOnArray slot slots method arguments
  | cell, _ => .error (.noSuchMethod (.value cell.kind) method.name)

/-- A method called on a slot by its name. -/
def callMethod (st : Store) (slot : Nat) (name : String) (arguments : List Value) :
    Except Error (Value × Store) :=
  match Method.lookup? name with
  | some method => st.call slot method arguments
  | none => .error (.noSuchMethod (.value (st.cell slot).kind) name)

end Store

/-- A string that cannot be changed. -/
structure ConstantString where
  text : String
deriving DecidableEq

namespace ConstantString

/-- The constant of any bytes. -/
def ofBytes (bytes : List UInt8) : ConstantString := ⟨Text.received bytes⟩

/-- A method of the catalog called on a constant, which has only the methods that look at a
string. -/
def call (constant : ConstantString) (method : Method) (arguments : List Value) :
    Except Error Value :=
  if method.mutates || method.receiver != .string then
    .error (.noSuchMethod .constant method.name)
  else TextMethod.query constant.text method arguments

/-- A method called on a constant by its name. -/
def callMethod (constant : ConstantString) (name : String) (arguments : List Value) :
    Except Error Value :=
  match Method.lookup? name with
  | some method => constant.call method arguments
  | none => .error (.noSuchMethod .constant name)

end ConstantString

end ScriptHost
