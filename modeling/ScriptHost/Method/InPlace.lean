import ScriptHost.Method.Call

/-!
# Methods step by step

A method called on a string or on an array counts its arguments, reads them by their positions, and
changes in place what it is called on. When it stops before its end, what it has written by then
stays written.

* `InPlace.Halt` : why a method stops before its end.
* `InPlace.query`, `InPlace.update`, `InPlace.onArray` : the steps of the methods.
* `InPlace.atString`, `InPlace.atArray` : steps on what a slot holds.
* `InPlace.call`, `InPlace.callMethod` : a method called on a slot.
* `InPlace.callConstant`, `InPlace.callConstantMethod` : a method called on a constant.
-/

namespace ScriptHost.InPlace

/-- Why a method stops before its end. -/
inductive Halt
  | failed (e : Error)
  /-- It reads an argument that is not there, at a position counted from zero. -/
  | missing (position : Nat)
  /-- It is none of the methods among which it is looked for. -/
  | astray (method : Method)

/-- Steps that change something in place. -/
abbrev Steps (ω : Type) := ExceptT Halt (StateM ω)

/-! ## Arguments -/

/-- A result that is a failure of the method if it is one. -/
def checked {β : Type} (result : Except Error β) : Except Halt β := result.mapError .failed

/-- The number of arguments checked; there may be no greatest one. -/
def counted (method : Method) (arguments : List Value) (least : Nat) (most : Option Nat) :
    Except Halt Unit :=
  if arguments.length < least || most.any (· < arguments.length) then
    .error (.failed (Arguments.miscounted method arguments))
  else .ok ()

/-- The argument at a position, counted from zero. -/
def argument (arguments : List Value) (position : Nat) : Except Halt Value :=
  match arguments[position]? with
  | some given => .ok given
  | none => .error (.missing position)

/-- The argument at a position, counted from zero, read in some way. Errors count from one. -/
def read {β : Type} (reader : (position : Nat) → Value → Except Error β) (arguments : List Value)
    (position : Nat) : Except Halt β := do
  let given ← argument arguments position
  checked (reader (position + 1) given)

/-- A place in a sequence of some length. -/
def startAt (method : Method) (arguments : List Value) (position count : Nat) : Except Halt Nat :=
  read (fun position given => Arguments.start method position given count) arguments position

/-! ## Strings -/

/-- The methods that only look at a string. -/
def query (text : String) (method : Method) (arguments : List Value) : Except Halt Value :=
  match method with
  | .length => do
    counted .length arguments 0 (some 0)
    return Value.ofCount text.toList.length
  | .upper => do
    counted .upper arguments 0 (some 0)
    return Value.ofChars (Text.upper text.toList)
  | .lower => do
    counted .lower arguments 0 (some 0)
    return Value.ofChars (Text.lower text.toList)
  | .find => do
    counted .find arguments 1 (some 2)
    let target ← read (Arguments.text .find) arguments 0
    let start ← if 1 < arguments.length then startAt .find arguments 1 text.toList.length
      else pure 0
    return TextMethod.foundAt text target start
  | .trim => do
    counted .trim arguments 0 (some 2)
    let set ← if arguments.isEmpty then pure TextMethod.defaultTrimSet
      else read (Arguments.text .trim) arguments 0
    let side ← if 1 < arguments.length then read (fun _ => Arguments.side) arguments 1
      else pure .both
    return Value.ofChars (Text.trim set.toList side text.toList)
  | .substr => do
    counted .substr arguments 2 (some 2)
    let start ← startAt .substr arguments 0 text.toList.length
    let length ← read (Arguments.length .substr) arguments 1
    return Value.slice text start length
  | .split => do
    counted .split arguments 0 (some 1)
    if arguments.isEmpty then return .array ((Text.words text.toList).map Value.ofChars)
    let separator ← read (Arguments.text .split) arguments 0
    return .array ((Text.splitAll text.toList separator.toList).map Value.ofChars)
  | .join => do
    counted .join arguments 1 (some 1)
    let items ← read (Arguments.items .join) arguments 0
    return .string (TextMethod.joined text items)
  | .isValidUnicode => do
    counted .isValidUnicode arguments 0 (some 0)
    return .boolean (Text.Utf8.isValid (Text.Utf8.encode text.toList))
  | .utf16 => do
    counted .utf16 arguments 0 (some 0)
    return Value.ofUnits ((Text.Utf16.encode text.toList).map UInt16.toNat)
  | .utf32 => do
    counted .utf32 arguments 0 (some 0)
    return Value.ofUnits ((Text.Utf32.encode text.toList).map UInt32.toNat)
  | other => .error (.astray other)

/-- The characters of a span exchanged. A span may not begin past the end. -/
def replaceSpan (start length : Nat) (written : String) : Steps ScriptString Unit := do
  let text := (← get).text.toList
  if text.length < start then
    throw (.failed (.indexOutOfRange (ScriptString.signedWord start) text.length))
  modify fun s => s.changed (Text.replaceSpan text start length written.toList)

/-- The methods of strings: those that change it, which return the new text, and all others. -/
def update (method : Method) (arguments : List Value) : Steps ScriptString Value := do
  match method with
  | .replace =>
    counted .replace arguments 2 (some 2)
    let pattern ← read (Arguments.text .replace) arguments 0
    let written ← read (Arguments.text .replace) arguments 1
    modify fun s => s.replace pattern written
    return .string (← get).text
  | .subreplace =>
    counted .subreplace arguments 3 (some 3)
    let written ← read (Arguments.text .subreplace) arguments 0
    let start ← startAt .subreplace arguments 1 (← get).text.toList.length
    let length ← read (Arguments.length .subreplace) arguments 2
    replaceSpan start length written
    return .string (← get).text
  | other => query (← get).text other arguments

/-! ## Arrays -/

/-- The slots of the elements of an array, and the store in which they are. -/
abbrev Elements := List Nat × Store

def push (value : Value) : Steps Elements Unit :=
  modify fun (slots, st) =>
    let (added, st) := st.place value
    (slots ++ [added], st)

/-- A copy of a value put in before a position. Nothing happens if there is no such position. -/
def insertAt (position : Nat) (value : Value) : Steps Elements Unit :=
  modify fun (slots, st) =>
    if position ≤ slots.length then
      let (added, st) := st.place value
      (slots.insertIdx position added, st)
    else (slots, st)

/-- The methods of arrays. -/
def onArray (method : Method) (arguments : List Value) : Steps Elements Value := do
  match method with
  | .size =>
    counted .size arguments 0 (some 0)
    return Value.ofCount (← get).1.length
  | .append =>
    counted .append arguments 1 none
    arguments.forM push
    return Value.ofCount (← get).1.length
  | .insert =>
    counted .insert arguments 2 (some 2)
    let position ← startAt .insert arguments 0 (← get).1.length
    insertAt position (← argument arguments 1)
    return Value.ofCount (← get).1.length
  | .erase =>
    counted .erase arguments 1 (some 1)
    let n ← read (Arguments.integer .erase) arguments 0
    let (slots, st) ← get
    if n < 1 then throw (.failed (.indexOutOfRange n slots.length))
    match slots[n.toNat - 1]? with
    | some element =>
      set (slots.eraseIdx (n.toNat - 1), st)
      return st.read element
    | none => throw (.failed (.indexOutOfRange n slots.length))
  | .reverse =>
    counted .reverse arguments 0 (some 0)
    modify fun (slots, st) => (slots.reverse, st)
    return .uninit
  | other => throw (.astray other)

/-! ## Calls -/

/-- Steps on the string in a slot, which is written back however they end. -/
def atString {β : Type} (slot : Nat) (s : ScriptString) (steps : Steps ScriptString β) :
    Steps Store β := fun st =>
  let (result, s) := steps s
  (result, st.put slot (.string s))

/-- Steps on the array in a slot, which is written back however they end. -/
def atArray {β : Type} (slot : Nat) (slots : List Nat) (steps : Steps Elements β) :
    Steps Store β := fun st =>
  let (result, slots, st) := steps (slots, st)
  (result, st.put slot (.array slots))

/-- A method of the catalog called on a slot. -/
def call (slot : Nat) (method : Method) (arguments : List Value) : Steps Store Value := fun st =>
  match st.cell slot, method.receiver with
  | .string s, .string => atString slot s (update method arguments) st
  | .array slots, .array => atArray slot slots (onArray method arguments) st
  | cell, _ => (.error (.failed (.noSuchMethod (.value cell.kind) method.name)), st)

/-- A method called on a slot by its name. -/
def callMethod (slot : Nat) (name : String) (arguments : List Value) : Steps Store Value :=
  match Method.lookup? name with
  | some method => call slot method arguments
  | none => fun st =>
    (.error (.failed (.noSuchMethod (.value (st.cell slot).kind) name)), st)

/-- A method of the catalog called on a constant. -/
def callConstant (constant : ConstantString) (method : Method) (arguments : List Value) :
    Except Halt Value :=
  if method.mutates || method.receiver != .string then
    .error (.failed (.noSuchMethod .constant method.name))
  else query constant.text method arguments

/-- A method called on a constant by its name. -/
def callConstantMethod (constant : ConstantString) (name : String) (arguments : List Value) :
    Except Halt Value :=
  match Method.lookup? name with
  | some method => callConstant constant method arguments
  | none => .error (.failed (.noSuchMethod .constant name))

end ScriptHost.InPlace
