import ScriptHost.Method.InPlace
import ScriptHost.Store.Assign

/-!
# Assignments step by step

An assignment to a slot checks its operands and changes in place what the slot holds. When it stops
before its end, what it has written by then stays written.

* `InPlace.assignAt` : a value assigned to what a list of indices selects.
* `InPlace.combineAssign` : an operator applied to a slot.
-/

namespace ScriptHost.InPlace

/-! ## Subscripts -/

/-- A character of a string exchanged for a text. -/
def assignCharacter (index target : Value) : Steps ScriptString Unit := do
  let position ← checked (Subscript.position .string index (← get).text.toList.length)
  let text ← checked (Subscript.assignedText target)
  replaceSpan position 1 text

/-- A span of a string exchanged for a text. -/
def assignSpan (first second target : Value) : Steps ScriptString Unit := do
  let (start, length) ← checked (Subscript.span (← get).text.toList.length first second)
  let text ← checked (Subscript.assignedText target)
  replaceSpan start length text

/-- A copy of a value written into the slot of the element at a position. Nothing happens if there
is no such position. -/
def setElement (slots : List Nat) (position : Nat) (value : Value) : Steps Store Unit :=
  match slots[position]? with
  | some element => modify fun st => st.write value element
  | none => pure ()

/-- A value assigned to what one index selects. -/
def assignItem (slot : Nat) (index target : Value) : Steps Store Unit := do
  match (← get).cell slot with
  | .array slots =>
    let position ← checked (Subscript.position .array index slots.length)
    setElement slots position target
  | .string s => atString slot s (assignCharacter index target)
  | cell => throw (.failed (.typeMismatch .index cell.kind index.kind))

/-- A value assigned to what a list of indices selects. -/
def assignAt (slot : Nat) : List Value → Value → Steps Store Unit
  | [], _ => throw (.failed (.invalidArgument .noIndex))
  | [index], target => assignItem slot index target
  | first :: second :: rest, target => do
    match (← get).cell slot with
    | .string s =>
      match rest with
      | [] => atString slot s (assignSpan first second target)
      | _ :: _ => throw (.failed (.invalidArgument .stringIndices))
    | .array slots =>
      let position ← checked (Subscript.position .array first slots.length)
      match slots[position]? with
      | some element => assignAt element (second :: rest) target
      | none => throw (.failed (.indexOutOfRange (position + 1) slots.length))
    | cell => throw (.failed (.typeMismatch .index cell.kind first.kind))

/-! ## Operators -/

/-- The elements that equal a value taken out. -/
def dropEqual (value : Value) : Steps Elements Unit :=
  modify fun (slots, st) => (st.keepUnequal slots value, st)

/-- Items put behind an array or taken out of it, one after another. -/
def combineItems (op : Operator) (items : List Value) : Steps Elements Unit :=
  match op with
  | .add => items.forM push
  | .sub => items.forM dropEqual

/-- A text joined on to a string or cut out of it. -/
def combineText (op : Operator) (text : String) : Steps ScriptString Unit :=
  modify fun s => Store.combineString op s text

/-- The slot's value replaced by the result of the operator as a new value. -/
def rebind (op : Operator) (slot : Nat) (right : Value) : Steps Store Unit := do
  let result ← checked (op.combine ((← get).read slot) right)
  modify fun st => st.write result slot

/-- An operator applied to a slot. -/
def combineAssign (op : Operator) (slot : Nat) (right : Value) : Steps Store Unit := do
  match (← get).cell slot, right with
  | .integer l, .integer r => modify fun st => st.put slot (.integer (op.onIntegers l r))
  | .double l, .integer r =>
    modify fun st => st.put slot (.double (op.onDoubles l (.ofInt r.toInt)))
  | .double l, .double r => modify fun st => st.put slot (.double (op.onDoubles l r))
  | .string s, right =>
    match Operator.textOperand? right with
    | some text => atString slot s (combineText op text)
    | none => throw (.failed (op.mismatch .string right.kind))
  | .array slots, right =>
    match Operator.itemsOperand? right with
    | some items => atArray slot slots (combineItems op items)
    | none => rebind op slot right
  | _, right => rebind op slot right

end ScriptHost.InPlace
