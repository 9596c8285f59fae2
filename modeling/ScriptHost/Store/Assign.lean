import ScriptHost.Operator
import ScriptHost.Store.Items
import ScriptHost.Subscript

/-!
# Assignments to slots

An assigning operator changes what a slot holds in place if the result is of the same kind:
strings keep their identity, arrays the slots of the elements that stay. A failing assignment
changes nothing.

An operator that returns an array copies the elements of both operands, which may be one array, and
works on the copies. Comparisons see slots: an element in the same slot would be equal whatever it
holds, but a copy is in no slot of what it was made from.

* `Store.combineAssign` : an operator applied to a slot.
* `Store.combineCopies` : an operator applied to the elements of two arrays.
* `Store.assignAt` : a value assigned to what a list of indices selects.
-/

namespace ScriptHost.Store

/-! ## Operators -/

/-- An operator applied to an array in place. -/
def combineItems (st : Store) (op : Operator) (slot : Nat) (slots : List Nat)
    (right : List Value) : Store :=
  match op with
  | .add => st.append slot slots right
  | .sub => st.put slot (.array (right.foldl st.keepUnequal slots))

/-- The slot's value replaced by the result of the operator as a new value. -/
def rebind (st : Store) (op : Operator) (slot : Nat) (right : Value) : Except Error Store :=
  (op.combine (st.read slot) right).map fun result => write result st slot

/-- An operator applied to a string in place. -/
def combineString (op : Operator) (s : ScriptString) (text : String) : ScriptString :=
  match op with
  | .add => s.push text
  | .sub => s.remove text

/-- An operator applied to a slot. -/
def combineAssign (st : Store) (op : Operator) (slot : Nat) (right : Value) :
    Except Error Store :=
  match st.cell slot, right with
  | .integer l, .integer r => .ok (st.put slot (.integer (op.onIntegers l r)))
  | .double l, .integer r => .ok (st.put slot (.double (op.onDoubles l (.ofInt r.toInt))))
  | .double l, .double r => .ok (st.put slot (.double (op.onDoubles l r)))
  | .string s, right =>
    match Operator.textOperand? right with
    | some text => .ok (st.put slot (.string (combineString op s text)))
    | none => .error (op.mismatch .string right.kind)
  | .array slots, right =>
    match Operator.itemsOperand? right with
    | some items => .ok (st.combineItems op slot slots items)
    | none => .error (op.mismatch .array right.kind)
  | _, right => st.rebind op slot right

/-! ## Copies -/

/-- The elements that are not equal to any of others, as slots are compared. -/
def unlike (st : Store) (slots others : List Nat) : List Nat :=
  slots.filter fun element => others.all fun other => !st.equals element other

/-- An operator applied to the elements of two arrays, as the slots of the result's elements. -/
def combineCopies (st : Store) (op : Operator) (left right : List Nat) : List Nat × Store :=
  let (copies, st) := st.placeAll (left.map st.read)
  let (others, st) := st.placeAll (right.map st.read)
  match op with
  | .add => (copies ++ others, st)
  | .sub => (st.unlike copies others, st)

/-! ## Subscripts -/

/-- A value assigned to what one index selects. -/
def assignItem (st : Store) (slot : Nat) (index target : Value) : Except Error Store :=
  match st.cell slot with
  | .array slots => do
    let position ← Subscript.position .array index slots.length
    match st.setItem slots position target with
    | some st => .ok st
    | none => .error (.indexOutOfRange (position + 1) slots.length)
  | .string s => do
    let position ← Subscript.position .string index s.text.toList.length
    let text ← Subscript.assignedText target
    let s ← s.replaceSpan position 1 text
    .ok (st.put slot (.string s))
  | cell => .error (.typeMismatch .index cell.kind index.kind)

/-- A value assigned to what a list of indices selects. -/
def assignAt (st : Store) (slot : Nat) : List Value → Value → Except Error Store
  | [], _ => .error (.invalidArgument .noIndex)
  | [index], target => st.assignItem slot index target
  | first :: second :: rest, target =>
    match st.cell slot with
    | .string s =>
      match rest with
      | [] => do
        let (start, length) ← Subscript.span s.text.toList.length first second
        let text ← Subscript.assignedText target
        let s ← s.replaceSpan start length text
        .ok (st.put slot (.string s))
      | _ :: _ => .error (.invalidArgument .stringIndices)
    | .array slots => do
      let position ← Subscript.position .array first slots.length
      match slots[position]? with
      | some element => st.assignAt element (second :: rest) target
      | none => .error (.indexOutOfRange (position + 1) slots.length)
    | cell => .error (.typeMismatch .index cell.kind first.kind)

end ScriptHost.Store
