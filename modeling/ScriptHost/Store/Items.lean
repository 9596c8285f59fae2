import ScriptHost.Store.Snapshot

/-!
# Arrays in a store

The elements of an array keep their slots when others are put in or taken out around them.
Positions count from zero.

* `Store.items?` : the slots of an array's elements.
* `Store.append`, `Store.insertItem`, `Store.removeItem`, `Store.setItem`, `Store.dropEqual`,
  `Store.reverseItems` : changes of an array whose element slots are given.
-/

namespace ScriptHost.Store

/-- The slots of the elements, if the slot holds an array. -/
def items? (st : Store) (slot : Nat) : Option (List Nat) :=
  match st.cell slot with
  | .array slots => some slots
  | _ => none

/-- Copies of values put behind the elements. -/
def append (st : Store) (slot : Nat) (slots : List Nat) (values : List Value) : Store :=
  let (added, st) := st.placeAll values
  st.put slot (.array (slots ++ added))

/-- A copy of a value put in before a position, which may be the end. -/
def insertItem (st : Store) (slot : Nat) (slots : List Nat) (position : Nat)
    (value : Value) : Option Store :=
  if position ≤ slots.length then
    let (added, st) := st.place value
    some (st.put slot (.array (slots.insertIdx position added)))
  else none

/-- The element at a position taken out, and its value. -/
def removeItem (st : Store) (slot : Nat) (slots : List Nat) (position : Nat) :
    Option (Value × Store) :=
  slots[position]?.map fun element =>
    (st.read element, st.put slot (.array (slots.eraseIdx position)))

/-- A copy of a value written into the slot of the element at a position. -/
def setItem (st : Store) (slots : List Nat) (position : Nat) (value : Value) : Option Store :=
  slots[position]?.map fun element => st.write value element

/-- The slots of the elements that do not equal a value. -/
def keepUnequal (st : Store) (slots : List Nat) (value : Value) : List Nat :=
  slots.filter fun element => !(st.read element).equals value

/-- The elements that equal a value taken out. -/
def dropEqual (st : Store) (slot : Nat) (slots : List Nat) (value : Value) : Store :=
  st.put slot (.array (st.keepUnequal slots value))

/-- The elements in reverse. -/
def reverseItems (st : Store) (slot : Nat) (slots : List Nat) : Store :=
  st.put slot (.array slots.reverse)

end ScriptHost.Store
