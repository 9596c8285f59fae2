import ScriptHost.Store.Assign

/-!
# One array and its elements

An array that is changed by positions, counted from zero, and whose elements can be reached as
slots of their own.

* `ArrayObject.step` : one action on the array, and its reply.
* `ArrayObject.run` : several actions.
-/

namespace ScriptHost

/-- A store and the slot in it that holds the array. -/
structure ArrayObject where
  store : Store
  slot : Nat

namespace ArrayObject

def ofValues (values : List Value) : ArrayObject :=
  let (slot, store) := Store.place (.array values) .empty
  { store, slot }

/-- The slots of the elements. -/
def slots (a : ArrayObject) : List Nat := (a.store.items? a.slot).getD []

/-- The array as a value. -/
def value (a : ArrayObject) : Value := a.store.read a.slot

/-- The values of the elements. -/
def values (a : ArrayObject) : List Value := a.slots.map a.store.read

def withStore (a : ArrayObject) (store : Store) : ArrayObject := { a with store }

inductive Action
  | push (value : Value)
  | insert (position : Nat) (value : Value)
  | remove (position : Nat)
  | get (position : Nat)
  | set (position : Nat) (value : Value)
  | extend (values : List Value)
  | extendSelf
  | removeEqual (value : Value)
  | reverse
  | clear
  | equals (values : List Value)
  | equalsSelf
  | print
  | setInCopy (position : Nat) (value : Value)
  | combineElement (op : Operator) (position : Nat) (value : Value)

inductive Reply
  | nothing
  | flag (b : Bool)
  | text (text : String)
  | value (value : Value)
  | outcome (outcome : Except Error Unit)
  | equality (self copy : Bool)

/-- The array after an attempt that may be out of range. -/
def attempt (a : ArrayObject) : Option Store → Reply × ArrayObject
  | some store => (.flag true, a.withStore store)
  | none => (.flag false, a)

/-- One action on the array. -/
def step (a : ArrayObject) : Action → Reply × ArrayObject
  | .push value => (.nothing, a.withStore (a.store.append a.slot a.slots [value]))
  | .insert position value => a.attempt (a.store.insertItem a.slot a.slots position value)
  | .remove position =>
    match a.store.removeItem a.slot a.slots position with
    | some (value, store) => (.value value, a.withStore store)
    | none => (.nothing, a)
  | .get position =>
    match a.slots[position]? with
    | some element => (.value (a.store.read element), a)
    | none => (.nothing, a)
  | .set position value => a.attempt (a.store.setItem a.slots position value)
  | .extend values => (.nothing, a.withStore (a.store.append a.slot a.slots values))
  | .extendSelf => (.nothing, a.withStore (a.store.append a.slot a.slots a.values))
  | .removeEqual value => (.nothing, a.withStore (a.store.dropEqual a.slot a.slots value))
  | .reverse => (.nothing, a.withStore (a.store.reverseItems a.slot a.slots))
  | .clear => (.nothing, a.withStore (a.store.put a.slot (.array [])))
  | .equals values => (.flag (a.value.equals (.array values)), a)
  | .equalsSelf =>
    let (copy, store) := Store.place a.value a.store
    (.equality (store.equals a.slot a.slot) (store.equals a.slot copy), a)
  | .print => (.text a.value.printed, a)
  | .setInCopy position value =>
    let (copy, store) := Store.place a.value a.store
    match store.setItem ((store.items? copy).getD []) position value with
    | some store => (.text (store.read copy).printed, a.withStore store)
    | none => (.nothing, a)
  | .combineElement op position value =>
    match a.slots[position]? with
    | none => (.nothing, a)
    | some element =>
      match a.store.combineAssign op element value with
      | .ok store => (.outcome (.ok ()), a.withStore store)
      | .error e => (.outcome (.error e), a)

/-- Several actions, with the array after each. -/
def run (a : ArrayObject) : List Action → List (Reply × ArrayObject)
  | [] => []
  | action :: actions =>
    let (reply, a) := a.step action
    (reply, a) :: run a actions

end ArrayObject

end ScriptHost
