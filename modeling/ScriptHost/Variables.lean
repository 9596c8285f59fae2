import ScriptHost.Bindings
import ScriptHost.Method.Call
import ScriptHost.Pack.Reader
import ScriptHost.Pack.Writer

/-!
# Variables

Variables are names bound to slots of one store. Two names may share a slot, and a name may be
bound to the slot of an array's element. What is written into a slot is a literal or a copy.

* `Variables.step` : one action on a variable, and its reply.
* `Variables.run` : several actions.
-/

namespace ScriptHost

/-- Names bound to slots. -/
structure Variables where
  store : Store
  bindings : List (String × Nat)

namespace Variables

def empty : Variables := { store := .empty, bindings := [] }

/-! ## Bindings -/

def bind (vars : Variables) (name : String) (slot : Nat) : Variables :=
  { vars with bindings := Bindings.rebind vars.bindings name slot }

/-- The slot of a name. A name without one gets a new slot, to which it is not bound. -/
def slotOf (vars : Variables) (name : String) : Nat × Variables :=
  match vars.bindings.lookup name with
  | some slot => (slot, vars)
  | none => (vars.store.size, { vars with store := vars.store.extend })

/-- The value of every name. -/
def values (vars : Variables) : List (String × Value) :=
  vars.bindings.map fun (name, slot) => (name, vars.store.read slot)

/-! ## Actions -/

/-- A right operand: a literal, or a copy of what a variable holds. -/
inductive Operand
  | literal (value : Value)
  | copyOf (name : String)

inductive Action
  | new (value : Value)
  | alias (of : String)
  | element (of : String) (position : Nat)
  | set (operand : Operand)
  | replace (operand : Operand)
  | get
  | assign (op : Operator) (operand : Operand)
  | combine (op : Operator) (operand : Operand)
  | subscript (indices : List Value)
  | assignAt (indices : List Value) (operand : Operand)
  | call (method : String) (arguments : List Value)
  | pushText (text : String)
  | pushItem (operand : Operand)
  | sameSlot (of : String)
  | compare (operand : Operand)
  | compareSelf
  | pack
  | unpack (bytes : List UInt8)
  | print

inductive Reply
  | nothing
  | value (value : Value)
  | flag (b : Bool)
  | count (n : Nat)
  | text (text : String)
  | order (order : Option Ordering)
  | result (result : Except Error Value)
  | outcome (outcome : Except Error Unit)

/-- The value of an operand. -/
def operand (vars : Variables) : Operand → Value
  | .literal value => value
  | .copyOf name =>
    let (slot, vars) := vars.slotOf name
    vars.store.read slot

def withStore (vars : Variables) (store : Store) : Variables := { vars with store }

/-- The variables after an attempt to change the store, and whether it succeeded. -/
def attempt (vars : Variables) : Except Error Store → Reply × Variables
  | .ok store => (.outcome (.ok ()), vars.withStore store)
  | .error e => (.outcome (.error e), vars)

/-- The variables after an attempt to change the store for a result. -/
def attemptFor (vars : Variables) : Except Error (Value × Store) → Reply × Variables
  | .ok (value, store) => (.result (.ok value), vars.withStore store)
  | .error e => (.result (.error e), vars)

/-- A text pushed onto a slot that holds a string, and the new generation. -/
def pushText (vars : Variables) (slot : Nat) (text : String) : Reply × Variables :=
  match vars.store.cell slot with
  | .string s =>
    let s := s.push text
    (.count s.generation.toNat, vars.withStore (vars.store.put slot (.string s)))
  | _ => (.nothing, vars)

/-- A value pushed onto a slot that holds an array, and the new length. -/
def pushItem (vars : Variables) (slot : Nat) (value : Value) : Reply × Variables :=
  match vars.store.cell slot with
  | .array slots =>
    (.count (slots.length + 1), vars.withStore (vars.store.append slot slots [value]))
  | _ => (.nothing, vars)

/-- An action through a slot. -/
def act (vars : Variables) (slot : Nat) : Action → Reply × Variables
  | .set right => (.nothing, vars.withStore (Store.write (vars.operand right) vars.store slot))
  | .replace right =>
    (.value (vars.store.read slot),
      vars.withStore (Store.write (vars.operand right) vars.store slot))
  | .get => (.value (vars.store.read slot), vars)
  | .assign op right => vars.attempt (vars.store.combineAssign op slot (vars.operand right))
  | .combine op right =>
    (.result (op.combine (vars.store.read slot) (vars.operand right)), vars)
  | .subscript indices => (.result ((vars.store.read slot).subscript indices), vars)
  | .assignAt indices right =>
    let target := vars.operand right
    vars.attemptFor ((vars.store.assignAt slot indices target).map fun store => (target, store))
  | .call method arguments => vars.attemptFor (vars.store.callMethod slot method arguments)
  | .pushText text => vars.pushText slot text
  | .pushItem right => vars.pushItem slot (vars.operand right)
  | .sameSlot other =>
    let (otherSlot, _) := vars.slotOf other
    (.flag (slot == otherSlot), vars)
  | .compare right => (.order ((vars.store.read slot).compare (vars.operand right)), vars)
  | .compareSelf => (.order (vars.store.compare slot slot), vars)
  | .pack => (.text (vars.store.read slot).pack, vars)
  | .unpack bytes =>
    vars.attempt ((Value.unpack bytes).map fun value => Store.write value vars.store slot)
  | .print => (.text (vars.store.read slot).printed, vars)
  | .new _ | .alias _ | .element _ _ => (.nothing, vars)

/-- One action on a variable. -/
def step (vars : Variables) (name : String) (action : Action) : Reply × Variables :=
  match action with
  | .new value =>
    let (slot, store) := Store.place value vars.store
    (.nothing, (vars.withStore store).bind name slot)
  | .alias other =>
    let (slot, vars) := vars.slotOf other
    (.nothing, vars.bind name slot)
  | .element other position =>
    let (slot, vars) := vars.slotOf other
    match (vars.store.items? slot).bind (·[position]?) with
    | some element => (.flag true, vars.bind name element)
    | none => (.flag false, vars)
  | action =>
    let (slot, vars) := vars.slotOf name
    vars.act slot action

/-- Several actions, with the variables after each. -/
def run (vars : Variables) : List (String × Action) → List (Reply × Variables)
  | [] => []
  | (name, action) :: actions =>
    let (reply, vars) := vars.step name action
    (reply, vars) :: run vars actions

end Variables

end ScriptHost
