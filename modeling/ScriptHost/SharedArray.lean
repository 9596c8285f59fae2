import ScriptHost.ArrayObject
import ScriptHost.Method.Call

/-!
# An array and aliases of its elements

Scripts call methods on an array, with positions counted from one, and its host changes it by
positions counted from zero. In between, slots of elements are taken note of, so that the elements
can be read and written whatever has become of the array.

* `SharedArray.step` : one request, and its reply.
* `SharedArray.run`, `SharedArray.after` : several requests.
-/

namespace ScriptHost

/-- An array, and the slots of elements that are known elsewhere. -/
structure SharedArray where
  array : ArrayObject
  aliases : List Nat

namespace SharedArray

inductive Request
  /-- A method called by a script. -/
  | call (method : String) (arguments : List Value)
  | push (value : Value)
  | insert (position : Nat) (value : Value)
  | remove (position : Nat)
  | set (position : Nat) (value : Value)
  | removeEqual (value : Value)
  /-- The element at a position gets an alias. -/
  | take (position : Nat)
  /-- What an alias shows. -/
  | read (index : Nat)
  /-- A value written through an alias. -/
  | write (index : Nat) (value : Value)

inductive Reply
  | script (result : Except Error Value)
  | host (reply : ArrayObject.Reply)

/-- The slots of the elements. -/
def slots (s : SharedArray) : List Nat := s.array.slots

/-- The values of the elements. -/
def values (s : SharedArray) : List Value := s.array.values

def withStore (s : SharedArray) (store : Store) : SharedArray :=
  { s with array := s.array.withStore store }

/-- An action of the host. -/
def act (s : SharedArray) (action : ArrayObject.Action) : Reply × SharedArray :=
  let (reply, array) := s.array.step action
  (.host reply, { s with array })

/-- A method called by a script. -/
def call (s : SharedArray) (method : String) (arguments : List Value) : Reply × SharedArray :=
  match s.array.store.callMethod s.array.slot method arguments with
  | .ok (value, store) => (.script (.ok value), s.withStore store)
  | .error e => (.script (.error e), s)

/-- One request. -/
def step (s : SharedArray) : Request → Reply × SharedArray
  | .call method arguments => s.call method arguments
  | .push value => s.act (.push value)
  | .insert position value => s.act (.insert position value)
  | .remove position => s.act (.remove position)
  | .set position value => s.act (.set position value)
  | .removeEqual value => s.act (.removeEqual value)
  | .take position =>
    match s.slots[position]? with
    | some element => (.host (.flag true), { s with aliases := s.aliases ++ [element] })
    | none => (.host (.flag false), s)
  | .read index =>
    match s.aliases[index]? with
    | some element => (.host (.value (s.array.store.read element)), s)
    | none => (.host .nothing, s)
  | .write index value =>
    match s.aliases[index]? with
    | some element => (.host (.flag true), s.withStore (Store.write value s.array.store element))
    | none => (.host (.flag false), s)

/-- Several requests, with the array after each. -/
def run (s : SharedArray) : List Request → List (Reply × SharedArray)
  | [] => []
  | request :: requests =>
    let (reply, s) := s.step request
    (reply, s) :: run s requests

/-- The array after several requests. -/
def after (s : SharedArray) (requests : List Request) : SharedArray :=
  requests.foldl (fun s request => (s.step request).2) s

end SharedArray

end ScriptHost
