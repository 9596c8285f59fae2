import ScriptHost.SharedArray

/-!
# Lists of slots

An array as a plain list, in which every value stands beside the slot that it is in. Values are put
in, taken out and moved together with their slots, and writing exchanges the value beside a slot
wherever the slot is known.

* `SlotList.step` : one request to an array, answered by the list.
* `SlotList.run` : several requests.
* `SharedArray.listing` : an array with its aliases as such a list.
* `SharedArray.Request.plain` : what a request does to the values alone.
-/

namespace ScriptHost

namespace Value

mutual

/-- The number of slots that the elements in a value take, however deeply they are nested. -/
def inner : Value → Nat
  | .array items => innerAll items
  | _ => 0

/-- The number of slots that several values take with all that is in them. -/
def innerAll : List Value → Nat
  | [] => 0
  | item :: items => 1 + inner item + innerAll items

end

end Value

/-- A slot with the value in it. -/
structure Entry where
  slot : Nat
  value : Value
deriving Inhabited

namespace Entry

/-- The entry after a value is written into a slot. -/
def write (slot : Nat) (value : Value) (entry : Entry) : Entry :=
  if entry.slot = slot then { entry with value } else entry

/-- Values in new slots, the first of which is given. -/
def newAll : Nat → List Value → List Entry
  | _, [] => []
  | next, value :: values => ⟨next, value⟩ :: newAll (next + 1 + value.inner) values

end Entry

/-- The elements in order and the elements that have aliases, and the first slot that has never been
in use. -/
structure SlotList where
  entries : List Entry
  aliases : List Entry
  next : Nat

namespace SlotList

open SharedArray (Request Reply)

def slots (l : SlotList) : List Nat := l.entries.map Entry.slot

def values (l : SlotList) : List Value := l.entries.map Entry.value

def append (l : SlotList) (values : List Value) : SlotList :=
  { l with
    entries := l.entries ++ Entry.newAll l.next values
    next := l.next + Value.innerAll values }

def insert (l : SlotList) (position : Nat) (value : Value) : SlotList :=
  { l with
    entries := l.entries.insertIdx position ⟨l.next, value⟩
    next := l.next + 1 + value.inner }

def erase (l : SlotList) (position : Nat) : SlotList :=
  { l with entries := l.entries.eraseIdx position }

def dropEqual (l : SlotList) (value : Value) : SlotList :=
  { l with entries := l.entries.filter fun entry => !entry.value.equals value }

def reverse (l : SlotList) : SlotList :=
  { l with entries := l.entries.reverse }

/-- A value written into a slot, wherever the slot is known. -/
def write (l : SlotList) (slot : Nat) (value : Value) : SlotList where
  entries := l.entries.map (Entry.write slot value)
  aliases := l.aliases.map (Entry.write slot value)
  next := l.next + value.inner

/-- The position of the element that an alias is of, if the list still has it. -/
def position? (l : SlotList) (index : Nat) : Option Nat :=
  l.aliases[index]?.bind fun entry => l.slots.idxOf? entry.slot

/-- The entry at a position counted from one. -/
def named? (l : SlotList) (n : Int) : Option Entry :=
  if 1 ≤ n then l.entries[n.toNat - 1]? else none

/-- A method of the catalog. -/
def callMethod (l : SlotList) (method : Method) (arguments : List Value) :
    Except Error (Value × SlotList) :=
  match method, arguments with
  | .size, [] => .ok (Value.ofCount l.entries.length, l)
  | .append, value :: values =>
    .ok (Value.ofCount (l.entries.length + (values.length + 1)), l.append (value :: values))
  | .insert, [first, value] =>
    match first with
    | .integer n =>
      if 1 ≤ n.toInt ∧ n.toInt ≤ l.entries.length + 1 then
        .ok (Value.ofCount (l.entries.length + 1), l.insert (n.toInt.toNat - 1) value)
      else .error (.indexOutOfRange n.toInt l.entries.length)
    | _ => .error (Arguments.unexpected .insert 1 .integer first)
  | .erase, [first] =>
    match first with
    | .integer n =>
      match l.named? n.toInt with
      | some entry => .ok (entry.value, l.erase (n.toInt.toNat - 1))
      | none => .error (.indexOutOfRange n.toInt l.entries.length)
    | _ => .error (Arguments.unexpected .erase 1 .integer first)
  | .reverse, [] => .ok (.uninit, l.reverse)
  | method, arguments =>
    if method.receiver = .array then .error (Arguments.miscounted method arguments)
    else .error (.noSuchMethod (.value .array) method.name)

/-- The reply to a script. A list that cannot do what is asked of it stays as it is. -/
def finish (l : SlotList) : Except Error (Value × SlotList) → Reply × SlotList
  | .ok (value, l') => (.script (.ok value), l')
  | .error e => (.script (.error e), l)

/-- A method called by its name. -/
def call (l : SlotList) (name : String) (arguments : List Value) : Reply × SlotList :=
  match Method.lookup? name with
  | some method => l.finish (l.callMethod method arguments)
  | none => l.finish (.error (.noSuchMethod (.value .array) name))

/-- One request. -/
def step (l : SlotList) : Request → Reply × SlotList
  | .call name arguments => l.call name arguments
  | .push value => (.host .nothing, l.append [value])
  | .insert position value =>
    if position ≤ l.entries.length then (.host (.flag true), l.insert position value)
    else (.host (.flag false), l)
  | .remove position =>
    match l.entries[position]? with
    | some entry => (.host (.value entry.value), l.erase position)
    | none => (.host .nothing, l)
  | .set position value =>
    match l.entries[position]? with
    | some entry => (.host (.flag true), l.write entry.slot value)
    | none => (.host (.flag false), l)
  | .removeEqual value => (.host .nothing, l.dropEqual value)
  | .take position =>
    match l.entries[position]? with
    | some entry => (.host (.flag true), { l with aliases := l.aliases ++ [entry] })
    | none => (.host (.flag false), l)
  | .read index =>
    match l.aliases[index]? with
    | some entry => (.host (.value entry.value), l)
    | none => (.host .nothing, l)
  | .write index value =>
    match l.aliases[index]? with
    | some entry => (.host (.flag true), l.write entry.slot value)
    | none => (.host (.flag false), l)

/-- Several requests, with the list after each. -/
def run (l : SlotList) : List Request → List (Reply × SlotList)
  | [] => []
  | request :: requests =>
    let (reply, l) := l.step request
    (reply, l) :: run l requests

end SlotList

/-- A slot with the value that it shows. -/
def Store.entry (st : Store) (slot : Nat) : Entry := ⟨slot, st.read slot⟩

namespace SharedArray

/-- The array with its aliases as a list of slots. -/
def listing (s : SharedArray) : SlotList where
  entries := s.slots.map s.array.store.entry
  aliases := s.aliases.map s.array.store.entry
  next := s.array.store.size

/-- The place, counted from zero, of a position that a script names. -/
def place? : Value → Option Nat
  | .integer n => if 1 ≤ n.toInt then some (n.toInt.toNat - 1) else none
  | _ => none

/-- The values of a list after a method. -/
def plainly (values : List Value) (method : Method) (arguments : List Value) : List Value :=
  match method, arguments with
  | .append, added => values ++ added
  | .insert, [first, value] =>
    match place? first with
    | some position => values.insertIdx position value
    | none => values
  | .erase, [first] =>
    match place? first with
    | some position => values.eraseIdx position
    | none => values
  | .reverse, [] => values.reverse
  | _, _ => values

/-- The values of a list after a request. An alias stands for the position where its element is. -/
def Request.plain (position? : (index : Nat) → Option Nat) (values : List Value) :
    Request → List Value
  | .call name arguments =>
    match Method.lookup? name with
    | some method => plainly values method arguments
    | none => values
  | .push value => values ++ [value]
  | .insert position value => values.insertIdx position value
  | .remove position => values.eraseIdx position
  | .set position value => values.set position value
  | .removeEqual value => values.filter fun other => !other.equals value
  | .write index value =>
    match position? index with
    | some position => values.set position value
    | none => values
  | .take _ | .read _ => values

end SharedArray

end ScriptHost
