import ScriptHost.ScriptString
import ScriptHost.Value

/-!
# Slots

Variables and the elements of arrays are slots of a store, numbered in the order in which they come
into being. A slot keeps its number while its content changes, so whoever knows the slot sees the
change. Values are written into slots by copying: the elements of a written array get slots of
their own, younger than any slot before.

* `Store.write` : a value copied into a slot.
* `Store.place` : a value copied into a new slot.
-/

namespace ScriptHost

/-- The content of a slot. An array is the list of its elements' slots. -/
inductive Cell
  | uninit
  | boolean (b : Bool)
  | integer (n : Int32)
  | double (d : Double)
  | string (s : ScriptString)
  | array (slots : List Nat)
deriving DecidableEq, Inhabited

def Cell.kind : Cell → Kind
  | .uninit => .uninit
  | .boolean _ => .boolean
  | .integer _ => .integer
  | .double _ => .double
  | .string _ => .string
  | .array _ => .array

/-- All slots, and the identity that the next string gets. -/
structure Store where
  cells : Array Cell
  nextString : UInt64
deriving DecidableEq

namespace Store

/-- The store without slots. -/
def empty : Store := { cells := #[], nextString := 1 }

instance : Inhabited Store := ⟨empty⟩

/-- The number of slots; it names the next new slot. -/
def size (st : Store) : Nat := st.cells.size

def cell (st : Store) (slot : Nat) : Cell := st.cells.getD slot .uninit

/-- The store with the content of one slot exchanged. -/
def put (st : Store) (slot : Nat) (content : Cell) : Store :=
  { st with cells := st.cells.setIfInBounds slot content }

/-- The store with one more slot, which holds nothing yet. -/
def extend (st : Store) : Store := { st with cells := st.cells.push .uninit }

mutual

/-- A value copied into a slot. -/
def write : Value → Store → Nat → Store
  | .uninit, st, slot => st.put slot .uninit
  | .boolean b, st, slot => st.put slot (.boolean b)
  | .integer n, st, slot => st.put slot (.integer n)
  | .double d, st, slot => st.put slot (.double d)
  | .string text, st, slot =>
    let (s, next) := ScriptString.make text st.nextString
    { st with nextString := next }.put slot (.string s)
  | .array items, st, slot =>
    let (slots, st) := placeAll items st
    st.put slot (.array slots)

/-- Values copied into new slots, in order. -/
def placeAll : List Value → Store → List Nat × Store
  | [], st => ([], st)
  | item :: items, st =>
    let slot := st.size
    let (slots, st) := placeAll items (write item st.extend slot)
    (slot :: slots, st)

end

/-- A value copied into a new slot. -/
def place (value : Value) (st : Store) : Nat × Store :=
  (st.size, write value st.extend st.size)

end Store

end ScriptHost
