import ScriptHost.Comparison
import ScriptHost.Store

/-!
# What a slot shows

A node is all that can be seen of a slot: its value, and with it the identities of strings and the
slots of elements. Forgetting these gives the value.

* `Store.snapshot`, `Store.read` : the node and the value of a slot.
* `Node.compare` : the comparison of two nodes, in which an element's slot is equal to itself.
* `Store.compare`, `Store.equals`, `Store.isLess` : the comparison of what two slots hold.
-/

namespace ScriptHost

/-- What can be seen of a slot. -/
inductive Node
  | uninit
  | boolean (b : Bool)
  | integer (n : Int32)
  | double (d : Double)
  | string (s : ScriptString)
  | array (slots : List Nat) (items : List Node)
deriving Inhabited

namespace Node

mutual

/-- The value of a node. -/
def value : Node → Value
  | .uninit => .uninit
  | .boolean b => .boolean b
  | .integer n => .integer n
  | .double d => .double d
  | .string s => .string s.text
  | .array _ items => .array (values items)

def values : List Node → List Value
  | [] => []
  | item :: items => value item :: values items

end

/-- Whether two arrays have, at all positions, one slot or equal values. Only the elements' own
slots count: what lies deeper is compared by value. -/
def matchAll : List Nat → List Node → List Nat → List Node → Bool
  | [], [], [], [] => true
  | s :: ss, l :: ls, t :: ts, r :: rs =>
    (s == t || l.value.equals r.value) && matchAll ss ls ts rs
  | _, _, _, _ => false

/-- The three-way comparison of nodes. Elements in one slot are equal without being looked at. -/
def compare : Node → Node → Option Ordering
  | .array ss ls, .array ts rs => if matchAll ss ls ts rs then some .eq else none
  | l, r => Value.compareScalars l.value r.value

end Node

namespace Store

/-- What can be seen of a slot. Elements have younger slots than their array, which is why looking
at them comes to an end. -/
def snapshot (st : Store) (slot : Nat) : Node :=
  match st.cell slot with
  | .uninit => .uninit
  | .boolean b => .boolean b
  | .integer n => .integer n
  | .double d => .double d
  | .string s => .string s
  | .array slots =>
    .array slots (slots.map fun element =>
      if _h : slot < element ∧ element < st.size then st.snapshot element else .uninit)
termination_by st.size - slot
decreasing_by omega

/-- The value of a slot. -/
def read (st : Store) (slot : Nat) : Value := (st.snapshot slot).value

/-- The comparison of what two slots hold. -/
def compare (st : Store) (left right : Nat) : Option Ordering :=
  (st.snapshot left).compare (st.snapshot right)

def equals (st : Store) (left right : Nat) : Bool := st.compare left right == some .eq

def isLess (st : Store) (left right : Nat) : Bool := st.compare left right == some .lt

end Store

end ScriptHost
