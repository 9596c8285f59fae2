import ScriptHost.Text.Utf8
import ScriptHost.Value

/-!
# Comparison

Numbers compare by what they stand for, whatever their kinds; strings by their bytes; arrays are
equal or not comparable; values of unlike kinds are not comparable.

* `Text.compare`, `Text.sort` : the order of texts.
* `Value.compare` : the three-way comparison, none where there is no order.
* `Value.equals`, `Value.isLess` : its outcomes as tests.
-/

namespace ScriptHost

/-- Byte sequences in lexicographic order. -/
def Text.compareBytes : List UInt8 → List UInt8 → Ordering
  | [], [] => .eq
  | [], _ :: _ => .lt
  | _ :: _, [] => .gt
  | l :: ls, r :: rs => if l < r then .lt else if r < l then .gt else compareBytes ls rs

/-- Texts in the order of their bytes. -/
def Text.compare (l r : String) : Ordering :=
  Text.compareBytes (Text.Utf8.encode l.toList) (Text.Utf8.encode r.toList)

/-- Texts in ascending order. -/
def Text.sort (texts : List String) : List String :=
  texts.mergeSort fun l r => (Text.compare l r).isLE

namespace Value

/-- The comparison of two numbers of any kinds, of two strings, of two truth values and of two
unset values. -/
def compareScalars : Value → Value → Option Ordering
  | .uninit, .uninit => some .eq
  | .boolean l, .boolean r => some (Ord.compare l r)
  | .integer l, .integer r => some (Ord.compare l.toInt r.toInt)
  | .string l, .string r => some (Text.compare l r)
  | l, r => do
    let l ← l.number?
    let r ← r.number?
    Double.compare l r

mutual

/-- The three-way comparison. -/
def compare : Value → Value → Option Ordering
  | .array ls, .array rs => if equalsAll ls rs then some .eq else none
  | l, r => compareScalars l r

/-- Whether two lists have equal values at all positions. -/
def equalsAll : List Value → List Value → Bool
  | [], [] => true
  | l :: ls, r :: rs => compare l r == some .eq && equalsAll ls rs
  | _, _ => false

end

def equals (l r : Value) : Bool := l.compare r == some .eq

def isLess (l r : Value) : Bool := l.compare r == some .lt

end Value

end ScriptHost
