import ScriptHost.Comparison
import ScriptHost.Error
import ScriptHost.Text.Search

/-!
# Addition and subtraction

The kind of the left operand decides what an operator does. Numbers are added and subtracted,
strings are joined and cut out, arrays are extended and thinned out.

* `Operator.combine` : the result of an operator as a new value.
-/

namespace ScriptHost

inductive Operator
  | add
  | sub
deriving DecidableEq, Repr

namespace Operator

def operation : Operator → Operation
  | .add => .add
  | .sub => .subtract

/-- No rule covers the kinds of the operands. -/
def mismatch (op : Operator) (left right : Kind) : Error :=
  .typeMismatch op.operation left right

/-! ## Rules by kind -/

/-- Integers wrap around. -/
def onIntegers : Operator → Int32 → Int32 → Int32
  | .add, l, r => l + r
  | .sub, l, r => l - r

def onDoubles : Operator → Double → Double → Double
  | .add, l, r => l.add r
  | .sub, l, r => l.sub r

/-- The text that a right operand contributes to a string: a string its characters, a number or an
array its printed form. -/
def textOperand? : Value → Option String
  | .string text => some text
  | .uninit => none
  | .boolean _ => none
  | value => some value.printed

/-- A text is joined on, or cut out wherever it occurs. -/
def onTexts : Operator → String → String → String
  | .add, l, r => l ++ r
  | .sub, l, r => String.ofList (Text.replaceAll l.toList r.toList [])

/-- A right operand as the items it contributes to an array. -/
def itemsOperand? : Value → Option (List Value)
  | .uninit => none
  | .array items => some items
  | value => some [value]

/-- The items without those that equal one of the others. -/
def dropEqual (items others : List Value) : List Value :=
  others.foldl (fun items other => items.filter fun item => !item.equals other) items

/-- Items are put behind, or taken out wherever equal ones occur. -/
def onItems : Operator → List Value → List Value → List Value
  | .add, ls, rs => ls ++ rs
  | .sub, ls, rs => dropEqual ls rs

/-- A number on the left of anything: a number on the right is combined, a string is joined on. -/
def onNumber (op : Operator) (left : Value) (l : Double) : Value → Option Value
  | .integer r => some (.double (op.onDoubles l (.ofInt r.toInt)))
  | .double r => some (.double (op.onDoubles l r))
  | .string text =>
    match op with
    | .add => some (.string (left.printed ++ text))
    | .sub => none
  | _ => none

/-- The result for operands that a rule covers. -/
def combine? (op : Operator) : Value → Value → Option Value
  | .integer l, .integer r => some (.integer (op.onIntegers l r))
  | .integer l, right => op.onNumber (.integer l) (.ofInt l.toInt) right
  | .double l, right => op.onNumber (.double l) l right
  | .string l, right => (textOperand? right).map fun r => .string (op.onTexts l r)
  | .array ls, right => (itemsOperand? right).map fun rs => .array (op.onItems ls rs)
  | .uninit, _ => none
  | .boolean _, _ => none

/-- The result of an operator as a new value. -/
def combine (op : Operator) (left right : Value) : Except Error Value :=
  match op.combine? left right with
  | some result => .ok result
  | none => .error (op.mismatch left.kind right.kind)

end Operator

end ScriptHost
