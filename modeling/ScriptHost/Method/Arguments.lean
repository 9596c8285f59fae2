import ScriptHost.Error
import ScriptHost.Text.Search
import ScriptHost.Value

/-!
# Arguments of methods

Every reader of an argument names the method and the position, counted from one, in its error.

* `Arguments.integer`, `Arguments.text` : an argument of one kind.
* `Arguments.start`, `Arguments.length` : a position in a sequence, and a length.
-/

namespace ScriptHost.Arguments

/-- The call has a wrong number of arguments. -/
def miscounted (method : Method) (arguments : List Value) : Error :=
  .invalidArgument (.arity method arguments.length)

/-- The argument is of a wrong kind. -/
def unexpected (method : Method) (position : Nat) (wanted : Kind) (given : Value) : Error :=
  .invalidArgument (.kind method position wanted given.kind)

def integer (method : Method) (position : Nat) : Value → Except Error Int
  | .integer n => .ok n.toInt
  | given => .error (unexpected method position .integer given)

def text (method : Method) (position : Nat) : Value → Except Error String
  | .string text => .ok text
  | given => .error (unexpected method position .string given)

def items (method : Method) (position : Nat) : Value → Except Error (List Value)
  | .array items => .ok items
  | given => .error (unexpected method position .array given)

/-- The place, counted from zero, of a position that may be right behind the end. -/
def start (method : Method) (position : Nat) (given : Value) (count : Nat) :
    Except Error Nat := do
  let n ← integer method position given
  if n < 1 ∨ (count : Int) + 1 < n then .error (.indexOutOfRange n count)
  else .ok (n.toNat - 1)

/-- A length, which may not be negative. -/
def length (method : Method) (position : Nat) (given : Value) : Except Error Nat := do
  let n ← integer method position given
  if n < 0 then .error (.invalidArgument (.negativeLength method n)) else .ok n.toNat

/-- The side named by a number. -/
def side (given : Value) : Except Error Text.TrimSide := do
  let code ← integer .trim 2 given
  match Text.TrimSide.ofCode? code with
  | some side => .ok side
  | none => .error (.invalidArgument (.unknownSide code))

end ScriptHost.Arguments
