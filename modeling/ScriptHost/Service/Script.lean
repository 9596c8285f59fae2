import ScriptHost.Method.Call
import ScriptHost.Service.Context

/-!
# Scripts

A script is a list of instructions on an engine whose state is a value. The first instruction that
fails ends the script; what was done before it stays.

* `Instruction` : the instructions.
* `Script.run` : a script as a callable.
-/

namespace ScriptHost

/-! ## Values as the state of an engine -/

namespace Value

/-- A change of a slot made to a value by itself. -/
def edit {α : Type} (value : Value) (change : Store → Nat → Except Error (α × Store)) :
    Except Error (α × Value) :=
  let (slot, store) := Store.place value .empty
  (change store slot).map fun (result, store) => (result, store.read slot)

def assignAt (value : Value) (indices : List Value) (target : Value) : Except Error Value :=
  (value.edit fun store slot => (store.assignAt slot indices target).map ((), ·)).map (·.2)

/-- A method called by its name: the result, and the value afterwards. -/
def callMethod (value : Value) (name : String) (arguments : List Value) :
    Except Error (Value × Value) :=
  value.edit fun store slot => store.callMethod slot name arguments

end Value

/-! ## Scripts -/

inductive Instruction
  | set (value : Value)
  | combine (op : Operator) (value : Value)
  | assignAt (indices : List Value) (value : Value)
  | call (method : String) (arguments : List Value)
  | checkpoint (label : String)
  /-- An error, wrapped by each context in turn. -/
  | fail (text : String) (contexts : List String)
  | panic (text : String)
  | requestId
  | threadName
  | arguments
  | addArguments
  /-- Calls submitted from inside, each doing nothing and abandoned at once. -/
  | nested (count : Nat)
  | unknown (name : String)

/-- What a script can ask about: its number, the name of the engine's thread and its arguments. -/
structure Surroundings where
  id : UInt64
  threadName : String
  arguments : List Value

namespace Script

/-- A callable on a value. -/
abbrev Action := Callable Value Payload

/-- The state changed, or the error as the end of the script. -/
def change (f : Value → Except Error Value) (next : Action) : Action :=
  .read fun engine =>
    match f engine with
    | .ok engine => .write engine next
    | .error e => .finish (.failed [e.message])

/-- Each of the values added to the state. -/
def addAll (next : Action) : List Value → Action
  | [] => next
  | value :: values => change (Operator.add.combine · value) (addAll next values)

/-- How a submission from inside was answered, in words. -/
def answerText : Option Failure → String
  | none => "queued"
  | some failure => failure.message

/-- Calls that do nothing submitted and abandoned, and their answers written to the state. The
answers so far are given from the last one back. -/
def submitIdle (next : Action) : Nat → List Value → Action
  | 0, answers => .write (.array answers.reverse) next
  | count + 1, answers =>
    .submit (fun _ => .returning (.value .uninit)) false fun ticket refusal =>
      .abandon ticket (submitIdle next count (.string (answerText refusal) :: answers))

/-- One instruction, and then the others. -/
def perform (around : Surroundings) (next : Action) : Instruction → Action
  | .set value => .write value next
  | .combine op value => change (op.combine · value) next
  | .assignAt indices value => change (·.assignAt indices value) next
  | .call method arguments =>
    change (fun engine => (engine.callMethod method arguments).map (·.2)) next
  | .checkpoint label => .checkpoint label next
  | .fail text contexts => .finish (.failed (contexts.reverse ++ [text]))
  | .panic text => .finish (.panicked text)
  | .requestId => .write (.string (toString around.id.toNat)) next
  | .threadName => .write (.string around.threadName) next
  | .arguments => .write (.array around.arguments) next
  | .addArguments => addAll next around.arguments
  | .nested count => submitIdle next count []
  | .unknown name => .finish (.failed ["unknown instruction " ++ name])

/-- The end of a script: the given value, or else the state of the engine. -/
def result : Option Value → Action
  | some value => .returning (.value value)
  | none => .read fun engine => .returning (.value engine)

/-- A script as a callable. -/
def run (around : Surroundings) (returned : Option Value) : List Instruction → Action
  | [] => result returned
  | instruction :: script => perform around (run around returned script) instruction

end Script

end ScriptHost
