import ScriptHost.Pack.Reader
import ScriptHost.Pack.Writer
import ScriptHost.Service

/-!
# Programs and execution contexts

A program is a call made on behalf of an execution context, which is suspended until the program
has ended or its caller has stopped waiting. Arguments and result travel in packed form.

* `Context` : an execution context, with `Context.suspend` and `Context.resume`.
* `Program.callable` : what a program call runs on the engine.
* `Context.submit` : the start of a program call.
* `Context.settle`, `Context.forgo` : its two ends.
-/

namespace ScriptHost

/-- What a call returns: a value as it is, or in packed form. -/
inductive Payload
  | value (value : Value)
  | packed (bytes : List UInt8)

inductive ContextState
  | ready
  | suspended (request : UInt64)
deriving DecidableEq, Repr

/-- What became of a program call. -/
abbrev Outcome := Except Failure Value

structure Context where
  name : String
  arguments : List Value
  state : ContextState
  last : Option Outcome
  resumes : Nat

/-- A program: its name, and what it runs for its number and its arguments. -/
structure Program (σ : Type) where
  name : String
  run : UInt64 → List Value → Callable σ Payload

namespace Program

variable {σ : Type}

/-- The ending of a program as the service delivers it: a value in packed form, an error in the
context of the program. -/
def ending (name : String) : Ending Payload → Ending Payload
  | .value (.value value) => .value (.packed value.packBytes)
  | .value (.packed bytes) => .value (.packed bytes)
  | .failed chain => .failed (("program '" ++ name ++ "'") :: chain)
  | .panicked text => .panicked text

/-- The program run with arguments. -/
def runWith (program : Program σ) (id : UInt64) (arguments : List Value) : Callable σ Payload :=
  (program.run id arguments).mapEnding (ending program.name)

/-- What a program call runs on the engine: the arguments are unpacked, and the program is run with
them. -/
def callable (program : Program σ) (packed : List UInt8) (id : UInt64) : Callable σ Payload :=
  match Value.unpack packed with
  | .error e => .finish (.failed ["unpacking program arguments", e.message])
  | .ok (.array arguments) => program.runWith id arguments
  | .ok argument => program.runWith id [argument]

/-- The value that a program's payload stands for. -/
def unpackPayload : Payload → Outcome
  | .value value => .ok value
  | .packed bytes =>
    match Value.unpack bytes with
    | .ok value => .ok value
    | .error e => .error (.codec e)

/-- The outcome that a record of a program call stands for. -/
def outcome (record : Record Payload) : Outcome :=
  match record.result with
  | .ok payload => unpackPayload payload
  | .error failure => .error failure

end Program

namespace Context

variable {σ : Type}

def new (name : String) (arguments : List Value) : Context :=
  { name, arguments, state := .ready, last := none, resumes := 0 }

def isSuspended (context : Context) : Bool :=
  match context.state with
  | .ready => false
  | .suspended _ => true

def pushArgument (context : Context) (value : Value) : Context :=
  { context with arguments := context.arguments ++ [value] }

def suspend (context : Context) (request : UInt64) : Context :=
  { context with state := .suspended request }

def resume (context : Context) (outcome : Outcome) : Context :=
  { context with state := .ready, last := some outcome, resumes := context.resumes + 1 }

/-- The failure of a program call on a context that waits for another one. -/
def alreadySuspended (context : Context) (request : UInt64) : Failure :=
  .callFailed ["execution context '" ++ context.name ++ "' is already suspended on request " ++
    toString request.toNat]

/-- The start of a program call. -/
inductive Start (σ : Type)
  /-- The context waits for another call; nothing was submitted. -/
  | refused (failure : Failure)
  /-- The call was submitted, and the context is suspended. -/
  | pending (submission : Submission) (context : Context) (service : Service σ Payload)
  /-- The call has to wait for room in the queue. -/
  | mustWait

/-- A program call submitted on behalf of a context. -/
def submit (context : Context) (service : Service σ Payload) (program : Program σ) : Start σ :=
  match context.state with
  | .suspended request => .refused (context.alreadySuspended request)
  | .ready =>
    let packed := (Value.array context.arguments).packBytes
    match service.submit .wait (program.callable packed) false with
    | none => .mustWait
    | some (submission, service) => .pending submission (context.suspend submission.id) service

/-- The context resumed with what its program call has become. -/
def settle (context : Context) (record : Record Payload) : Outcome × Context :=
  let outcome := Program.outcome record
  (outcome, context.resume outcome)

/-- The context resumed because its caller stopped waiting. -/
def forgo (context : Context) : Context := context.resume (.error .abandoned)

end Context

end ScriptHost
