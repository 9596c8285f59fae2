import ScriptHost.Service.Closing
import ScriptHost.Service.Context

/-!
# Program calls among other callers

An interpreter calls programs on behalf of one execution context, one after the other, while other
callers and the engine go on. It waits for the outcome of a call, or drops the call before it has
one.

* `Interpreter.act` : one deed of the interpreter, or one thing that happens meanwhile.
* `Interpreter.run` : several.
-/

namespace ScriptHost

/-- How far an interpreter has got with a program call. -/
inductive Stage
  /-- There is none. -/
  | idle
  /-- The call, with the ticket and the number that it has already, waits for room in the queue. -/
  | queueing (ticket : Nat) (id : UInt64)
  /-- The call was submitted. -/
  | waiting (ticket : Nat)

/-- An execution context, the service that its programs run on, and the call under way. -/
structure Interpreter (σ : Type) where
  closing : ClosingService σ Payload
  context : Context
  stage : Stage

namespace Interpreter

open SharedService (Mark)

variable {σ : Type}

/-- What an interpreter does, or what happens to its service meanwhile. -/
inductive Deed (σ : Type)
  | happen (occurrence : ClosingService.Occurrence σ Payload)
  /-- The arguments of the next program are put in place. -/
  | prepare (arguments : List Value)
  | call (program : Program σ)
  /-- The interpreter goes on when its call has found room in the queue, or never will. -/
  | proceed
  /-- The outcome of the call is returned, if there is one. -/
  | collect
  /-- The call is dropped. -/
  | drop

/-- What an interpreter sees. -/
inductive Note (σ : Type)
  /-- A call failed at once. -/
  | refused (failure : Failure)
  | called (ticket : Nat) (program : Program σ) (arguments : List Value)
  | submitted (ticket : Nat)
  | returned (ticket : Nat) (outcome : Outcome)
  | dropped (ticket : Nat)

def start (capacity : Nat) (firstId : UInt64) (engine : σ) (context : Context) : Interpreter σ :=
  { closing := .start capacity firstId engine, context, stage := .idle }

/-- What a program call submits. -/
def request (program : Program σ) (arguments : List Value) : UInt64 → Callable σ Payload :=
  program.callable (Value.array arguments).packBytes

/-- The submission of a program call to the service. -/
def post (i : Interpreter σ) (program : Program σ) :
    ClosingService σ Payload × List (Mark σ Payload) :=
  i.closing.occur (.event (.submit .wait (request program i.context.arguments) false))

/-- A program call. A context whose call waits for room cannot be used. -/
def call (i : Interpreter σ) (program : Program σ) :
    Interpreter σ × List (Mark σ Payload) × List (Note σ) :=
  let service := i.closing.shared.service
  let called := Note.called service.futures.size program i.context.arguments
  match i.stage with
  | .queueing _ _ => (i, [], [])
  | _ =>
    match i.context.submit service program with
    | .refused failure => (i, [], [.refused failure])
    | .pending submission context _ =>
      let (closing, marks) := i.post program
      ({ closing, context, stage := .waiting submission.ticket }, marks,
        [called, .submitted submission.ticket])
    | .mustWait =>
      let (closing, marks) := i.post program
      ({ i with closing, stage := .queueing service.futures.size service.nextId }, marks, [called])

/-- The context is suspended once its call does not wait for room any more. -/
def proceed (i : Interpreter σ) : Interpreter σ × List (Note σ) :=
  match i.stage with
  | .queueing ticket id =>
    if i.closing.shared.waiting.any (·.ticket == ticket) then (i, [])
    else
      ({ i with context := i.context.suspend id, stage := .waiting ticket }, [.submitted ticket])
  | _ => (i, [])

/-- The outcome of the call returned, and the context resumed with it. -/
def collect (i : Interpreter σ) : Interpreter σ × List (Note σ) :=
  match i.stage with
  | .waiting ticket =>
    match i.closing.shared.service.record? ticket with
    | some record =>
      let (outcome, context) := i.context.settle record
      ({ i with context, stage := .idle }, [.returned ticket outcome])
    | none => (i, [])
  | _ => (i, [])

/-- The call dropped, and the context resumed. -/
def drop (i : Interpreter σ) : Interpreter σ × List (Mark σ Payload) × List (Note σ) :=
  match i.stage with
  | .waiting ticket =>
    let (closing, marks) := i.closing.occur (.event (.abandon ticket))
    ({ closing, context := i.context.forgo, stage := .idle }, marks, [.dropped ticket])
  | _ => (i, [], [])

/-- One deed: what it does to the order of calls, and what the interpreter sees. -/
def act (i : Interpreter σ) : Deed σ → Interpreter σ × List (Mark σ Payload) × List (Note σ)
  | .happen occurrence =>
    let (closing, marks) := i.closing.occur occurrence
    ({ i with closing }, marks, [])
  | .prepare arguments => ({ i with context := { i.context with arguments } }, [], [])
  | .call program => i.call program
  | .proceed => let (i, notes) := i.proceed; (i, [], notes)
  | .collect => let (i, notes) := i.collect; (i, [], notes)
  | .drop => i.drop

/-- Several deeds: all that they do to the order of calls, and all that the interpreter sees. -/
def run (i : Interpreter σ) :
    List (Deed σ) → Interpreter σ × List (Mark σ Payload) × List (Note σ)
  | [] => (i, [], [])
  | deed :: deeds =>
    let (i, marks, notes) := i.act deed
    let (i, laterMarks, laterNotes) := run i deeds
    (i, marks ++ laterMarks, notes ++ laterNotes)

end Interpreter

end ScriptHost
