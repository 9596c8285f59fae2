import ScriptHost.Service.Lifetime

/-!
# How a service comes to its end

Whoever gives up the last hold on a service from outside has a message to stop put on the queue, and
waits for room if there is none. The running call, if it is the one that gives it up, cannot wait:
it puts the message there only if there is room. But nobody can put anything on the queue from then
on, and so the engine ends when it finds the queue empty.

* `ClosingService.messages` : what is on the queue.
* `ClosingService.take` : the turn of an idle engine.
* `ClosingService.close`, `ClosingService.letGo` : the two ways to give up a service.
* `ClosingService.occur`, `ClosingService.live` : one thing that happens, and several.
* `ClosingService.issued` : the calls that are submitted meanwhile.
-/

namespace ScriptHost

/-- What the engine finds on the queue. -/
inductive Message (σ α : Type)
  | call (job : Job σ α)
  /-- The engine has to stop. -/
  | stop

/-- A service among concurrent callers, and what is under way to end it. -/
structure ClosingService (σ α : Type) where
  shared : SharedService σ α
  /-- The number of calls in front of the message to stop, once that is on the queue. -/
  stop : Option Nat
  /-- Somebody waits for room for the message to stop. -/
  closing : Bool
  /-- There is somebody who could still put something on the queue. -/
  connected : Bool
  /-- The engine has died, and has not ended by itself. -/
  died : Bool

namespace ClosingService

open SharedService (Event Mark)

variable {σ α : Type}

/-- A service with an idle engine and no callers. -/
def start (capacity : Nat) (firstId : UInt64) (engine : σ) : ClosingService σ α :=
  { shared := .start capacity firstId engine, stop := none, closing := false, connected := true
    died := false }

/-- What is on the queue, the next first. -/
def messages (c : ClosingService σ α) : List (Message σ α) :=
  let calls := c.shared.service.queue.map .call
  match c.stop with
  | none => calls
  | some place => calls.take place ++ .stop :: calls.drop place

def hasRoom (c : ClosingService σ α) : Bool := c.messages.length < c.shared.service.capacity

/-- The message to stop put behind the calls on the queue. -/
def putStop (c : ClosingService σ α) : ClosingService σ α :=
  { c with stop := some c.shared.service.queue.length }

/-! ## Giving up a service -/

/-- Whoever waits for room for the message to stop tries again. A dead engine needs no message. -/
def send (c : ClosingService σ α) : ClosingService σ α :=
  if !c.closing then c
  else if !c.shared.service.alive then { c with closing := false }
  else if c.hasRoom then { c.putStop with closing := false }
  else c

/-- The service given up from outside. -/
def close (c : ClosingService σ α) : ClosingService σ α :=
  if c.shared.service.held then
    { c with shared := (c.shared.occur .release).1, closing := true }.send
  else c

/-- The service given up by the running call. -/
def letGo (c : ClosingService σ α) : ClosingService σ α :=
  { (if c.hasRoom then c.putStop else c) with connected := false }

/-! ## The engine -/

/-- The engine ends by itself. -/
def halt (c : ClosingService σ α) : ClosingService σ α :=
  { c with shared := { c.shared with service := { c.shared.service with alive := false } } }

/-- An idle engine takes what is next on the queue. It ends if that is the message to stop, or if
there is nothing and nothing can come any more. -/
def take (c : ClosingService σ α) : ClosingService σ α × List (Mark σ α) :=
  if c.shared.service.running.isSome || !c.shared.service.alive then (c, [])
  else
    match c.messages with
    | [] => (if c.connected then c else c.halt, [])
    | .stop :: _ => (c.halt, [])
    | .call _ :: _ =>
      let (shared, marks) := c.shared.step .dispatch
      ({ c with shared, stop := c.stop.map (· - 1) }, marks)

/-- What has become of a service otherwise than by the end of its engine. If the engine lives no
more, it has died. -/
def follow (c : ClosingService σ α) (shared : SharedService σ α) : ClosingService σ α :=
  { c with shared, died := c.died || (c.shared.service.alive && !shared.service.alive) }

/-- One action of the running call, which may be to give up the service. -/
def advance (c : ClosingService σ α) : ClosingService σ α × List (Mark σ α) :=
  let (shared, marks) := c.shared.step .advance
  let after := c.follow shared
  (if c.shared.service.held && !shared.service.held then after.letGo else after, marks)

/-! ## Everything that happens -/

/-- What can happen to a service. -/
inductive Occurrence (σ α : Type)
  | event (event : Event σ α)
  /-- The engine dies in the middle of the running call. -/
  | crash
  /-- The queue of a dead engine is discarded. -/
  | discard
  /-- The service is given up from outside. -/
  | close
  /-- Whoever waits for room for the message to stop tries again. -/
  | send

/-- One thing that happens, and what it does to the order of the calls. -/
def occur (c : ClosingService σ α) : Occurrence σ α → ClosingService σ α × List (Mark σ α)
  | .event .dispatch => c.take
  | .event .advance => c.advance
  | .event event =>
    let (shared, marks) := c.shared.step event
    (c.follow shared, marks)
  | .crash => (c.follow (c.shared.occur .crash).1, [])
  | .discard => (c.follow (c.shared.occur .discard).1, [])
  | .close => (c.close, [])
  | .send => (c.send, [])

/-- The call that is submitted, by a caller or by the running call. -/
def issue (c : ClosingService σ α) : Occurrence σ α → List (UInt64 → Callable σ α)
  | .event event => c.shared.issue (.event event)
  | _ => []

/-- Several things that happen, and all that they do to the order of the calls. -/
def live (c : ClosingService σ α) :
    List (Occurrence σ α) → ClosingService σ α × List (Mark σ α)
  | [] => (c, [])
  | occurrence :: history =>
    let (c, marks) := c.occur occurrence
    let (c, later) := live c history
    (c, marks ++ later)

/-- The calls that are submitted, by callers or by running calls, in order. -/
def issued (c : ClosingService σ α) : List (Occurrence σ α) → List (UInt64 → Callable σ α)
  | [] => []
  | occurrence :: history => c.issue occurrence ++ issued (c.occur occurrence).1 history

end ClosingService

end ScriptHost
