import ScriptHost.Service

/-!
# A service among concurrent callers

Callers on other threads submit calls to a service while its engine works. One that may wait and
finds the queue full keeps its call, which has its number already, until there is room.

* `SharedService.step` : one step of a caller or of the engine, and what it does to the order of the
  calls.
* `SharedService.run` : several steps.
-/

namespace ScriptHost

/-- A service, and the calls whose callers wait for room in its queue. -/
structure SharedService (σ α : Type) where
  service : Service σ α
  waiting : List (Job σ α)

namespace SharedService

variable {σ α : Type}

/-- What a step does to the order of the calls. -/
inductive Mark (σ α : Type)
  /-- A call is put on the queue. -/
  | accepted (job : Job σ α)
  | refused (ticket : Nat) (failure : Failure)
  /-- The engine takes a call. -/
  | started (job : Job σ α)
  /-- A running call is told what has become of a submission that it made. -/
  | answered (caller ticket : Nat) (refusal : Option Failure)
  | finished (ticket : Nat)

/-- A step of a caller or of the engine. -/
inductive Event (σ α : Type)
  /-- A call is made by a caller that may wait, or by one that may not. -/
  | submit (policy : Policy) (call : UInt64 → Callable σ α) (lethal : Bool)
  /-- A caller that waits tries again. -/
  | retry (position : Nat)
  /-- The engine takes the next call. -/
  | dispatch
  /-- The engine does one action of the running call. -/
  | advance
  /-- A caller stops waiting for a record. -/
  | abandon (ticket : Nat)

/-- A service with an idle engine and no callers. -/
def start (capacity : Nat) (firstId : UInt64) (engine : σ) : SharedService σ α :=
  { service := .start capacity firstId engine, waiting := [] }

/-- The answer to a submission of a call. -/
def answer (s : Service σ α) (call : UInt64 → Callable σ α) (lethal : Bool)
    (submission : Submission) : Mark σ α :=
  match submission.refusal with
  | none => .accepted (s.prepare call lethal).1
  | some failure => .refused submission.ticket failure

def submit (b : SharedService σ α) (policy : Policy) (call : UInt64 → Callable σ α)
    (lethal : Bool) : SharedService σ α × List (Mark σ α) :=
  match b.service.submit policy call lethal with
  | some (submission, service) =>
    ({ b with service }, [answer b.service call lethal submission])
  | none =>
    let (job, service) := b.service.prepare call lethal
    ({ service := service.count, waiting := b.waiting ++ [job] }, [])

/-- A call that has its number already and is refused. -/
def turnAway (s : Service σ α) (job : Job σ α) (failure : Failure) : Service σ α :=
  { s with stats := { s.stats with submitted := s.stats.submitted - 1 } }.setFuture job.ticket
    (.resolved (.rejected job.id failure))

/-- A caller that waits gets its call on the queue if there is room, and is refused if there will
never be any. -/
def retry (b : SharedService σ α) (position : Nat) : SharedService σ α × List (Mark σ α) :=
  match b.waiting[position]? with
  | none => (b, [])
  | some job =>
    let waiting := b.waiting.eraseIdx position
    match b.service.admission .wait with
    | .accepted => ({ service := b.service.push job, waiting }, [.accepted job])
    | .refused failure =>
      ({ service := turnAway b.service job failure, waiting }, [.refused job.ticket failure])
    | .mustWait => (b, [])

/-- The call that the engine would take. -/
def next? (s : Service σ α) : Option (Job σ α) :=
  if s.running.isNone && s.alive then s.queue.head? else none

/-- What the next action of the running call does to the order of the calls. -/
def advanceMarks (s : Service σ α) : List (Mark σ α) :=
  match s.running with
  | none => []
  | some running =>
    match running.job.body with
    | .finish _ => [.finished running.job.ticket]
    | .submit call lethal _ =>
      let submission := (s.submitInside call lethal).1
      [answer s call lethal submission,
        .answered running.job.ticket submission.ticket submission.refusal]
    | _ => []

/-- One step of a caller or of the engine, and what it does to the order of the calls. -/
def step (b : SharedService σ α) : Event σ α → SharedService σ α × List (Mark σ α)
  | .submit policy call lethal => b.submit policy call lethal
  | .retry position => b.retry position
  | .dispatch => ({ b with service := b.service.dispatch }, (next? b.service).toList.map .started)
  | .advance => ({ b with service := b.service.advance }, advanceMarks b.service)
  | .abandon ticket => ({ b with service := b.service.abandon ticket }, [])

/-- Several steps, and all that they do to the order of the calls. -/
def run (b : SharedService σ α) : List (Event σ α) → SharedService σ α × List (Mark σ α)
  | [] => (b, [])
  | event :: events =>
    let (b, marks) := b.step event
    let (b, later) := run b events
    (b, marks ++ later)

end SharedService

end ScriptHost
