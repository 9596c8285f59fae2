import ScriptHost.Double
import ScriptHost.Service.Callable
import ScriptHost.Service.Record

/-!
# The call service

One engine runs calls, one at a time, in the order in which they were accepted into a queue of
limited length. Every submission takes the next number, accepted or not, and is answered by one
record.

* `Service.submit` : a submission from outside.
* `Service.dispatch`, `Service.advance` : the engine takes a call, and does one action of it.
* `Service.abandon` : a caller stops waiting.
* `Service.complete`, `Service.settle` : the engine works until a call, or the queue, is done.
* `Service.close` : the service ends after the calls already queued.
-/

namespace ScriptHost

/-- A call that was accepted. Its ticket is its place in the order of all submissions. A lethal
call brings the engine down if its result cannot be delivered. -/
structure Job (σ α : Type) where
  ticket : Nat
  id : UInt64
  body : Callable σ α
  lethal : Bool

/-- The call that the engine is in the middle of, with the labels recorded so far, the last one
first. -/
structure Running (σ α : Type) where
  job : Job σ α
  labels : List String

/-- What has become of a submission, as its caller sees it. -/
inductive Future (α : Type)
  | waiting
  | dropped
  | resolved (record : Record α)

/-- Counters of a service. -/
structure Stats where
  submitted : Nat
  completed : Nat
  failed : Nat
  abandoned : Nat
deriving DecidableEq, Repr

namespace Stats

def zero : Stats := ⟨0, 0, 0, 0⟩

/-- Calls submitted but not yet finished. -/
def inFlight (stats : Stats) : Nat := stats.submitted - stats.completed

/-- The percentage of calls that succeeded, out of those that finished. -/
def successRate (stats : Stats) : Double :=
  if stats.completed = 0 then .ofInt 100
  else
    let succeeded := Double.ofInt (stats.completed - stats.failed : Nat)
    (succeeded.div (.ofInt stats.completed)).mul (.ofInt 100)

/-- One more call finished with the given result. -/
def record {α : Type} (stats : Stats) (result : Except Failure α) : Stats :=
  { stats with
    completed := stats.completed + 1
    failed := stats.failed + (if result.isOk then 0 else 1) }

end Stats

/-- The state of a service: whether its engine lives, whether anyone still holds the service, and
what has become of every submission, in order. -/
structure Service (σ α : Type) where
  capacity : Nat
  queue : List (Job σ α)
  running : Option (Running σ α)
  engine : σ
  alive : Bool
  held : Bool
  nextId : UInt64
  stats : Stats
  futures : Array (Future α)

/-- How a submission meets a full queue: it waits for room, or it is refused. -/
inductive Policy
  | wait
  | refuse
deriving DecidableEq, Repr

/-- How a submission is answered. -/
inductive Admission
  | accepted
  | refused (failure : Failure)
  | mustWait
deriving DecidableEq

/-- A submission: its place in the order of all submissions, its number, and the reason why it was
refused, if it was. -/
structure Submission where
  ticket : Nat
  id : UInt64
  refusal : Option Failure

namespace Service

variable {σ α : Type}

/-- A service with an idle engine. -/
def start (capacity : Nat) (firstId : UInt64) (engine : σ) : Service σ α :=
  { capacity := max 1 capacity, queue := [], running := none, engine, alive := true, held := true
    nextId := firstId, stats := .zero, futures := #[] }

/-! ## Submissions -/

/-- Whether a submission is accepted. -/
def admission (s : Service σ α) (policy : Policy) : Admission :=
  if !(s.alive && s.held) then .refused .shutdown
  else if s.queue.length < s.capacity then .accepted
  else
    match policy with
    | .wait => .mustWait
    | .refuse => .refused .queueFull

/-- The submission that comes next, with the reason why it is refused, if it is. -/
def nextSubmission (s : Service σ α) (refusal : Option Failure) : Submission :=
  { ticket := s.futures.size, id := s.nextId, refusal }

/-- A call with the next number, and a future for it. -/
def prepare (s : Service σ α) (call : UInt64 → Callable σ α) (lethal : Bool) :
    Job σ α × Service σ α :=
  ({ ticket := s.futures.size, id := s.nextId, body := call s.nextId, lethal },
    { s with nextId := s.nextId + 1, futures := s.futures.push .waiting })

/-- One more call counted as submitted. -/
def count (s : Service σ α) : Service σ α :=
  { s with stats := { s.stats with submitted := s.stats.submitted + 1 } }

/-- A call put on the queue. -/
def push (s : Service σ α) (job : Job σ α) : Service σ α := { s with queue := s.queue ++ [job] }

/-- A submission put on the queue. -/
def enqueue (s : Service σ α) (call : UInt64 → Callable σ α) (lethal : Bool) : Service σ α :=
  let (job, s) := s.prepare call lethal
  s.count.push job

/-- A submission refused. It takes a number and has a record, and changes nothing else. A caller
that may not wait is told of the refusal at once and gets no future: its record stands under its
ticket, but nobody asks for it. -/
def reject (s : Service σ α) (failure : Failure) : Service σ α :=
  { s with
    nextId := s.nextId + 1
    futures := s.futures.push (.resolved (.rejected s.nextId failure)) }

/-- A submission; none if it has to wait for room in the queue. -/
def submit (s : Service σ α) (policy : Policy) (call : UInt64 → Callable σ α) (lethal : Bool) :
    Option (Submission × Service σ α) :=
  match s.admission policy with
  | .accepted => some (s.nextSubmission none, s.enqueue call lethal)
  | .refused failure => some (s.nextSubmission (some failure), s.reject failure)
  | .mustWait => none

/-- A submission made by the running call, which is refused where others would have to wait. -/
def submitInside (s : Service σ α) (call : UInt64 → Callable σ α) (lethal : Bool) :
    Submission × Service σ α :=
  match s.admission .refuse with
  | .accepted => (s.nextSubmission none, s.enqueue call lethal)
  | .refused failure => (s.nextSubmission (some failure), s.reject failure)
  | .mustWait => (s.nextSubmission (some .queueFull), s.reject .queueFull)

/-! ## Callers -/

def future? (s : Service σ α) (ticket : Nat) : Option (Future α) := s.futures[ticket]?

/-- The record of a submission, once there is one. -/
def record? (s : Service σ α) (ticket : Nat) : Option (Record α) :=
  match s.future? ticket with
  | some (.resolved record) => some record
  | _ => none

def setFuture (s : Service σ α) (ticket : Nat) (future : Future α) : Service σ α :=
  { s with futures := s.futures.setIfInBounds ticket future }

/-- The caller of a submission stops waiting for it. -/
def abandon (s : Service σ α) (ticket : Nat) : Service σ α :=
  match s.future? ticket with
  | some .waiting => s.setFuture ticket .dropped
  | _ => s

/-! ## The engine -/

/-- The engine takes the next call, if it lives and is idle. -/
def dispatch (s : Service σ α) : Service σ α :=
  match s.running, s.queue with
  | none, job :: queue =>
    if s.alive then
      { s with running := some ⟨job, [Label.dispatched, Label.enqueued]⟩, queue }
    else s
  | _, _ => s

/-- A finished call's record delivered to its caller. If the caller has stopped waiting, the
result is thrown away, and with a lethal one the engine dies. That is one step here. While an engine
goes down, its queue takes and counts calls for a moment longer; these calls, which are never run,
stand as submitted before the step. -/
def deliver (s : Service σ α) (job : Job σ α) (record : Record α) : Service σ α :=
  match s.future? job.ticket with
  | some .waiting => s.setFuture job.ticket (.resolved record)
  | _ =>
    if job.lethal then { s with alive := false }
    else { s with stats := { s.stats with abandoned := s.stats.abandoned + 1 } }

/-- The end of the running call. -/
def finish (s : Service σ α) (running : Running σ α) (ending : Ending α) : Service σ α :=
  let result := ending.result
  let labels := (Label.ofResult result :: running.labels).reverse
  let record := { id := running.job.id, labels, result }
  { s with running := none, stats := s.stats.record result }.deliver running.job record

/-- The running call with what it does next. -/
def proceed (s : Service σ α) (running : Running σ α) (body : Callable σ α) : Service σ α :=
  { s with running := some { running with job := { running.job with body } } }

/-- One action of the running call. -/
def advance (s : Service σ α) : Service σ α :=
  match s.running with
  | none => s
  | some running =>
    match running.job.body with
    | .finish ending => s.finish running ending
    | .read next => s.proceed running (next s.engine)
    | .write engine next => { s with engine }.proceed running next
    | .checkpoint label next =>
      s.proceed { running with labels := Label.custom label :: running.labels } next
    | .submit call lethal next =>
      let (submission, s) := s.submitInside call lethal
      s.proceed running (next submission.ticket submission.refusal)
    | .abandon ticket next => (s.abandon ticket).proceed running next
    | .release next => { s with held := false }.proceed running next

/-- The running call, which still has the given actions before it, done to its end. -/
def completeFrom : Callable σ α → Service σ α → Service σ α
  | .finish _, s => s.advance
  | .read next, s => completeFrom (next s.engine) s.advance
  | .write _ next, s => completeFrom next s.advance
  | .checkpoint _ next, s => completeFrom next s.advance
  | .submit call lethal next, s =>
    let submission := (s.submitInside call lethal).1
    completeFrom (next submission.ticket submission.refusal) s.advance
  | .abandon _ next, s => completeFrom next s.advance
  | .release next, s => completeFrom next s.advance

/-- The running call done to its end. -/
def complete (s : Service σ α) : Service σ α :=
  match s.running with
  | none => s
  | some running => completeFrom running.job.body s

/-- The given number of calls taken from the queue and done. -/
def work : Nat → Service σ α → Service σ α
  | 0, s => s
  | count + 1, s => work count s.dispatch.complete

/-- The calls that are queued done. -/
def sweep (s : Service σ α) : Service σ α := s.work s.queue.length

/-- The calls that are queued done, and those that they submit. -/
def settle (s : Service σ α) : Service σ α := s.complete.sweep.sweep

/-! ## The end of a service -/

/-- A submission that will never be run. -/
def strand (s : Service σ α) (job : Job σ α) : Service σ α :=
  match s.future? job.ticket with
  | some .waiting => s.setFuture job.ticket (.resolved (.rejected job.id .shutdown))
  | _ => s

/-- The engine ends, and what is still queued is discarded. -/
def stop (s : Service σ α) : Service σ α :=
  { s.queue.foldl strand s with alive := false, queue := [] }

/-- The service ends after the calls already queued. -/
def close (s : Service σ α) : Service σ α := { s with held := false }.complete.sweep.stop

end Service

end ScriptHost
