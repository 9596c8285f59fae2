import ScriptHost.Service.Shared

/-!
# The life of a service

Besides what callers and the running call do, the engine may die in the middle of a call. It ends
in peace when nobody holds the service any more and all calls are done. What is on the queue of a
dead engine is never run.

* `SharedService.occur` : one thing that happens to a service.
* `SharedService.live` : several.
* `SharedService.issued` : the calls that are submitted meanwhile.
-/

namespace ScriptHost

variable {σ α : Type}

namespace Service

/-- The engine dies in the middle of the running call, which is cut off. That is one step here.
While an engine goes down, its queue takes and counts calls for a moment longer; these calls, which
are never run, stand as submitted before the step. -/
def crash (s : Service σ α) : Service σ α :=
  match s.running with
  | none => s
  | some running => { s.strand running.job with running := none, alive := false }

/-- The engine ends if there is nothing to do and no more calls can come. -/
def rest (s : Service σ α) : Service σ α :=
  if s.running.isNone && s.queue.isEmpty && !s.held then { s with alive := false } else s

/-- What is on the queue of a dead engine is discarded. -/
def discard (s : Service σ α) : Service σ α := if s.alive then s else s.stop

end Service

namespace SharedService

/-- What can happen to a service. -/
inductive Occurrence (σ α : Type)
  | event (event : Event σ α)
  /-- The engine dies in the middle of the running call. -/
  | crash
  /-- Nobody holds the service any more. -/
  | release
  /-- The engine ends for want of callers. -/
  | rest
  /-- The queue of a dead engine is discarded. -/
  | discard

/-- One thing that happens, and what it does to the order of the calls. -/
def occur (b : SharedService σ α) : Occurrence σ α → SharedService σ α × List (Mark σ α)
  | .event event => b.step event
  | .crash => ({ b with service := b.service.crash }, [])
  | .release => ({ b with service := { b.service with held := false } }, [])
  | .rest => ({ b with service := b.service.rest }, [])
  | .discard => ({ b with service := b.service.discard }, [])

/-- Several things that happen, and all that they do to the order of the calls. -/
def live (b : SharedService σ α) : List (Occurrence σ α) → SharedService σ α × List (Mark σ α)
  | [] => (b, [])
  | occurrence :: history =>
    let (b, marks) := b.occur occurrence
    let (b, later) := live b history
    (b, marks ++ later)

/-- The call that is submitted, by a caller or by the running call. -/
def issue (b : SharedService σ α) : Occurrence σ α → List (UInt64 → Callable σ α)
  | .event (.submit _ call _) => [call]
  | .event .advance =>
    match b.service.running with
    | none => []
    | some running =>
      match running.job.body with
      | .submit call _ _ => [call]
      | _ => []
  | _ => []

/-- The calls that are submitted, in order. -/
def issued (b : SharedService σ α) : List (Occurrence σ α) → List (UInt64 → Callable σ α)
  | [] => []
  | occurrence :: history => b.issue occurrence ++ issued (b.occur occurrence).1 history

end SharedService

end ScriptHost
