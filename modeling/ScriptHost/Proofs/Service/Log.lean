import ScriptHost.Service.Shared

/-!
# The order of calls, as steps report it

* `SharedService.accepted`, `refused`, `started`, `finished`, `answersTo` : the parts of a report.
* `Callable.effect` : what a callable does to the state of the engine, however it ends.
* `SharedService.effects` : what several calls do to it, one after the other.
-/

namespace ScriptHost

variable {σ α : Type}

/-- What a callable does to the state of the engine, given the answers to its own submissions. A
callable that fails or panics leaves the changes that it has made. -/
def Callable.effect : Callable σ α → List (Nat × Option Failure) → σ → σ
  | .finish _, _, engine => engine
  | .read next, answers, engine => (next engine).effect answers engine
  | .write engine next, answers, _ => next.effect answers engine
  | .checkpoint _ next, answers, engine => next.effect answers engine
  | .submit _ _ next, answers, engine =>
    match answers with
    | [] => engine
    | (ticket, refusal) :: answers => (next ticket refusal).effect answers engine
  | .abandon _ next, answers, engine => next.effect answers engine
  | .release next, answers, engine => next.effect answers engine

/-- How a callable ends does not matter to the engine. -/
theorem Callable.effect_mapEnding (f : Ending α → Ending α) (body : Callable σ α) :
    (body.mapEnding f).effect = body.effect := by
  funext answers engine
  induction body generalizing answers engine with
  | finish ending => rfl
  | read next ih => exact ih engine answers engine
  | write state next ih => exact ih answers state
  | checkpoint label next ih => exact ih answers engine
  | submit call lethal next _ ih =>
    cases answers with
    | nil => rfl
    | cons answer answers => exact ih answer.1 answer.2 answers engine
  | abandon ticket next ih => exact ih answers engine
  | release next ih => exact ih answers engine

namespace SharedService

/-- The calls put on the queue, in order. -/
def accepted (log : List (Mark σ α)) : List (Job σ α) :=
  log.filterMap fun
    | .accepted job => some job
    | _ => none

/-- The tickets of the submissions that were refused. -/
def refused (log : List (Mark σ α)) : List Nat :=
  log.filterMap fun
    | .refused ticket _ => some ticket
    | _ => none

/-- The calls that the engine took, in order. -/
def started (log : List (Mark σ α)) : List (Job σ α) :=
  log.filterMap fun
    | .started job => some job
    | _ => none

/-- The tickets of the calls that came to their end, in order. -/
def finished (log : List (Mark σ α)) : List Nat :=
  log.filterMap fun
    | .finished ticket => some ticket
    | _ => none

/-- The answers to the submissions that a call made while it ran. -/
def answersTo (log : List (Mark σ α)) (caller : Nat) : List (Nat × Option Failure) :=
  log.filterMap fun
    | .answered other ticket refusal => if other = caller then some (ticket, refusal) else none
    | _ => none

/-- What calls do to the state of the engine, one after the other. -/
def effects (log : List (Mark σ α)) (jobs : List (Job σ α)) (engine : σ) : σ :=
  jobs.foldl (fun engine job => job.body.effect (answersTo log job.ticket) engine) engine

variable (log marks : List (Mark σ α))

@[simp]
theorem accepted_append : accepted (log ++ marks) = accepted log ++ accepted marks :=
  List.filterMap_append

@[simp]
theorem refused_append : refused (log ++ marks) = refused log ++ refused marks :=
  List.filterMap_append

@[simp]
theorem started_append : started (log ++ marks) = started log ++ started marks :=
  List.filterMap_append

@[simp]
theorem finished_append : finished (log ++ marks) = finished log ++ finished marks :=
  List.filterMap_append

@[simp]
theorem answersTo_append (caller : Nat) :
    answersTo (log ++ marks) caller = answersTo log caller ++ answersTo marks caller :=
  List.filterMap_append

theorem answersTo_answered_self (caller ticket : Nat) (refusal : Option Failure) :
    answersTo [(Mark.answered caller ticket refusal : Mark σ α)] caller = [(ticket, refusal)] := by
  simp [answersTo]

theorem answersTo_answered_of_ne {caller other : Nat} (h : other ≠ caller) (ticket : Nat)
    (refusal : Option Failure) :
    answersTo [(Mark.answered other ticket refusal : Mark σ α)] caller = [] := by
  simp [answersTo, h]

variable {log marks}

/-- Effects depend only on the answers to the calls that have them. -/
theorem effects_append {jobs : List (Job σ α)}
    (h : ∀ job ∈ jobs, answersTo marks job.ticket = []) (engine : σ) :
    effects (log ++ marks) jobs engine = effects log jobs engine := by
  induction jobs generalizing engine with
  | nil => rfl
  | cons job jobs ih =>
    have hjob := h job List.mem_cons_self
    have hrest := ih fun other hother => h other (List.mem_cons_of_mem _ hother)
    rw [effects, List.foldl_cons, answersTo_append, hjob, List.append_nil]
    exact hrest _

theorem effects_concat (log : List (Mark σ α)) (jobs : List (Job σ α)) (job : Job σ α)
    (engine : σ) :
    effects log (jobs ++ [job]) engine =
      job.body.effect (answersTo log job.ticket) (effects log jobs engine) := by
  rw [effects, List.foldl_append]
  rfl

end SharedService

end ScriptHost
