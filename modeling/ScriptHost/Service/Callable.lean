import ScriptHost.Service.Failure

/-!
# Callables

A callable is what a call runs on the engine, one action after the other. What it does next may
depend on the state of the engine and on whether its own submissions were accepted.

* `Callable` : the actions of a callable.
* `Callable.returning` : the callable that ends at once with a value.
* `Callable.mapEnding` : a callable that ends otherwise.
-/

namespace ScriptHost

/-- What a callable does. Submissions are answered with their place in the order of all submissions
and the reason for which they were refused, if they were. -/
inductive Callable (σ α : Type)
  /-- The callable ends. -/
  | finish (ending : Ending α)
  /-- It looks at the state of the engine. -/
  | read (next : σ → Callable σ α)
  /-- It changes the state of the engine. -/
  | write (engine : σ) (next : Callable σ α)
  /-- It records a label. -/
  | checkpoint (label : String) (next : Callable σ α)
  /-- It submits a call, which may be a lethal one, to the service it runs on. -/
  | submit (call : UInt64 → Callable σ α) (lethal : Bool)
      (next : Nat → Option Failure → Callable σ α)
  /-- It stops waiting for a call. -/
  | abandon (ticket : Nat) (next : Callable σ α)
  /-- It gives up the last hold on the service. -/
  | release (next : Callable σ α)

namespace Callable

/-- The callable that ends at once with a value. -/
def returning {σ α : Type} (result : α) : Callable σ α := .finish (.value result)

/-- The callable that does the same and ends otherwise. Calls that it submits end as before. -/
def mapEnding {σ α : Type} (f : Ending α → Ending α) : Callable σ α → Callable σ α
  | .finish ending => .finish (f ending)
  | .read next => .read fun engine => (next engine).mapEnding f
  | .write engine next => .write engine (next.mapEnding f)
  | .checkpoint label next => .checkpoint label (next.mapEnding f)
  | .submit call lethal next =>
    .submit call lethal fun ticket refusal => (next ticket refusal).mapEnding f
  | .abandon ticket next => .abandon ticket (next.mapEnding f)
  | .release next => .release (next.mapEnding f)

end Callable

end ScriptHost
