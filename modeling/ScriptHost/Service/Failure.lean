import ScriptHost.Error

/-!
# Failures of calls

* `Failure` : why a call has no result.
* `Ending` : how a callable ends when it is run.
-/

namespace ScriptHost

/-- Why a call has no result. An error is given with its contexts, the outermost first. -/
inductive Failure
  | callFailed (chain : List String)
  | panicked (text : String)
  | shutdown
  | queueFull
  | abandoned
  | engineInit (text : String)
  | codec (e : Error)
deriving DecidableEq, Repr

/-- An error and its contexts in one line. -/
def chainText (chain : List String) : String := ": ".intercalate chain

namespace Failure

/-- The name of the kind of failure. -/
def label : Failure → String
  | .callFailed _ => "CallFailed"
  | .panicked _ => "Panicked"
  | .shutdown => "Shutdown"
  | .queueFull => "QueueFull"
  | .abandoned => "Abandoned"
  | .engineInit _ => "EngineInit"
  | .codec _ => "Codec"

def message : Failure → String
  | .callFailed chain => "Engine call failed: " ++ chainText chain
  | .panicked text => "Engine call panicked: " ++ text
  | .shutdown => "Bridge shut down before the call completed"
  | .queueFull => "Bridge call queue is full"
  | .abandoned => "Caller stopped waiting for the call"
  | .engineInit text => "Engine initialization failed: " ++ text
  | .codec e => e.message

end Failure

/-- How a callable ends. -/
inductive Ending (α : Type)
  | value (result : α)
  | failed (chain : List String)
  | panicked (text : String)

def Ending.result {α : Type} : Ending α → Except Failure α
  | .value result => .ok result
  | .failed chain => .error (.callFailed chain)
  | .panicked text => .error (.panicked text)

end ScriptHost
