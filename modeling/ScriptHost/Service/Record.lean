import ScriptHost.Service.Failure

/-!
# Records of calls

A record has the number of a call, the labels of the points it passed, in order, and its result.

* `Label.custom` : the label that a callable's own label is recorded as.
* `Record.rejected` : the record of a call that was never run to its end.
-/

namespace ScriptHost

namespace Label

def enqueued : String := "enqueued"

def dispatched : String := "dispatched"

def completed : String := "completed"

def failed : String := "failed"

/-- The labels that only the service itself records. -/
def reserved : List String := [enqueued, dispatched, completed, failed]

/-- The label that a callable's own label is recorded as. -/
def custom (label : String) : String :=
  if reserved.contains label then "custom:" ++ label else label

/-- The label of the end of a call. -/
def ofResult {α : Type} : Except Failure α → String
  | .ok _ => completed
  | .error _ => failed

end Label

structure Record (α : Type) where
  id : UInt64
  labels : List String
  result : Except Failure α

namespace Record

/-- The record of a call that has a failure but was not run to its end. -/
def rejected {α : Type} (id : UInt64) (failure : Failure) : Record α :=
  { id, labels := [Label.enqueued, Label.failed], result := .error failure }

def isOk {α : Type} (record : Record α) : Bool := record.result.isOk

/-- Whether a call passed a point with the given label. -/
def passed {α : Type} (record : Record α) (label : String) : Bool := record.labels.contains label

end Record

end ScriptHost
