import ScriptHost.Proofs.Service.Answer

/-!
# Every submission has one record

Whatever happens to a service, a submission that is over has one record, under the number of its
place among all submissions, and of one of two forms.

* `SharedService.Sound` : all that holds of a service at any time.
* `SharedService.Over` : a service after its end.
* `SharedService.one_record_each` : numbers and records after any history.
-/

namespace ScriptHost.SharedService

variable {σ α : Type} {capacity : Nat} {firstId : UInt64} {engine : σ} {b b' : SharedService σ α}
  {log marks : List (Mark σ α)} {calls issued : List (UInt64 → Callable σ α)}

/-- Calls are in order while the engine lives, submissions are numbered, the running call is on its
course, and records are as they should be. -/
structure Sound (capacity : Nat) (firstId : UInt64) (engine : σ) (b : SharedService σ α)
    (log : List (Mark σ α)) (issued : List (UInt64 → Callable σ α)) : Prop where
  lived : Lived capacity engine b log
  numbered : Numbered firstId b log issued
  coursing : Coursing engine b log
  answered : Answered firstId engine b log

namespace Sound

theorem start (capacity : Nat) (firstId : UInt64) (engine : σ) :
    Sound capacity firstId engine
      (SharedService.start capacity firstId engine : SharedService σ α) [] [] where
  lived := .of_ordered (.start capacity firstId engine) fun _ => rfl
  numbered := ⟨rfl, (UInt64.add_zero _).symm, fun _ h => by cases h⟩
  coursing _ h := by cases h
  answered := .start capacity firstId engine

theorem passes (h : Sound capacity firstId engine b log issued) (hb : Passes b marks calls b') :
    Sound capacity firstId engine b' (log ++ marks) (issued ++ calls) where
  lived := hb.lived h.lived
  numbered := hb.numbered h.numbered
  coursing := hb.coursing h.lived h.coursing
  answered := (hb.answered_kept h.lived h.numbered h.coursing h.answered).1

theorem kept (h : Sound capacity firstId engine b log issued) (hb : Passes b marks calls b') :
    Kept b b' :=
  (hb.answered_kept h.lived h.numbered h.coursing h.answered).2

theorem live (history : List (Occurrence σ α)) (capacity : Nat) (firstId : UInt64) (engine : σ) :
    let first := SharedService.start capacity firstId engine
    Sound capacity firstId engine (first.live history).1 (first.live history).2
      (first.issued history) := by
  intro first
  have hpasses := first.live_passes history
  exact (start capacity firstId engine).passes hpasses

theorem outcome_id (h : Sound capacity firstId engine b log issued) {ticket : Nat}
    {record : Record α} (hrecord : Outcome firstId engine b log ticket record) :
    record.id = firstId + UInt64.ofNat ticket := by
  rcases hrecord with ⟨before, job, after, labels, ending, hstarted, rfl, -, -, rfl⟩ |
    ⟨-, failure, rfl, -⟩
  · have hjob : job ∈ accepted log := h.lived.accepted_of_started (by simp [hstarted])
    exact (h.numbered.jobs job (List.mem_append_left _ hjob)).1
  · rfl

theorem of_unfinished (h : Sound capacity firstId engine b log issued) {ticket : Nat}
    {record : Record α} (hrecord : b.service.record? ticket = some record)
    (hunfinished : ticket ∉ finished log) :
    ∃ failure, record = .rejected record.id failure ∧
      (.refused ticket failure ∈ log ∧ (failure = .queueFull ∨ failure = .shutdown) ∨
        b.service.alive = false ∧ failure = .shutdown) := by
  rcases h.answered.records ticket record hrecord with hran | ⟨-, failure, rfl, hreason⟩
  · exact absurd hran.mem_finished hunfinished
  · exact ⟨failure, rfl, hreason⟩

end Sound

/-- The end of the one history is the beginning of the other. -/
theorem live_append (b : SharedService σ α) (history later : List (Occurrence σ α)) :
    (b.live (history ++ later)).1 = ((b.live history).1.live later).1 := by
  induction history generalizing b with
  | nil => rfl
  | cons occurrence history ih => exact ih (b.occur occurrence).1

/-- The first call records a label of the service's own and panics. In the second one the engine
dies, so that the third is refused. -/
example :
    let call : UInt64 → Callable Unit Unit := fun _ =>
      .checkpoint "completed" (.finish (.panicked "boom"))
    let b := ((start 4 (-1) ()).live [.event (.submit .wait call false),
      .event (.submit .wait call false), .event .dispatch, .event .advance, .event .advance,
      .event .dispatch, .crash, .event (.submit .refuse call false)]).1
    (List.range 3).map b.service.record? =
      [some ⟨-1, ["enqueued", "dispatched", "custom:completed", "failed"],
          .error (.panicked "boom")⟩,
        some ⟨0, ["enqueued", "failed"], .error .shutdown⟩,
        some ⟨1, ["enqueued", "failed"], .error .shutdown⟩] := by
  rfl

end ScriptHost.SharedService
