import Mathlib.Data.List.Nodup
import ScriptHost.Proofs.Service.Order
import ScriptHost.Proofs.Service.Progress

/-!
# No accepted call is lost

A service that is given up does all the calls that it has accepted before its engine ends. Where the
engine dies instead, every call that it has not finished is answered for, and nothing else runs.

* `ClosingService.Told` : the caller of a finished call has its record.
* `ClosingService.Cut` : the caller of a call that will not be finished is told so.
* `ClosingService.none_lost` : what becomes of the accepted calls after any history.
-/

namespace ScriptHost.ClosingService

open SharedService (Event Mark Ran accepted started finished refused)

variable {σ α : Type} {capacity : Nat} {firstId : UInt64} {engine : σ}
  {c : ClosingService σ α} {log : List (Mark σ α)} {issued : List (UInt64 → Callable σ α)}

/-- Unless the caller of a call has stopped waiting for it, there is a record of what it did, which
is no failure of the service, and it is there for good. -/
def Told (engine : σ) (c : ClosingService σ α) (log : List (Mark σ α)) (ticket : Nat) : Prop :=
  c.shared.service.future? ticket = some .dropped ∨
    ∃ record, c.shared.service.record? ticket = some record ∧ Ran engine log ticket record ∧
      record.result ≠ .error .shutdown ∧
      ∀ later, (c.live later).1.shared.service.record? ticket = some record

/-- Unless the caller of a call has stopped waiting, it is told that the service has ended. -/
def Cut (c : ClosingService σ α) (job : Job σ α) : Prop :=
  c.shared.service.future? job.ticket = some .dropped ∨
    c.shared.service.record? job.ticket = some (.rejected job.id .shutdown)

/-- The record of a call that came to its end does not say that the service has ended. -/
theorem result_ne_shutdown {ticket : Nat} {record : Record α} (h : Ran engine log ticket record) :
    record.result ≠ .error .shutdown := by
  obtain ⟨-, -, -, -, ending, -, -, -, -, rfl⟩ := h
  cases ending <;> exact nofun

namespace Sound

theorem lt_of_accepted (h : Sound capacity firstId engine c log issued) {job : Job σ α}
    (hjob : job ∈ accepted log) : job.ticket < c.shared.service.futures.size := by
  have hmem := List.mem_append_left (refused log ++ c.shared.waiting.map Job.ticket)
    (List.mem_map_of_mem (f := Job.ticket) hjob)
  exact List.mem_range.mp (h.lived.tickets.mem_iff.mp hmem)

/-- An accepted call was not refused, and its caller does not wait for room. -/
theorem accepted_apart (h : Sound capacity firstId engine c log issued) {job : Job σ α}
    (hjob : job ∈ accepted log) :
    ∀ other ∈ refused log ++ c.shared.waiting.map Job.ticket, job.ticket ≠ other :=
  (List.nodup_append.mp h.lived.tickets.nodup).2.2 _ (List.mem_map_of_mem hjob)

/-- A submission that is over has been answered, or its caller has stopped waiting. -/
theorem future_of_over (h : Sound capacity firstId engine c log issued) {ticket : Nat}
    (hlt : ticket < c.shared.service.futures.size)
    (hover : ticket ∉ SharedService.pending c.shared) :
    c.shared.service.future? ticket = some .dropped ∨
      ∃ record, c.shared.service.record? ticket = some record := by
  have hfuture : c.shared.service.future? ticket = some _ := Array.getElem?_eq_getElem hlt
  cases hkind : c.shared.service.futures[ticket] with
  | waiting => exact absurd (h.answered.waiting ticket (hkind ▸ hfuture)) hover
  | dropped => exact .inl (hkind ▸ hfuture)
  | resolved record => exact .inr ⟨record, Service.record?_eq_some.mpr (hkind ▸ hfuture)⟩

/-- Records are there for good. -/
theorem record_stays (h : Sound capacity firstId engine c log issued) {ticket : Nat}
    {record : Record α} (hrecord : c.shared.service.record? ticket = some record)
    (later : List (Occurrence σ α)) :
    (c.live later).1.shared.service.record? ticket = some record :=
  h.toSound.kept (c.live_passes later) ticket record hrecord

theorem accepted_of_finished (h : Sound capacity firstId engine c log issued) {ticket : Nat}
    (hticket : ticket ∈ finished log) : ∃ job ∈ accepted log, job.ticket = ticket := by
  obtain ⟨job, hjob, hsame⟩ := List.mem_map.mp (h.lived.ended.subset hticket)
  exact ⟨job, h.lived.accepted_of_started hjob, hsame⟩

theorem told_of_finished (h : Sound capacity firstId engine c log issued) {ticket : Nat}
    (hticket : ticket ∈ finished log) : Told engine c log ticket := by
  obtain ⟨job, hjob, rfl⟩ := h.accepted_of_finished hticket
  have hover : job.ticket ∉ SharedService.pending c.shared := fun hpending =>
    (List.nodup_append.mp h.lived.nodup_pending).2.2 _ hticket _ hpending rfl
  refine (h.future_of_over (h.lt_of_accepted hjob) hover).imp_right ?_
  rintro ⟨record, hrecord⟩
  have houtcome := h.answered.records job.ticket record hrecord
  have hran := houtcome.resolve_right fun hunran => hunran.1 hticket
  exact ⟨record, hrecord, hran, result_ne_shutdown hran, h.record_stays hrecord⟩

/-- A call that was not started has not come to its end. -/
theorem unfinished_of_unstarted (h : Sound capacity firstId engine c log issued) {job : Job σ α}
    (hjob : job ∈ accepted log) (hunstarted : job ∉ started log) : job.ticket ∉ finished log := by
  intro hfinished
  obtain ⟨other, hother, hsame⟩ := List.mem_map.mp (h.lived.ended.subset hfinished)
  have hdistinct := (List.nodup_append.mp h.lived.tickets.nodup).1
  have hjobs := List.inj_on_of_nodup_map hdistinct (h.lived.accepted_of_started hother) hjob hsame
  exact hunstarted (hjobs ▸ hother)

/-! ## A dead engine -/

/-- The record of an accepted call without an end says that the engine is dead. -/
theorem record_of_unfinished (h : Sound capacity firstId engine c log issued) {job : Job σ α}
    (hjob : job ∈ accepted log) (hunfinished : job.ticket ∉ finished log) {record : Record α}
    (hrecord : c.shared.service.record? job.ticket = some record) :
    c.shared.service.alive = false ∧ record = .rejected job.id .shutdown := by
  obtain ⟨failure, hrejected, hreason⟩ := h.of_unfinished hrecord hunfinished
  have hid : record.id = job.id := by
    have hnamed := h.numbered.jobs job (List.mem_append_left _ hjob)
    exact (h.outcome_id (h.answered.records _ _ hrecord)).trans hnamed.1.symm
  rcases hreason with ⟨hrefused, -⟩ | ⟨hdead, hfailure⟩
  · have hmem : job.ticket ∈ refused log := List.mem_filterMap.mpr ⟨_, hrefused, rfl⟩
    exact absurd rfl (h.accepted_apart hjob _ (List.mem_append_left _ hmem))
  · exact ⟨hdead, by rw [hrejected, hid, hfailure]⟩

/-- A call without an end is answered for when the queue of a dead engine is discarded. -/
theorem cut_of_unfinished (h : Sound capacity firstId engine c log issued)
    (hdead : c.shared.service.alive = false) (hqueue : c.shared.service.queue = [])
    {job : Job σ α} (hjob : job ∈ accepted log) (hunfinished : job.ticket ∉ finished log) :
    Cut c job := by
  have hover : job.ticket ∉ SharedService.pending c.shared := by
    intro hpending
    rw [SharedService.pending, h.lived.idle hdead, hqueue] at hpending
    exact h.accepted_apart hjob _ (List.mem_append_right _ hpending) rfl
  refine (h.future_of_over (h.lt_of_accepted hjob) hover).imp_right ?_
  rintro ⟨record, hrecord⟩
  rw [hrecord, (h.record_of_unfinished hjob hunfinished hrecord).2]

/-- Nothing runs any more once the engine is dead. -/
theorem still_of_dead (h : Sound capacity firstId engine c log issued)
    (hdead : c.shared.service.alive = false) (later : List (Occurrence σ α)) :
    SharedService.Still c.shared (c.live later).1.shared (c.live later).2 :=
  (c.live_passes later).dead hdead (h.lived.idle hdead)

theorem queue_of_discard (h : Sound capacity firstId engine c log issued)
    (hdead : c.shared.service.alive = false) {later : List (Occurrence σ α)}
    (hdiscard : .discard ∈ later) : (c.live later).1.shared.service.queue = [] := by
  obtain ⟨early, late, rfl⟩ := List.append_of_mem hdiscard
  have hearly := (h.still_of_dead hdead early).alive
  have hsound := (h.live early).occur .discard
  have hservice : ((c.live early).1.occur .discard).1.shared.service =
      (c.live early).1.shared.service.stop := by
    change (c.live early).1.shared.service.discard = _
    rw [Service.discard, hearly]
    rfl
  obtain ⟨futures, hstop⟩ := (c.live early).1.shared.service.stop_eq
  rw [hstop] at hservice
  have hstill := hsound.still_of_dead (congrArg Service.alive hservice) late
  have hqueue := hstill.queue
  rw [hservice] at hqueue
  rw [live_append]
  exact List.sublist_nil.mp hqueue

end Sound

theorem occur_submit_of_dead (hdead : c.shared.service.alive = false) (policy : Policy)
    (call : UInt64 → Callable σ α) (lethal : Bool) :
    c.occur (.event (.submit policy call lethal)) =
      ({ c with shared := { c.shared with service := c.shared.service.reject .shutdown } },
        [.refused c.shared.service.futures.size .shutdown]) := by
  have hadmission : c.shared.service.admission policy = .refused .shutdown := by
    unfold Service.admission
    rw [hdead]
    rfl
  have hstep : c.shared.step (.submit policy call lethal) =
      ({ c.shared with service := c.shared.service.reject .shutdown },
        [.refused c.shared.service.futures.size .shutdown]) := by
    simp only [SharedService.step, SharedService.submit, Service.submit, hadmission]
    rfl
  simp only [occur, hstep, follow, hdead, Bool.false_and, Bool.or_false]

/-! ## After any history -/

/-- After any history of calls, of callers, and of whoever gives up the service, be it from outside
or as the running call, with room for the message to stop or without:

* The caller of a finished call has its record, and it is there for good.
* If the engine has ended by itself, the service was given up. All accepted calls have been taken,
  in the order of their acceptance, and finished; their callers have their records, and nothing runs
  any more.
* Once the service is given up, the engine ends in every endless history in which it gets its turns.
* If the engine has died, a call that was not started never is. The caller of any call that it
  has not finished is told so as soon as the queue is discarded. Any later submission takes a number
  and has a record that says why it was refused, and nothing else changes. -/
theorem none_lost (capacity : Nat) (firstId : UInt64) (engine : σ)
    (history : List (Occurrence σ α)) :
    let c := ((start capacity firstId engine).live history).1
    let log := ((start capacity firstId engine).live history).2
    let s := c.shared.service
    (∀ ticket ∈ finished log, Told engine c log ticket) ∧
    (s.alive = false → c.died = false →
      s.held = false ∧ accepted log = started log ∧
      (started log).map Job.ticket = finished log ∧
      (∀ job ∈ accepted log, Told engine c log job.ticket) ∧
      ∀ later, started (c.live later).2 = [] ∧ finished (c.live later).2 = []) ∧
    (s.held = false → ∀ future, Fair future →
      ∃ time, (c.live (upTo future time)).1.shared.service.alive = false) ∧
    (c.died = true →
      (∀ job ∈ accepted log, job ∉ started log →
        job.ticket ∉ finished log ∧ ∀ later, job ∉ started (log ++ (c.live later).2)) ∧
      (∀ job ∈ accepted log, job.ticket ∉ finished log →
        ∀ later, .discard ∈ later → Cut (c.live later).1 job) ∧
      ∀ policy call lethal,
        let after := c.occur (.event (.submit policy call lethal))
        let s' := after.1.shared.service
        after.2 = [.refused s.futures.size .shutdown] ∧ s'.nextId = s.nextId + 1 ∧
        s'.record? s.futures.size = some (.rejected s.nextId .shutdown) ∧
        s'.stats = s.stats ∧ s'.queue = s.queue ∧ s'.running = none ∧ s'.engine = s.engine) := by
  have h := sound_live capacity firstId engine history
  dsimp only at h
  generalize (start capacity firstId engine).issued history = issued at h
  generalize (start capacity firstId engine).live history = result at h
  obtain ⟨c, log⟩ := result
  dsimp only at h ⊢
  refine ⟨fun ticket => h.told_of_finished, fun hdead hdied => ?_,
    fun hfree future hfair => h.eventually_over hfair hfree, fun hdied => ?_⟩
  · obtain ⟨hfree, haccepted, hfinished⟩ := h.tidy.drained hdead hdied
    refine ⟨hfree, haccepted, hfinished, fun job hjob => ?_, fun later => ?_⟩
    · apply h.told_of_finished
      rw [← hfinished, ← haccepted]
      exact List.mem_map_of_mem hjob
    · exact ⟨(h.still_of_dead hdead later).started, (h.still_of_dead hdead later).finished⟩
  · have hdead := h.tidy.died hdied
    refine ⟨fun job hjob hunstarted => ⟨?_, fun later => ?_⟩,
      fun job hjob hunfinished later hdiscard => ?_, fun policy call lethal => ?_⟩
    · exact h.unfinished_of_unstarted hjob hunstarted
    · rw [SharedService.started_append, (h.still_of_dead hdead later).started, List.append_nil]
      exact hunstarted
    · have hstill := h.still_of_dead hdead later
      refine (h.live later).cut_of_unfinished hstill.alive (h.queue_of_discard hdead hdiscard) ?_ ?_
      · rw [SharedService.accepted_append]
        exact List.mem_append_left _ hjob
      · rwa [SharedService.finished_append, hstill.finished, List.append_nil]
    · rw [occur_submit_of_dead hdead]
      exact ⟨rfl, rfl, c.shared.service.record?_reject .shutdown, rfl, rfl, h.lived.idle hdead, rfl⟩

/-- The running call gives up the service while the queue, which has room for one call, is full. -/
def dropFull : List (Occurrence Nat Unit) :=
  [.event (.submit .wait (fun _ => .release (.returning ())) false), .event .dispatch,
    .event (.submit .wait (fun _ => .write 8 (.returning ())) false), .event .advance,
    .event .advance, .event .dispatch, .event .advance, .event .advance, .event .dispatch]

/-- The engine dies because nobody waits for the result of the first call. -/
def lethalFirst : List (Occurrence Nat Unit) :=
  [.event (.submit .wait (fun _ => .returning ()) true), .event .dispatch,
    .event (.submit .wait (fun _ => .returning ()) false), .event (.abandon 0), .event .advance]

/-- The second call is done although no message to stop found room behind it. It is cut off where
the first one brings the engine down. -/
theorem none_lost_second :
    Told 7 ((start 1 0 7).live dropFull).1 ((start 1 0 7).live dropFull).2 1 ∧
      Cut (((start 1 0 7).live lethalFirst).1.live [.discard]).1
        ⟨1, 1, .returning (), false⟩ := by
  obtain ⟨-, hended, -⟩ := none_lost 1 0 7 dropFull
  obtain ⟨-, -, -, hdied⟩ := none_lost 1 0 7 lethalFirst
  have hfull : accepted ((start 1 0 7).live dropFull).2 =
      [⟨0, 0, .release (.returning ()), false⟩, ⟨1, 1, .write 8 (.returning ()), false⟩] := rfl
  have hlethal : accepted ((start 1 0 7).live lethalFirst).2 =
      [⟨0, 0, .returning (), true⟩, ⟨1, 1, .returning (), false⟩] := rfl
  obtain ⟨-, -, -, htold, -⟩ := hended rfl rfl
  obtain ⟨-, hcut, -⟩ := hdied rfl
  rw [hfull] at htold
  rw [hlethal] at hcut
  refine ⟨htold _ (List.mem_cons_of_mem _ List.mem_cons_self), ?_⟩
  exact hcut _ (List.mem_cons_of_mem _ List.mem_cons_self) (by decide) _ List.mem_cons_self

end ScriptHost.ClosingService
