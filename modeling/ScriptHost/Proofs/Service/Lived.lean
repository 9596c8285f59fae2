import ScriptHost.Proofs.Service.Futures
import ScriptHost.Proofs.Service.Passage

/-!
# A service that may die

As long as the engine lives, calls are in order. When it dies the call that it was in the middle of
never comes to its end, and the calls on the queue are never started; no more calls are accepted.

* `SharedService.Lived` : what holds of calls and tickets, whether the engine lives or not.
* `SharedService.Numbered` : every submission has the number and the call of its ticket.
* `SharedService.OnCourse` : the running call is part of the way through its course.
* `SharedService.Passes.lived`, `SharedService.Passes.numbered`, `SharedService.Passes.coursing` :
  small steps keep these.
-/

namespace ScriptHost.SharedService

open Callable (recorded)

variable {σ α : Type} {capacity : Nat} {engine : σ} {b b' : SharedService σ α}
  {log marks : List (Mark σ α)} {calls issued : List (UInt64 → Callable σ α)}

/-! ## Calls and tickets -/

/-- Calls are in order as long as the engine lives. A dead engine is in the middle of no call. -/
structure Lived (capacity : Nat) (engine : σ) (b : SharedService σ α) (log : List (Mark σ α)) :
    Prop where
  ordered : b.service.alive = true → Ordered capacity engine b log
  idle : b.service.alive = false → b.service.running = none
  tickets : Ticketed b log
  queued : (started log ++ b.service.queue).Sublist (accepted log)
  ended : finished log <+: (started log).map Job.ticket

/-- The tickets of the calls that have no end yet. -/
def pending (b : SharedService σ α) : List Nat :=
  (b.service.running.map fun running => running.job.ticket).toList ++
    (b.service.queue.map Job.ticket ++ b.waiting.map Job.ticket)

namespace Lived

theorem of_ordered (h : Ordered capacity engine b log)
    (hidle : b.service.alive = false → b.service.running = none) : Lived capacity engine b log where
  ordered _ := h
  idle := hidle
  tickets := h.tickets
  queued := by rw [h.serial.order]
  ended := by
    rw [h.serial.turns]
    exact List.prefix_append _ _

theorem alive (h : Lived capacity engine b log) {running : Running σ α}
    (hsome : b.service.running = some running) : b.service.alive = true := by
  cases halive : b.service.alive with
  | true => rfl
  | false =>
    rw [h.idle halive] at hsome
    cases hsome

theorem ordered_of_running (h : Lived capacity engine b log) {running : Running σ α}
    (hsome : b.service.running = some running) : Ordered capacity engine b log :=
  h.ordered (h.alive hsome)

theorem accepted_of_started (h : Lived capacity engine b log) {job : Job σ α}
    (hjob : job ∈ started log) : job ∈ accepted log :=
  h.queued.subset (List.mem_append_left _ hjob)

theorem started_nodup (h : Lived capacity engine b log) : ((started log).map Job.ticket).Nodup := by
  have hdistinct := (List.nodup_append.mp h.tickets.nodup).1
  exact hdistinct.sublist (((List.sublist_append_left _ _).trans h.queued).map _)

/-- What a step does to a service whose engine lives on follows from the order of calls. What it
does to a dead one is to refuse submissions and to discard the queue. -/
theorem step (h : Lived capacity engine b log)
    (halive : b'.service.alive = true → b.service.alive = true)
    (hordered : Ordered capacity engine b log → Ordered capacity engine b' (log ++ marks))
    (hidle : b'.service.alive = false → b'.service.running = none)
    (htickets : Ticketed b' (log ++ marks))
    (hqueue : b.service.alive = false → b'.service.queue.Sublist b.service.queue)
    (hmarks : b.service.alive = false → Serial.Outside marks ∧ accepted marks = []) :
    Lived capacity engine b' (log ++ marks) := by
  cases hlives : b.service.alive with
  | true => exact of_ordered (hordered (h.ordered hlives)) hidle
  | false =>
    obtain ⟨houtside, haccepted⟩ := hmarks hlives
    constructor
    · intro halive'
      rw [halive halive'] at hlives
      cases hlives
    · exact hidle
    · exact htickets
    · rw [started_append, houtside.started, accepted_append, haccepted, List.append_nil,
        List.append_nil]
      exact ((hqueue hlives).append_left _).trans h.queued
    · rw [started_append, houtside.started, finished_append, houtside.finished, List.append_nil,
        List.append_nil]
      exact h.ended

/-- No ticket is pending twice, and no pending call has come to its end. -/
theorem nodup_pending (h : Lived capacity engine b log) :
    (finished log ++ pending b).Nodup := by
  have hdistinct := h.tickets.nodup
  have hbegun : ((finished log ++
      (b.service.running.map fun running => running.job.ticket).toList) ++
      b.service.queue.map Job.ticket).Sublist ((accepted log).map Job.ticket) := by
    have hqueued := h.queued.map Job.ticket
    rw [List.map_append] at hqueued
    cases hsome : b.service.running with
    | none =>
      rw [Option.map_none, Option.toList_none, List.append_nil]
      exact (h.ended.sublist.append_right _).trans hqueued
    | some running =>
      have hturns := (h.ordered_of_running hsome).serial.turns
      rwa [hturns, hsome] at hqueued
  have hwaiting : (b.waiting.map Job.ticket).Sublist (refused log ++ b.waiting.map Job.ticket) :=
    List.sublist_append_right _ _
  have hall := hdistinct.sublist (hbegun.append hwaiting)
  rwa [List.append_assoc, List.append_assoc] at hall

end Lived

theorem Passes.lived (h : Passes b marks calls b') (hb : Lived capacity engine b log) :
    Lived capacity engine b' (log ++ marks) := by
  induction h generalizing log with
  | @calm b s' h =>
    apply hb.step h.alive (fun hordered => hordered.quiet h.toAlike)
    · intro hdead
      rw [show ({ b with service := s' } : SharedService σ α).service.running = _ from h.running]
      exact (h.ended hdead).elim hb.idle id
    · exact hb.tickets.same h.tickets (List.Perm.refl _)
    · exact fun _ => h.queue ▸ .refl _
    · exact fun _ => ⟨⟨rfl, rfl, fun _ => rfl⟩, rfl⟩
  | ask b call lethal =>
    have htickets : Ticketed
        { service := (b.service.prepare call lethal).2.count
          waiting := b.waiting ++ [(b.service.prepare call lethal).1] } (log ++ []) := by
      apply hb.tickets.more (Array.size_push _)
      rw [List.map_append]
      exact List.perm_append_singleton _ _
    refine hb.step id (fun hordered => ⟨?_, htickets⟩) hb.idle htickets (fun _ => .refl _)
      fun _ => ⟨⟨rfl, rfl, fun _ => rfl⟩, rfl⟩
    exact hordered.serial.outside ⟨rfl, rfl, fun _ => rfl⟩ (List.append_nil _).symm
      hordered.serial.bound rfl rfl rfl
  | @letIn b job waiting hjob halive hroom =>
    have htickets : Ticketed { service := b.service.push job, waiting } (log ++ [.accepted job]) :=
      hb.tickets.same rfl (hjob.map Job.ticket).symm
    have hbound := Service.length_push_le hroom job
    apply Lived.of_ordered ⟨?_, htickets⟩ hb.idle
    exact (hb.ordered halive).serial.outside ⟨rfl, rfl, fun _ => rfl⟩ rfl hbound rfl rfl rfl
  | @turnAway b job waiting failure hjob hfailure =>
    have htickets : Ticketed { service := SharedService.turnAway b.service job failure, waiting }
        (log ++ [.refused job.ticket failure]) :=
      hb.tickets.same Array.size_setIfInBounds (hjob.map Job.ticket).symm
    refine hb.step id (fun hordered => ⟨?_, htickets⟩) hb.idle htickets (fun _ => .refl _)
      fun _ => ⟨⟨rfl, rfl, fun _ => rfl⟩, rfl⟩
    exact hordered.serial.outside ⟨rfl, rfl, fun _ => rfl⟩ (List.append_nil _).symm
      hordered.serial.bound rfl rfl rfl
  | @take b job queue halive hidle hqueue =>
    have hordered := hb.ordered halive
    have hdistinct := (List.nodup_append.mp hb.tickets.nodup).1
    refine .of_ordered ⟨?_, hb.tickets.same rfl (List.Perm.refl _)⟩ fun hdead => ?_
    · exact hordered.serial.take hdistinct hidle hqueue rfl rfl rfl
    · exact absurd (hdead.symm.trans halive) Bool.false_ne_true
  | @proceed b running labels body engine hsome hbody =>
    have hordered := hb.ordered_of_running hsome
    refine .of_ordered (hordered.proceed hsome rfl rfl hbody.effect rfl rfl rfl) fun hdead => ?_
    exact absurd (hdead.symm.trans (hb.alive hsome)) Bool.false_ne_true
  | @answered b running call lethal next ticket refusal hsome hbody =>
    have hordered := hb.ordered_of_running hsome
    have heffect : ∀ more, running.job.body.effect ((ticket, refusal) :: more) b.service.engine =
        (next ticket refusal).effect more b.service.engine := by
      intro more
      rw [hbody]
      rfl
    refine .of_ordered ⟨?_, hb.tickets.same rfl (List.Perm.refl _)⟩ fun hdead => ?_
    · have hgoes : (b.service.proceed running (next ticket refusal)).running = some _ := rfl
      exact hordered.serial.answered hordered.started_nodup hsome hgoes rfl heffect rfl rfl
    · exact absurd (hdead.symm.trans (hb.alive hsome)) Bool.false_ne_true
  | @finish b running ending hsome hbody =>
    have hordered := hb.ordered_of_running hsome
    refine .of_ordered (hordered.finish hsome hbody) fun _ => ?_
    obtain ⟨alive, stats, futures, hfinish, -, -⟩ := b.service.finish_eq running ending
    rw [hfinish]
  | @crash b running hsome =>
    obtain ⟨futures, hfutures, hsize⟩ := b.service.strand_eq running.job
    rw [hfutures, List.append_nil]
    refine ⟨fun halive => absurd halive Bool.false_ne_true, fun _ => rfl, ?_, hb.queued, hb.ended⟩
    exact List.append_nil log ▸ hb.tickets.same hsize (List.Perm.refl _)
  | @discard b hdead =>
    obtain ⟨futures, hfutures, hsize⟩ := b.service.strandAll_eq b.service.queue
    rw [Service.stop, hfutures, List.append_nil]
    refine ⟨fun halive => absurd halive Bool.false_ne_true, fun _ => hb.idle hdead, ?_, ?_,
      hb.ended⟩
    · exact List.append_nil log ▸ hb.tickets.same hsize (List.Perm.refl _)
    · exact ((List.nil_sublist _).append_left _).trans hb.queued
  | trans _ _ ih ih' =>
    rw [← List.append_assoc]
    exact ih' (ih hb)

/-! ## Numbers -/

/-- A call has the number of its ticket and is the one that was submitted under it. -/
def Named (firstId : UInt64) (issued : List (UInt64 → Callable σ α)) (job : Job σ α) : Prop :=
  job.id = firstId + UInt64.ofNat job.ticket ∧
    ∃ call, issued[job.ticket]? = some call ∧ job.body = call job.id

/-- Submissions are numbered from the first number on, those that are refused as well. -/
structure Numbered (firstId : UInt64) (b : SharedService σ α) (log : List (Mark σ α))
    (issued : List (UInt64 → Callable σ α)) : Prop where
  size : b.service.futures.size = issued.length
  next : b.service.nextId = firstId + UInt64.ofNat issued.length
  jobs : ∀ job ∈ accepted log ++ b.waiting, Named firstId issued job

theorem Named.append {firstId : UInt64} {job : Job σ α} (h : Named firstId issued job)
    (calls : List (UInt64 → Callable σ α)) : Named firstId (issued ++ calls) job := by
  obtain ⟨hid, call, hcall, hbody⟩ := h
  obtain ⟨hlt, -⟩ := List.getElem?_eq_some_iff.mp hcall
  exact ⟨hid, call, (List.getElem?_append_left hlt).trans hcall, hbody⟩

/-- A step that gives out no number. -/
theorem Numbered.same {firstId : UInt64} (h : Numbered firstId b log issued)
    (hsize : b'.service.futures.size = b.service.futures.size)
    (hnext : b'.service.nextId = b.service.nextId)
    (hjobs : ∀ job ∈ accepted marks ++ b'.waiting, job ∈ b.waiting) :
    Numbered firstId b' (log ++ marks) (issued ++ []) := by
  rw [List.append_nil]
  refine ⟨hsize.trans h.size, hnext.trans h.next, fun job hjob => h.jobs job ?_⟩
  rw [accepted_append, List.append_assoc] at hjob
  rcases List.mem_append.mp hjob with hold | hnew
  · exact List.mem_append_left _ hold
  · exact List.mem_append_right _ (hjobs job hnew)

theorem Passes.numbered (h : Passes b marks calls b') {firstId : UInt64}
    (hb : Numbered firstId b log issued) :
    Numbered firstId b' (log ++ marks) (issued ++ calls) := by
  induction h generalizing log issued with
  | calm h => exact hb.same h.tickets h.nextId fun _ => id
  | ask b call lethal =>
    rw [List.append_nil]
    refine ⟨?_, ?_, fun job hjob => ?_⟩
    · rw [List.length_append, ← hb.size]
      exact Array.size_push _
    · rw [List.length_append, UInt64.ofNat_add, ← UInt64.add_assoc, ← hb.next]
      rfl
    · rw [← List.append_assoc] at hjob
      rcases List.mem_append.mp hjob with hold | hnew
      · exact (hb.jobs job hold).append _
      · obtain rfl := List.mem_singleton.mp hnew
        refine ⟨?_, call, ?_, rfl⟩
        · exact hb.next.trans (by rw [← hb.size]; rfl)
        · rw [show (b.service.prepare call lethal).1.ticket = issued.length from hb.size,
            List.getElem?_concat_length]
  | letIn hjob =>
    exact hb.same rfl rfl fun job hmem => hjob.mem_iff.mpr hmem
  | turnAway hjob =>
    exact hb.same Array.size_setIfInBounds rfl fun job hmem =>
      hjob.mem_iff.mpr (List.mem_cons_of_mem _ hmem)
  | take | proceed | answered => exact hb.same rfl rfl fun _ => id
  | @finish b running ending hsome hbody =>
    obtain ⟨alive, stats, futures, hfinish, hsize, -⟩ := b.service.finish_eq running ending
    rw [hfinish]
    exact hb.same hsize rfl fun _ => id
  | @crash b running hsome =>
    obtain ⟨futures, hfutures, hsize⟩ := b.service.strand_eq running.job
    rw [hfutures]
    exact hb.same hsize rfl fun _ => id
  | @discard b hdead =>
    obtain ⟨futures, hfutures, hsize⟩ := b.service.strandAll_eq b.service.queue
    rw [Service.stop, hfutures]
    exact hb.same hsize rfl fun _ => id
  | trans _ _ ih ih' =>
    rw [← List.append_assoc, ← List.append_assoc]
    exact ih' (ih hb)

/-! ## The course of the running call -/

/-- The running call is the one that the engine took last. It has recorded the beginning of the
labels of its course, and what it still does is the rest of it. -/
def OnCourse (engine : σ) (s : Service σ α) (log : List (Mark σ α)) (running : Running σ α) :
    Prop :=
  ∃ before job labels, started log = before ++ [job] ∧ job.ticket = running.job.ticket ∧
    job.id = running.job.id ∧
    running.labels.reverse = [Label.enqueued, Label.dispatched] ++ labels.map Label.custom ∧
    ∀ more, job.body.course (answersTo log job.ticket ++ more) (effects log before engine) =
      recorded labels (running.job.body.course more s.engine)

/-- The running call, if there is one, is on its course. -/
def Coursing (engine : σ) (b : SharedService σ α) (log : List (Mark σ α)) : Prop :=
  ∀ running, b.service.running = some running → OnCourse engine b.service log running

/-- What callers do does not concern the running call. -/
theorem Coursing.outside (h : Coursing engine b log) (hmarks : Serial.Outside marks)
    (hrunning : b'.service.running = b.service.running)
    (hengine : b'.service.engine = b.service.engine) : Coursing engine b' (log ++ marks) := by
  intro running hsome
  obtain ⟨before, job, labels, hlast, hticket, hid, hlabels, hcourse⟩ :=
    h running (hrunning ▸ hsome)
  refine ⟨before, job, labels, ?_, hticket, hid, hlabels, fun more => ?_⟩
  · rw [started_append, hmarks.started, List.append_nil, hlast]
  · rw [answersTo_append, hmarks.answersTo, List.append_nil, hengine,
      effects_append fun other _ => hmarks.answersTo other.ticket]
    exact hcourse more

theorem Coursing.take (h : Ordered capacity engine b log) {job : Job σ α} {queue : List (Job σ α)}
    (hidle : b.service.running = none) (hqueue : b.service.queue = job :: queue) :
    OnCourse engine b.service (log ++ [.started job])
      ⟨job, [Label.dispatched, Label.enqueued]⟩ := by
  have hdistinct := (List.nodup_append.mp h.tickets.nodup).1
  have hunasked := h.serial.unasked hdistinct (hqueue ▸ List.mem_cons_self)
  refine ⟨started log, job, [], started_append _ _, rfl, rfl, rfl, fun more => ?_⟩
  rw [answersTo_append, hunasked, effects_append fun _ _ => rfl, ← h.serial.idle hidle,
    Callable.recorded_nil]
  rfl

theorem Coursing.answered (h : Ordered capacity engine b log) {running : Running σ α}
    {call : UInt64 → Callable σ α} {lethal : Bool} {next : Nat → Option Failure → Callable σ α}
    (hbody : running.job.body = .submit call lethal next)
    (hcourse : OnCourse engine b.service log running) (ticket : Nat) (refusal : Option Failure) :
    OnCourse engine b.service (log ++ [.answered running.job.ticket ticket refusal])
      { running with job := { running.job with body := next ticket refusal } } := by
  obtain ⟨before, job, labels, hlast, hticket, hid, hlabels, hrest⟩ := hcourse
  have hdistinct := h.started_nodup
  rw [hlast, List.map_append, List.nodup_append] at hdistinct
  have hbefore : ∀ other ∈ before, running.job.ticket ≠ other.ticket := by
    intro other hother
    rw [← hticket]
    exact (hdistinct.2.2 _ (List.mem_map_of_mem hother) _ List.mem_cons_self).symm
  refine ⟨before, job, labels, ?_, hticket, hid, hlabels, fun more => ?_⟩
  · rw [started_append, hlast]
    exact List.append_nil _
  · rw [effects_append fun other hother => answersTo_answered_of_ne (hbefore other hother) _ _,
      answersTo_append, hticket, answersTo_answered_self, ← hticket, List.append_assoc, hrest,
      hbody]
    rfl

theorem Passes.coursing (h : Passes b marks calls b') (hlived : Lived capacity engine b log)
    (hb : Coursing engine b log) : Coursing engine b' (log ++ marks) := by
  induction h generalizing log with
  | calm h => exact hb.outside ⟨rfl, rfl, fun _ => rfl⟩ h.running h.engine
  | ask | letIn | turnAway => exact hb.outside ⟨rfl, rfl, fun _ => rfl⟩ rfl rfl
  | take halive hidle hqueue =>
    rintro _ ⟨⟩
    exact Coursing.take (hlived.ordered halive) hidle hqueue
  | @proceed b running labels body engine' hsome hbody =>
    rintro _ ⟨⟩
    obtain ⟨before, job, earlier, hlast, hticket, hid, hlabels, hcourse⟩ := hb running hsome
    rw [List.append_nil]
    refine ⟨before, job, earlier ++ labels, hlast, hticket, hid, ?_, fun more => ?_⟩
    · rw [List.reverse_append, List.reverse_reverse, hlabels, List.map_append, List.append_assoc]
    · rw [hcourse, hbody.course, Callable.recorded_recorded]
      rfl
  | answered ticket refusal hsome hbody =>
    rintro _ ⟨⟩
    have hordered := hlived.ordered_of_running hsome
    exact Coursing.answered hordered hbody (hb _ hsome) ticket refusal
  | @finish b running ending hsome hbody =>
    obtain ⟨alive, stats, futures, hfinish, -, -⟩ := b.service.finish_eq running ending
    rw [hfinish]
    rintro _ ⟨⟩
  | crash =>
    rintro _ ⟨⟩
  | @discard b hdead =>
    obtain ⟨futures, hfutures, -⟩ := b.service.strandAll_eq b.service.queue
    rw [Service.stop, hfutures]
    exact hb.outside ⟨rfl, rfl, fun _ => rfl⟩ rfl rfl
  | trans h _ ih ih' =>
    rw [← List.append_assoc]
    exact ih' (h.lived hlived) (ih hlived hb)

end ScriptHost.SharedService
