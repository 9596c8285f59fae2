import Mathlib.Data.List.Perm.Basic
import ScriptHost.Proofs.Service.Serial

/-!
# Every step keeps the order of calls

A submission is put on the queue, or it is refused; both take one ticket. What the engine does to
the running call is one of a few things, whatever the call does.

* `Service.Submitted` : the two outcomes of a submission.
* `SharedService.Ticketed` : every submission is accepted, refused, or made by a caller that waits.
* `SharedService.Ordered` : the whole invariant.
* `SharedService.Ordered.step`, `SharedService.Ordered.run` : it holds after every step and run.
-/

namespace ScriptHost

variable {σ α : Type}

/-! ## Submissions -/

namespace Service

variable {s s' : Service σ α} {call : UInt64 → Callable σ α} {lethal : Bool}

/-- What becomes of a submission that need not wait. -/
inductive Submitted (s : Service σ α) (call : UInt64 → Callable σ α) (lethal : Bool) :
    Submission → Service σ α → Prop
  | accepted : s.queue.length < s.capacity →
    Submitted s call lethal (s.nextSubmission none) (s.enqueue call lethal)
  | refused (failure : Failure) :
    Submitted s call lethal (s.nextSubmission (some failure)) (s.reject failure)

theorem length_lt_of_accepted {policy : Policy} (h : s.admission policy = .accepted) :
    s.queue.length < s.capacity := by
  unfold admission at h
  split at h
  · cases h
  · split at h
    · assumption
    · cases policy <;> cases h

theorem length_push_le (h : s.queue.length < s.capacity) (job : Job σ α) :
    (s.push job).queue.length ≤ s.capacity := by
  rw [show (s.push job).queue = s.queue ++ [job] from rfl, List.length_append]
  exact h

theorem submit_submitted {policy : Policy} {submission : Submission}
    (h : s.submit policy call lethal = some (submission, s')) :
    Submitted s call lethal submission s' := by
  unfold submit at h
  split at h
  · rename_i hroom
    cases h
    exact .accepted (length_lt_of_accepted hroom)
  · cases h
    exact .refused _
  · cases h

theorem submitInside_submitted (s : Service σ α) (call : UInt64 → Callable σ α) (lethal : Bool) :
    Submitted s call lethal (s.submitInside call lethal).1 (s.submitInside call lethal).2 := by
  unfold submitInside
  split
  · rename_i hroom
    exact .accepted (length_lt_of_accepted hroom)
  · exact .refused _
  · exact .refused _

theorem Submitted.running {submission : Submission} (h : Submitted s call lethal submission s') :
    s'.running = s.running := by
  cases h <;> rfl

/-- Two states of a service that differ in nothing on which the order of calls depends. -/
structure Alike (s s' : Service σ α) : Prop where
  queue : s'.queue = s.queue
  running : s'.running = s.running
  engine : s'.engine = s.engine
  capacity : s'.capacity = s.capacity
  tickets : s'.futures.size = s.futures.size

theorem Alike.refl (s : Service σ α) : s.Alike s := ⟨rfl, rfl, rfl, rfl, rfl⟩

theorem alike_setFuture (s : Service σ α) (ticket : Nat) (future : Future α) :
    s.Alike (s.setFuture ticket future) :=
  ⟨rfl, rfl, rfl, rfl, Array.size_setIfInBounds⟩

theorem alike_abandon (s : Service σ α) (ticket : Nat) : s.Alike (s.abandon ticket) := by
  unfold abandon
  split
  · exact s.alike_setFuture ticket .dropped
  · exact .refl s

theorem alike_deliver (s : Service σ α) (job : Job σ α) (record : Record α) :
    s.Alike (s.deliver job record) := by
  unfold deliver
  split
  · exact s.alike_setFuture job.ticket (.resolved record)
  · split
    · exact ⟨rfl, rfl, rfl, rfl, rfl⟩
    · exact ⟨rfl, rfl, rfl, rfl, rfl⟩

end Service

namespace SharedService

open Service (Submitted)

variable {capacity : Nat} {engine : σ} {log : List (Mark σ α)}

theorem outside_answer {s : Service σ α} {call : UInt64 → Callable σ α} {lethal : Bool}
    (submission : Submission) : Serial.Outside [answer s call lethal submission] := by
  unfold answer
  cases submission.refusal <;> exact ⟨rfl, rfl, fun _ => rfl⟩

theorem Serial.submitted {s s' : Service σ α} {call : UInt64 → Callable σ α} {lethal : Bool}
    {submission : Submission} (h : Serial capacity engine s log)
    (hs' : Submitted s call lethal submission s') :
    Serial capacity engine s' (log ++ [answer s call lethal submission]) := by
  cases hs' with
  | accepted hroom =>
    have hbound := Service.length_push_le hroom (s.prepare call lethal).1
    exact h.outside (outside_answer _) rfl hbound rfl rfl rfl
  | refused failure =>
    exact h.outside (outside_answer _) (List.append_nil _).symm h.bound rfl rfl rfl

/-! ## Tickets -/

/-- Every submission is accepted, refused, or made by a caller that waits, and no two have the same
ticket. -/
def Ticketed (b : SharedService σ α) (log : List (Mark σ α)) : Prop :=
  ((accepted log).map Job.ticket ++ (refused log ++ b.waiting.map Job.ticket)).Perm
    (List.range b.service.futures.size)

theorem Ticketed.nodup {b : SharedService σ α} (h : Ticketed b log) :
    ((accepted log).map Job.ticket ++ (refused log ++ b.waiting.map Job.ticket)).Nodup :=
  h.nodup_iff.mpr List.nodup_range

/-- Tickets stay apart when one more is given out. -/
theorem Ticketed.more {b b' : SharedService σ α} {marks : List (Mark σ α)} (h : Ticketed b log)
    (hsize : b'.service.futures.size = b.service.futures.size + 1)
    (hmarks : ((accepted marks).map Job.ticket ++ (refused marks ++ b'.waiting.map Job.ticket)).Perm
      (b.service.futures.size :: b.waiting.map Job.ticket)) : Ticketed b' (log ++ marks) := by
  rw [Ticketed, List.perm_iff_count] at h ⊢
  rw [List.perm_iff_count] at hmarks
  intro ticket
  have hold := h ticket
  have hnew := hmarks ticket
  rw [hsize, List.range_succ, accepted_append, refused_append, List.map_append]
  simp only [List.count_append, List.count_cons, List.count_nil] at hold hnew ⊢
  omega

/-- Tickets stay apart when none is given out. -/
theorem Ticketed.same {b b' : SharedService σ α} {marks : List (Mark σ α)} (h : Ticketed b log)
    (hsize : b'.service.futures.size = b.service.futures.size)
    (hmarks : ((accepted marks).map Job.ticket ++ (refused marks ++ b'.waiting.map Job.ticket)).Perm
      (b.waiting.map Job.ticket)) : Ticketed b' (log ++ marks) := by
  rw [Ticketed, List.perm_iff_count] at h ⊢
  rw [List.perm_iff_count] at hmarks
  intro ticket
  have hold := h ticket
  have hnew := hmarks ticket
  rw [hsize, accepted_append, refused_append, List.map_append]
  simp only [List.count_append] at hold hnew ⊢
  omega

theorem Ticketed.submitted {b : SharedService σ α} {s' : Service σ α}
    {call : UInt64 → Callable σ α} {lethal : Bool} {submission : Submission} (h : Ticketed b log)
    (hs' : Submitted b.service call lethal submission s') :
    Ticketed { b with service := s' } (log ++ [answer b.service call lethal submission]) := by
  cases hs' with
  | accepted hroom => exact h.more (Array.size_push _) (List.Perm.refl _)
  | refused failure => exact h.more (Array.size_push _) (List.Perm.refl _)

theorem eraseIdx_perm {jobs : List (Job σ α)} {position : Nat} {job : Job σ α}
    (h : jobs[position]? = some job) :
    (job.ticket :: (jobs.eraseIdx position).map Job.ticket).Perm (jobs.map Job.ticket) := by
  obtain ⟨hlt, rfl⟩ := List.getElem?_eq_some_iff.mp h
  exact (List.getElem_cons_eraseIdx_perm hlt).map Job.ticket

/-! ## The invariant -/

/-- Calls are in order, and so are their tickets. -/
structure Ordered (capacity : Nat) (engine : σ) (b : SharedService σ α) (log : List (Mark σ α)) :
    Prop where
  serial : Serial capacity engine b.service log
  tickets : Ticketed b log

namespace Ordered

variable {b : SharedService σ α}

theorem start (capacity : Nat) (firstId : UInt64) (engine : σ) :
    Ordered capacity engine (SharedService.start capacity firstId engine : SharedService σ α)
      [] where
  serial := .start capacity firstId engine
  tickets := List.Perm.refl _

/-- A step that touches neither the queue nor the engine and gives out no ticket. -/
theorem quiet (h : Ordered capacity engine b log) {s' : Service σ α} (hs' : b.service.Alike s') :
    Ordered capacity engine { b with service := s' } (log ++ []) where
  serial := by
    have hbound := h.serial.bound
    rw [← hs'.queue, ← hs'.capacity] at hbound
    exact h.serial.outside ⟨rfl, rfl, fun _ => rfl⟩ (hs'.queue.trans (List.append_nil _).symm)
      hbound hs'.running hs'.engine hs'.capacity
  tickets := h.tickets.same hs'.tickets (List.Perm.refl _)

theorem submit (h : Ordered capacity engine b log) (policy : Policy)
    (call : UInt64 → Callable σ α) (lethal : Bool) :
    Ordered capacity engine (b.submit policy call lethal).1
      (log ++ (b.submit policy call lethal).2) := by
  unfold SharedService.submit
  split
  · rename_i submission service hsubmit
    have hsubmitted := Service.submit_submitted hsubmit
    exact ⟨h.serial.submitted hsubmitted, h.tickets.submitted hsubmitted⟩
  · constructor
    · exact h.serial.outside ⟨rfl, rfl, fun _ => rfl⟩ (List.append_nil _).symm h.serial.bound rfl
        rfl rfl
    · apply h.tickets.more (Array.size_push _)
      rw [List.map_append]
      exact List.perm_append_singleton _ _

theorem retry (h : Ordered capacity engine b log) (position : Nat) :
    Ordered capacity engine (b.retry position).1 (log ++ (b.retry position).2) := by
  unfold SharedService.retry
  split
  · exact h.quiet (.refl _)
  · rename_i job hjob
    dsimp only
    split
    · rename_i hroom
      have hbound := Service.length_push_le (Service.length_lt_of_accepted hroom) job
      exact ⟨h.serial.outside ⟨rfl, rfl, fun _ => rfl⟩ rfl hbound rfl rfl rfl,
        h.tickets.same rfl (eraseIdx_perm hjob)⟩
    · exact ⟨h.serial.outside ⟨rfl, rfl, fun _ => rfl⟩ (List.append_nil _).symm h.serial.bound rfl
        rfl rfl, h.tickets.same Array.size_setIfInBounds (eraseIdx_perm hjob)⟩
    · exact h.quiet (.refl _)

theorem abandon (h : Ordered capacity engine b log) (ticket : Nat) :
    Ordered capacity engine { b with service := b.service.abandon ticket } (log ++ []) :=
  h.quiet (b.service.alike_abandon ticket)

theorem dispatch (h : Ordered capacity engine b log) :
    Ordered capacity engine { b with service := b.service.dispatch }
      (log ++ (next? b.service).toList.map .started) := by
  unfold Service.dispatch next?
  cases hrunning : b.service.running with
  | some running => exact h.quiet (.refl _)
  | none =>
    cases hqueue : b.service.queue with
    | nil =>
      rw [List.head?_nil, ite_self]
      exact h.quiet (.refl _)
    | cons job queue =>
      cases halive : b.service.alive with
      | false => exact h.quiet (.refl _)
      | true =>
        have hdistinct := (List.nodup_append.mp h.tickets.nodup).1
        exact ⟨h.serial.take hdistinct hrunning hqueue rfl rfl rfl,
          h.tickets.same rfl (List.Perm.refl _)⟩

/-- The running call does something other than submit a call or end. -/
theorem proceed (h : Ordered capacity engine b log) {s' : Service σ α} {running : Running σ α}
    {running' : Running σ α} (hsome : b.service.running = some running)
    (hsome' : s'.running = some running') (hticket : running'.job.ticket = running.job.ticket)
    (heffect : ∀ more, running.job.body.effect more b.service.engine =
      running'.job.body.effect more s'.engine)
    (hqueue : s'.queue = b.service.queue) (hcapacity : s'.capacity = b.service.capacity)
    (hsize : s'.futures.size = b.service.futures.size) :
    Ordered capacity engine { b with service := s' } (log ++ []) where
  serial := by
    rw [List.append_nil]
    exact h.serial.proceed hsome hsome' hticket heffect hqueue hcapacity
  tickets := h.tickets.same hsize (List.Perm.refl _)

theorem started_nodup (h : Ordered capacity engine b log) :
    ((started log).map Job.ticket).Nodup := by
  have hdistinct := (List.nodup_append.mp h.tickets.nodup).1
  rw [h.serial.order, List.map_append, List.nodup_append] at hdistinct
  exact hdistinct.1

theorem finish (h : Ordered capacity engine b log) {running : Running σ α} {ending : Ending α}
    (hsome : b.service.running = some running) (hbody : running.job.body = .finish ending) :
    Ordered capacity engine { b with service := b.service.finish running ending }
      (log ++ [.finished running.job.ticket]) := by
  unfold Service.finish
  extract_lets result labels record
  have hs' := Service.alike_deliver
    { b.service with running := none, stats := b.service.stats.record result } running.job record
  exact ⟨h.serial.finish hsome hbody hs'.running hs'.engine hs'.queue hs'.capacity,
    h.tickets.same hs'.tickets (List.Perm.refl _)⟩

/-- The running call submits a call, and is told what has become of it. -/
theorem ask (h : Ordered capacity engine b log) {running : Running σ α}
    {call : UInt64 → Callable σ α} {lethal : Bool} {next : Nat → Option Failure → Callable σ α}
    {submission : Submission} {s' : Service σ α} (hsome : b.service.running = some running)
    (hbody : running.job.body = .submit call lethal next)
    (hs' : Submitted b.service call lethal submission s') :
    Ordered capacity engine
      { b with service := s'.proceed running (next submission.ticket submission.refusal) }
      (log ++ [answer b.service call lethal submission,
        .answered running.job.ticket submission.ticket submission.refusal]) := by
  have hmid : Ordered capacity engine { b with service := s' }
      (log ++ [answer b.service call lethal submission]) :=
    ⟨h.serial.submitted hs', h.tickets.submitted hs'⟩
  have hsome' : s'.running = some running := hs'.running.trans hsome
  have hnext : ∀ more,
      running.job.body.effect ((submission.ticket, submission.refusal) :: more) s'.engine =
        (next submission.ticket submission.refusal).effect more s'.engine := by
    intro more
    rw [hbody]
    rfl
  have hgoes : (s'.proceed running (next submission.ticket submission.refusal)).running = some _ :=
    rfl
  rw [List.append_cons]
  exact ⟨hmid.serial.answered hmid.started_nodup hsome' hgoes rfl hnext rfl rfl,
    hmid.tickets.same rfl (List.Perm.refl _)⟩

theorem advance (h : Ordered capacity engine b log) :
    Ordered capacity engine { b with service := b.service.advance }
      (log ++ advanceMarks b.service) := by
  unfold Service.advance advanceMarks
  cases hsome : b.service.running with
  | none => exact h.quiet (.refl _)
  | some running =>
    dsimp only
    cases hbody : running.job.body with
    | finish ending => exact h.finish hsome hbody
    | read next =>
      refine h.proceed hsome rfl rfl ?_ rfl rfl rfl
      intro more
      rw [hbody]
      rfl
    | write engine next =>
      refine h.proceed hsome rfl rfl ?_ rfl rfl rfl
      intro more
      rw [hbody]
      rfl
    | checkpoint label next =>
      refine h.proceed hsome rfl rfl ?_ rfl rfl rfl
      intro more
      rw [hbody]
      rfl
    | submit call lethal next =>
      exact h.ask hsome hbody (b.service.submitInside_submitted call lethal)
    | abandon ticket next =>
      have hs' := b.service.alike_abandon ticket
      refine h.proceed hsome rfl rfl ?_ hs'.queue hs'.capacity hs'.tickets
      intro more
      rw [hbody, show (Service.proceed _ _ _ : Service σ α).engine = _ from hs'.engine]
      rfl
    | release next =>
      refine h.proceed hsome rfl rfl ?_ rfl rfl rfl
      intro more
      rw [hbody]
      rfl

theorem step (h : Ordered capacity engine b log) (event : Event σ α) :
    Ordered capacity engine (b.step event).1 (log ++ (b.step event).2) := by
  cases event with
  | submit policy call lethal => exact h.submit policy call lethal
  | retry position => exact h.retry position
  | dispatch => exact h.dispatch
  | advance => exact h.advance
  | abandon ticket => exact h.abandon ticket

theorem run (h : Ordered capacity engine b log) (events : List (Event σ α)) :
    Ordered capacity engine (b.run events).1 (log ++ (b.run events).2) := by
  induction events generalizing b log with
  | nil =>
    rw [show (b.run []).2 = [] from rfl, List.append_nil]
    exact h
  | cons event events ih =>
    have hrest := ih (h.step event)
    rw [List.append_assoc] at hrest
    exact hrest

end Ordered

end SharedService

end ScriptHost
