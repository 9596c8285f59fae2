import ScriptHost.Proofs.Service.Course
import ScriptHost.Proofs.Service.Steps
import ScriptHost.Service.Lifetime

/-!
# What can happen to a service, in small steps

Every submission first takes a number and waits, be it for no time at all; then its call is put on
the queue, or it is turned away. The engine takes a call, goes on with it, and comes to its end or
dies in the middle of it.

* `Service.Calm` : changes that do nothing to calls.
* `SharedService.Passes` : the small steps, with the marks they leave and the calls they submit.
* `SharedService.live_passes` : whatever happens to a service consists of them.
-/

namespace ScriptHost

variable {σ α : Type}

namespace Service

/-- Callers stop waiting, or an idle engine ends. -/
structure Calm (s s' : Service σ α) : Prop extends Alike s s' where
  nextId : s'.nextId = s.nextId
  stats : s'.stats = s.stats
  alive : s'.alive = true → s.alive = true
  ended : s'.alive = false → s.alive = false ∨ s.running = none
  future : ∀ ticket, s'.future? ticket = s.future? ticket ∨
    s.future? ticket = some .waiting ∧ s'.future? ticket = some .dropped

variable {s : Service σ α} {policy : Policy} {failure : Failure}

namespace Calm

theorem refl (s : Service σ α) : s.Calm s where
  toAlike := .refl s
  nextId := rfl
  stats := rfl
  alive := id
  ended := .inl
  future _ := .inl rfl

theorem abandon (s : Service σ α) (ticket : Nat) : s.Calm (s.abandon ticket) := by
  have halike := s.alike_abandon ticket
  unfold Service.abandon at halike ⊢
  split
  · rename_i hwaiting
    rw [hwaiting] at halike
    refine ⟨halike, rfl, rfl, id, .inl, fun other => ?_⟩
    by_cases hother : ticket = other
    · subst hother
      obtain ⟨hlt, -⟩ := Array.getElem?_eq_some_iff.mp hwaiting
      exact .inr ⟨hwaiting, Array.getElem?_setIfInBounds_self_of_lt hlt⟩
    · exact .inl (Array.getElem?_setIfInBounds_ne hother)
  · exact refl s

theorem rest (s : Service σ α) : s.Calm s.rest := by
  unfold Service.rest
  split
  · rename_i hidle
    simp only [Bool.and_eq_true] at hidle
    refine ⟨⟨rfl, rfl, rfl, rfl, rfl⟩, rfl, rfl, ?_, fun _ => .inr ?_, fun _ => .inl rfl⟩
    · exact fun halive => absurd halive Bool.false_ne_true
    · exact Option.isNone_iff_eq_none.mp hidle.1.1
  · exact refl s

end Calm

theorem alive_of_accepted (h : s.admission policy = .accepted) : s.alive = true := by
  unfold admission at h
  split at h
  · cases h
  · rename_i hopen
    cases halive : s.alive with
    | true => rfl
    | false => simp [halive] at hopen

theorem failure_of_refused (h : s.admission policy = .refused failure) :
    failure = .queueFull ∨ failure = .shutdown := by
  unfold admission at h
  split at h
  · exact .inr (Admission.refused.inj h).symm
  · split at h
    · cases h
    · cases policy with
      | wait => cases h
      | refuse => exact .inl (Admission.refused.inj h).symm

end Service

namespace SharedService

open Service (Calm)
open Callable (Continues)

/-- Small steps of a service. -/
inductive Passes : SharedService σ α → List (Mark σ α) → List (UInt64 → Callable σ α) →
    SharedService σ α → Prop
  | calm {b : SharedService σ α} {s' : Service σ α} (h : b.service.Calm s') :
      Passes b [] [] { b with service := s' }
  | ask (b : SharedService σ α) (call : UInt64 → Callable σ α) (lethal : Bool) :
      Passes b [] [call]
        { service := (b.service.prepare call lethal).2.count
          waiting := b.waiting ++ [(b.service.prepare call lethal).1] }
  | letIn {b : SharedService σ α} {job : Job σ α} {waiting : List (Job σ α)}
      (hjob : b.waiting.Perm (job :: waiting)) (halive : b.service.alive = true)
      (hroom : b.service.queue.length < b.service.capacity) :
      Passes b [.accepted job] [] { service := b.service.push job, waiting }
  | turnAway {b : SharedService σ α} {job : Job σ α} {waiting : List (Job σ α)}
      {failure : Failure} (hjob : b.waiting.Perm (job :: waiting))
      (hfailure : failure = .queueFull ∨ failure = .shutdown) :
      Passes b [.refused job.ticket failure] []
        { service := turnAway b.service job failure, waiting }
  | take {b : SharedService σ α} {job : Job σ α} {queue : List (Job σ α)}
      (halive : b.service.alive = true) (hidle : b.service.running = none)
      (hqueue : b.service.queue = job :: queue) :
      Passes b [.started job] []
        { b with
          service := { b.service with
            running := some ⟨job, [Label.dispatched, Label.enqueued]⟩, queue } }
  | proceed {b : SharedService σ α} {running : Running σ α} {labels : List String}
      {body : Callable σ α} {engine : σ} (hsome : b.service.running = some running)
      (hbody : Continues running.job.body b.service.engine labels body engine) :
      Passes b [] []
        { b with
          service := { b.service with engine }.proceed
            { running with labels := (labels.map Label.custom).reverse ++ running.labels } body }
  | answered {b : SharedService σ α} {running : Running σ α} {call : UInt64 → Callable σ α}
      {lethal : Bool} {next : Nat → Option Failure → Callable σ α} (ticket : Nat)
      (refusal : Option Failure) (hsome : b.service.running = some running)
      (hbody : running.job.body = .submit call lethal next) :
      Passes b [.answered running.job.ticket ticket refusal] []
        { b with service := b.service.proceed running (next ticket refusal) }
  | finish {b : SharedService σ α} {running : Running σ α} {ending : Ending α}
      (hsome : b.service.running = some running) (hbody : running.job.body = .finish ending) :
      Passes b [.finished running.job.ticket] []
        { b with service := b.service.finish running ending }
  | crash {b : SharedService σ α} {running : Running σ α}
      (hsome : b.service.running = some running) :
      Passes b [] []
        { b with
          service := { b.service.strand running.job with running := none, alive := false } }
  | discard {b : SharedService σ α} (hdead : b.service.alive = false) :
      Passes b [] [] { b with service := b.service.stop }
  | trans {b b' b'' : SharedService σ α} {early late : List (Mark σ α)}
      {calls calls' : List (UInt64 → Callable σ α)} (h : Passes b early calls b')
      (h' : Passes b' late calls' b'') : Passes b (early ++ late) (calls ++ calls') b''

namespace Passes

variable {b : SharedService σ α}

theorem refl (b : SharedService σ α) : Passes b [] [] b := calm (.refl b.service)

/-! ## Submissions -/

theorem ask_letIn {policy : Policy} (h : b.service.admission policy = .accepted)
    (call : UInt64 → Callable σ α) (lethal : Bool) :
    Passes b [.accepted (b.service.prepare call lethal).1] [call]
      { b with service := b.service.enqueue call lethal } :=
  (ask b call lethal).trans (letIn (List.perm_append_singleton _ _)
    (Service.alive_of_accepted h) (Service.length_lt_of_accepted h))

/-- A call that is turned away at once leaves nothing behind but its record. -/
theorem turnAway_prepare (s : Service σ α) (call : UInt64 → Callable σ α) (lethal : Bool)
    (failure : Failure) :
    SharedService.turnAway (s.prepare call lethal).2.count (s.prepare call lethal).1 failure =
      s.reject failure := by
  have hfutures : (s.futures.push .waiting).setIfInBounds s.futures.size
      (.resolved (.rejected s.nextId failure)) =
        s.futures.push (.resolved (.rejected s.nextId failure)) := by
    grind
  have hstats : s.stats.submitted + 1 - 1 = s.stats.submitted := rfl
  simp only [SharedService.turnAway, Service.prepare, Service.count, Service.setFuture,
    Service.reject, hfutures, hstats]

theorem ask_turnAway {failure : Failure} (hfailure : failure = .queueFull ∨ failure = .shutdown)
    (call : UInt64 → Callable σ α) (lethal : Bool) :
    Passes b [.refused b.service.futures.size failure] [call]
      { b with service := b.service.reject failure } := by
  have h := (ask b call lethal).trans (turnAway (List.perm_append_singleton _ _) hfailure)
  rwa [turnAway_prepare] at h

theorem submit (b : SharedService σ α) (policy : Policy) (call : UInt64 → Callable σ α)
    (lethal : Bool) :
    Passes b (b.submit policy call lethal).2 [call] (b.submit policy call lethal).1 := by
  unfold SharedService.submit Service.submit
  cases hadmission : b.service.admission policy with
  | accepted => exact ask_letIn hadmission call lethal
  | refused failure => exact ask_turnAway (Service.failure_of_refused hadmission) call lethal
  | mustWait => exact ask b call lethal

theorem submitInside (b : SharedService σ α) (call : UInt64 → Callable σ α) (lethal : Bool) :
    Passes b [answer b.service call lethal (b.service.submitInside call lethal).1] [call]
      { b with service := (b.service.submitInside call lethal).2 } := by
  unfold Service.submitInside
  cases hadmission : b.service.admission .refuse with
  | accepted => exact ask_letIn hadmission call lethal
  | refused failure => exact ask_turnAway (Service.failure_of_refused hadmission) call lethal
  | mustWait => exact ask_turnAway (.inl rfl) call lethal

theorem retry (b : SharedService σ α) (position : Nat) :
    Passes b (b.retry position).2 [] (b.retry position).1 := by
  unfold SharedService.retry
  split
  · exact refl b
  · rename_i job hjob
    obtain ⟨hlt, rfl⟩ := List.getElem?_eq_some_iff.mp hjob
    have hperm := (List.getElem_cons_eraseIdx_perm hlt).symm
    dsimp only
    split
    · rename_i hroom
      exact letIn hperm (Service.alive_of_accepted hroom) (Service.length_lt_of_accepted hroom)
    · rename_i hrefused
      exact turnAway hperm (Service.failure_of_refused hrefused)
    · exact refl b

/-! ## The engine -/

theorem dispatch (b : SharedService σ α) :
    Passes b ((next? b.service).toList.map .started) []
      { b with service := b.service.dispatch } := by
  unfold Service.dispatch next?
  cases hrunning : b.service.running with
  | some running => exact refl b
  | none =>
    cases hqueue : b.service.queue with
    | nil =>
      rw [List.head?_nil, ite_self]
      exact refl b
    | cons job queue =>
      dsimp only
      by_cases halive : b.service.alive = true
      · have htaken : (none : Option (Running σ α)).isNone && b.service.alive := halive
        rw [if_pos halive, if_pos htaken]
        exact take halive hrunning hqueue
      · have hnone : ¬ ((none : Option (Running σ α)).isNone && b.service.alive) = true := halive
        rw [if_neg halive, if_neg hnone]
        exact refl b

/-- The running call does something after which it goes on, having recorded nothing. -/
theorem silent {running : Running σ α} {body : Callable σ α} {engine : σ}
    (hsome : b.service.running = some running)
    (hbody : Continues running.job.body b.service.engine [] body engine) :
    Passes b [] [] { b with service := { b.service with engine }.proceed running body } :=
  proceed hsome hbody

theorem advance (b : SharedService σ α) :
    Passes b (advanceMarks b.service) (b.issue (.event .advance))
      { b with service := b.service.advance } := by
  unfold Service.advance advanceMarks issue
  cases hsome : b.service.running with
  | none => exact refl b
  | some running =>
    dsimp only
    cases hbody : running.job.body with
    | finish ending => exact finish hsome hbody
    | read next => exact silent hsome (hbody ▸ .of_eq (fun _ => rfl) fun _ => rfl)
    | write engine next => exact silent hsome (hbody ▸ .of_eq (fun _ => rfl) fun _ => rfl)
    | checkpoint label next =>
      have hnext : Continues running.job.body b.service.engine [label] next b.service.engine :=
        hbody ▸ ⟨fun _ => rfl, fun _ => rfl⟩
      exact proceed hsome hnext
    | submit call lethal next =>
      have hsubmitted := b.service.submitInside_submitted call lethal
      have hsome' := hsubmitted.running.trans hsome
      exact (submitInside b call lethal).trans (answered _ _ hsome' hbody)
    | abandon ticket next =>
      have hcalm := Calm.abandon b.service ticket
      have hsome' := hcalm.running.trans hsome
      exact (calm hcalm).trans (silent hsome' (hbody ▸ .of_eq (fun _ => rfl) fun _ => rfl))
    | release next =>
      have hcalm : b.service.Calm { b.service with held := false } :=
        ⟨⟨rfl, rfl, rfl, rfl, rfl⟩, rfl, rfl, id, .inl, fun _ => .inl rfl⟩
      exact (calm hcalm).trans (silent hsome (hbody ▸ .of_eq (fun _ => rfl) fun _ => rfl))

end Passes

/-! ## Everything that happens -/

variable (b : SharedService σ α)

theorem step_passes (event : Event σ α) :
    Passes b (b.step event).2 (b.issue (.event event)) (b.step event).1 := by
  cases event with
  | submit policy call lethal => exact .submit b policy call lethal
  | retry position => exact .retry b position
  | dispatch => exact .dispatch b
  | advance => exact .advance b
  | abandon ticket => exact .calm (.abandon b.service ticket)

theorem occur_passes (occurrence : Occurrence σ α) :
    Passes b (b.occur occurrence).2 (b.issue occurrence) (b.occur occurrence).1 := by
  cases occurrence with
  | event event => exact b.step_passes event
  | crash =>
    unfold occur Service.crash
    cases hsome : b.service.running with
    | none => exact .refl b
    | some running => exact .crash hsome
  | release => exact .calm ⟨⟨rfl, rfl, rfl, rfl, rfl⟩, rfl, rfl, id, .inl, fun _ => .inl rfl⟩
  | rest => exact .calm (.rest b.service)
  | discard =>
    unfold occur Service.discard
    cases hdead : b.service.alive with
    | true => exact .refl b
    | false => exact .discard hdead

theorem live_passes (history : List (Occurrence σ α)) :
    Passes b (b.live history).2 (b.issued history) (b.live history).1 := by
  induction history generalizing b with
  | nil => exact .refl b
  | cons occurrence history ih => exact (b.occur_passes occurrence).trans (ih _)

end SharedService

end ScriptHost
