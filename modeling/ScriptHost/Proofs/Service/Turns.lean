import ScriptHost.Proofs.Service.Futures
import ScriptHost.Proofs.Service.Passage

/-!
# Callers and the engine apart

What callers do leaves the engine alone. The running call goes on from one action to the next, and
its actions are well-founded. Neither puts a call on the queue of a service that nobody holds, and
neither changes anything about the calls of a dead engine.

* `Callable.Next` : a callable with its first action done.
* `Service.Spares` : what callers do.
* `Service.Works` : what one action of the running call does.
* `SharedService.Passes.dead` : what can happen to a service with a dead engine.
-/

namespace ScriptHost

variable {σ α : Type}

/-! ## Actions -/

namespace Callable

/-- A callable goes on as another one after its first action. -/
inductive Next : Callable σ α → Callable σ α → Prop
  | read (next : σ → Callable σ α) (engine : σ) : Next (.read next) (next engine)
  | write (engine : σ) (next : Callable σ α) : Next (.write engine next) next
  | checkpoint (label : String) (next : Callable σ α) : Next (.checkpoint label next) next
  | submit (call : UInt64 → Callable σ α) (lethal : Bool)
      (next : Nat → Option Failure → Callable σ α) (ticket : Nat) (refusal : Option Failure) :
      Next (.submit call lethal next) (next ticket refusal)
  | abandon (ticket : Nat) (next : Callable σ α) : Next (.abandon ticket next) next
  | release (next : Callable σ α) : Next (.release next) next

theorem acc_next (body : Callable σ α) : Acc (fun after before => Next before after) body := by
  induction body with
  | finish ending => exact ⟨_, fun after h => by cases h⟩
  | read next ih => exact ⟨_, fun after h => by cases h; exact ih _⟩
  | write engine next ih => exact ⟨_, fun after h => by cases h; exact ih⟩
  | checkpoint label next ih => exact ⟨_, fun after h => by cases h; exact ih⟩
  | submit call lethal next _ ih => exact ⟨_, fun after h => by cases h; exact ih _ _⟩
  | abandon ticket next ih => exact ⟨_, fun after h => by cases h; exact ih⟩
  | release next ih => exact ⟨_, fun after h => by cases h; exact ih⟩

/-- No callable goes on for ever. -/
theorem next_wf : WellFounded fun after before : Callable σ α => Next before after :=
  ⟨acc_next⟩

end Callable

namespace Service

open Callable (Next)

variable {s s' : Service σ α}

theorem held_of_accepted {policy : Policy} (h : s.admission policy = .accepted) :
    s.held = true := by
  unfold admission at h
  split at h
  · cases h
  · rename_i hopen
    cases hheld : s.held with
    | true => rfl
    | false => simp [hheld] at hopen

/-! ## The engine -/

/-- An idle engine that lives takes the next call. -/
theorem dispatch_eq (hidle : s.running = none) (halive : s.alive = true) {job : Job σ α}
    {queue : List (Job σ α)} (hqueue : s.queue = job :: queue) :
    s.dispatch = { s with running := some ⟨job, [Label.dispatched, Label.enqueued]⟩, queue } := by
  simp only [dispatch, hidle, hqueue, if_pos halive]

/-- The last action of the running call. -/
theorem advance_eq_finish {running : Running σ α} {ending : Ending α}
    (hsome : s.running = some running) (hbody : running.job.body = .finish ending) :
    s.advance = s.finish running ending := by
  rw [advance, hsome]
  dsimp only
  rw [hbody]

theorem crash_eq {running : Running σ α} (hsome : s.running = some running) :
    ∃ futures, s.crash = { s with futures, running := none, alive := false } := by
  obtain ⟨futures, hstrand, -⟩ := s.strand_eq running.job
  refine ⟨futures, ?_⟩
  simp only [crash, hsome, hstrand]

theorem stop_eq (s : Service σ α) :
    ∃ futures, s.stop = { s with futures, alive := false, queue := [] } := by
  obtain ⟨futures, hstrand, -⟩ := s.strandAll_eq s.queue
  exact ⟨futures, by rw [stop, hstrand]⟩

/-! ## Callers -/

/-- What callers do leaves the engine alone, and the queue of a service that nobody holds. -/
structure Spares (s s' : Service σ α) : Prop where
  running : s'.running = s.running
  held : s'.held = s.held
  alive : s'.alive = s.alive
  queue : s.held = false → s'.queue = s.queue

/-- The engine is left alone, and so is the queue of a service that nobody holds, or holds any
more. -/
structure Rests (s s' : Service σ α) : Prop where
  running : s'.running = s.running
  alive : s'.alive = s.alive
  held : s'.held = true → s.held = true
  queue : s.held = false → s'.queue = s.queue

theorem Rests.of_eq (h : s' = s) : s.Rests s' := h ▸ ⟨rfl, rfl, id, fun _ => rfl⟩

theorem Spares.rests (h : s.Spares s') : s.Rests s' :=
  ⟨h.running, h.alive, fun hheld => h.held ▸ hheld, h.queue⟩

theorem Spares.refl (s : Service σ α) : s.Spares s := ⟨rfl, rfl, rfl, fun _ => rfl⟩

theorem Spares.of_accepted {policy : Policy} (h : s.admission policy = .accepted)
    (hrunning : s'.running = s.running) (hheld : s'.held = s.held) (halive : s'.alive = s.alive) :
    s.Spares s' := by
  refine ⟨hrunning, hheld, halive, fun hfree => ?_⟩
  rw [held_of_accepted h] at hfree
  cases hfree

theorem spares_abandon (s : Service σ α) (ticket : Nat) : s.Spares (s.abandon ticket) := by
  unfold abandon
  split
  · exact ⟨rfl, rfl, rfl, fun _ => rfl⟩
  · exact .refl s

theorem spares_submitInside (s : Service σ α) (call : UInt64 → Callable σ α) (lethal : Bool) :
    s.Spares (s.submitInside call lethal).2 := by
  unfold submitInside
  split
  · rename_i hroom
    exact .of_accepted hroom rfl rfl rfl
  · exact ⟨rfl, rfl, rfl, fun _ => rfl⟩
  · exact ⟨rfl, rfl, rfl, fun _ => rfl⟩

/-! ## The running call -/

/-- One action of the running call puts nothing on the queue of a service that nobody holds, and the
call is then at its end or goes on. -/
structure Works (s s' : Service σ α) : Prop where
  alive : s'.alive = true → s.alive = true
  held : s'.held = true → s.held = true
  queue : s.held = false → s'.queue = s.queue
  idle : s.running = none → s' = s
  running : ∀ running, s.running = some running →
    s'.running = none ∨
      ∃ running', s'.running = some running' ∧ Next running.job.body running'.job.body

theorem Works.of_spares (h : s.Spares s') {running running' : Running σ α} {held : Bool}
    (hheld : held = true → s'.held = true) (hsome : s.running = some running)
    (hnext : Next running.job.body running'.job.body) (engine : σ) :
    s.Works { s' with running := some running', held, engine } where
  alive := h.alive ▸ id
  held hheld' := h.held ▸ hheld hheld'
  queue := h.queue
  idle hnone := by
    rw [hsome] at hnone
    cases hnone
  running other hother := by
    rw [hsome] at hother
    cases hother
    exact .inr ⟨running', rfl, hnext⟩

theorem works_finish {running : Running σ α} (hsome : s.running = some running)
    (ending : Ending α) : s.Works (s.finish running ending) := by
  obtain ⟨alive, stats, futures, hfinish, -, halive⟩ := s.finish_eq running ending
  rw [hfinish]
  refine ⟨halive, id, fun _ => rfl, fun hnone => ?_, fun _ _ => .inl rfl⟩
  rw [hsome] at hnone
  cases hnone

theorem works_advance (s : Service σ α) : s.Works s.advance := by
  unfold advance
  cases hsome : s.running with
  | none =>
    refine ⟨id, id, fun _ => rfl, fun _ => rfl, fun running hrunning => ?_⟩
    rw [hsome] at hrunning
    cases hrunning
  | some running =>
    dsimp only
    cases hbody : running.job.body with
    | finish ending => exact works_finish hsome ending
    | read next =>
      have hnext : Next running.job.body (next s.engine) := hbody ▸ .read next s.engine
      exact .of_spares (.refl s) id hsome hnext s.engine
    | write engine next =>
      have hnext : Next running.job.body next := hbody ▸ .write engine next
      exact .of_spares (.refl s) id hsome hnext engine
    | checkpoint label next =>
      have hnext : Next running.job.body next := hbody ▸ .checkpoint label next
      exact .of_spares (.refl s) id hsome hnext s.engine
    | submit call lethal next =>
      have hnext : Next running.job.body
          (next (s.submitInside call lethal).1.ticket (s.submitInside call lethal).1.refusal) :=
        hbody ▸ .submit call lethal next _ _
      exact .of_spares (s.spares_submitInside call lethal) id hsome hnext _
    | abandon ticket next =>
      have hnext : Next running.job.body next := hbody ▸ .abandon ticket next
      exact .of_spares (s.spares_abandon ticket) id hsome hnext _
    | release next =>
      have hnext : Next running.job.body next := hbody ▸ .release next
      exact .of_spares (.refl s) (fun h => absurd h Bool.false_ne_true) hsome hnext s.engine

end Service

namespace SharedService

variable {b b' : SharedService σ α} {marks : List (Mark σ α)}
  {calls : List (UInt64 → Callable σ α)}

theorem spares_submit (b : SharedService σ α) (policy : Policy) (call : UInt64 → Callable σ α)
    (lethal : Bool) : b.service.Spares (b.submit policy call lethal).1.service := by
  unfold submit Service.submit
  cases hadmission : b.service.admission policy with
  | accepted => exact .of_accepted hadmission rfl rfl rfl
  | refused failure => exact ⟨rfl, rfl, rfl, fun _ => rfl⟩
  | mustWait => exact ⟨rfl, rfl, rfl, fun _ => rfl⟩

theorem spares_retry (b : SharedService σ α) (position : Nat) :
    b.service.Spares (b.retry position).1.service := by
  unfold retry
  split
  · exact .refl _
  · dsimp only
    split
    · rename_i hroom
      exact .of_accepted hroom rfl rfl rfl
    · exact ⟨rfl, rfl, rfl, fun _ => rfl⟩
    · exact .refl _

/-- Nothing is accepted into the queue of a service that nobody holds. -/
theorem accepted_step (hfree : b.service.held = false) (event : Event σ α) :
    accepted (b.step event).2 = [] := by
  have hrefuses : ∀ policy, b.service.admission policy ≠ .accepted := by
    intro policy hadmission
    rw [Service.held_of_accepted hadmission] at hfree
    cases hfree
  cases event with
  | submit policy call lethal =>
    change accepted (b.submit policy call lethal).2 = []
    unfold submit Service.submit
    cases hadmission : b.service.admission policy with
    | accepted => exact absurd hadmission (hrefuses policy)
    | refused failure => rfl
    | mustWait => rfl
  | retry position =>
    change accepted (b.retry position).2 = []
    unfold retry
    split
    · rfl
    · cases hadmission : b.service.admission .wait with
      | accepted => exact absurd hadmission (hrefuses .wait)
      | refused failure => rfl
      | mustWait => rfl
  | dispatch =>
    change accepted ((next? b.service).toList.map .started) = []
    cases next? b.service <;> rfl
  | advance =>
    change accepted (advanceMarks b.service) = []
    unfold advanceMarks Service.submitInside
    cases b.service.running with
    | none => rfl
    | some running =>
      dsimp only
      cases running.job.body with
      | submit call lethal next =>
        cases hadmission : b.service.admission .refuse with
        | accepted => exact absurd hadmission (hrefuses .refuse)
        | refused failure => rfl
        | mustWait => rfl
      | _ => rfl
  | abandon ticket => rfl

theorem finished_advanceMarks {s : Service σ α} {ticket : Nat}
    (h : ticket ∈ finished (advanceMarks s)) :
    ∃ running ending, s.running = some running ∧ running.job.body = .finish ending ∧
      running.job.ticket = ticket := by
  unfold advanceMarks at h
  cases hsome : s.running with
  | none =>
    rw [hsome] at h
    cases h
  | some running =>
    rw [hsome] at h
    dsimp only at h
    cases hbody : running.job.body with
    | finish ending =>
      rw [hbody] at h
      exact ⟨running, ending, rfl, hbody, (List.mem_singleton.mp h).symm⟩
    | submit call lethal next =>
      rw [hbody] at h
      dsimp only at h
      rw [← List.singleton_append, finished_append, (outside_answer _).finished] at h
      cases h
    | _ =>
      rw [hbody] at h
      cases h

/-- A call comes to its end by an action of its own. -/
theorem finished_step {event : Event σ α} {ticket : Nat}
    (h : ticket ∈ finished (b.step event).2) :
    event = .advance ∧ ∃ running ending, b.service.running = some running ∧
      running.job.body = .finish ending ∧ running.job.ticket = ticket := by
  cases event with
  | submit policy call lethal =>
    change ticket ∈ finished (b.submit policy call lethal).2 at h
    unfold submit at h
    split at h
    · rw [(outside_answer _).finished] at h
      cases h
    · cases h
  | retry position =>
    change ticket ∈ finished (b.retry position).2 at h
    unfold retry at h
    split at h
    · cases h
    · dsimp only at h
      split at h <;> cases h
  | dispatch =>
    change ticket ∈ finished ((next? b.service).toList.map .started) at h
    cases hnext : next? b.service <;> rw [hnext] at h <;> cases h
  | abandon other => cases h
  | advance =>
    exact ⟨rfl, finished_advanceMarks h⟩

/-! ## A dead engine -/

/-- A dead engine takes no call and finishes none, and no call is put on its queue. -/
structure Still (b b' : SharedService σ α) (marks : List (Mark σ α)) : Prop where
  alive : b'.service.alive = false
  running : b'.service.running = none
  queue : b'.service.queue.Sublist b.service.queue
  accepted : accepted marks = []
  started : started marks = []
  finished : finished marks = []

theorem Passes.dead (h : Passes b marks calls b') (halive : b.service.alive = false)
    (hidle : b.service.running = none) : Still b b' marks := by
  induction h with
  | @calm b s' h =>
    refine ⟨?_, h.running.trans hidle, h.queue ▸ .refl _, rfl, rfl, rfl⟩
    exact Bool.eq_false_iff.mpr fun halive' => Bool.eq_false_iff.mp halive (h.alive halive')
  | ask | turnAway => exact ⟨halive, hidle, .refl _, rfl, rfl, rfl⟩
  | letIn _ hlives | take hlives => exact absurd (halive.symm.trans hlives) Bool.false_ne_true
  | proceed hsome | answered _ _ hsome | finish hsome | crash hsome =>
    rw [hidle] at hsome
    cases hsome
  | @discard b hdead =>
    obtain ⟨futures, hstop⟩ := b.service.stop_eq
    rw [hstop]
    exact ⟨rfl, hidle, List.nil_sublist _, rfl, rfl, rfl⟩
  | trans _ _ ih ih' =>
    have hearly := ih halive hidle
    have hlate := ih' hearly.alive hearly.running
    refine ⟨hlate.alive, hlate.running, hlate.queue.trans hearly.queue, ?_, ?_, ?_⟩
    · rw [accepted_append, hearly.accepted, hlate.accepted, List.append_nil]
    · rw [started_append, hearly.started, hlate.started, List.append_nil]
    · rw [finished_append, hearly.finished, hlate.finished, List.append_nil]

end SharedService

end ScriptHost
