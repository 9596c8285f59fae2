import ScriptHost.Proofs.Service.Drain

/-!
# Services at rest

A call can submit calls, which can submit calls again, and so on. If they do so to some depth only,
every sweep of the queue leaves calls on it that go less deep, until none are left.

* `Callable.NestsWithin` : callables that submit calls to some depth only.
* `Service.advance_nests`, `Service.complete_nests` : what a call puts on the queue.
* `Service.sweep_nests` : what is left on the queue after a sweep.
* `Service.atRest_settle` : two sweeps are enough for calls that submit calls which submit none.
-/

namespace ScriptHost

variable {σ α : Type}

/-! ## Depth of submissions -/

namespace Callable

/-- Callables that submit calls to some depth only. Within depth zero, they submit none. -/
def NestsWithin : Callable σ α → Nat → Prop
  | .finish _, _ => True
  | .read next, depth => ∀ engine, (next engine).NestsWithin depth
  | .write _ next, depth => next.NestsWithin depth
  | .checkpoint _ next, depth => next.NestsWithin depth
  | .submit call _ next, depth =>
    (∀ id, ∃ below < depth, (call id).NestsWithin below) ∧
      ∀ ticket refusal, (next ticket refusal).NestsWithin depth
  | .abandon _ next, depth => next.NestsWithin depth
  | .release next, depth => next.NestsWithin depth

theorem NestsWithin.mono {body : Callable σ α} {below depth : Nat} (hle : below ≤ depth)
    (h : body.NestsWithin below) : body.NestsWithin depth := by
  induction body with
  | finish ending => trivial
  | read next ih => exact fun engine => ih engine (h engine)
  | submit call lethal next _ ih =>
    refine ⟨fun id => ?_, fun ticket refusal => ih ticket refusal (h.2 ticket refusal)⟩
    obtain ⟨least, hlt, hcall⟩ := h.1 id
    exact ⟨least, Nat.lt_of_lt_of_le hlt hle, hcall⟩
  | write engine next ih | checkpoint label next ih | abandon ticket next ih | release next ih =>
    exact ih h

theorem NestsWithin.mapEnding {body : Callable σ α} {depth : Nat} (f : Ending α → Ending α)
    (h : body.NestsWithin depth) : (body.mapEnding f).NestsWithin depth := by
  induction body with
  | finish ending => trivial
  | read next ih => exact fun engine => ih engine (h engine)
  | submit call lethal next _ ih => exact ⟨h.1, fun ticket refusal => ih _ _ (h.2 ticket refusal)⟩
  | write engine next ih | checkpoint label next ih | abandon ticket next ih | release next ih =>
    exact ih h

end Callable

/-- Calls that go less deep than to some depth. -/
def Job.NestsBelow (job : Job σ α) (depth : Nat) : Prop :=
  ∃ below < depth, job.body.NestsWithin below

theorem Job.NestsBelow.within {job : Job σ α} {depth : Nat} (h : job.NestsBelow depth) :
    job.body.NestsWithin depth := by
  obtain ⟨below, hlt, hbody⟩ := h
  exact hbody.mono (Nat.le_of_lt hlt)

namespace Service

variable {s : Service σ α} {depth : Nat}

/-- The running call and all that are queued submit calls to some depth only. -/
structure NestsWithin (s : Service σ α) (depth : Nat) : Prop where
  running : ∀ running, s.running = some running → running.job.body.NestsWithin depth
  queued : ∀ job ∈ s.queue, job.body.NestsWithin depth

theorem NestsWithin.of_idle (hidle : s.running = none)
    (hqueued : ∀ job ∈ s.queue, job.body.NestsWithin depth) : s.NestsWithin depth := by
  refine ⟨fun running hrunning => ?_, hqueued⟩
  rw [hidle] at hrunning
  cases hrunning

/-! ## What a call puts on the queue -/

/-- The running call goes to some depth only, and what it has put on a queue less deep. -/
structure Nesting (queue : List (Job σ α)) (depth : Nat) (s : Service σ α) : Prop where
  running : ∀ running, s.running = some running → running.job.body.NestsWithin depth
  queue : s.Queues (·.NestsBelow depth) queue

theorem nesting_proceed {queue : List (Job σ α)} (running : Running σ α)
    {body : Callable σ α} (hbody : body.NestsWithin depth)
    (hqueue : s.Queues (·.NestsBelow depth) queue) :
    Nesting queue depth (s.proceed running body) := by
  refine ⟨fun running' hrunning => ?_, hqueue⟩
  cases hrunning
  exact hbody

theorem submitInside_nests {call : UInt64 → Callable σ α}
    (hcall : ∀ id, ∃ below < depth, (call id).NestsWithin below) (lethal : Bool) :
    (s.submitInside call lethal).2.Queues (·.NestsBelow depth) s.queue := by
  unfold submitInside
  split
  · refine ⟨[(s.prepare call lethal).1], rfl, ?_⟩
    exact List.forall_mem_singleton.mpr (hcall s.nextId)
  · exact .of_eq rfl
  · exact .of_eq rfl

theorem advance_nests {queue : List (Job σ α)} (h : Nesting queue depth s) :
    Nesting queue depth s.advance := by
  unfold advance
  cases hsome : s.running with
  | none => exact h
  | some running =>
    have hbody := h.running running hsome
    dsimp only
    cases heq : running.job.body with
    | finish ending =>
      obtain ⟨alive, stats, futures, hfinish, -, -⟩ := s.finish_eq running ending
      change Nesting queue depth (s.finish running ending)
      rw [hfinish]
      exact ⟨nofun, h.queue⟩
    | read next =>
      rw [heq] at hbody
      exact nesting_proceed running (hbody s.engine) h.queue
    | submit call lethal next =>
      rw [heq] at hbody
      obtain ⟨hcall, hnext⟩ := hbody
      obtain ⟨added, hqueue, hadded⟩ := h.queue
      obtain ⟨more, hmore, hbelow⟩ := submitInside_nests (s := s) hcall lethal
      refine nesting_proceed running (hnext _ _) ⟨added ++ more, ?_, ?_⟩
      · rw [hmore, hqueue, List.append_assoc]
      · exact List.forall_mem_append.mpr ⟨hadded, hbelow⟩
    | abandon ticket next =>
      rw [heq] at hbody
      obtain ⟨added, hqueue, hadded⟩ := h.queue
      have hsame := (s.alike_abandon ticket).queue
      exact nesting_proceed running hbody ⟨added, hsame.trans hqueue, hadded⟩
    | write engine next | checkpoint label next | release next =>
      rw [heq] at hbody
      exact nesting_proceed _ hbody h.queue

/-- What a call that is done to its end has put on the queue. -/
theorem complete_nests (h : ∀ running, s.running = some running →
    running.job.body.NestsWithin depth) :
    s.complete.Queues (·.NestsBelow depth) s.queue := by
  have hstart : Nesting s.queue depth s := ⟨h, .of_eq rfl⟩
  exact (complete_induct (motive := Nesting s.queue depth) (fun _ => advance_nests) hstart).queue

/-! ## Sweeps -/

/-- A call that is taken from a queue and done leaves calls behind the others that go less deep. -/
theorem leaves_nests :
    Leaves (fun s : Service σ α => s.alive = true → s.NestsWithin depth)
      fun job => job.NestsBelow depth := by
  intro s job queue hkept hidle halive hqueue
  have hqueued := (hkept halive).queued
  rw [hqueue, List.forall_mem_cons] at hqueued
  have hdispatch := dispatch_eq hidle halive hqueue
  have hbody : ∀ running, s.dispatch.running = some running →
      running.job.body.NestsWithin depth := by
    intro running hrunning
    rw [hdispatch] at hrunning
    cases hrunning
    exact hqueued.1
  obtain ⟨added, hrest, hadded⟩ := complete_nests hbody
  have hleft : s.dispatch.queue = queue := by rw [hdispatch]
  rw [hleft] at hrest
  refine ⟨fun _ => .of_idle (running_complete _) ?_, added, hrest, hadded⟩
  rw [hrest]
  exact List.forall_mem_append.mpr ⟨hqueued.2, fun job hjob => (hadded job hjob).within⟩

/-- A sweep leaves calls that go less deep than those that were on the queue. -/
theorem sweep_nests (hidle : s.running = none) (h : s.alive = true → s.NestsWithin depth) :
    s.sweep.running = none ∧
      (s.sweep.alive = true → ∀ job ∈ s.sweep.queue, job.NestsBelow depth) := by
  obtain ⟨hrunning, -, hqueue⟩ := sweep_leaves leaves_nests hidle h
  exact ⟨hrunning, hqueue⟩

theorem alive_of_complete (h : s.complete.alive = true) : s.alive = true :=
  complete_induct (motive := fun s' => s'.alive = true → s.alive = true)
    (fun s' hs halive => hs (s'.works_advance.alive halive)) id h

/-- One sweep is enough for calls that submit none. -/
theorem atRest_sweep (hidle : s.running = none) (h : s.alive = true → s.NestsWithin 0) :
    s.sweep.AtRest := by
  obtain ⟨hrunning, hqueue⟩ := sweep_nests hidle h
  refine ⟨hrunning, fun halive => List.eq_nil_iff_forall_not_mem.mpr fun job hjob => ?_⟩
  obtain ⟨below, hlt, -⟩ := hqueue halive job hjob
  exact absurd hlt (Nat.not_lt_zero below)

/-- Two sweeps are enough for calls that submit calls which submit none. -/
theorem atRest_settle (h : s.alive = true → s.NestsWithin 1) : s.settle.AtRest := by
  -- The call that is running when the engine settles may put calls behind those on the queue.
  have hcomplete : s.complete.alive = true → s.complete.NestsWithin 1 := by
    intro halive
    obtain ⟨hrunning, hqueued⟩ := h (alive_of_complete halive)
    obtain ⟨added, hqueue, hadded⟩ := complete_nests hrunning
    refine .of_idle s.running_complete ?_
    rw [hqueue]
    exact List.forall_mem_append.mpr ⟨hqueued, fun job hjob => (hadded job hjob).within⟩
  obtain ⟨hrunning, hqueue⟩ := sweep_nests (running_complete s) hcomplete
  refine atRest_sweep hrunning fun halive => .of_idle hrunning fun job hjob => ?_
  obtain ⟨below, hlt, hbody⟩ := hqueue halive job hjob
  exact hbody.mono (Nat.le_of_lt_succ hlt)

/-! ## What else is done to a service -/

theorem AtRest.nests (h : s.AtRest) (halive : s.alive = true) (depth : Nat) :
    s.NestsWithin depth :=
  .of_idle h.running (h.queue halive ▸ nofun)

/-- A service that is closed has come to rest for good. -/
theorem atRest_close (s : Service σ α) : s.close.AtRest ∧ s.close.alive = false := by
  have hfree := (complete_free (s := { s with held := false }) rfl).1
  obtain ⟨hrest, -⟩ := sweep_free (running_complete _) hfree
  obtain ⟨futures, hstop⟩ := stop_eq (complete { s with held := false }).sweep
  rw [close, hstop]
  exact ⟨⟨hrest.running, fun _ => rfl⟩, rfl⟩

variable {s' : Service σ α} {policy : Policy} {call : UInt64 → Callable σ α} {lethal : Bool}
  {submission : Submission}

theorem nests_submit (h : s.alive = true → s.NestsWithin depth)
    (hcall : ∀ id, (call id).NestsWithin depth)
    (hsubmit : s.submit policy call lethal = some (submission, s')) (halive : s'.alive = true) :
    s'.NestsWithin depth := by
  unfold submit at hsubmit
  split at hsubmit
  · cases hsubmit
    obtain ⟨hrunning, hqueued⟩ := h halive
    refine ⟨hrunning, List.forall_mem_append.mpr ⟨hqueued, ?_⟩⟩
    exact List.forall_mem_singleton.mpr (hcall s.nextId)
  · cases hsubmit
    obtain ⟨hrunning, hqueued⟩ := h halive
    exact ⟨hrunning, hqueued⟩
  · cases hsubmit

/-- A submission that is refused leaves the engine at rest. -/
theorem AtRest.submit (h : s.AtRest)
    (hsubmit : s.submit policy call lethal = some (submission, s'))
    (hrefused : submission.refusal ≠ none) : s'.AtRest := by
  unfold Service.submit at hsubmit
  split at hsubmit
  · cases hsubmit
    exact absurd rfl hrefused
  · cases hsubmit
    exact ⟨h.running, h.queue⟩
  · cases hsubmit

theorem nests_abandon (h : s.alive = true → s.NestsWithin depth) (ticket : Nat)
    (halive : (s.abandon ticket).alive = true) : (s.abandon ticket).NestsWithin depth := by
  have hsame := s.alike_abandon ticket
  rw [(s.spares_abandon ticket).alive] at halive
  obtain ⟨hrunning, hqueued⟩ := h halive
  exact ⟨hsame.running ▸ hrunning, hsame.queue ▸ hqueued⟩

theorem AtRest.abandon (h : s.AtRest) (ticket : Nat) : (s.abandon ticket).AtRest := by
  have hsame := s.alike_abandon ticket
  refine ⟨hsame.running.trans h.running, fun halive => hsame.queue.trans (h.queue ?_)⟩
  rwa [(s.spares_abandon ticket).alive] at halive

theorem nests_dispatch (h : s.alive = true → s.NestsWithin depth)
    (halive : s.dispatch.alive = true) : s.dispatch.NestsWithin depth := by
  rcases s.dispatch_or with hsame | ⟨hidle, hlives, job, queue, hqueue⟩
  · rw [hsame] at halive ⊢
    exact h halive
  · have hqueued := (h hlives).queued
    rw [hqueue, List.forall_mem_cons] at hqueued
    rw [dispatch_eq hidle hlives hqueue]
    refine ⟨fun running hrunning => ?_, hqueued.2⟩
    cases hrunning
    exact hqueued.1

end Service

end ScriptHost
