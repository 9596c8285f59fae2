import ScriptHost.Proofs.Service.Tally

/-!
# A service whose callers all go on waiting

It makes no difference to a call, nor to any other, whether somebody waits for it. A service whose
callers may stop waiting is compared with the same service without all that. Its queue, its engine
and its numbers are the same; only some callers are told less, and are counted as abandoned.

* `Callable.patient` : a callable that never stops waiting for a call.
* `Fades` : the same answers to all callers that have not stopped waiting.
* `Service.Attended` : a service, and the same one if everybody goes on waiting.
* `Service.Attended.abandon`, `Service.Attended.pass` : somebody stops waiting in one of them.
* `Service.Attended.submitInside`, `Service.Attended.advance` : what is done to both alike.
-/

namespace ScriptHost

variable {σ α : Type}

/-! ## Callables -/

namespace Callable

/-- The callable that does the same and goes on waiting for all its calls, and so do the calls that
it submits. -/
def patient : Callable σ α → Callable σ α
  | .finish ending => .finish ending
  | .read next => .read fun engine => (next engine).patient
  | .write engine next => .write engine next.patient
  | .checkpoint label next => .checkpoint label next.patient
  | .submit call lethal next =>
    .submit (fun id => (call id).patient) lethal fun ticket refusal =>
      (next ticket refusal).patient
  | .abandon _ next => next.patient
  | .release next => .release next.patient

/-- The next thing that a callable does is to stop waiting for a call. -/
def stopsWaiting : Callable σ α → Bool
  | .abandon _ _ => true
  | _ => false

end Callable

/-- The call with a callable that goes on waiting. -/
def Job.patient (job : Job σ α) : Job σ α := { job with body := job.body.patient }

def Running.patient (running : Running σ α) : Running σ α :=
  { running with job := running.job.patient }

/-- What a step does to the order of calls that go on waiting. -/
def SharedService.Mark.patient : SharedService.Mark σ α → SharedService.Mark σ α
  | .accepted job => .accepted job.patient
  | .refused ticket failure => .refused ticket failure
  | .started job => .started job.patient
  | .answered caller ticket refusal => .answered caller ticket refusal
  | .finished ticket => .finished ticket

/-! ## What callers see -/

/-- Callers that have not stopped waiting see the same. -/
structure Fades (futures futures' : Array (Future α)) : Prop where
  size : futures'.size = futures.size
  future : ∀ ticket : Nat, futures[ticket]? = futures'[ticket]? ∨ futures[ticket]? = some .dropped

/-- The record given to the caller of a submission if it waits for it. -/
def inform (futures : Array (Future α)) (ticket : Nat) (record : Record α) : Array (Future α) :=
  match futures[ticket]? with
  | some .waiting => futures.setIfInBounds ticket (.resolved record)
  | _ => futures

theorem inform_of_waiting {futures : Array (Future α)} {ticket : Nat}
    (h : futures[ticket]? = some .waiting) (record : Record α) :
    inform futures ticket record = futures.setIfInBounds ticket (.resolved record) := by
  rw [inform, h]

theorem inform_of_not_waiting {futures : Array (Future α)} {ticket : Nat}
    (h : futures[ticket]? ≠ some .waiting) (record : Record α) :
    inform futures ticket record = futures := by
  unfold inform
  split
  · contradiction
  · rfl

namespace Fades

variable {futures futures' : Array (Future α)} {ticket : Nat}

theorem refl (futures : Array (Future α)) : Fades futures futures := ⟨rfl, fun _ => .inl rfl⟩

theorem push (h : Fades futures futures') (future : Future α) :
    Fades (futures.push future) (futures'.push future) := by
  refine ⟨by simp [h.size], fun ticket => ?_⟩
  rw [Array.getElem?_push, Array.getElem?_push, h.size]
  split
  · exact .inl rfl
  · exact h.future ticket

theorem set (h : Fades futures futures') (ticket : Nat) (future : Future α) :
    Fades (futures.setIfInBounds ticket future) (futures'.setIfInBounds ticket future) := by
  refine ⟨by simp [h.size], fun other => ?_⟩
  rw [Array.getElem?_setIfInBounds, Array.getElem?_setIfInBounds, h.size]
  split
  · exact .inl rfl
  · exact h.future other

/-- A caller stops waiting. -/
theorem drop (h : Fades futures futures') (hwaiting : futures[ticket]? = some .waiting) :
    Fades (futures.setIfInBounds ticket .dropped) futures' := by
  refine ⟨by simp [h.size], fun other => ?_⟩
  by_cases hother : ticket = other
  · subst hother
    obtain ⟨hlt, -⟩ := Array.getElem?_eq_some_iff.mp hwaiting
    exact .inr (Array.getElem?_setIfInBounds_self_of_lt hlt)
  · rw [Array.getElem?_setIfInBounds_ne hother]
    exact h.future other

/-- Nobody is told what a caller that stopped waiting would have been told. -/
theorem inform (h : Fades futures futures') (ticket : Nat) (record : Record α) :
    Fades (inform futures ticket record) (inform futures' ticket record) := by
  rcases h.future ticket with hsame | hdropped
  · by_cases hwaiting : futures[ticket]? = some .waiting
    · rw [inform_of_waiting hwaiting, inform_of_waiting (hsame ▸ hwaiting)]
      exact h.set ticket _
    · rw [inform_of_not_waiting hwaiting, inform_of_not_waiting (hsame ▸ hwaiting)]
      exact h
  · rw [inform_of_not_waiting (by simp [hdropped])]
    by_cases hwaiting : futures'[ticket]? = some .waiting
    · rw [inform_of_waiting hwaiting]
      refine ⟨by simp [h.size], fun other => ?_⟩
      by_cases hother : ticket = other
      · exact .inr (hother ▸ hdropped)
      · rw [Array.getElem?_setIfInBounds_ne hother]
        exact h.future other
    · rwa [inform_of_not_waiting hwaiting]

end Fades

namespace Service

open SharedService (Mark)

variable {s s' : Service σ α}

theorem strand_eq_inform (s : Service σ α) (job : Job σ α) :
    s.strand job =
      { s with futures := inform s.futures job.ticket (.rejected job.id .shutdown) } := by
  unfold strand future?
  split
  · rename_i hwaiting
    rw [inform_of_waiting hwaiting]
    rfl
  · rename_i hwaiting
    rw [inform_of_not_waiting hwaiting]

/-- A record is delivered to its caller, or thrown away. -/
theorem deliver_eq_inform (s : Service σ α) {job : Job σ α} (hlethal : job.lethal = false)
    (record : Record α) :
    ∃ abandoned, s.deliver job record =
      { s with
        futures := inform s.futures job.ticket record
        stats := { s.stats with abandoned } } := by
  unfold deliver future?
  split
  · rename_i hwaiting
    rw [inform_of_waiting hwaiting]
    exact ⟨_, rfl⟩
  · rename_i hwaiting
    rw [inform_of_not_waiting hwaiting, hlethal]
    exact ⟨_, rfl⟩

/-! ## The service with nobody who stops waiting -/

/-- The service with callables that never stop waiting, and with what the callers of such a service
see. -/
def patient (s : Service σ α) (futures : Array (Future α)) (abandoned : Nat) : Service σ α :=
  { s with
    queue := s.queue.map Job.patient
    running := s.running.map Running.patient
    stats := { s.stats with abandoned }
    futures }

/-- The second service is the first one as it would be if everybody went on waiting. -/
def Attended (s s' : Service σ α) : Prop :=
  ∃ futures abandoned, s' = s.patient futures abandoned ∧ Fades s.futures futures

namespace Attended

theorem queue (h : s.Attended s') : s'.queue = s.queue.map Job.patient := by
  obtain ⟨_, _, rfl, -⟩ := h
  rfl

theorem running (h : s.Attended s') : s'.running = s.running.map Running.patient := by
  obtain ⟨_, _, rfl, -⟩ := h
  rfl

theorem engine (h : s.Attended s') : s'.engine = s.engine := by
  obtain ⟨_, _, rfl, -⟩ := h
  rfl

theorem alive (h : s.Attended s') : s'.alive = s.alive := by
  obtain ⟨_, _, rfl, -⟩ := h
  rfl

theorem held (h : s.Attended s') : s'.held = s.held := by
  obtain ⟨_, _, rfl, -⟩ := h
  rfl

theorem capacity (h : s.Attended s') : s'.capacity = s.capacity := by
  obtain ⟨_, _, rfl, -⟩ := h
  rfl

/-! ### Submissions -/

theorem admission (h : s.Attended s') (policy : Policy) :
    s'.admission policy = s.admission policy := by
  simp only [Service.admission, h.alive, h.held, h.queue, h.capacity, List.length_map]

theorem nextSubmission (h : s.Attended s') (refusal : Option Failure) :
    s'.nextSubmission refusal = s.nextSubmission refusal := by
  obtain ⟨futures, abandoned, rfl, hfutures⟩ := h
  simp [Service.nextSubmission, patient, hfutures.size]

theorem prepare (h : s.Attended s') (call : UInt64 → Callable σ α) (lethal : Bool) :
    (s'.prepare (fun id => (call id).patient) lethal).1 = (s.prepare call lethal).1.patient ∧
      (s.prepare call lethal).2.count.Attended
        (s'.prepare (fun id => (call id).patient) lethal).2.count := by
  obtain ⟨futures, abandoned, rfl, hfutures⟩ := h
  refine ⟨?_, futures.push .waiting, abandoned, rfl, hfutures.push .waiting⟩
  simp [Service.prepare, patient, Job.patient, hfutures.size]

theorem push (h : s.Attended s') (job : Job σ α) :
    (s.push job).Attended (s'.push job.patient) := by
  obtain ⟨futures, abandoned, rfl, hfutures⟩ := h
  exact ⟨futures, abandoned, by simp [Service.push, patient], hfutures⟩

theorem enqueue (h : s.Attended s') (call : UInt64 → Callable σ α) (lethal : Bool) :
    (s.enqueue call lethal).Attended (s'.enqueue (fun id => (call id).patient) lethal) := by
  obtain ⟨hjob, hprepared⟩ := h.prepare call lethal
  have hpush := hprepared.push (s.prepare call lethal).1
  rwa [← hjob] at hpush

theorem reject (h : s.Attended s') (failure : Failure) :
    (s.reject failure).Attended (s'.reject failure) := by
  obtain ⟨futures, abandoned, rfl, hfutures⟩ := h
  exact ⟨_, abandoned, rfl, hfutures.push _⟩

theorem turnAway (h : s.Attended s') (job : Job σ α) (failure : Failure) :
    (SharedService.turnAway s job failure).Attended
      (SharedService.turnAway s' job.patient failure) := by
  obtain ⟨futures, abandoned, rfl, hfutures⟩ := h
  exact ⟨_, abandoned, rfl, hfutures.set job.ticket _⟩

theorem submitInside (h : s.Attended s') (call : UInt64 → Callable σ α) (lethal : Bool) :
    (s'.submitInside (fun id => (call id).patient) lethal).1 = (s.submitInside call lethal).1 ∧
      (s.submitInside call lethal).2.Attended
        (s'.submitInside (fun id => (call id).patient) lethal).2 := by
  unfold Service.submitInside
  rw [h.admission .refuse]
  cases s.admission .refuse with
  | accepted => exact ⟨h.nextSubmission none, h.enqueue call lethal⟩
  | refused failure => exact ⟨h.nextSubmission (some failure), h.reject failure⟩
  | mustWait => exact ⟨h.nextSubmission (some .queueFull), h.reject .queueFull⟩

theorem answer (h : s.Attended s') (call : UInt64 → Callable σ α) (lethal : Bool)
    (submission : Submission) :
    SharedService.answer s' (fun id => (call id).patient) lethal submission =
      (SharedService.answer s call lethal submission).patient := by
  unfold SharedService.answer
  cases submission.refusal with
  | none => exact congrArg Mark.accepted (h.prepare call lethal).1
  | some failure => rfl

/-! ### Callers -/

/-- A caller stops waiting, and in the other service it does not. -/
theorem abandon (h : s.Attended s') (ticket : Nat) : (s.abandon ticket).Attended s' := by
  obtain ⟨futures, abandoned, rfl, hfutures⟩ := h
  unfold Service.abandon
  split
  · rename_i hwaiting
    exact ⟨futures, abandoned, rfl, hfutures.drop hwaiting⟩
  · exact ⟨futures, abandoned, rfl, hfutures⟩

/-- The running call stops waiting for a call, which it does not in the other service. -/
theorem pass (h : s.Attended s') {running : Running σ α} {ticket : Nat} {next : Callable σ α}
    (hsome : s.running = some running) (hbody : running.job.body = .abandon ticket next) :
    s.advance.Attended s' ∧ SharedService.advanceMarks s = [] := by
  have hsame : s.advance = (s.abandon ticket).proceed running next := by
    simp only [Service.advance, hsome, hbody]
  refine ⟨?_, by simp only [SharedService.advanceMarks, hsome, hbody]⟩
  obtain ⟨futures, abandoned, rfl, hfutures⟩ := h.abandon ticket
  refine ⟨futures, abandoned, ?_, hsame ▸ hfutures⟩
  have hrunning := (s.alike_abandon ticket).running.trans hsome
  rw [hsame, patient, patient, hrunning]
  simp [Service.proceed, Running.patient, Job.patient, hbody, Callable.patient]

theorem giveUp (h : s.Attended s') :
    Attended { s with held := false } { s' with held := false } := by
  obtain ⟨futures, abandoned, rfl, hfutures⟩ := h
  exact ⟨futures, abandoned, rfl, hfutures⟩

/-! ### The engine -/

theorem halt (h : s.Attended s') :
    Attended { s with alive := false } { s' with alive := false } := by
  obtain ⟨futures, abandoned, rfl, hfutures⟩ := h
  exact ⟨futures, abandoned, rfl, hfutures⟩

theorem setEngine (h : s.Attended s') (engine : σ) :
    Attended { s with engine } { s' with engine } := by
  obtain ⟨futures, abandoned, rfl, hfutures⟩ := h
  exact ⟨futures, abandoned, rfl, hfutures⟩

theorem dispatch (h : s.Attended s') :
    s.dispatch.Attended s'.dispatch ∧
      (SharedService.next? s').toList.map Mark.started =
        ((SharedService.next? s).toList.map Mark.started).map Mark.patient := by
  unfold Service.dispatch SharedService.next?
  rw [h.running, h.queue, h.alive]
  cases s.running with
  | some running => cases s.queue <;> exact ⟨h, rfl⟩
  | none =>
    cases s.queue with
    | nil => cases s.alive <;> exact ⟨h, rfl⟩
    | cons job queue =>
      cases s.alive with
      | false => exact ⟨h, rfl⟩
      | true =>
        obtain ⟨futures, abandoned, rfl, hfutures⟩ := h
        exact ⟨⟨futures, abandoned, rfl, hfutures⟩, rfl⟩

theorem proceed (h : s.Attended s') (running : Running σ α) (body : Callable σ α) :
    (s.proceed running body).Attended (s'.proceed running.patient body.patient) := by
  obtain ⟨futures, abandoned, rfl, hfutures⟩ := h
  exact ⟨futures, abandoned, rfl, hfutures⟩

theorem deliver (h : s.Attended s') {job : Job σ α} (hlethal : job.lethal = false)
    (record : Record α) : (s.deliver job record).Attended (s'.deliver job.patient record) := by
  obtain ⟨futures, abandoned, rfl, hfutures⟩ := h
  obtain ⟨count, hdeliver⟩ := s.deliver_eq_inform hlethal record
  have hlethal' : job.patient.lethal = false := hlethal
  obtain ⟨count', hdeliver'⟩ := (s.patient futures abandoned).deliver_eq_inform hlethal' record
  rw [hdeliver, hdeliver']
  exact ⟨_, count', rfl, hfutures.inform job.ticket record⟩

theorem finish (h : s.Attended s') {running : Running σ α} (hlethal : running.job.lethal = false)
    (ending : Ending α) :
    (s.finish running ending).Attended (s'.finish running.patient ending) := by
  have hover : Attended { s with running := none, stats := s.stats.record ending.result }
      { s' with running := none, stats := s'.stats.record ending.result } := by
    obtain ⟨futures, abandoned, rfl, hfutures⟩ := h
    exact ⟨futures, abandoned, rfl, hfutures⟩
  exact hover.deliver hlethal _

theorem strand (h : s.Attended s') (job : Job σ α) :
    (s.strand job).Attended (s'.strand job.patient) := by
  obtain ⟨futures, abandoned, rfl, hfutures⟩ := h
  rw [strand_eq_inform, strand_eq_inform]
  exact ⟨_, abandoned, rfl, hfutures.inform job.ticket _⟩

theorem strandAll (h : s.Attended s') (jobs : List (Job σ α)) :
    (jobs.foldl Service.strand s).Attended ((jobs.map Job.patient).foldl Service.strand s') := by
  induction jobs generalizing s s' with
  | nil => exact h
  | cons job jobs ih => exact ih (h.strand job)

theorem stop (h : s.Attended s') : s.stop.Attended s'.stop := by
  have hqueue := h.queue
  obtain ⟨futures, abandoned, hstrand, hfutures⟩ := h.strandAll s.queue
  refine ⟨futures, abandoned, ?_, hfutures⟩
  unfold Service.stop
  rw [hqueue, hstrand]
  rfl

theorem discard (h : s.Attended s') : s.discard.Attended s'.discard := by
  unfold Service.discard
  rw [h.alive]
  split
  · exact h
  · exact h.stop

theorem crash (h : s.Attended s') : s.crash.Attended s'.crash := by
  unfold Service.crash
  cases hsome : s.running with
  | none =>
    rw [h.running, hsome]
    exact h
  | some running =>
    rw [h.running, hsome]
    obtain ⟨futures, abandoned, hstrand, hfutures⟩ := h.strand running.job
    refine ⟨futures, abandoned, ?_, hfutures⟩
    dsimp only [Option.map_some]
    rw [show running.patient.job = running.job.patient from rfl, hstrand]
    rfl

/-- One action of the running call, other than to stop waiting for a call. -/
theorem advance (h : s.Attended s')
    (hlethal : ∀ running, s.running = some running → running.job.lethal = false)
    (hgoes : ∀ running, s.running = some running → running.job.body.stopsWaiting = false) :
    s.advance.Attended s'.advance ∧
      SharedService.advanceMarks s' = (SharedService.advanceMarks s).map Mark.patient := by
  unfold Service.advance SharedService.advanceMarks
  rw [h.running]
  cases hsome : s.running with
  | none => exact ⟨h, rfl⟩
  | some running =>
    have hbody : running.patient.job.body = running.job.body.patient := rfl
    specialize hlethal running hsome
    specialize hgoes running hsome
    dsimp only [Option.map_some]
    rw [hbody]
    cases hkind : running.job.body with
    | finish ending => exact ⟨h.finish hlethal ending, rfl⟩
    | read next =>
      rw [Callable.patient, h.engine]
      exact ⟨h.proceed running (next s.engine), rfl⟩
    | write engine next =>
      exact ⟨(h.setEngine engine).proceed running next, rfl⟩
    | checkpoint label next =>
      exact ⟨h.proceed { running with labels := Label.custom label :: running.labels } next, rfl⟩
    | submit call lethal next =>
      obtain ⟨hsubmission, hsubmitted⟩ := h.submitInside call lethal
      dsimp only [Callable.patient]
      rw [hsubmission]
      refine ⟨hsubmitted.proceed running _, ?_⟩
      simp only [List.map_cons, List.map_nil, ← h.answer]
      rfl
    | abandon ticket next =>
      rw [hkind] at hgoes
      cases hgoes
    | release next => exact ⟨h.giveUp.proceed running next, rfl⟩

end Attended

end Service

end ScriptHost
