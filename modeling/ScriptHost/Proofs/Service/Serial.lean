import ScriptHost.Proofs.Service.Log

/-!
# Calls run one at a time, in the order of their acceptance

The accepted calls are those that were started, then those on the queue; the started calls are those
that are finished, and the running one. The state of the engine is what the started calls have made
of it.

* `SharedService.Serial` : the invariant of the queue, the engine and the log.
* `SharedService.Serial.outside` : it holds after whatever callers do.
* `SharedService.Serial.take`, `SharedService.Serial.proceed`, `SharedService.Serial.answered`,
  `SharedService.Serial.finish` : it holds after whatever the engine does.
-/

namespace ScriptHost.SharedService

variable {σ α : Type}

/-- The calls that were started are a beginning of those that were accepted, and what is left of
these is the queue; the engine is where the started calls have brought it. -/
structure Serial (capacity : Nat) (engine : σ) (s : Service σ α) (log : List (Mark σ α)) :
    Prop where
  capacity_eq : s.capacity = max 1 capacity
  bound : s.queue.length ≤ s.capacity
  order : accepted log = started log ++ s.queue
  turns : (started log).map Job.ticket =
    finished log ++ (s.running.map fun running => running.job.ticket).toList
  asked : ∀ caller, answersTo log caller ≠ [] → caller ∈ (started log).map Job.ticket
  idle : s.running = none → s.engine = effects log (started log) engine
  busy : ∀ running, s.running = some running →
    ∃ before job, started log = before ++ [job] ∧
      ∀ more, job.body.effect (answersTo log job.ticket ++ more) (effects log before engine) =
        running.job.body.effect more s.engine

namespace Serial

variable {capacity : Nat} {engine : σ} {s s' : Service σ α} {log marks : List (Mark σ α)}

theorem start (capacity : Nat) (firstId : UInt64) (engine : σ) :
    Serial capacity engine (Service.start capacity firstId engine : Service σ α) [] where
  capacity_eq := rfl
  bound := Nat.zero_le _
  order := rfl
  turns := rfl
  asked _ h := absurd rfl h
  idle _ := rfl
  busy _ h := by cases h

/-! ## Steps of callers -/

/-- Marks of what callers do. -/
structure Outside (marks : List (Mark σ α)) : Prop where
  started : started marks = []
  finished : finished marks = []
  answersTo : ∀ caller, answersTo marks caller = []

/-- What callers do may put calls on the queue, and leaves the engine alone. -/
theorem outside (h : Serial capacity engine s log) (hmarks : Outside marks)
    (hqueue : s'.queue = s.queue ++ accepted marks) (hbound : s'.queue.length ≤ s'.capacity)
    (hrunning : s'.running = s.running) (hengine : s'.engine = s.engine)
    (hcapacity : s'.capacity = s.capacity) : Serial capacity engine s' (log ++ marks) := by
  have hstarted : SharedService.started (log ++ marks) = SharedService.started log := by
    rw [started_append, hmarks.started, List.append_nil]
  have hanswers : ∀ caller, SharedService.answersTo (log ++ marks) caller =
      SharedService.answersTo log caller := by
    intro caller
    rw [answersTo_append, hmarks.answersTo, List.append_nil]
  have heffects : ∀ jobs, effects (log ++ marks) jobs engine = effects log jobs engine :=
    fun jobs => effects_append (fun job _ => hmarks.answersTo job.ticket) engine
  constructor
  · rw [hcapacity, h.capacity_eq]
  · exact hbound
  · rw [accepted_append, h.order, hstarted, hqueue, List.append_assoc]
  · rw [hstarted, h.turns, finished_append, hmarks.finished, List.append_nil, hrunning]
  · intro caller hcaller
    rw [hanswers] at hcaller
    rw [hstarted]
    exact h.asked caller hcaller
  · intro hnone
    rw [hengine, hstarted, heffects]
    exact h.idle (hrunning.symm.trans hnone)
  · intro running hsome
    obtain ⟨before, job, hlast, heffect⟩ := h.busy running (hrunning.symm.trans hsome)
    refine ⟨before, job, hstarted.trans hlast, ?_⟩
    intro more
    rw [hanswers, heffects, hengine]
    exact heffect more

/-! ## Steps of the engine -/

/-- A call that is still on the queue has been told nothing. -/
theorem unasked (h : Serial capacity engine s log)
    (hdistinct : ((accepted log).map Job.ticket).Nodup) {job : Job σ α} (hjob : job ∈ s.queue) :
    SharedService.answersTo log job.ticket = [] := by
  cases hasked : SharedService.answersTo log job.ticket with
  | nil => rfl
  | cons answer answers =>
    have hmem := h.asked job.ticket (by simp [hasked])
    rw [h.order, List.map_append, List.nodup_append] at hdistinct
    exact absurd rfl (hdistinct.2.2 _ hmem _ (List.mem_map_of_mem hjob))

/-- The engine takes the next call. -/
theorem take (h : Serial capacity engine s log) (hdistinct : ((accepted log).map Job.ticket).Nodup)
    {job : Job σ α} {labels : List String} (hidle : s.running = none)
    (hqueue : s.queue = job :: s'.queue) (hrunning : s'.running = some ⟨job, labels⟩)
    (hengine : s'.engine = s.engine) (hcapacity : s'.capacity = s.capacity) :
    Serial capacity engine s' (log ++ [.started job]) := by
  have hstarted : started (log ++ [.started job]) = started log ++ [job] := started_append _ _
  have hanswers : ∀ caller, answersTo (log ++ [.started job]) caller = answersTo log caller := by
    intro caller
    rw [answersTo_append]
    exact List.append_nil _
  have heffects : ∀ jobs, effects (log ++ [.started job]) jobs engine = effects log jobs engine :=
    fun jobs => effects_append (fun _ _ => rfl) engine
  have hunasked := h.unasked hdistinct (hqueue ▸ List.mem_cons_self)
  constructor
  · rw [hcapacity, h.capacity_eq]
  · have hbound := h.bound
    rw [hqueue, List.length_cons] at hbound
    rw [hcapacity]
    omega
  · rw [accepted_append, h.order, hqueue, hstarted]
    simp [accepted]
  · rw [hstarted, List.map_append, h.turns, hidle, hrunning, finished_append]
    simp [finished]
  · intro caller hcaller
    rw [hanswers] at hcaller
    rw [hstarted, List.map_append]
    exact List.mem_append_left _ (h.asked caller hcaller)
  · intro hnone
    rw [hrunning] at hnone
    cases hnone
  · intro running hsome
    rw [hrunning] at hsome
    cases hsome
    refine ⟨started log, job, hstarted, ?_⟩
    intro more
    rw [hanswers, hunasked, heffects, hengine, h.idle hidle]
    rfl

/-- The running call goes on, and the engine with it. -/
theorem proceed (h : Serial capacity engine s log) {running running' : Running σ α}
    (hsome : s.running = some running) (hsome' : s'.running = some running')
    (hticket : running'.job.ticket = running.job.ticket)
    (heffect : ∀ more, running.job.body.effect more s.engine =
      running'.job.body.effect more s'.engine)
    (hqueue : s'.queue = s.queue) (hcapacity : s'.capacity = s.capacity) :
    Serial capacity engine s' log := by
  constructor
  · rw [hcapacity, h.capacity_eq]
  · rw [hqueue, hcapacity]
    exact h.bound
  · rw [hqueue]
    exact h.order
  · rw [h.turns, hsome, hsome', Option.map_some, Option.map_some, hticket]
  · exact h.asked
  · intro hnone
    rw [hsome'] at hnone
    cases hnone
  · intro other hother
    rw [hsome'] at hother
    cases hother
    obtain ⟨before, job, hlast, hjob⟩ := h.busy running hsome
    exact ⟨before, job, hlast, fun more => (hjob more).trans (heffect more)⟩

/-- The running call is told what has become of its submission, and goes on. -/
theorem answered (h : Serial capacity engine s log)
    (hdistinct : ((started log).map Job.ticket).Nodup) {running running' : Running σ α}
    (hsome : s.running = some running) (hsome' : s'.running = some running')
    (hticket : running'.job.ticket = running.job.ticket) {ticket : Nat}
    {refusal : Option Failure}
    (heffect : ∀ more, running.job.body.effect ((ticket, refusal) :: more) s.engine =
      running'.job.body.effect more s'.engine)
    (hqueue : s'.queue = s.queue) (hcapacity : s'.capacity = s.capacity) :
    Serial capacity engine s' (log ++ [.answered running.job.ticket ticket refusal]) := by
  have hstarted : started (log ++ [.answered running.job.ticket ticket refusal]) = started log := by
    rw [started_append]
    exact List.append_nil _
  have hmem : running.job.ticket ∈ (started log).map Job.ticket := by
    rw [h.turns, hsome]
    exact List.mem_append_right _ List.mem_cons_self
  constructor
  · rw [hcapacity, h.capacity_eq]
  · rw [hqueue, hcapacity]
    exact h.bound
  · rw [hqueue, hstarted, accepted_append, h.order]
    exact List.append_nil _
  · rw [hstarted, h.turns, hsome, hsome', Option.map_some, Option.map_some, hticket,
      finished_append]
    simp [finished]
  · intro caller hcaller
    rw [hstarted]
    by_cases heq : running.job.ticket = caller
    · rwa [← heq]
    · rw [answersTo_append, answersTo_answered_of_ne heq, List.append_nil] at hcaller
      exact h.asked caller hcaller
  · intro hnone
    rw [hsome'] at hnone
    cases hnone
  · intro other hother
    rw [hsome'] at hother
    cases hother
    obtain ⟨before, job, hlast, hjob⟩ := h.busy running hsome
    have hturns := h.turns
    rw [hlast, List.map_append, hsome] at hturns
    have hrunning : job.ticket = running.job.ticket := by
      have hlasts := congrArg List.getLast? hturns
      simpa using hlasts
    rw [hlast, List.map_append, List.nodup_append] at hdistinct
    refine ⟨before, job, hstarted.trans hlast, ?_⟩
    intro more
    rw [← heffect, ← hjob, hrunning, answersTo_append, answersTo_answered_self, List.append_assoc]
    rw [effects_append]
    · rfl
    · intro earlier hearlier
      apply answersTo_answered_of_ne
      rw [← hrunning]
      exact (hdistinct.2.2 _ (List.mem_map_of_mem hearlier) _ List.mem_cons_self).symm

/-- The running call comes to its end. -/
theorem finish (h : Serial capacity engine s log) {running : Running σ α} {ending : Ending α}
    (hsome : s.running = some running) (hbody : running.job.body = .finish ending)
    (hnone : s'.running = none) (hengine : s'.engine = s.engine) (hqueue : s'.queue = s.queue)
    (hcapacity : s'.capacity = s.capacity) :
    Serial capacity engine s' (log ++ [.finished running.job.ticket]) := by
  have hstarted : started (log ++ [.finished running.job.ticket]) = started log := by
    rw [started_append]
    exact List.append_nil _
  have hanswers : ∀ caller,
      answersTo (log ++ [.finished running.job.ticket]) caller = answersTo log caller := by
    intro caller
    rw [answersTo_append]
    exact List.append_nil _
  constructor
  · rw [hcapacity, h.capacity_eq]
  · rw [hqueue, hcapacity]
    exact h.bound
  · rw [hqueue, hstarted, accepted_append, h.order]
    exact List.append_nil _
  · rw [hstarted, h.turns, hsome, hnone, finished_append]
    simp [finished]
  · intro caller hcaller
    rw [hanswers] at hcaller
    rw [hstarted]
    exact h.asked caller hcaller
  · intro _
    obtain ⟨before, job, hlast, hjob⟩ := h.busy running hsome
    have heffect := hjob []
    rw [hbody, List.append_nil] at heffect
    rw [hstarted, effects_append (fun _ _ => rfl), hlast, effects_concat, heffect, hengine]
    rfl
  · intro other hother
    rw [hnone] at hother
    cases hother

end Serial

end ScriptHost.SharedService
