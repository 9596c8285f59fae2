import ScriptHost.Proofs.Service.Steps

/-!
# Calls are served in order

Whatever callers do, and whenever they do it, the calls of a service run one after the other in the
order in which they were accepted.

* `SharedService.RefusesWhenFull` : a step that refuses its call exactly when the queue is full.
* `SharedService.run_in_order` : the order of calls, and the limit of the queue.
-/

namespace ScriptHost

variable {σ α : Type}

namespace Service

variable {s : Service σ α}

theorem admission_refuse (halive : s.alive = true) (hheld : s.held = true) :
    s.admission .refuse =
      if s.queue.length < s.capacity then .accepted else .refused .queueFull := by
  rw [admission, halive, hheld]
  rfl

theorem record?_reject (s : Service σ α) (failure : Failure) :
    (s.reject failure).record? s.futures.size = some (.rejected s.nextId failure) := by
  rw [record?, show (s.reject failure).future? s.futures.size = some (.resolved _) from
    Array.getElem?_push_size]

end Service

namespace SharedService

variable {capacity : Nat} {engine : σ} {b : SharedService σ α} {log : List (Mark σ α)}

/-! ## A full queue -/

/-- A step submits a call that is refused for want of room exactly when the queue has reached the
limit, and then has a record that says so, while the queue and the engine stay as they were. -/
def RefusesWhenFull (limit : Nat) (b : SharedService σ α) (event : Event σ α) : Prop :=
  let after := (b.step event).1.service
  let refused := Mark.refused b.service.futures.size .queueFull ∈ (b.step event).2
  (refused ↔ b.service.queue.length = limit) ∧
    (refused → after.queue = b.service.queue ∧ after.engine = b.service.engine ∧
      after.record? b.service.futures.size = some (.rejected b.service.nextId .queueFull))

theorem RefusesWhenFull.of_room {limit : Nat} {event : Event σ α}
    (hroom : b.service.queue.length < limit)
    (hmarks : Mark.refused b.service.futures.size .queueFull ∉ (b.step event).2) :
    RefusesWhenFull limit b event := by
  refine ⟨⟨fun h => absurd h hmarks, ?_⟩, fun h => absurd h hmarks⟩
  intro hfull
  omega

theorem RefusesWhenFull.of_reject {limit : Nat} {event : Event σ α}
    (hfull : b.service.queue.length = limit)
    (hmarks : Mark.refused b.service.futures.size .queueFull ∈ (b.step event).2)
    {running : Option (Running σ α)}
    (hafter : (b.step event).1.service = { b.service.reject .queueFull with running }) :
    RefusesWhenFull limit b event := by
  refine ⟨⟨fun _ => hfull, fun _ => hmarks⟩, fun _ => ?_⟩
  rw [hafter]
  exact ⟨rfl, rfl, b.service.record?_reject .queueFull⟩

theorem refuses_outside (h : Serial capacity engine b.service log) (halive : b.service.alive = true)
    (hheld : b.service.held = true) (call : UInt64 → Callable σ α) (lethal : Bool) :
    RefusesWhenFull (max 1 capacity) b (.submit .refuse call lethal) := by
  have hadmission := Service.admission_refuse halive hheld
  have hbound := h.bound
  rw [h.capacity_eq] at hadmission hbound
  by_cases hroom : b.service.queue.length < max 1 capacity
  · rw [if_pos hroom] at hadmission
    apply RefusesWhenFull.of_room hroom
    simp [step, submit, Service.submit, hadmission, answer, Service.nextSubmission]
  · rw [if_neg hroom] at hadmission
    have hstep : b.step (.submit .refuse call lethal) =
        ({ b with service := b.service.reject .queueFull },
          [.refused b.service.futures.size .queueFull]) := by
      simp only [step, submit, Service.submit, hadmission]
      rfl
    apply RefusesWhenFull.of_reject (by omega)
    · rw [hstep]
      exact List.mem_cons_self
    · rw [hstep]

theorem refuses_inside (h : Serial capacity engine b.service log) (halive : b.service.alive = true)
    (hheld : b.service.held = true) {running : Running σ α} {call : UInt64 → Callable σ α}
    {lethal : Bool} {next : Nat → Option Failure → Callable σ α}
    (hsome : b.service.running = some running)
    (hbody : running.job.body = .submit call lethal next) :
    RefusesWhenFull (max 1 capacity) b .advance := by
  have hadmission := Service.admission_refuse halive hheld
  have hbound := h.bound
  rw [h.capacity_eq] at hadmission hbound
  have hafter : b.service.advance =
      (b.service.submitInside call lethal).2.proceed running
        (next (b.service.submitInside call lethal).1.ticket
          (b.service.submitInside call lethal).1.refusal) := by
    simp only [Service.advance, hsome, hbody]
  have hmarks : advanceMarks b.service =
      [answer b.service call lethal (b.service.submitInside call lethal).1,
        .answered running.job.ticket (b.service.submitInside call lethal).1.ticket
          (b.service.submitInside call lethal).1.refusal] := by
    simp only [advanceMarks, hsome, hbody]
  by_cases hroom : b.service.queue.length < max 1 capacity
  · rw [if_pos hroom] at hadmission
    apply RefusesWhenFull.of_room hroom
    simp [step, hmarks, Service.submitInside, hadmission, answer, Service.nextSubmission]
  · rw [if_neg hroom] at hadmission
    have hinside : b.service.submitInside call lethal =
        (b.service.nextSubmission (some .queueFull), b.service.reject .queueFull) := by
      simp only [Service.submitInside, hadmission]
    apply RefusesWhenFull.of_reject (by omega)
    · rw [step, hmarks, hinside]
      exact List.mem_cons_self
    · rw [step, hafter, hinside]
      rfl

/-! ## What the finished calls have made of the engine -/

theorem Serial.engine_idle {s : Service σ α} (h : Serial capacity engine s log)
    (hidle : s.running = none) :
    s.engine = effects log ((accepted log).take (finished log).length) engine := by
  have hlength := congrArg List.length h.turns
  rw [hidle, List.length_map, List.length_append] at hlength
  have htake : (accepted log).take (finished log).length = started log := by
    rw [h.order, List.take_left']
    exact hlength
  rw [htake]
  exact h.idle hidle

theorem Serial.engine_busy {s : Service σ α} (h : Serial capacity engine s log)
    {running : Running σ α} (hsome : s.running = some running) :
    ∃ job, (accepted log)[(finished log).length]? = some job ∧
      ∀ more, job.body.effect (answersTo log job.ticket ++ more)
          (effects log ((accepted log).take (finished log).length) engine) =
        running.job.body.effect more s.engine := by
  obtain ⟨before, job, hlast, heffect⟩ := h.busy running hsome
  have hlength : before.length = (finished log).length := by
    have hturns := congrArg List.length h.turns
    rw [hlast, hsome, List.length_map, List.length_append, List.length_append] at hturns
    exact Nat.add_right_cancel hturns
  have haccepted : accepted log = before ++ job :: s.queue := by
    rw [h.order, hlast, List.append_assoc]
    rfl
  refine ⟨job, ?_, ?_⟩
  · rw [haccepted, ← hlength, List.getElem?_append_right (Nat.le_refl _), Nat.sub_self]
    rfl
  · rw [haccepted, ← hlength, List.take_left]
    exact heffect

/-! ## Runs -/

theorem Ordered.not_refused (h : Ordered capacity engine b log) {job : Job σ α}
    (hjob : job ∈ started log) : job.ticket ∉ refused log := by
  intro hrefused
  have hdistinct := h.tickets.nodup
  rw [h.serial.order, List.map_append, List.append_assoc, List.nodup_append] at hdistinct
  have hapart := hdistinct.2.2 _ (List.mem_map_of_mem hjob) job.ticket
  exact hapart (List.mem_append_right _ (List.mem_append_left _ hrefused)) rfl

/-- After every run, the calls that were accepted are those that the engine has taken, in the same
order, and then those on the queue. It has taken none of them twice, and it has finished them all
but the one that it is in the middle of. It has taken none that was refused.

When the engine is idle, its state is what the finished calls have made of it, one after the other,
and it does not matter how a call ends. In the middle of a call it is on the way from there to what
that call makes of it.

The queue keeps to its limit, and a call that may not wait, or that the running call makes, is
refused exactly when the queue has reached the limit. -/
theorem run_in_order (capacity : Nat) (firstId : UInt64) (engine : σ) (events : List (Event σ α)) :
    let (b, log) := (start capacity firstId engine).run events
    let done := (finished log).length
    accepted log = started log ++ b.service.queue ∧
    ((started log).map Job.ticket).Nodup ∧
    (started log).map Job.ticket =
      finished log ++ (b.service.running.map fun running => running.job.ticket).toList ∧
    (∀ job ∈ started log, job.ticket ∉ refused log) ∧
    (b.service.running = none →
      b.service.engine = effects log ((accepted log).take done) engine) ∧
    (∀ running, b.service.running = some running →
      ∃ job, (accepted log)[done]? = some job ∧
        ∀ more, job.body.effect (answersTo log job.ticket ++ more)
            (effects log ((accepted log).take done) engine) =
          running.job.body.effect more b.service.engine) ∧
    (∀ (f : Ending α → Ending α) (body : Callable σ α), (body.mapEnding f).effect = body.effect) ∧
    b.service.queue.length ≤ max 1 capacity ∧
    (b.service.alive = true → b.service.held = true →
      (∀ call lethal, RefusesWhenFull (max 1 capacity) b (.submit .refuse call lethal)) ∧
      ∀ running call lethal next, b.service.running = some running →
        running.job.body = .submit call lethal next →
          RefusesWhenFull (max 1 capacity) b .advance) := by
  have h := (Ordered.start capacity firstId engine).run events
  rw [List.nil_append] at h
  generalize (start capacity firstId engine).run events = result at h
  obtain ⟨b, log⟩ := result
  dsimp only at h ⊢
  refine ⟨h.serial.order, h.started_nodup, h.serial.turns, fun job => h.not_refused,
    h.serial.engine_idle, fun running => h.serial.engine_busy, Callable.effect_mapEnding, ?_, ?_⟩
  · rw [← h.serial.capacity_eq]
    exact h.serial.bound
  · intro halive hheld
    refine ⟨refuses_outside h.serial halive hheld, ?_⟩
    intro running call lethal next hsome hbody
    exact refuses_inside h.serial halive hheld hsome hbody

/-- The engine runs a call that is about to submit another, and one call is on the queue. -/
def crowd : List (Event Nat Unit) :=
  [.submit .wait (fun _ => .submit (fun _ => .returning ()) true fun _ _ => .returning ()) false,
    .dispatch, .submit .wait (fun _ => .write 8 (.returning ())) false]

/-- Where the queue has room for one call, neither a caller that may not wait nor the running call
gets another one in. -/
theorem run_in_order_crowd :
    let b := ((start 0 0 7).run crowd).1
    Mark.refused 2 .queueFull ∈ (b.step (.submit .refuse (fun _ => .returning ()) false)).2 ∧
      Mark.refused 2 .queueFull ∈ (b.step .advance).2 := by
  obtain ⟨_, _, _, _, _, _, _, _, hrefuses⟩ := run_in_order 0 0 7 crowd
  obtain ⟨houtside, hinside⟩ := hrefuses rfl rfl
  exact ⟨(houtside _ _).1.mpr rfl, (hinside _ _ _ _ rfl rfl).1.mpr rfl⟩

end SharedService

end ScriptHost
