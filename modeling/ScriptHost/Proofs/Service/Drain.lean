import ScriptHost.Proofs.Service.Progress

/-!
# Services worked off and closed at one go

Whoever looks at a service only when its engine has come to rest lets it do all its calls at one go,
and closes it at one go. The engine does the same in many turns, among which others could have come
in.

* `Service.complete_induct` : what every action of a call keeps is kept by the whole call.
* `Service.running_complete` : a call done to its end is over.
* `Service.AtRest` : a service whose engine has nothing to do.
* `Service.sweep_leaves`, `Service.sweep_free` : what is on the queue when the calls that were there
  are done.
* `ClosingService.Attains` : the states that a service can come to.
* `ClosingService.Sound.attains_settle`, `ClosingService.Sound.attains_close` : a service worked off
  or closed at one go is in one of them.
-/

namespace ScriptHost

variable {σ α : Type}

/-! ## Calls done to their ends -/

namespace Service

variable {s : Service σ α}

theorem completeFrom_induct {motive : Service σ α → Prop}
    (hstep : ∀ s, motive s → motive s.advance) (body : Callable σ α) (h : motive s) :
    motive (completeFrom body s) := by
  induction body generalizing s with
  | finish ending => exact hstep s h
  | read next ih => exact ih s.engine (hstep s h)
  | submit call lethal next _ ih => exact ih _ _ (hstep s h)
  | write engine next ih | checkpoint label next ih | abandon ticket next ih | release next ih =>
    exact ih (hstep s h)

/-- What every action of a call keeps is kept by the whole call. -/
theorem complete_induct {motive : Service σ α → Prop}
    (hstep : ∀ s, motive s → motive s.advance) (h : motive s) : motive s.complete := by
  unfold complete
  split
  · exact h
  · exact completeFrom_induct hstep _ h

theorem running_completeFrom {body : Callable σ α} {running : Running σ α}
    (hsome : s.running = some running) (hbody : running.job.body = body) :
    (completeFrom body s).running = none := by
  induction body generalizing s running with
  | finish ending =>
    obtain ⟨alive, stats, futures, hfinish, -, -⟩ := s.finish_eq running ending
    rw [completeFrom, advance_eq_finish hsome hbody, hfinish]
  | read next ih =>
    rw [completeFrom, advance, hsome]
    dsimp only
    rw [hbody]
    exact ih s.engine rfl rfl
  | submit call lethal next _ ih =>
    rw [completeFrom, advance, hsome]
    dsimp only
    rw [hbody]
    exact ih _ _ rfl rfl
  | write engine next ih | checkpoint label next ih | abandon ticket next ih | release next ih =>
    rw [completeFrom, advance, hsome]
    dsimp only
    rw [hbody]
    exact ih rfl rfl

/-- A call done to its end is over. -/
theorem running_complete (s : Service σ α) : s.complete.running = none := by
  unfold complete
  split
  · assumption
  · rename_i hsome
    exact running_completeFrom hsome rfl

/-- A call done to its end puts nothing on the queue of a service that nobody holds. -/
theorem complete_free (hfree : s.held = false) :
    s.complete.held = false ∧ s.complete.queue = s.queue := by
  refine complete_induct (motive := fun s' => s'.held = false ∧ s'.queue = s.queue) ?_ ⟨hfree, rfl⟩
  rintro s' ⟨hfree', hqueue⟩
  have hworks := s'.works_advance
  refine ⟨?_, (hworks.queue hfree').trans hqueue⟩
  exact Bool.eq_false_iff.mpr (mt hworks.held (Bool.eq_false_iff.mp hfree'))

/-! ## Calls taken from the queue -/

/-- An engine that takes a call is idle, and otherwise nothing happens. -/
theorem dispatch_or (s : Service σ α) :
    s.dispatch = s ∨ s.running = none ∧ s.alive = true ∧ ∃ job queue, s.queue = job :: queue := by
  cases hidle : s.running with
  | some running => exact .inl (by rw [dispatch, hidle])
  | none =>
    cases hqueue : s.queue with
    | nil => exact .inl (by rw [dispatch, hidle, hqueue])
    | cons job queue =>
      cases halive : s.alive with
      | false => exact .inl (by rw [dispatch, hidle, hqueue, halive]; rfl)
      | true => exact .inr ⟨rfl, rfl, job, queue, rfl⟩

/-- There is nothing that the engine could do. -/
structure AtRest (s : Service σ α) : Prop where
  running : s.running = none
  queue : s.alive = true → s.queue = []

/-- There is a given queue, and behind it only calls of some kind. -/
def Queues (late : Job σ α → Prop) (queue : List (Job σ α)) (s : Service σ α) : Prop :=
  ∃ added, s.queue = queue ++ added ∧ ∀ job ∈ added, late job

theorem Queues.of_eq {late : Job σ α → Prop} {queue : List (Job σ α)} (h : s.queue = queue) :
    s.Queues late queue := ⟨[], h.trans (List.append_nil _).symm, nofun⟩

/-- A call that an idle engine takes from its queue and does puts behind the others only calls of
some kind, whatever is kept of the service meanwhile. -/
def Leaves (kept : Service σ α → Prop) (late : Job σ α → Prop) : Prop :=
  ∀ (s : Service σ α) (job : Job σ α) (queue : List (Job σ α)), kept s → s.running = none →
    s.alive = true → s.queue = job :: queue →
      kept s.dispatch.complete ∧ s.dispatch.complete.Queues late queue

/-- The calls behind the first ones of a queue, and those that the first ones put there, are what is
left of it when the first ones are done, unless the engine dies. -/
theorem work_leaves {kept : Service σ α → Prop} {late : Job σ α → Prop}
    (hleaves : Leaves kept late) {count : Nat} (hidle : s.running = none) (hkept : kept s)
    (hqueue : s.alive = true → ∃ front, front.length = count ∧ s.Queues late front) :
    (s.work count).running = none ∧ kept (s.work count) ∧
      ((s.work count).alive = true → ∀ job ∈ (s.work count).queue, late job) := by
  induction count generalizing s with
  | zero =>
    refine ⟨hidle, hkept, fun halive => ?_⟩
    obtain ⟨front, hfront, back, hsplit, hback⟩ := hqueue halive
    rw [work, hsplit, List.length_eq_zero_iff.mp hfront]
    exact hback
  | succ count ih =>
    rw [work]
    cases halive : s.alive with
    | false =>
      -- A dead engine takes nothing, and what is left of the queue does not matter.
      have hdispatch : s.dispatch = s := s.dispatch_or.resolve_right fun h =>
        absurd (halive.symm.trans h.2.1) Bool.false_ne_true
      have hcomplete : s.complete = s := by rw [complete, hidle]
      rw [hdispatch, hcomplete]
      exact ih hidle hkept fun halive' => absurd (halive.symm.trans halive') Bool.false_ne_true
    | true =>
      obtain ⟨front, hfront, back, hsplit, hback⟩ := hqueue halive
      obtain ⟨job, front, rfl⟩ := List.exists_cons_of_length_eq_add_one hfront
      obtain ⟨hkept', added, hrest, hadded⟩ :=
        hleaves s job (front ++ back) hkept hidle halive hsplit
      refine ih (running_complete _) hkept' fun _ => ?_
      refine ⟨front, Nat.succ.inj hfront, back ++ added, ?_, ?_⟩
      · rw [hrest, List.append_assoc]
      · exact List.forall_mem_append.mpr ⟨hback, hadded⟩

/-- A sweep leaves the calls that the swept ones put on the queue. -/
theorem sweep_leaves {kept : Service σ α → Prop} {late : Job σ α → Prop}
    (hleaves : Leaves kept late) (hidle : s.running = none) (hkept : kept s) :
    s.sweep.running = none ∧ kept s.sweep ∧
      (s.sweep.alive = true → ∀ job ∈ s.sweep.queue, late job) :=
  work_leaves hleaves hidle hkept fun _ => ⟨s.queue, rfl, .of_eq rfl⟩

/-- The engine of a service that nobody holds is at rest after one sweep. -/
theorem sweep_free (hidle : s.running = none) (hfree : s.held = false) :
    s.sweep.AtRest ∧ s.sweep.held = false := by
  have hleaves : Leaves (fun s : Service σ α => s.held = false) fun _ => False := by
    intro s job queue hfree hidle halive hqueue
    have hdispatch := dispatch_eq hidle halive hqueue
    obtain ⟨hheld, hrest⟩ := complete_free (s := s.dispatch) (by rwa [hdispatch])
    exact ⟨hheld, .of_eq (by rw [hrest, hdispatch])⟩
  obtain ⟨hrunning, hheld, hqueue⟩ := sweep_leaves hleaves hidle hfree
  exact ⟨⟨hrunning, fun halive => List.eq_nil_iff_forall_not_mem.mpr (hqueue halive)⟩, hheld⟩

end Service

namespace ClosingService

open SharedService (Mark)

variable {capacity : Nat} {firstId : UInt64} {engine : σ} {c : ClosingService σ α}
  {log : List (Mark σ α)} {issued : List (UInt64 → Callable σ α)} {s s' : Service σ α}

/-! ## Histories of a service -/

/-- There is a history in which a service comes to a state. -/
def Attains (c : ClosingService σ α) (s : Service σ α) : Prop :=
  ∃ history, (c.live history).1.shared.service = s

/-- What a service comes to from a state that it comes to, it comes to. -/
theorem Sound.attains_trans (h : Sound capacity firstId engine c log issued) (hs : Attains c s)
    (hnext : ∀ {c log issued}, Sound capacity firstId engine c log issued →
      c.shared.service = s → Attains c s') : Attains c s' := by
  obtain ⟨history, hhistory⟩ := hs
  obtain ⟨later, hlater⟩ := hnext (h.live history) hhistory
  exact ⟨history ++ later, by rw [live_append]; exact hlater⟩

theorem attains_complete (c : ClosingService σ α) : Attains c c.shared.service.complete := by
  refine Service.complete_induct (fun s h => ?_) ⟨[], rfl⟩
  obtain ⟨history, rfl⟩ := h
  refine ⟨history ++ [.event .advance], ?_⟩
  rw [live_append]
  exact congrArg SharedService.service (c.live history).1.advance_shared

theorem Sound.attains_dispatch (h : Sound capacity firstId engine c log issued) :
    Attains c c.shared.service.dispatch := by
  rcases c.shared.service.dispatch_or with hsame | ⟨hidle, halive, job, queue, hqueue⟩
  · exact ⟨[], hsame.symm⟩
  · refine ⟨[.event .dispatch], ?_⟩
    change c.take.1.shared.service = _
    rw [take_eq_of_call hidle halive hqueue h.tidy, Service.dispatch_eq hidle halive hqueue]
    rfl

theorem Sound.attains_work (h : Sound capacity firstId engine c log issued) (count : Nat) :
    Attains c (c.shared.service.work count) := by
  induction count generalizing c log issued with
  | zero => exact ⟨[], rfl⟩
  | succ count ih =>
    have hround : Attains c c.shared.service.dispatch.complete :=
      h.attains_trans h.attains_dispatch fun {c} _ _ _ hs => hs ▸ c.attains_complete
    refine h.attains_trans hround fun h' hs => ?_
    rw [Service.work, ← hs]
    exact ih h'

/-- An engine that empties its queue at one go does so in turns. -/
theorem Sound.attains_settle (h : Sound capacity firstId engine c log issued) :
    Attains c c.shared.service.settle := by
  have hswept : Attains c c.shared.service.complete.sweep :=
    h.attains_trans c.attains_complete fun h' hs => hs ▸ h'.attains_work _
  refine h.attains_trans hswept fun h' hs => ?_
  rw [Service.settle, ← hs]
  exact h'.attains_work _

theorem close_service (c : ClosingService σ α) :
    c.close.shared.service = { c.shared.service with held := false } := by
  unfold close
  split
  · rw [send_shared]
    rfl
  · rename_i hheld
    rw [← Bool.eq_false_iff.mpr hheld]

/-- The engine of a service that is left with nothing to do ends, or it has died. -/
theorem Sound.attains_stop (h : Sound capacity firstId engine c log issued)
    (hrest : c.shared.service.AtRest) (hfree : c.shared.service.held = false) :
    Attains c c.shared.service.stop := by
  cases halive : c.shared.service.alive with
  | false =>
    refine ⟨[.discard], ?_⟩
    change c.shared.service.discard = _
    rw [Service.discard, halive]
    rfl
  | true =>
    have hqueue := hrest.queue halive
    have hvacant : Vacant c := ⟨hrest.running, halive, hqueue, hfree⟩
    have hending : (c.send.stop.isSome || !c.send.connected) = true := by
      rcases hvacant.ending_send h with hstop | hconnected
      · rw [hstop]
        rfl
      · rw [hconnected, Bool.not_false, Bool.or_true]
    refine ⟨[.send, .event .dispatch], ?_⟩
    change c.send.take.1.shared.service = _
    have hsame := c.send_shared
    rw [take_eq_of_empty (by rw [hsame, hvacant.running]) (by rw [hsame, halive])
      (by rw [hsame, hqueue]), if_pos hending]
    change { c.send.shared.service with alive := false } = _
    rw [hsame, Service.stop, hqueue, List.foldl_nil, ← hqueue]

/-- A service that is closed at one go is closed in turns of its engine. -/
theorem Sound.attains_close (h : Sound capacity firstId engine c log issued) :
    Attains c c.shared.service.close := by
  have hfreed : Attains c { c.shared.service with held := false } := ⟨[.close], c.close_service⟩
  have hcomplete : Attains c (Service.complete { c.shared.service with held := false }) :=
    h.attains_trans hfreed fun {c} _ _ _ hs => hs ▸ c.attains_complete
  have hswept : Attains c (Service.complete { c.shared.service with held := false }).sweep :=
    h.attains_trans hcomplete fun h' hs => hs ▸ h'.attains_work _
  refine h.attains_trans hswept fun h' hs => ?_
  have hfree := (Service.complete_free (s := { c.shared.service with held := false }) rfl).1
  obtain ⟨hrest, hheld⟩ := Service.sweep_free (Service.running_complete _) hfree
  rw [Service.close, ← hs]
  exact h'.attains_stop (hs ▸ hrest) (hs ▸ hheld)

end ClosingService

end ScriptHost
