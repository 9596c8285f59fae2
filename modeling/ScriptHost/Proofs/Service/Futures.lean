import ScriptHost.Service.Lifetime

/-!
# What becomes of futures

Whoever still waits for a call that is over is given its record, and nobody else is given anything.

* `Service.Closes` : the futures of some calls are resolved.
* `Service.closes_deliver`, `Service.closes_strandAll`, `SharedService.closes_turnAway` : when a
  call comes to its end, when calls are stranded, when a call is turned away.
-/

namespace ScriptHost

variable {σ α : Type}

namespace Service

variable {s s' s'' : Service σ α} {closed closed' : List Nat} {outcome : Nat → Record α → Prop}

theorem future?_setFuture_of_ne {ticket other : Nat} (h : ticket ≠ other) (future : Future α) :
    (s.setFuture ticket future).future? other = s.future? other :=
  Array.getElem?_setIfInBounds_ne h

theorem future?_setFuture_self {ticket : Nat} (h : ticket < s.futures.size) (future : Future α) :
    (s.setFuture ticket future).future? ticket = some future :=
  Array.getElem?_setIfInBounds_self_of_lt h

theorem lt_of_future? {ticket : Nat} {future : Future α} (h : s.future? ticket = some future) :
    ticket < s.futures.size := by
  obtain ⟨hlt, -⟩ := Array.getElem?_eq_some_iff.mp h
  exact hlt

theorem record?_eq_some {ticket : Nat} {record : Record α} :
    s.record? ticket = some record ↔ s.future? ticket = some (.resolved record) := by
  unfold record?
  split <;> simp_all

/-- Of some calls, those for which somebody still waits are given a record. -/
def Closes (s s' : Service σ α) (closed : List Nat) (outcome : Nat → Record α → Prop) : Prop :=
  ∀ ticket, s'.future? ticket = s.future? ticket ∧
      (s.future? ticket = some .waiting → ticket ∉ closed) ∨
    ticket ∈ closed ∧ ∃ record, s'.future? ticket = some (.resolved record) ∧ outcome ticket record

theorem closes_of_eq (h : s'.futures = s.futures) : Closes s s' [] outcome := by
  intro ticket
  refine .inl ⟨?_, fun _ => List.not_mem_nil⟩
  rw [future?, h, future?]

/-- One call is given its record. -/
theorem closes_setFuture {ticket : Nat} (hlt : ticket < s.futures.size) {record : Record α}
    (h : outcome ticket record) :
    Closes s (s.setFuture ticket (.resolved record)) [ticket] outcome := by
  intro other
  by_cases hother : ticket = other
  · subst hother
    exact .inr ⟨List.mem_cons_self, record, future?_setFuture_self hlt _, h⟩
  · refine .inl ⟨future?_setFuture_of_ne hother _, fun _ hmem => ?_⟩
    exact hother (List.mem_singleton.mp hmem).symm

/-- One call, for which nobody waits, is passed over. -/
theorem closes_of_not_waiting {ticket : Nat} (h : s.future? ticket ≠ some .waiting)
    (hs' : s'.futures = s.futures) : Closes s s' [ticket] outcome := by
  intro other
  refine .inl ⟨by rw [future?, hs', future?], fun hwaiting hmem => ?_⟩
  exact h (List.mem_singleton.mp hmem ▸ hwaiting)

theorem Closes.trans (h : Closes s s' closed outcome) (h' : Closes s' s'' closed' outcome) :
    Closes s s'' (closed ++ closed') outcome := by
  intro ticket
  rcases h ticket with ⟨hsame, hopen⟩ | ⟨hclosed, record, hrecord, houtcome⟩
  · rcases h' ticket with ⟨hsame', hopen'⟩ | ⟨hclosed', later⟩
    · refine .inl ⟨hsame'.trans hsame, fun hwaiting hmem => ?_⟩
      rcases List.mem_append.mp hmem with hmem | hmem
      · exact hopen hwaiting hmem
      · exact hopen' (hsame.trans hwaiting) hmem
    · exact .inr ⟨List.mem_append_right _ hclosed', later⟩
  · refine .inr ⟨List.mem_append_left _ hclosed, ?_⟩
    rcases h' ticket with ⟨hsame', -⟩ | ⟨-, later⟩
    · exact ⟨record, hsame'.trans hrecord, houtcome⟩
    · exact later

/-! ## Calls that come to their end -/

theorem deliver_eq (s : Service σ α) (job : Job σ α) (record : Record α) :
    ∃ alive stats futures, s.deliver job record = { s with alive, stats, futures } ∧
      futures.size = s.futures.size ∧ (alive = true → s.alive = true) := by
  unfold deliver
  split
  · exact ⟨s.alive, s.stats, _, rfl, Array.size_setIfInBounds, id⟩
  · split
    · exact ⟨false, s.stats, s.futures, rfl, rfl, fun h => absurd h Bool.false_ne_true⟩
    · exact ⟨s.alive, _, s.futures, rfl, rfl, id⟩

theorem finish_eq (s : Service σ α) (running : Running σ α) (ending : Ending α) :
    ∃ alive stats futures,
      s.finish running ending = { s with running := none, alive, stats, futures } ∧
        futures.size = s.futures.size ∧ (alive = true → s.alive = true) := by
  obtain ⟨alive, stats, futures, hdeliver, hsize, halive⟩ := deliver_eq
    { s with running := none, stats := s.stats.record ending.result } running.job _
  exact ⟨alive, stats, futures, hdeliver, hsize, halive⟩

/-- Delivering a record counts no call twice. -/
theorem deliver_counts (s : Service σ α) (job : Job σ α) (record : Record α) :
    (s.deliver job record).stats.completed = s.stats.completed ∧
      (s.deliver job record).stats.failed = s.stats.failed := by
  unfold deliver
  split
  · exact ⟨rfl, rfl⟩
  · split <;> exact ⟨rfl, rfl⟩

/-- A call that comes to its end is counted, and a failed one among the failed. -/
theorem finish_counts (s : Service σ α) (running : Running σ α) (ending : Ending α) :
    (s.finish running ending).stats.completed = s.stats.completed + 1 ∧
      (s.finish running ending).stats.failed =
        s.stats.failed + (if ending.result.isOk then 0 else 1) :=
  deliver_counts { s with running := none, stats := s.stats.record ending.result } running.job _

theorem closes_deliver (s : Service σ α) (job : Job σ α) {record : Record α}
    (h : outcome job.ticket record) : Closes s (s.deliver job record) [job.ticket] outcome := by
  unfold deliver
  split
  · rename_i hwaiting
    exact closes_setFuture (lt_of_future? hwaiting) h
  · rename_i hwaiting
    split
    · exact closes_of_not_waiting hwaiting rfl
    · exact closes_of_not_waiting hwaiting rfl

/-! ## Calls that are stranded -/

theorem strand_eq (s : Service σ α) (job : Job σ α) :
    ∃ futures, s.strand job = { s with futures } ∧ futures.size = s.futures.size := by
  unfold strand
  split
  · exact ⟨_, rfl, Array.size_setIfInBounds⟩
  · exact ⟨s.futures, rfl, rfl⟩

theorem strandAll_eq (s : Service σ α) (jobs : List (Job σ α)) :
    ∃ futures, jobs.foldl strand s = { s with futures } ∧ futures.size = s.futures.size := by
  induction jobs generalizing s with
  | nil => exact ⟨s.futures, rfl, rfl⟩
  | cons job jobs ih =>
    obtain ⟨futures, hfirst, hsize⟩ := s.strand_eq job
    obtain ⟨futures', hrest, hsize'⟩ := ih (s.strand job)
    refine ⟨futures', ?_, ?_⟩
    · rw [List.foldl_cons, hrest, hfirst]
    · rw [hsize', hfirst, hsize]

theorem closes_strand (s : Service σ α) (job : Job σ α)
    (h : outcome job.ticket (.rejected job.id .shutdown)) :
    Closes s (s.strand job) [job.ticket] outcome := by
  unfold strand
  split
  · rename_i hwaiting
    exact closes_setFuture (lt_of_future? hwaiting) h
  · rename_i hwaiting
    exact closes_of_not_waiting hwaiting rfl

theorem closes_strandAll (s : Service σ α) (jobs : List (Job σ α))
    (h : ∀ job ∈ jobs, outcome job.ticket (.rejected job.id .shutdown)) :
    Closes s (jobs.foldl strand s) (jobs.map Job.ticket) outcome := by
  induction jobs generalizing s with
  | nil => exact closes_of_eq rfl
  | cons job jobs ih =>
    have hfirst := closes_strand s job (h job List.mem_cons_self)
    have hrest := ih (s.strand job) fun other hother => h other (List.mem_cons_of_mem _ hother)
    exact hfirst.trans hrest

end Service

/-! ## Calls that are turned away -/

theorem SharedService.closes_turnAway {s : Service σ α} {job : Job σ α} {failure : Failure}
    {outcome : Nat → Record α → Prop} (hlt : job.ticket < s.futures.size)
    (h : outcome job.ticket (.rejected job.id failure)) :
    s.Closes (turnAway s job failure) [job.ticket] outcome :=
  Service.closes_setFuture (s := { s with stats := _ }) hlt h

end ScriptHost
