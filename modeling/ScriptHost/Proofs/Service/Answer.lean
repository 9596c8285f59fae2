import ScriptHost.Proofs.Service.Lived

/-!
# Records of submissions

A call that comes to its end has a record of its course. Any other call that is over has a record
that says why it was not run to its end. Calls that are not over have none.

* `SharedService.Ran`, `SharedService.Unran` : what the two forms of a record tell.
* `SharedService.Answered` : every record has one of these forms, and no record comes too early.
* `SharedService.Passes.answered_kept` : small steps keep it so, and records as well.
-/

namespace ScriptHost.SharedService

open Service (Closes)

variable {σ α : Type} {capacity : Nat} {firstId : UInt64} {engine : σ} {b b' : SharedService σ α}
  {log marks : List (Mark σ α)} {calls issued : List (UInt64 → Callable σ α)} {ticket : Nat}
  {record : Record α}

/-! ## The forms of a record -/

/-- The record of a call that came to its end tells its course from the state in which the calls
before it had left the engine. -/
def Ran (engine : σ) (log : List (Mark σ α)) (ticket : Nat) (record : Record α) : Prop :=
  ∃ before job after labels ending,
    started log = before ++ job :: after ∧ job.ticket = ticket ∧
    (∀ other ∈ before ++ [job], other.ticket ∈ finished log) ∧
    job.body.course (answersTo log ticket) (effects log before engine) = some (labels, ending) ∧
    record = .ofCourse job.id labels ending

/-- The record of a call that did not come to its end, because it was refused, or because the engine
died in the middle of it or before it. -/
def Unran (firstId : UInt64) (b : SharedService σ α) (log : List (Mark σ α)) (ticket : Nat)
    (record : Record α) : Prop :=
  ticket ∉ finished log ∧ ∃ failure,
    record = .rejected (firstId + UInt64.ofNat ticket) failure ∧
    (.refused ticket failure ∈ log ∧ (failure = .queueFull ∨ failure = .shutdown) ∨
      b.service.alive = false ∧ failure = .shutdown)

def Outcome (firstId : UInt64) (engine : σ) (b : SharedService σ α) (log : List (Mark σ α))
    (ticket : Nat) (record : Record α) : Prop :=
  Ran engine log ticket record ∨ Unran firstId b log ticket record

theorem Ran.append (h : Ran engine log ticket record)
    (hmarks : ∀ other ∈ finished log, answersTo marks other = []) :
    Ran engine (log ++ marks) ticket record := by
  obtain ⟨before, job, after, labels, ending, hstarted, rfl, hfinished, hcourse, hrecord⟩ := h
  refine ⟨before, job, after ++ started marks, labels, ending, ?_, rfl, ?_, ?_, hrecord⟩
  · rw [started_append, hstarted, List.append_assoc, List.cons_append]
  · intro other hother
    rw [finished_append]
    exact List.mem_append_left _ (hfinished other hother)
  · have hjob := hmarks _ (hfinished job (List.mem_append_right _ List.mem_cons_self))
    have hbefore : ∀ other ∈ before, answersTo marks other.ticket = [] := fun other hother =>
      hmarks _ (hfinished other (List.mem_append_left _ hother))
    rw [answersTo_append, hjob, List.append_nil, effects_append hbefore, hcourse]

theorem Unran.append (h : Unran firstId b log ticket record)
    (halive : b'.service.alive = true → b.service.alive = true)
    (hmarks : ticket ∉ finished marks) : Unran firstId b' (log ++ marks) ticket record := by
  obtain ⟨hfinished, failure, hrecord, hreason⟩ := h
  refine ⟨?_, failure, hrecord, ?_⟩
  · rw [finished_append]
    exact List.not_mem_append hfinished hmarks
  · rcases hreason with ⟨hmem, hfailure⟩ | ⟨hdead, hfailure⟩
    · exact .inl ⟨List.mem_append_left _ hmem, hfailure⟩
    · refine .inr ⟨?_, hfailure⟩
      rw [← Bool.not_eq_true] at hdead ⊢
      exact mt halive hdead

/-- The running call, when it comes to its end, has done its course. -/
theorem Coursing.ran (hcoursing : Coursing engine b log) (hlived : Lived capacity engine b log)
    {running : Running σ α} {ending : Ending α} (hsome : b.service.running = some running)
    (hbody : running.job.body = .finish ending) :
    Ran engine (log ++ [.finished running.job.ticket]) running.job.ticket
      { id := running.job.id
        labels := (Label.ofResult ending.result :: running.labels).reverse
        result := ending.result } := by
  obtain ⟨before, job, labels, hlast, hticket, hid, hlabels, hcourse⟩ := hcoursing running hsome
  have hturns := (hlived.ordered_of_running hsome).serial.turns
  rw [hlast, List.map_append, hsome] at hturns
  obtain ⟨hbefore, -⟩ := List.append_inj' hturns rfl
  refine ⟨before, job, [], labels, ending, ?_, hticket, ?_, ?_, ?_⟩
  · rw [started_append, hlast]
    exact List.append_nil _
  · intro other hother
    rw [finished_append, ← hbefore]
    rcases List.mem_append.mp hother with hother | hother
    · exact List.mem_append_left _ (List.mem_map_of_mem hother)
    · rw [List.mem_singleton.mp hother, hticket]
      exact List.mem_append_right _ List.mem_cons_self
  · have hrest := hcourse []
    rw [hbody, List.append_nil, hticket] at hrest
    rw [effects_append fun _ _ => rfl, answersTo_append]
    refine Eq.trans (congrArg (job.body.course · _) (List.append_nil _)) (hrest.trans ?_)
    simp [Callable.course, Callable.recorded]
  · rw [List.reverse_cons, hlabels, hid]
    rfl

theorem Ran.mem_finished (h : Ran engine log ticket record) : ticket ∈ finished log := by
  obtain ⟨before, job, -, -, -, -, rfl, hfinished, -⟩ := h
  exact hfinished job (List.mem_append_right _ List.mem_cons_self)

/-- A call with a ticket of its own has one place among others. -/
theorem split_unique {before before' after after' : List (Job σ α)} {job job' : Job σ α}
    (h : before ++ job :: after = before' ++ job' :: after') (hticket : job.ticket = job'.ticket)
    (hdistinct : ((before ++ job :: after).map Job.ticket).Nodup) :
    before = before' ∧ job = job' := by
  have hlt : before.length < ((before ++ job :: after).map Job.ticket).length := by simp
  have hplace : ((before ++ job :: after).map Job.ticket)[before.length]? = some job.ticket := by
    simp
  have hplace' : ((before ++ job :: after).map Job.ticket)[before'.length]? = some job.ticket := by
    simp [h, hticket]
  have hlength := (List.getElem?_inj hlt hdistinct).mp (hplace.trans hplace'.symm)
  obtain ⟨hbefore, hrest⟩ := List.append_inj h hlength
  exact ⟨hbefore, (List.cons.inj hrest).1⟩

/-- A call that came to its end has one record. -/
theorem Ran.unique {record' : Record α} (h : Ran engine log ticket record)
    (h' : Ran engine log ticket record') (hdistinct : ((started log).map Job.ticket).Nodup) :
    record = record' := by
  obtain ⟨before, job, after, labels, ending, hstarted, hticket, -, hcourse, rfl⟩ := h
  obtain ⟨before', job', after', labels', ending', hstarted', hticket', -, hcourse', rfl⟩ := h'
  obtain ⟨rfl, rfl⟩ := split_unique (hstarted.symm.trans hstarted')
    (hticket.trans hticket'.symm) (hstarted ▸ hdistinct)
  obtain ⟨rfl, rfl⟩ := Prod.mk.inj (Option.some.inj (hcourse.symm.trans hcourse'))
  rfl

/-! ## What callers are told -/

/-- Calls without an end have no record, and only for them somebody may still wait. -/
structure Answered (firstId : UInt64) (engine : σ) (b : SharedService σ α)
    (log : List (Mark σ α)) : Prop where
  unresolved : ∀ ticket ∈ pending b, b.service.record? ticket = none
  waiting : ∀ ticket, b.service.future? ticket = some .waiting → ticket ∈ pending b
  records : ∀ ticket record, b.service.record? ticket = some record →
    Outcome firstId engine b log ticket record

/-- Records are there for good. -/
def Kept (b b' : SharedService σ α) : Prop :=
  ∀ ticket record, b.service.record? ticket = some record →
    b'.service.record? ticket = some record

namespace Answered

theorem start (capacity : Nat) (firstId : UInt64) (engine : σ) :
    Answered firstId engine (SharedService.start capacity firstId engine : SharedService σ α)
      [] where
  unresolved _ h := by cases h
  waiting _ h := by cases h
  records _ _ h := by cases h

/-- A step by which no call comes to be over. -/
theorem quiet (h : Answered firstId engine b log)
    (hrecord : ∀ ticket, b'.service.record? ticket = b.service.record? ticket)
    (hpending : ∀ ticket ∈ pending b, ticket ∈ pending b')
    (hnew : ∀ ticket ∈ pending b', ticket ∈ pending b ∨ b.service.record? ticket = none)
    (hwaiting : ∀ ticket, b'.service.future? ticket = some .waiting →
      b.service.future? ticket = some .waiting ∨ ticket ∈ pending b')
    (halive : b'.service.alive = true → b.service.alive = true) :
    Answered firstId engine b' (log ++ []) ∧ Kept b b' := by
  refine ⟨⟨?_, ?_, ?_⟩, ?_⟩
  · intro ticket hticket
    rw [hrecord]
    exact (hnew ticket hticket).elim (h.unresolved ticket) id
  · intro ticket hticket
    exact (hwaiting ticket hticket).elim (fun h' => hpending _ (h.waiting ticket h')) id
  · intro ticket record hticket
    rw [hrecord] at hticket
    have houtcome := h.records ticket record hticket
    exact houtcome.imp (·.append fun _ _ => rfl) (·.append halive List.not_mem_nil)
  · intro ticket record hticket
    exact (hrecord ticket).trans hticket

/-- A step by which some calls come to be over, and get their records. -/
theorem close (h : Answered firstId engine b log) (hlived : Lived capacity engine b log)
    {closed : List Nat} (hpending : (pending b).Perm (closed ++ pending b'))
    (hcloses : b.service.Closes b'.service closed (Outcome firstId engine b' (log ++ marks)))
    (halive : b'.service.alive = true → b.service.alive = true)
    (hanswers : ∀ ticket ∈ finished log, answersTo marks ticket = [])
    (hfinished : ∀ ticket ∈ finished marks, ticket ∈ pending b) :
    Answered firstId engine b' (log ++ marks) ∧ Kept b b' := by
  have hdistinct := (List.nodup_append.mp hlived.nodup_pending).2.1
  rw [hpending.nodup_iff, List.nodup_append] at hdistinct
  have hkept : Kept b b' := by
    intro ticket record hrecord
    have hpast : ticket ∉ pending b := by
      intro hmem
      rw [h.unresolved ticket hmem] at hrecord
      cases hrecord
    rw [Service.record?_eq_some] at hrecord ⊢
    rcases hcloses ticket with ⟨hsame, -⟩ | ⟨hclosed, -⟩
    · exact hsame.trans hrecord
    · exact absurd (hpending.mem_iff.mpr (List.mem_append_left _ hclosed)) hpast
  refine ⟨⟨?_, ?_, ?_⟩, hkept⟩
  · intro ticket hticket
    have hold := h.unresolved ticket (hpending.mem_iff.mpr (List.mem_append_right _ hticket))
    rcases hcloses ticket with ⟨hsame, -⟩ | ⟨hclosed, -⟩
    · rw [Service.record?, hsame, ← Service.record?, hold]
    · exact absurd rfl (hdistinct.2.2 ticket hclosed ticket hticket)
  · intro ticket hwaiting
    rcases hcloses ticket with ⟨hsame, hopen⟩ | ⟨-, record, hrecord, -⟩
    · have hold := hsame.symm.trans hwaiting
      have hmem := hpending.mem_iff.mp (h.waiting ticket hold)
      exact (List.mem_append.mp hmem).resolve_left (hopen hold)
    · cases hrecord.symm.trans hwaiting
  · intro ticket record hrecord
    rw [Service.record?_eq_some] at hrecord
    rcases hcloses ticket with ⟨hsame, -⟩ | ⟨-, other, hother, houtcome⟩
    · have hold := Service.record?_eq_some.mpr (hsame.symm.trans hrecord)
      have hunfinished : ticket ∉ finished marks := by
        intro hmem
        rw [h.unresolved ticket (hfinished ticket hmem)] at hold
        cases hold
      exact (h.records ticket record hold).imp (·.append hanswers) (·.append halive hunfinished)
    · have hsame := Option.some.inj (hother.symm.trans hrecord)
      obtain rfl : other = record := Future.resolved.inj hsame
      exact houtcome

/-- A step that changes no future. -/
theorem same (h : Answered firstId engine b log) (hlived : Lived capacity engine b log)
    (hpending : (pending b).Perm (pending b')) (hfutures : b'.service.futures = b.service.futures)
    (halive : b'.service.alive = b.service.alive)
    (hanswers : ∀ ticket ∈ finished log, answersTo marks ticket = [])
    (hfinished : finished marks = []) :
    Answered firstId engine b' (log ++ marks) ∧ Kept b b' := by
  apply h.close hlived hpending (Service.closes_of_eq hfutures) (fun h' => halive ▸ h') hanswers
  intro ticket hticket
  rw [hfinished] at hticket
  cases hticket

end Answered

/-! ## Small steps -/

theorem Numbered.lt (h : Numbered firstId b log issued) {job : Job σ α}
    (hjob : job ∈ accepted log ++ b.waiting) : job.ticket < b.service.futures.size := by
  obtain ⟨-, call, hcall, -⟩ := h.jobs job hjob
  obtain ⟨hlt, -⟩ := List.getElem?_eq_some_iff.mp hcall
  rwa [h.size]

/-- A call that is over before it came to its end. -/
theorem unran_of_pending (hlived : Lived capacity engine b log) (hticket : ticket ∈ pending b)
    {id : UInt64} (hid : id = firstId + UInt64.ofNat ticket) {failure : Failure}
    (hmarks : finished marks = [])
    (hreason : .refused ticket failure ∈ marks ∧ (failure = .queueFull ∨ failure = .shutdown) ∨
      b'.service.alive = false ∧ failure = .shutdown) :
    Outcome firstId engine b' (log ++ marks) ticket (.rejected id failure) := by
  have hdistinct := (List.nodup_append.mp hlived.nodup_pending).2.2
  refine .inr ⟨?_, failure, by rw [hid], hreason.imp_left (And.imp_left (List.mem_append_right _))⟩
  rw [finished_append, hmarks, List.append_nil]
  exact fun hmem => hdistinct _ hmem _ hticket rfl

/-- A submission of the running call is not answered to a call that came to its end. -/
theorem Lived.answersTo_of_finished (h : Lived capacity engine b log) {running : Running σ α}
    (hsome : b.service.running = some running) {other : Nat} (hother : other ∈ finished log)
    (ticket : Nat) (refusal : Option Failure) :
    answersTo [(Mark.answered running.job.ticket ticket refusal : Mark σ α)] other = [] := by
  apply answersTo_answered_of_ne
  rintro rfl
  refine (List.nodup_append.mp h.nodup_pending).2.2 _ hother running.job.ticket ?_ rfl
  rw [pending, hsome]
  exact List.mem_cons_self

namespace Answered

theorem calm (h : Answered firstId engine b log) {s' : Service σ α} (hs' : b.service.Calm s') :
    Answered firstId engine { b with service := s' } (log ++ []) ∧
      Kept b { b with service := s' } := by
  have hpending : pending { b with service := s' } = pending b := by
    simp only [pending, hs'.running, hs'.queue]
  apply h.quiet
  · intro ticket
    rcases hs'.future ticket with hsame | ⟨hwaiting, hdropped⟩
    · rw [Service.record?, hsame, Service.record?]
    · rw [Service.record?, hdropped, Service.record?, hwaiting]
  · exact fun ticket => hpending ▸ id
  · exact fun ticket hticket => .inl (hpending ▸ hticket)
  · intro ticket hticket
    rcases hs'.future ticket with hsame | ⟨-, hdropped⟩
    · exact .inl (hsame.symm.trans hticket)
    · cases hdropped.symm.trans hticket
  · exact hs'.alive

theorem ask (h : Answered firstId engine b log) (call : UInt64 → Callable σ α) (lethal : Bool) :
    let b' : SharedService σ α :=
      { service := (b.service.prepare call lethal).2.count
        waiting := b.waiting ++ [(b.service.prepare call lethal).1] }
    Answered firstId engine b' (log ++ []) ∧ Kept b b' := by
  intro b'
  have hfuture : ∀ ticket, b'.service.future? ticket =
      if ticket = b.service.futures.size then some .waiting else b.service.future? ticket :=
    fun _ => Array.getElem?_push
  have hnone : b.service.record? b.service.futures.size = none := by
    rw [Service.record?, Service.future?, Array.getElem?_eq_none (Nat.le_refl _)]
  have hpending : ∀ ticket, ticket ∈ pending b' ↔
      ticket ∈ pending b ∨ ticket = b.service.futures.size := by
    intro ticket
    simp only [pending, b', List.map_append, List.map_singleton, ← List.append_assoc]
    rw [List.mem_append, List.mem_singleton]
    rfl
  apply h.quiet
  · intro ticket
    by_cases hticket : ticket = b.service.futures.size
    · rw [Service.record?, hfuture, if_pos hticket, hticket, hnone]
    · rw [Service.record?, hfuture, if_neg hticket, Service.record?]
  · exact fun ticket hticket => (hpending ticket).mpr (.inl hticket)
  · intro ticket hticket
    rcases (hpending ticket).mp hticket with hold | rfl
    · exact .inl hold
    · exact .inr hnone
  · intro ticket hticket
    rw [hfuture] at hticket
    by_cases hnew : ticket = b.service.futures.size
    · exact .inr ((hpending ticket).mpr (.inr hnew))
    · exact .inl (by rwa [if_neg hnew] at hticket)
  · exact id

theorem letIn (h : Answered firstId engine b log) (hlived : Lived capacity engine b log)
    {job : Job σ α} {waiting : List (Job σ α)} (hjob : b.waiting.Perm (job :: waiting)) :
    Answered firstId engine { service := b.service.push job, waiting } (log ++ [.accepted job]) ∧
      Kept b { service := b.service.push job, waiting } := by
  refine h.same hlived ?_ rfl rfl (fun _ _ => rfl) rfl
  apply List.Perm.append_left
  simp only [Service.push, List.map_append, List.append_assoc]
  exact (hjob.map Job.ticket).append_left _

theorem turnAway (h : Answered firstId engine b log) (hlived : Lived capacity engine b log)
    (hnumbered : Numbered firstId b log issued) {job : Job σ α} {waiting : List (Job σ α)}
    {failure : Failure} (hjob : b.waiting.Perm (job :: waiting))
    (hfailure : failure = .queueFull ∨ failure = .shutdown) :
    let b' : SharedService σ α :=
      { service := SharedService.turnAway b.service job failure, waiting }
    Answered firstId engine b' (log ++ [.refused job.ticket failure]) ∧ Kept b b' := by
  intro b'
  have hmem : job ∈ b.waiting := hjob.mem_iff.mpr List.mem_cons_self
  have hnamed := hnumbered.jobs job (List.mem_append_right _ hmem)
  have hticket : job.ticket ∈ pending b :=
    List.mem_append_right _ (List.mem_append_right _ (List.mem_map_of_mem hmem))
  have hpending : (pending b).Perm ([job.ticket] ++ pending b') := by
    have hwaiting : (b.waiting.map Job.ticket).Perm (job.ticket :: waiting.map Job.ticket) :=
      hjob.map Job.ticket
    have hqueued := (hwaiting.append_left (b.service.queue.map Job.ticket)).trans List.perm_middle
    exact (hqueued.append_left _).trans List.perm_middle
  apply h.close hlived hpending
  · apply closes_turnAway (hnumbered.lt (List.mem_append_right _ hmem))
    exact unran_of_pending hlived hticket hnamed.1 rfl (.inl ⟨List.mem_cons_self, hfailure⟩)
  · exact id
  · exact fun _ _ => rfl
  · intro ticket hmem
    cases hmem

theorem answered (h : Answered firstId engine b log) (hlived : Lived capacity engine b log)
    {running : Running σ α} (hsome : b.service.running = some running) (body : Callable σ α)
    (ticket : Nat) (refusal : Option Failure) :
    let b' : SharedService σ α := { b with service := b.service.proceed running body }
    Answered firstId engine b' (log ++ [.answered running.job.ticket ticket refusal]) ∧
      Kept b b' := by
  refine h.same hlived ?_ rfl rfl (fun other hother => ?_) rfl
  · rw [pending, pending, hsome]
    rfl
  · exact hlived.answersTo_of_finished hsome hother ticket refusal

theorem finish (h : Answered firstId engine b log) (hlived : Lived capacity engine b log)
    (hcoursing : Coursing engine b log) {running : Running σ α} {ending : Ending α}
    (hsome : b.service.running = some running) (hbody : running.job.body = .finish ending) :
    let b' : SharedService σ α := { b with service := b.service.finish running ending }
    Answered firstId engine b' (log ++ [.finished running.job.ticket]) ∧ Kept b b' := by
  intro b'
  obtain ⟨alive, stats, futures, hfinish, -, halive⟩ := b.service.finish_eq running ending
  have hpending : (pending b).Perm ([running.job.ticket] ++ pending b') := by
    simp only [pending, b', hfinish, hsome]
    rfl
  apply h.close hlived hpending
  · exact Service.closes_deliver { b.service with running := none, stats := _ } running.job
      (.inl (hcoursing.ran hlived hsome hbody))
  · intro halive'
    exact halive (by rwa [show b'.service = _ from hfinish] at halive')
  · exact fun _ _ => rfl
  · intro ticket hmem
    obtain rfl := List.mem_singleton.mp hmem
    rw [pending, hsome]
    exact List.mem_cons_self

theorem crash (h : Answered firstId engine b log) (hlived : Lived capacity engine b log)
    (hnumbered : Numbered firstId b log issued) (hcoursing : Coursing engine b log)
    {running : Running σ α} (hsome : b.service.running = some running) :
    let b' : SharedService σ α :=
      { b with service := { b.service.strand running.job with running := none, alive := false } }
    Answered firstId engine b' (log ++ []) ∧ Kept b b' := by
  intro b'
  obtain ⟨before, job, labels, hlast, hticket, hid, -⟩ := hcoursing running hsome
  obtain ⟨futures, hstrand, -⟩ := b.service.strand_eq running.job
  have hjob : job ∈ accepted log := hlived.accepted_of_started (by simp [hlast])
  have hnumber : running.job.id = firstId + UInt64.ofNat running.job.ticket := by
    rw [← hid, ← hticket]
    exact (hnumbered.jobs job (List.mem_append_left _ hjob)).1
  have hmem : running.job.ticket ∈ pending b := by
    rw [pending, hsome]
    exact List.mem_cons_self
  have hpending : (pending b).Perm ([running.job.ticket] ++ pending b') := by
    simp only [pending, b', hstrand, hsome]
    rfl
  apply h.close hlived hpending
  · exact b.service.closes_strand running.job
      (unran_of_pending hlived hmem hnumber rfl (.inr ⟨rfl, rfl⟩))
  · exact fun halive => absurd halive Bool.false_ne_true
  · exact fun _ _ => rfl
  · intro ticket hmem
    cases hmem

theorem discard (h : Answered firstId engine b log) (hlived : Lived capacity engine b log)
    (hnumbered : Numbered firstId b log issued) (hdead : b.service.alive = false) :
    let b' : SharedService σ α := { b with service := b.service.stop }
    Answered firstId engine b' (log ++ []) ∧ Kept b b' := by
  intro b'
  obtain ⟨futures, hstrand, -⟩ := b.service.strandAll_eq b.service.queue
  have hpending : (pending b).Perm (b.service.queue.map Job.ticket ++ pending b') := by
    simp only [pending, b', Service.stop, hstrand, hlived.idle hdead]
    rfl
  apply h.close hlived hpending
  · apply b.service.closes_strandAll b.service.queue
    intro job hjob
    have haccepted : job ∈ accepted log := hlived.queued.subset (List.mem_append_right _ hjob)
    have hnamed := hnumbered.jobs job (List.mem_append_left _ haccepted)
    have hmem : job.ticket ∈ pending b :=
      List.mem_append_right _ (List.mem_append_left _ (List.mem_map_of_mem hjob))
    exact unran_of_pending hlived hmem hnamed.1 rfl (.inr ⟨rfl, rfl⟩)
  · exact fun halive => absurd halive Bool.false_ne_true
  · exact fun _ _ => rfl
  · intro ticket hmem
    cases hmem

end Answered

/-- A call that came to its end is given no more answers. -/
theorem Passes.answersTo_of_finished (h : Passes b marks calls b')
    (hlived : Lived capacity engine b log) :
    ∀ ticket ∈ finished log, answersTo marks ticket = [] := by
  induction h generalizing log with
  | answered ticket refusal hsome =>
    exact fun other hother => hlived.answersTo_of_finished hsome hother ticket refusal
  | trans h _ ih ih' =>
    intro ticket hticket
    have hlater := ih' (h.lived hlived) ticket (by
      rw [finished_append]
      exact List.mem_append_left _ hticket)
    rw [answersTo_append, ih hlived ticket hticket, hlater]
    rfl
  | _ => exact fun _ _ => rfl

theorem Passes.answered_kept (h : Passes b marks calls b') (hlived : Lived capacity engine b log)
    (hnumbered : Numbered firstId b log issued) (hcoursing : Coursing engine b log)
    (hb : Answered firstId engine b log) :
    Answered firstId engine b' (log ++ marks) ∧ Kept b b' := by
  induction h generalizing log issued with
  | calm h => exact hb.calm h
  | ask b call lethal => exact hb.ask call lethal
  | letIn hjob => exact hb.letIn hlived hjob
  | turnAway hjob hfailure => exact hb.turnAway hlived hnumbered hjob hfailure
  | @take b job queue halive hidle hqueue =>
    refine hb.same hlived ?_ rfl rfl (fun _ _ => rfl) rfl
    rw [pending, hidle, hqueue]
    rfl
  | @proceed b running labels body engine' hsome hbody =>
    refine hb.same hlived ?_ rfl rfl (fun _ _ => rfl) rfl
    rw [pending, hsome]
    rfl
  | answered ticket refusal hsome => exact hb.answered hlived hsome _ ticket refusal
  | finish hsome hbody => exact hb.finish hlived hcoursing hsome hbody
  | crash hsome => exact hb.crash hlived hnumbered hcoursing hsome
  | discard hdead => exact hb.discard hlived hnumbered hdead
  | trans h _ ih ih' =>
    obtain ⟨hmiddle, hkept⟩ := ih hlived hnumbered hcoursing hb
    obtain ⟨hend, hkept'⟩ :=
      ih' (h.lived hlived) (h.numbered hnumbered) (h.coursing hlived hcoursing) hmiddle
    rw [List.append_assoc] at hend
    exact ⟨hend, fun ticket record hrecord => hkept' ticket record (hkept ticket record hrecord)⟩

end ScriptHost.SharedService
