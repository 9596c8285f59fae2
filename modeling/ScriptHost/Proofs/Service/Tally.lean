import Mathlib.Data.List.Induction
import ScriptHost.Proofs.Service.NoneLost

/-!
# The counters of a service account for every call

Calls are counted when they are submitted, when they come to their end, when that end is a failure,
and when nobody is there any more to be told. A call whose caller waits for room in the queue is
counted from the beginning, and no longer once it is turned away.

* `SharedService.Past` : a submission that is over; its caller is told nothing else.
* `SharedService.Tallied` : what the counters say about the calls up to now.
* `SharedService.Passes.tallied` : small steps keep it so.
* `SharedService.Passes.counts_le` : they take nothing away from a counter of finished calls.
* `ClosingService.Uncounted` : what a refusal does to the counters.
* `ClosingService.calls_accounted` : the counters after any history.
-/

namespace ScriptHost

variable {σ α : Type}

/-- The record of a call that has not succeeded. -/
def Record.hasFailed (record : Record α) : Bool :=
  record.labels.getLast? == some Label.failed

theorem Record.hasFailed_eq {record : Record α} (labels : List String) {ending : Ending α}
    (h : record.labels = labels ++ [Label.ofResult ending.result]) :
    record.hasFailed = !ending.result.isOk := by
  rw [hasFailed, h, List.getLast?_concat]
  cases ending <;> rfl

/-! ## The end of a call -/

namespace Service

/-- The caller of a submission has stopped waiting for it. -/
def isForsaken (s : Service σ α) (ticket : Nat) : Bool :=
  match s.future? ticket with
  | some .dropped => true
  | _ => false

theorem isForsaken_iff {s : Service σ α} {ticket : Nat} :
    s.isForsaken ticket = true ↔ s.future? ticket = some .dropped := by
  unfold isForsaken
  split <;> simp_all

theorem isForsaken_congr {s s' : Service σ α} {ticket : Nat}
    (h : s'.future? ticket = s.future? ticket) : s'.isForsaken ticket = s.isForsaken ticket := by
  rw [isForsaken, isForsaken, h]

theorem deliver_stats (s : Service σ α) (job : Job σ α) (record : Record α) :
    ∃ abandoned, (s.deliver job record).stats = { s.stats with abandoned } ∧
      s.stats.abandoned ≤ abandoned := by
  unfold deliver
  split
  · exact ⟨_, rfl, Nat.le_refl _⟩
  · split
    · exact ⟨_, rfl, Nat.le_refl _⟩
    · exact ⟨_, rfl, Nat.le_succ _⟩

theorem finish_stats (s : Service σ α) (running : Running σ α) (ending : Ending α) :
    ∃ abandoned, (s.finish running ending).stats =
        { s.stats.record ending.result with abandoned } ∧ s.stats.abandoned ≤ abandoned :=
  deliver_stats { s with running := none, stats := s.stats.record ending.result } running.job _

/-- A caller that may wait is refused only by a service that has ended or was given up. -/
theorem closed_of_refused {s : Service σ α} {failure : Failure}
    (h : s.admission .wait = .refused failure) : (s.alive && s.held) = false := by
  unfold admission at h
  split at h
  · rename_i hclosed
    rwa [Bool.not_eq_true'] at hclosed
  · split at h <;> cases h

/-- A result that is thrown away is counted, unless it takes the engine with it. -/
theorem deliver_abandoned (s : Service σ α) {job : Job σ α} (record : Record α)
    (hopen : s.future? job.ticket = some .waiting ∨ s.future? job.ticket = some .dropped)
    (hlives : (s.deliver job record).alive = true ∨ job.lethal = false) :
    (s.deliver job record).stats.abandoned =
      s.stats.abandoned + if (s.deliver job record).isForsaken job.ticket then 1 else 0 := by
  rcases hopen with hwaiting | hdropped
  · have hdeliver : s.deliver job record = s.setFuture job.ticket (.resolved record) := by
      rw [deliver, hwaiting]
    have hfuture := future?_setFuture_self (lt_of_future? hwaiting) (.resolved record)
    rw [hdeliver, isForsaken, hfuture]
    rfl
  · have hdeliver : s.deliver job record =
        if job.lethal then { s with alive := false }
        else { s with stats := { s.stats with abandoned := s.stats.abandoned + 1 } } := by
      rw [deliver, hdropped]
    have hlethal : job.lethal = false := by
      refine hlives.elim (fun halive => ?_) id
      rw [hdeliver] at halive
      cases hlethal : job.lethal with
      | false => rfl
      | true => simp [hlethal] at halive
    rw [hlethal, if_neg Bool.false_ne_true] at hdeliver
    have hforsaken : (s.deliver job record).isForsaken job.ticket = true := by
      rw [hdeliver]
      exact isForsaken_iff.mpr hdropped
    rw [hforsaken, hdeliver]
    rfl

end Service

namespace SharedService

open Service (Closes)

variable {capacity : Nat} {firstId : UInt64} {engine : σ} {b b' : SharedService σ α}
  {log marks : List (Mark σ α)} {calls issued : List (UInt64 → Callable σ α)} {ticket : Nat}

/-! ## Submissions that are over -/

/-- A submission that is neither running nor on the queue, and whose caller does not wait for
room. -/
structure Past (b : SharedService σ α) (ticket : Nat) : Prop where
  issued : ticket < b.service.futures.size
  ended : ticket ∉ pending b

theorem Past.keep (h : Past b ticket) (hsize : b.service.futures.size ≤ b'.service.futures.size)
    (hpending : ∀ other ∈ pending b', other ∈ pending b ∨ other = b.service.futures.size) :
    Past b' ticket := by
  refine ⟨Nat.lt_of_lt_of_le h.issued hsize, fun hmem => ?_⟩
  rcases hpending ticket hmem with hold | hnew
  · exact h.ended hold
  · exact Nat.lt_irrefl _ (hnew ▸ h.issued)

/-- What is closed are calls that are not over yet. -/
theorem Past.future_of_closes (h : Past b ticket) {closed : List Nat}
    (hcloses : b.service.Closes b'.service closed fun _ _ => True)
    (hclosed : ∀ other ∈ closed, other ∈ pending b) :
    b'.service.future? ticket = b.service.future? ticket := by
  rcases hcloses ticket with ⟨hsame, -⟩ | ⟨hmem, -⟩
  · exact hsame
  · exact absurd (hclosed ticket hmem) h.ended

theorem Past.of_closes (h : Past b ticket) {closed : List Nat}
    (hsize : b'.service.futures.size = b.service.futures.size)
    (hpending : ∀ other ∈ pending b', other ∈ pending b)
    (hcloses : b.service.Closes b'.service closed fun _ _ => True)
    (hclosed : ∀ other ∈ closed, other ∈ pending b) :
    Past b' ticket ∧ b'.service.future? ticket = b.service.future? ticket :=
  ⟨h.keep (Nat.le_of_eq hsize.symm) fun other hother => .inl (hpending other hother),
    h.future_of_closes hcloses hclosed⟩

/-- A step by which no caller is told anything. -/
theorem Past.of_silent (h : Past b ticket) (hfutures : b'.service.futures = b.service.futures)
    (hpending : ∀ other ∈ pending b', other ∈ pending b) :
    Past b' ticket ∧ b'.service.future? ticket = b.service.future? ticket :=
  h.of_closes (congrArg Array.size hfutures) hpending (Service.closes_of_eq hfutures)
    (List.forall_mem_nil _)

/-- What is over stays over, and what its caller was told stays the same. -/
theorem Passes.past (h : Passes b marks calls b')
    (hsound : Sound capacity firstId engine b log issued) (hpast : Past b ticket) :
    Past b' ticket ∧ b'.service.future? ticket = b.service.future? ticket := by
  induction h generalizing log issued with
  | @calm b s' h =>
    refine ⟨hpast.keep (Nat.le_of_eq h.tickets.symm) fun other hother => .inl ?_, ?_⟩
    · simpa only [pending, h.running, h.queue] using hother
    · rcases h.future ticket with hsame | ⟨hwaiting, -⟩
      · exact hsame
      · exact absurd (hsound.answered.waiting ticket hwaiting) hpast.ended
  | ask b call lethal =>
    have hsize : b.service.futures.size ≤ (b.service.futures.push .waiting).size := by simp
    refine ⟨hpast.keep hsize fun other hother => ?_, ?_⟩
    · simpa [pending, Service.prepare, Service.count, or_assoc] using hother
    · exact (Array.getElem?_push_lt hpast.issued).trans
        (Array.getElem?_eq_getElem hpast.issued).symm
  | @letIn b job waiting hjob =>
    refine hpast.of_silent rfl fun other hother => ?_
    have hwaiting := (hjob.map Job.ticket).mem_iff (a := other)
    simp only [pending, Service.push, List.mem_append, List.map_append, List.map_cons, List.map_nil,
      List.mem_cons, List.not_mem_nil, or_false] at hother hwaiting ⊢
    tauto
  | @turnAway b job waiting failure hjob =>
    have hwaiting : ∀ other, other ∈ b.waiting.map Job.ticket ↔
        other = job.ticket ∨ other ∈ waiting.map Job.ticket := fun other =>
      (hjob.map Job.ticket).mem_iff.trans List.mem_cons
    have hmem : job ∈ b.waiting := hjob.mem_iff.mpr List.mem_cons_self
    have hlt := hsound.numbered.lt (List.mem_append_right _ hmem)
    refine hpast.of_closes Array.size_setIfInBounds (fun other hother => ?_)
      (closes_turnAway hlt trivial) fun other hother => ?_
    · simp only [pending, List.mem_append, hwaiting] at hother ⊢
      exact hother.imp_right (.imp_right .inr)
    · simp only [pending, List.mem_append, hwaiting]
      exact .inr (.inr (.inl (List.mem_singleton.mp hother)))
  | @take b job queue halive hidle hqueue =>
    refine hpast.of_silent rfl fun other hother => ?_
    simpa [pending, hidle, hqueue] using hother
  | @proceed b running labels body engine' hsome hbody =>
    refine hpast.of_silent rfl fun other hother => ?_
    simpa [pending, hsome, Service.proceed] using hother
  | @answered b running call lethal next ticket refusal hsome hbody =>
    refine hpast.of_silent rfl fun other hother => ?_
    simpa [pending, hsome, Service.proceed] using hother
  | @finish b running ending hsome hbody =>
    obtain ⟨alive, stats, futures, hfinish, hsize, -⟩ := b.service.finish_eq running ending
    refine hpast.of_closes (by rw [hfinish]; exact hsize) (fun other hother => ?_)
      (Service.closes_deliver { b.service with running := none, stats := _ } running.job trivial)
      fun other hother => ?_
    · simp only [pending, hfinish, hsome] at hother ⊢
      exact List.mem_append_right _ hother
    · simp [pending, hsome, List.mem_singleton.mp hother]
  | @crash b running hsome =>
    obtain ⟨futures, hstrand, hsize⟩ := b.service.strand_eq running.job
    refine hpast.of_closes (by rw [hstrand]; exact hsize) (fun other hother => ?_)
      (b.service.closes_strand running.job trivial) fun other hother => ?_
    · simp only [pending, hstrand, hsome] at hother ⊢
      exact List.mem_append_right _ hother
    · simp [pending, hsome, List.mem_singleton.mp hother]
  | @discard b hdead =>
    obtain ⟨futures, hstrand, hsize⟩ := b.service.strandAll_eq b.service.queue
    refine hpast.of_closes (by rw [Service.stop, hstrand]; exact hsize) (fun other hother => ?_)
      (b.service.closes_strandAll b.service.queue fun _ _ => trivial) fun other hother => ?_
    · simp only [pending, Service.stop, hstrand, List.map_nil, List.nil_append,
        List.mem_append] at hother ⊢
      exact hother.imp_right .inr
    · exact List.mem_append_right _ (List.mem_append_left _ hother)
  | trans h _ ih ih' =>
    obtain ⟨hmiddle, hfuture⟩ := ih hsound hpast
    obtain ⟨hend, hfuture'⟩ := ih' (hsound.passes h) hmiddle
    exact ⟨hend, hfuture'.trans hfuture⟩

/-- A call that came to its end is over. -/
theorem Sound.past_of_finished (h : Sound capacity firstId engine b log issued)
    (hticket : ticket ∈ finished log) : Past b ticket := by
  obtain ⟨job, hjob, rfl⟩ := List.mem_map.mp (h.lived.ended.subset hticket)
  refine ⟨?_, fun hpending => ?_⟩
  · exact h.numbered.lt (List.mem_append_left _ (h.lived.accepted_of_started hjob))
  · exact (List.nodup_append.mp h.lived.nodup_pending).2.2 _ hticket _ hpending rfl

/-- Whether the caller of a finished call had stopped waiting does not change any more. -/
theorem Passes.countP_isForsaken (h : Passes b marks calls b')
    (hsound : Sound capacity firstId engine b log issued) :
    (finished log).countP b'.service.isForsaken = (finished log).countP b.service.isForsaken := by
  refine List.countP_congr fun ticket hticket => ?_
  rw [Service.isForsaken_congr (h.past hsound (hsound.past_of_finished hticket)).2]

/-- The caller of the running call waits for it, or has stopped waiting. -/
theorem Sound.future_of_running (h : Sound capacity firstId engine b log issued)
    {running : Running σ α} (hsome : b.service.running = some running) :
    b.service.future? running.job.ticket = some .waiting ∨
      b.service.future? running.job.ticket = some .dropped := by
  have hunresolved : b.service.record? running.job.ticket = none := by
    apply h.answered.unresolved
    rw [pending, hsome]
    exact List.mem_cons_self
  have hlt : running.job.ticket < b.service.futures.size := by
    obtain ⟨before, job, -, hlast, hticket, -⟩ := h.coursing running hsome
    have haccepted : job ∈ accepted log := h.lived.accepted_of_started (by simp [hlast])
    exact hticket ▸ h.numbered.lt (List.mem_append_left _ haccepted)
  have hfuture : b.service.future? running.job.ticket = some _ := Array.getElem?_eq_getElem hlt
  cases hkind : b.service.futures[running.job.ticket] with
  | waiting => exact .inl (hkind ▸ hfuture)
  | dropped => exact .inr (hkind ▸ hfuture)
  | resolved record =>
    rw [Service.record?_eq_some.mpr (hkind ▸ hfuture)] at hunresolved
    cases hunresolved

/-! ## The counters -/

/-- The counters count the accepted calls and those whose callers wait for room, the finished calls,
those of them whose records end in failure, and those of them whose callers had stopped waiting. The
last is not so if a result that nobody waited for has brought the engine down. -/
structure Tallied (engine : σ) (b : SharedService σ α) (log : List (Mark σ α)) : Prop where
  submitted : b.service.stats.submitted = (accepted log).length + b.waiting.length
  completed : b.service.stats.completed = (finished log).length
  failed : ∃ records, List.Forall₂ (Ran engine log) (finished log) records ∧
    b.service.stats.failed = records.countP Record.hasFailed
  lethal : ∀ running, b.service.running = some running →
    ∃ job ∈ accepted log, job.lethal = running.job.lethal
  abandoned : (b.service.alive = true ∨ ∀ job ∈ accepted log, job.lethal = false) →
    b.service.stats.abandoned = (finished log).countP b.service.isForsaken

namespace Tallied

theorem start (capacity : Nat) (firstId : UInt64) (engine : σ) :
    Tallied engine (SharedService.start capacity firstId engine : SharedService σ α) [] where
  submitted := rfl
  completed := rfl
  failed := ⟨[], .nil, rfl⟩
  lethal _ h := by cases h
  abandoned _ := rfl

/-- A step by which no call comes to its end. -/
theorem quiet (h : Tallied engine b log) (hsound : Sound capacity firstId engine b log issued)
    (hpasses : Passes b marks calls b') (hmarks : finished marks = []) (submitted : Nat)
    (hstats : b'.service.stats = { b.service.stats with submitted })
    (hsubmitted :
      submitted = (accepted log).length + ((accepted marks).length + b'.waiting.length))
    (halive : b'.service.alive = true → b.service.alive = true)
    (hrunning : ∀ running, b'.service.running = some running →
      ∃ job ∈ accepted log, job.lethal = running.job.lethal) :
    Tallied engine b' (log ++ marks) := by
  have hfinished : finished (log ++ marks) = finished log := by
    rw [finished_append, hmarks, List.append_nil]
  have hanswers := hpasses.answersTo_of_finished hsound.lived
  obtain ⟨records, hrecords, hfailed⟩ := h.failed
  refine ⟨?_, ?_, ⟨records, ?_, ?_⟩, fun running hsome => ?_, fun hlives => ?_⟩
  · rw [hstats, hsubmitted, accepted_append, List.length_append, Nat.add_assoc]
  · rw [hstats, hfinished, ← h.completed]
  · rw [hfinished]
    exact hrecords.imp fun _ _ hran => hran.append hanswers
  · rw [hstats, ← hfailed]
  · obtain ⟨job, hjob, hlethal⟩ := hrunning running hsome
    exact ⟨job, accepted_append log marks ▸ List.mem_append_left _ hjob, hlethal⟩
  · have hold := h.abandoned (hlives.imp halive fun hjobs job hjob =>
      hjobs job (accepted_append log marks ▸ List.mem_append_left _ hjob))
    rw [hstats, hfinished, hpasses.countP_isForsaken hsound]
    exact hold

/-- The record of the running call, when it comes to its end, tells whether it failed. -/
theorem ran_finish (hsound : Sound capacity firstId engine b log issued) {running : Running σ α}
    {ending : Ending α} (hsome : b.service.running = some running)
    (hbody : running.job.body = .finish ending) :
    ∃ record, Ran engine (log ++ [.finished running.job.ticket]) running.job.ticket record ∧
      record.hasFailed = !ending.result.isOk := by
  refine ⟨_, hsound.coursing.ran hsound.lived hsome hbody, ?_⟩
  exact Record.hasFailed_eq running.labels.reverse List.reverse_cons

/-- The running call comes to its end, and is counted by what becomes of its record. -/
theorem finish (h : Tallied engine b log) (hsound : Sound capacity firstId engine b log issued)
    {running : Running σ α} {ending : Ending α} (hsome : b.service.running = some running)
    (hbody : running.job.body = .finish ending) :
    Tallied engine { b with service := b.service.finish running ending }
      (log ++ [.finished running.job.ticket]) := by
  have hpasses : Passes b [.finished running.job.ticket] []
      { b with service := b.service.finish running ending } := .finish hsome hbody
  have hanswers := hpasses.answersTo_of_finished hsound.lived
  have hfinished : finished (log ++ [.finished running.job.ticket]) =
      finished log ++ [running.job.ticket] := finished_append _ _
  have haccepted : accepted (log ++ [.finished running.job.ticket]) = accepted log :=
    (accepted_append _ _).trans (List.append_nil _)
  obtain ⟨hcompleted, hfailures⟩ := b.service.finish_counts running ending
  constructor
  · obtain ⟨abandoned, hstats, -⟩ := b.service.finish_stats running ending
    rw [haccepted, ← h.submitted, hstats]
    rfl
  · rw [hcompleted, hfinished, List.length_append, h.completed]
    rfl
  · obtain ⟨records, hrecords, hfailed⟩ := h.failed
    obtain ⟨record, hran, hhas⟩ := ran_finish hsound hsome hbody
    refine ⟨records ++ [record], ?_, ?_⟩
    · rw [hfinished]
      exact List.rel_append (hrecords.imp fun _ _ hold => hold.append hanswers) (.cons hran .nil)
    · rw [hfailures, hfailed, List.countP_append, List.countP_singleton, hhas]
      cases ending.result.isOk <;> rfl
  · intro other hother
    obtain ⟨alive, stats, futures, hfinish, -⟩ := b.service.finish_eq running ending
    rw [hfinish] at hother
    cases hother
  · intro hlives
    obtain ⟨job, hjob, hsame⟩ := h.lethal running hsome
    rw [haccepted] at hlives
    have hold := h.abandoned (hlives.imp_left fun _ => hsound.lived.alive hsome)
    have hthrown := Service.deliver_abandoned
      { b.service with running := none, stats := b.service.stats.record ending.result }
      { id := running.job.id, labels := (Label.ofResult ending.result :: running.labels).reverse,
        result := ending.result }
      (hsound.future_of_running hsome) (hlives.imp_right fun hjobs => hsame ▸ hjobs job hjob)
    rw [hfinished, List.countP_append, List.countP_singleton, hpasses.countP_isForsaken hsound,
      ← hold]
    exact hthrown

end Tallied

theorem Passes.tallied (h : Passes b marks calls b')
    (hsound : Sound capacity firstId engine b log issued) (hb : Tallied engine b log) :
    Tallied engine b' (log ++ marks) := by
  induction h generalizing log issued with
  | @calm b s' h =>
    refine hb.quiet hsound (.calm h) rfl b.service.stats.submitted h.stats ?_ h.alive
      fun running hsome => ?_
    · rw [hb.submitted]
      simp [accepted]
    · exact hb.lethal running (h.running ▸ hsome)
  | ask b call lethal =>
    refine hb.quiet hsound (.ask b call lethal) rfl _ rfl ?_ id hb.lethal
    simp [Service.prepare, hb.submitted, accepted, Nat.add_assoc]
  | @letIn b job waiting hjob halive hroom =>
    refine hb.quiet hsound (.letIn hjob halive hroom) rfl b.service.stats.submitted rfl ?_ id
      hb.lethal
    simp [hb.submitted, hjob.length_eq, accepted, Nat.add_comm]
  | @turnAway b job waiting failure hjob hfailure =>
    refine hb.quiet hsound (.turnAway hjob hfailure) rfl _ rfl ?_ id hb.lethal
    simp [hb.submitted, hjob.length_eq, accepted]
  | @take b job queue halive hidle hqueue =>
    refine hb.quiet hsound (.take halive hidle hqueue) rfl b.service.stats.submitted rfl ?_ id ?_
    · simp [hb.submitted, accepted]
    · rintro _ ⟨⟩
      have hqueued : job ∈ started log ++ b.service.queue := by simp [hqueue]
      exact ⟨job, hsound.lived.queued.subset hqueued, rfl⟩
  | @proceed b running labels body engine' hsome hbody =>
    refine hb.quiet hsound (.proceed hsome hbody) rfl b.service.stats.submitted rfl
      ?_ id ?_
    · simp [hb.submitted, accepted]
    · rintro _ ⟨⟩
      exact hb.lethal running hsome
  | @answered b running call lethal next ticket refusal hsome hbody =>
    refine hb.quiet hsound (.answered ticket refusal hsome hbody) rfl b.service.stats.submitted
      rfl ?_ id ?_
    · simp [hb.submitted, accepted]
    · rintro _ ⟨⟩
      exact hb.lethal running hsome
  | finish hsome hbody => exact hb.finish hsound hsome hbody
  | @crash b running hsome =>
    obtain ⟨futures, hstrand, -⟩ := b.service.strand_eq running.job
    refine hb.quiet hsound (.crash hsome) rfl b.service.stats.submitted
      (by rw [hstrand]) ?_ (fun halive => absurd halive Bool.false_ne_true) ?_
    · simp [hb.submitted, accepted]
    · rintro _ ⟨⟩
  | @discard b hdead =>
    obtain ⟨futures, hstrand, -⟩ := b.service.strandAll_eq b.service.queue
    refine hb.quiet hsound (.discard hdead) rfl b.service.stats.submitted
      (by rw [Service.stop, hstrand]) ?_ (fun halive => absurd halive Bool.false_ne_true) ?_
    · simp [hb.submitted, accepted]
    · intro running hsome
      rw [Service.stop, hstrand] at hsome
      exact hb.lethal running hsome
  | trans h _ ih ih' =>
    rw [← List.append_assoc]
    exact ih' (hsound.passes h) (ih hsound hb)

/-- Nothing is taken away from a counter of finished calls. -/
theorem Passes.counts_le (h : Passes b marks calls b') :
    b.service.stats.completed ≤ b'.service.stats.completed ∧
      b.service.stats.failed ≤ b'.service.stats.failed ∧
      b.service.stats.abandoned ≤ b'.service.stats.abandoned := by
  induction h with
  | calm h => simp only [h.stats, Nat.le_refl, and_self]
  | ask | letIn | turnAway | take | proceed | answered =>
    exact ⟨Nat.le_refl _, Nat.le_refl _, Nat.le_refl _⟩
  | @finish b running ending hsome hbody =>
    obtain ⟨abandoned, hstats, hle⟩ := b.service.finish_stats running ending
    rw [hstats]
    exact ⟨Nat.le_succ _, Nat.le_add_right _ _, hle⟩
  | @crash b running hsome =>
    obtain ⟨futures, hstrand, -⟩ := b.service.strand_eq running.job
    simp only [hstrand, Nat.le_refl, and_self]
  | @discard b hdead =>
    obtain ⟨futures, hstop⟩ := b.service.stop_eq
    simp only [hstop, Nat.le_refl, and_self]
  | trans _ _ ih ih' =>
    obtain ⟨hcompleted, hfailed, habandoned⟩ := ih
    obtain ⟨hcompleted', hfailed', habandoned'⟩ := ih'
    exact ⟨Nat.le_trans hcompleted hcompleted', Nat.le_trans hfailed hfailed',
      Nat.le_trans habandoned habandoned'⟩

/-! ## Callers that wait for room -/

/-- What becomes of a caller that waits for room and tries again. -/
inductive Retried (b : SharedService σ α) : SharedService σ α × List (Mark σ α) → Prop
  | waits : Retried b (b, [])
  | enters {job : Job σ α} {waiting : List (Job σ α)} (hjob : b.waiting.Perm (job :: waiting)) :
    Retried b ({ service := b.service.push job, waiting }, [.accepted job])
  | leaves {job : Job σ α} {waiting : List (Job σ α)} {failure : Failure}
      (hjob : b.waiting.Perm (job :: waiting))
      (hclosed : (b.service.alive && b.service.held) = false) :
    Retried b ({ service := SharedService.turnAway b.service job failure, waiting },
      [.refused job.ticket failure])

theorem retried (b : SharedService σ α) (position : Nat) : Retried b (b.retry position) := by
  unfold retry
  split
  · exact .waits
  · rename_i job hjob
    obtain ⟨hlt, rfl⟩ := List.getElem?_eq_some_iff.mp hjob
    have hperm := (List.getElem_cons_eraseIdx_perm hlt).symm
    dsimp only
    split
    · exact .enters hperm
    · rename_i hrefused
      exact .leaves hperm (Service.closed_of_refused hrefused)
    · exact .waits

end SharedService

namespace ClosingService

open SharedService (Event Mark Ran Tallied accepted started finished)

variable {capacity : Nat} {firstId : UInt64} {engine : σ} {c : ClosingService σ α}
  {log : List (Mark σ α)} {issued : List (UInt64 → Callable σ α)}

/-! ## The counters of a service that may be given up -/

theorem take_waiting (c : ClosingService σ α) :
    c.take.1.shared.waiting = c.shared.waiting := by
  unfold take
  split
  · rfl
  · split
    · split <;> rfl
    · rfl
    · rfl

theorem advance_waiting (c : ClosingService σ α) :
    c.advance.1.shared.waiting = c.shared.waiting := by
  rw [c.advance_shared]
  rfl

theorem close_waiting (c : ClosingService σ α) : c.close.shared.waiting = c.shared.waiting := by
  unfold close
  split
  · rw [send_shared]
    rfl
  · rfl

/-- As long as somebody holds a service whose engine lives, a caller that waits for room goes on
waiting, or its call is put on the queue. -/
theorem waiting_occur (c : ClosingService σ α) (occurrence : Occurrence σ α)
    (hlives : (c.occur occurrence).1.shared.service.alive = true)
    (hheld : (c.occur occurrence).1.shared.service.held = true) :
    c.shared.waiting.length ≤
      (accepted (c.occur occurrence).2).length + (c.occur occurrence).1.shared.waiting.length := by
  cases occurrence with
  | event event =>
    cases event with
    | dispatch => exact c.take_waiting ▸ Nat.le_add_left _ _
    | advance => exact c.advance_waiting ▸ Nat.le_add_left _ _
    | abandon ticket => exact Nat.le_add_left _ _
    | submit policy call lethal =>
      change _ ≤ _ + (c.shared.submit policy call lethal).1.waiting.length
      unfold SharedService.submit
      split
      · exact Nat.le_add_left _ _
      · exact Nat.le_add_left_of_le (by simp)
    | retry position =>
      change (c.shared.retry position).1.service.alive = true at hlives
      change (c.shared.retry position).1.service.held = true at hheld
      change _ ≤ (accepted (c.shared.retry position).2).length +
        (c.shared.retry position).1.waiting.length
      have hretried := c.shared.retried position
      generalize c.shared.retry position = result at hretried hlives hheld ⊢
      cases hretried with
      | waits => exact Nat.le_add_left _ _
      | enters hjob => simp [hjob.length_eq, accepted, Nat.add_comm]
      | leaves hjob hclosed =>
        have hopen : (c.shared.service.alive && c.shared.service.held) = true :=
          Bool.and_eq_true_iff.mpr ⟨hlives, hheld⟩
        exact absurd (hclosed.symm.trans hopen) Bool.false_ne_true
  | crash | discard => exact Nat.le_add_left _ _
  | close => exact c.close_waiting ▸ Nat.le_add_left _ _
  | send => exact c.send_shared ▸ Nat.le_add_left _ _

/-- As long as somebody holds a service whose engine lives, no submission is taken back. -/
theorem Sound.submitted_le (h : Sound capacity firstId engine c log issued)
    (htallied : Tallied engine c.shared log) (later : List (Occurrence σ α))
    (hlives : (c.live later).1.shared.service.alive = true)
    (hheld : (c.live later).1.shared.service.held = true) :
    c.shared.service.stats.submitted ≤ (c.live later).1.shared.service.stats.submitted := by
  induction later using List.reverseRecOn with
  | nil => exact Nat.le_refl _
  | append_singleton later occurrence ih =>
    have hsound := h.live later
    have htally := (c.live_passes later).tallied h.toSound htallied
    rw [show (c.live (later ++ [occurrence])).1 = ((c.live later).1.occur occurrence).1 by
      rw [live_append]; rfl] at hlives hheld ⊢
    have hlives' : (c.live later).1.shared.service.alive = true := by
      by_contra hdead
      rw [Bool.not_eq_true] at hdead
      exact Bool.eq_false_iff.mp (hsound.still_of_dead hdead [occurrence]).alive hlives
    have hheld' : (c.live later).1.shared.service.held = true := by
      by_contra hfree
      rw [Bool.not_eq_true] at hfree
      rcases held_occur hsound.tidy hfree occurrence with hdead | hfree'
      · exact Bool.eq_false_iff.mp hdead hlives
      · exact Bool.eq_false_iff.mp hfree' hheld
    refine Nat.le_trans (ih hlives' hheld') ?_
    have htally' := ((c.live later).1.occur_passes occurrence).tallied hsound.toSound htally
    have hwaiting := (c.live later).1.waiting_occur occurrence hlives hheld
    simp only [htally.submitted, htally'.submitted, SharedService.accepted_append,
      List.length_append]
    omega

/-- What a refusal does to the counters: nothing, or it takes back that the caller was counted when
it began to wait for room. -/
inductive Uncounted (b b' : SharedService σ α) (ticket : Nat) : Prop
  | fresh (hticket : ticket = b.service.futures.size) (hwaiting : b'.waiting = b.waiting)
    (hstats : b'.service.stats = b.service.stats)
  | waited {job : Job σ α} (hjob : b.waiting.Perm (job :: b'.waiting))
    (hticket : job.ticket = ticket) (hstats : b.service.stats =
      { b'.service.stats with submitted := b'.service.stats.submitted + 1 })

/-- The running call has submitted a call that was refused. -/
theorem uncounted_of_advance (c : ClosingService σ α) {ticket : Nat} {failure : Failure}
    (hrefused : .refused ticket failure ∈ SharedService.advanceMarks c.shared.service) :
    ticket = c.shared.service.futures.size ∧
      c.shared.service.advance.stats = c.shared.service.stats := by
  unfold SharedService.advanceMarks at hrefused
  unfold Service.advance
  cases hsome : c.shared.service.running with
  | none => simp [hsome] at hrefused
  | some running =>
    rw [hsome] at hrefused
    dsimp only at hrefused ⊢
    cases hbody : running.job.body with
    | submit call lethal next =>
      have hanswer : .refused ticket failure = SharedService.answer c.shared.service call lethal
          (c.shared.service.submitInside call lethal).1 := by simpa [hbody] using hrefused
      change ticket = _ ∧ (c.shared.service.submitInside call lethal).2.stats = _
      unfold Service.submitInside at hanswer ⊢
      cases hadmission : c.shared.service.admission .refuse with
      | accepted =>
        rw [hadmission] at hanswer
        cases hanswer
      | refused other =>
        rw [hadmission] at hanswer
        cases hanswer
        exact ⟨rfl, rfl⟩
      | mustWait =>
        rw [hadmission] at hanswer
        cases hanswer
        exact ⟨rfl, rfl⟩
    | finish | read | write | checkpoint | abandon | release => simp [hbody] at hrefused

/-- A submission that is refused is not counted. -/
theorem Sound.uncounted_of_refused (h : Sound capacity firstId engine c log issued)
    (htallied : Tallied engine c.shared log) {occurrence : Occurrence σ α} {ticket : Nat}
    {failure : Failure} (hrefused : .refused ticket failure ∈ (c.occur occurrence).2) :
    Uncounted c.shared (c.occur occurrence).1.shared ticket := by
  cases occurrence with
  | event event =>
    cases event with
    | dispatch =>
      change _ ∈ c.take.2 at hrefused
      have htaking := h.tidy.taking
      generalize c.take = result at htaking hrefused
      cases htaking <;> simp at hrefused
    | advance =>
      change _ ∈ (c.shared.step .advance).2 at hrefused
      obtain ⟨hticket, hstats⟩ := c.uncounted_of_advance hrefused
      change Uncounted _ c.advance.1.shared _
      rw [advance_shared]
      exact .fresh hticket rfl hstats
    | submit policy call lethal =>
      change Uncounted _ (c.shared.submit policy call lethal).1 ticket
      change _ ∈ (c.shared.submit policy call lethal).2 at hrefused
      unfold SharedService.submit Service.submit at hrefused ⊢
      cases hadmission : c.shared.service.admission policy with
      | accepted => simp [hadmission, SharedService.answer, Service.nextSubmission] at hrefused
      | refused other =>
        obtain ⟨rfl, -⟩ : ticket = c.shared.service.futures.size ∧ failure = other := by
          simpa [hadmission, SharedService.answer, Service.nextSubmission] using hrefused
        exact .fresh rfl rfl rfl
      | mustWait => simp [hadmission] at hrefused
    | retry position =>
      change Uncounted _ (c.shared.retry position).1 ticket
      change _ ∈ (c.shared.retry position).2 at hrefused
      have hretried := c.shared.retried position
      generalize c.shared.retry position = result at hretried hrefused ⊢
      cases hretried with
      | waits => cases hrefused
      | enters hjob => simp at hrefused
      | @leaves job waiting failure hjob hclosed =>
        obtain ⟨rfl, rfl⟩ : ticket = job.ticket ∧ _ = failure := by simpa using hrefused
        refine .waited hjob rfl ?_
        have hcounted : c.shared.service.stats.submitted - 1 + 1 =
            c.shared.service.stats.submitted := by
          rw [htallied.submitted, hjob.length_eq]
          rfl
        simp [SharedService.turnAway, Service.setFuture, hcounted]
    | abandon other => cases hrefused
  | crash | discard | close | send => cases hrefused

/-! ## After any history -/

theorem tallied_live (capacity : Nat) (firstId : UInt64) (engine : σ)
    (history : List (Occurrence σ α)) :
    Tallied engine ((start capacity firstId engine).live history).1.shared
      ((start capacity firstId engine).live history).2 :=
  ((start capacity firstId engine).live_passes history).tallied
    (.start capacity firstId engine) (.start capacity firstId engine)

/-- As long as the engine lives, the calls that are counted as submitted are those that have come to
their end, those on the queue, the one that is running, and those whose callers are still in the
middle of their submission because they wait for room. -/
theorem Sound.submitted_eq (h : Sound capacity firstId engine c log issued)
    (htallied : Tallied engine c.shared log) (halive : c.shared.service.alive = true) :
    let s := c.shared.service
    s.stats.submitted = s.stats.completed + s.queue.length + s.running.toList.length +
      c.shared.waiting.length := by
  have hserial := (h.lived.ordered halive).serial
  have hstarted : (started log).length =
      (finished log).length + c.shared.service.running.toList.length := by
    have hturns := congrArg List.length hserial.turns
    rw [List.length_map, List.length_append] at hturns
    rw [hturns]
    cases c.shared.service.running <;> rfl
  simp only [htallied.submitted, htallied.completed, hserial.order, List.length_append]
  omega

/-- After any history of calls, of callers, and of whoever gives up the service:

* As long as the engine lives, the calls submitted are the calls completed, those on the queue, the
  running one, and those whose callers wait for room and are not done with their submission yet.
* The calls completed are those that came to their end. The failed ones are those of them whose
  records end in failure, so they are no more, and the others are the difference. As long as the
  engine lives, the abandoned ones are those of them whose callers had stopped waiting by then.
* Whatever happens later, none of these is ever less. Nor are there fewer calls submitted, unless a
  caller that waits for room now is turned away because the service has been given up.
* A submission that is refused is counted nowhere: all counters stay as they are, or that of the
  calls submitted is again what it would be if the caller had not waited for room. -/
theorem calls_accounted (capacity : Nat) (firstId : UInt64) (engine : σ)
    (history : List (Occurrence σ α)) :
    let c := ((start capacity firstId engine).live history).1
    let log := ((start capacity firstId engine).live history).2
    let s := c.shared.service
    let stats := s.stats
    (s.alive = true →
      stats.submitted = stats.completed + s.queue.length + s.running.toList.length +
        c.shared.waiting.length) ∧
    stats.completed = (finished log).length ∧
    (∃ records, List.Forall₂ (Ran engine log) (finished log) records ∧
      stats.failed = records.countP Record.hasFailed ∧
      stats.completed - stats.failed = records.countP fun record => !record.hasFailed) ∧
    stats.failed ≤ stats.completed ∧
    (s.alive = true → stats.abandoned = (finished log).countP s.isForsaken) ∧
    (∀ later,
      let s' := (c.live later).1.shared.service
      stats.completed ≤ s'.stats.completed ∧ stats.failed ≤ s'.stats.failed ∧
      stats.abandoned ≤ s'.stats.abandoned ∧
      (c.shared.waiting = [] ∨ s'.alive = true ∧ s'.held = true →
        stats.submitted ≤ s'.stats.submitted)) ∧
    ∀ occurrence ticket failure, .refused ticket failure ∈ (c.occur occurrence).2 →
      Uncounted c.shared (c.occur occurrence).1.shared ticket := by
  have h := sound_live capacity firstId engine history
  have htallied := tallied_live capacity firstId engine history
  dsimp only at h
  generalize (start capacity firstId engine).issued history = issued at h
  generalize (start capacity firstId engine).live history = result at h htallied
  obtain ⟨c, log⟩ := result
  dsimp only at h htallied ⊢
  obtain ⟨records, hrecords, hfailed⟩ := htallied.failed
  have hlength : c.shared.service.stats.completed = records.length :=
    htallied.completed.trans hrecords.length_eq
  have hsplit : records.length =
      records.countP Record.hasFailed + records.countP fun record => !record.hasFailed := by
    simpa using records.length_eq_countP_add_countP Record.hasFailed
  refine ⟨h.submitted_eq htallied, htallied.completed, ⟨records, hrecords, hfailed, ?_⟩, ?_,
    fun halive => htallied.abandoned (.inl halive), fun later => ?_,
    fun occurrence ticket failure => h.uncounted_of_refused htallied⟩
  · rw [hlength, hfailed]
    omega
  · rw [hlength, hfailed]
    exact List.countP_le_length
  · obtain ⟨hcompleted, hfailed', habandoned⟩ := (c.live_passes later).counts_le
    refine ⟨hcompleted, hfailed', habandoned, ?_⟩
    rintro (hnobody | ⟨hlives, hheld⟩)
    · have htallied' := (c.live_passes later).tallied h.toSound htallied
      simp only [htallied.submitted, htallied'.submitted, SharedService.accepted_append,
        List.length_append, hnobody, List.length_nil]
      omega
    · exact h.submitted_le htallied later hlives hheld

/-- The running call, for which nobody waits any more, submits two calls, of which one finds room on
the queue, and fails. -/
def failUnheard : List (Occurrence Nat Unit) :=
  [.event (.submit .wait (fun _ => .submit (fun _ => .returning ()) false fun _ _ =>
      .submit (fun _ => .returning ()) false fun _ _ => .finish (.failed ["no"])) false),
    .event .dispatch, .event (.abandon 0), .event .advance, .event .advance, .event .advance]

/-- Both calls that were accepted are counted, and the one that is over as failed and abandoned. One
more would find no room, and would not be counted. -/
theorem calls_accounted_failUnheard :
    let c := ((start 1 0 7).live failUnheard).1
    let s := c.shared.service
    s.stats.submitted = s.stats.completed + 1 + 0 + 0 ∧ s.stats.completed = 1 ∧
      s.stats.failed ≤ s.stats.completed ∧ s.stats.abandoned = [0].countP s.isForsaken ∧
      Uncounted c.shared
        (c.occur (.event (.submit .refuse (fun _ => .returning ()) false))).1.shared 3 := by
  obtain ⟨hsubmitted, hcompleted, -, hfailed, habandoned, -, hrefused⟩ :=
    calls_accounted 1 0 7 failUnheard
  refine ⟨hsubmitted rfl, hcompleted, hfailed, habandoned rfl, ?_⟩
  exact hrefused (.event (.submit .refuse _ false)) 3 .queueFull List.mem_cons_self

end ClosingService

end ScriptHost
