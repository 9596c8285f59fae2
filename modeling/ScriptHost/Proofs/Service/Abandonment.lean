import ScriptHost.Proofs.Service.Patience

/-!
# To stop waiting for a call interferes with nothing

Two histories of a service that differ only in the callers that stop waiting, and in when they do,
are the same for all others: the engine, the numbers of the calls, their acceptance and their
results do not depend on it.

* `ClosingService.essence` : a history without all that.
* `ClosingService.Attended` : a service, and the same one if everybody goes on waiting.
* `ClosingService.Attended.live` : they stay so, whatever happens.
* `ClosingService.enginesAfter` : what each call has left of the engine.
* `ClosingService.abandonment_harmless` : two histories with the same essence.
-/

namespace ScriptHost

variable {σ α : Type}

/-! ## Callers that wait for room -/

namespace SharedService

/-- The second service is the first one as it would be if everybody went on waiting. -/
structure Attended (b b' : SharedService σ α) : Prop where
  service : b.service.Attended b'.service
  waiting : b'.waiting = b.waiting.map Job.patient

namespace Attended

variable {b b' : SharedService σ α}

theorem submit (h : Attended b b') (policy : Policy) (call : UInt64 → Callable σ α)
    (lethal : Bool) :
    Attended (b.submit policy call lethal).1
        (b'.submit policy (fun id => (call id).patient) lethal).1 ∧
      (b'.submit policy (fun id => (call id).patient) lethal).2 =
        (b.submit policy call lethal).2.map Mark.patient := by
  unfold SharedService.submit Service.submit
  rw [h.service.admission]
  cases b.service.admission policy with
  | accepted =>
    dsimp only
    rw [h.service.nextSubmission, h.service.answer]
    exact ⟨⟨h.service.enqueue call lethal, h.waiting⟩, rfl⟩
  | refused failure =>
    dsimp only
    rw [h.service.nextSubmission, h.service.answer]
    exact ⟨⟨h.service.reject failure, h.waiting⟩, rfl⟩
  | mustWait =>
    obtain ⟨hjob, hprepared⟩ := h.service.prepare call lethal
    refine ⟨⟨hprepared, ?_⟩, rfl⟩
    rw [List.map_append, ← h.waiting, List.map_singleton, ← hjob]

theorem retry (h : Attended b b') (position : Nat) :
    Attended (b.retry position).1 (b'.retry position).1 ∧
      (b'.retry position).2 = (b.retry position).2.map Mark.patient := by
  unfold SharedService.retry
  rw [h.waiting, List.getElem?_map, List.eraseIdx_map, h.service.admission]
  cases b.waiting[position]? with
  | none => exact ⟨h, rfl⟩
  | some job =>
    cases b.service.admission .wait with
    | accepted => exact ⟨⟨h.service.push job, rfl⟩, rfl⟩
    | refused failure => exact ⟨⟨h.service.turnAway job failure, rfl⟩, rfl⟩
    | mustWait => exact ⟨h, rfl⟩

end Attended

end SharedService

def Message.patient : Message σ α → Message σ α
  | .call job => .call job.patient
  | .stop => .stop

namespace ClosingService

open SharedService (Event Mark Tallied accepted started finished)

/-! ## Histories without callers that stop waiting -/

/-- The same thing happens, and the call that is submitted thereby goes on waiting. -/
def Occurrence.patient : Occurrence σ α → Occurrence σ α
  | .event (.submit policy call lethal) =>
    .event (.submit policy (fun id => (call id).patient) lethal)
  | occurrence => occurrence

/-- What happens is that somebody, be it the running call, stops waiting for a call. -/
def stopsWaiting (c : ClosingService σ α) : Occurrence σ α → Bool
  | .event (.abandon _) => true
  | .event .advance => c.shared.service.running.any fun running => running.job.body.stopsWaiting
  | _ => false

/-- The history as it would be if everybody went on waiting. -/
def essence (c : ClosingService σ α) : List (Occurrence σ α) → List (Occurrence σ α)
  | [] => []
  | occurrence :: history =>
    let rest := essence (c.occur occurrence).1 history
    if c.stopsWaiting occurrence then rest else occurrence.patient :: rest

/-- Where in a history somebody stops waiting for a call. -/
def departures (c : ClosingService σ α) : List (Occurrence σ α) → List Bool
  | [] => []
  | occurrence :: history => c.stopsWaiting occurrence :: departures (c.occur occurrence).1 history

/-- The essence of a history is what remains without its departures. -/
theorem essence_eq (c : ClosingService σ α) (history : List (Occurrence σ α)) :
    c.essence history =
      ((history.zip (c.departures history)).filter fun entry => !entry.2).map
        fun entry => entry.1.patient := by
  induction history generalizing c with
  | nil => rfl
  | cons occurrence history ih =>
    rw [essence, departures, List.zip_cons_cons, List.filter_cons, ih]
    cases c.stopsWaiting occurrence <;> rfl

/-- What each call has left of the engine when it came to its end, in order. -/
def enginesAfter (c : ClosingService σ α) : List (Occurrence σ α) → List σ
  | [] => []
  | occurrence :: history =>
    let (after, marks) := c.occur occurrence
    (finished marks).map (fun _ => after.shared.service.engine) ++ enginesAfter after history

/-- No result brings the engine down when it is thrown away. -/
def Harmless (c : ClosingService σ α) (history : List (Occurrence σ α)) : Prop :=
  ∀ job ∈ accepted (c.live history).2, job.lethal = false

variable {capacity : Nat} {firstId : UInt64} {engine : σ} {c c' : ClosingService σ α}
  {log : List (Mark σ α)} {issued : List (UInt64 → Callable σ α)}

/-! ## The two services -/

/-- The second service is the first one as it would be if everybody went on waiting. -/
structure Attended (c c' : ClosingService σ α) : Prop
    extends SharedService.Attended c.shared c'.shared where
  stop : c'.stop = c.stop
  closing : c'.closing = c.closing
  connected : c'.connected = c.connected
  died : c'.died = c.died

namespace Attended

theorem start (capacity : Nat) (firstId : UInt64) (engine : σ) :
    Attended (ClosingService.start capacity firstId engine : ClosingService σ α)
      (ClosingService.start capacity firstId engine) where
  service := ⟨#[], 0, rfl, .refl _⟩
  waiting := rfl
  stop := rfl
  closing := rfl
  connected := rfl
  died := rfl

theorem messages (h : Attended c c') : c'.messages = c.messages.map Message.patient := by
  unfold ClosingService.messages
  rw [h.stop, h.service.queue]
  cases c.stop with
  | none =>
    simp only [List.map_map]
    rfl
  | some place =>
    simp only [List.map_append, List.map_cons, List.map_take, List.map_drop, List.map_map]
    rfl

theorem hasRoom (h : Attended c c') : c'.hasRoom = c.hasRoom := by
  rw [ClosingService.hasRoom, ClosingService.hasRoom, h.messages, h.service.capacity,
    List.length_map]

theorem follow (h : Attended c c') {shared shared' : SharedService σ α}
    (hshared : SharedService.Attended shared shared') :
    Attended (c.follow shared) (c'.follow shared') := by
  refine ⟨hshared, h.stop, h.closing, h.connected, ?_⟩
  simp only [ClosingService.follow, h.died, h.service.alive, hshared.service.alive]

/-- Something happens by which the engine does not die, and in the other service nothing does. -/
theorem followed (h : Attended c c') {shared : SharedService σ α}
    (hshared : SharedService.Attended shared c'.shared)
    (halive : shared.service.alive = c.shared.service.alive) : Attended (c.follow shared) c' := by
  refine ⟨hshared, h.stop, h.closing, h.connected, ?_⟩
  simp [ClosingService.follow, h.died, halive]

theorem putStop (h : Attended c c') : Attended c.putStop c'.putStop := by
  refine ⟨h.toAttended, ?_, h.closing, h.connected, h.died⟩
  simp [ClosingService.putStop, h.service.queue]

theorem letGo (h : Attended c c') : Attended c.letGo c'.letGo := by
  unfold ClosingService.letGo
  rw [h.hasRoom]
  cases c.hasRoom with
  | true => exact { h.putStop with connected := rfl }
  | false => exact { h with connected := rfl }

theorem send (h : Attended c c') : Attended c.send c'.send := by
  unfold ClosingService.send
  rw [h.closing, h.service.alive, h.hasRoom]
  split
  · exact h
  · split
    · exact { h with closing := rfl }
    · split
      · exact { h.putStop with closing := rfl }
      · exact h

theorem close (h : Attended c c') : Attended c.close c'.close := by
  unfold ClosingService.close
  rw [h.service.held]
  split
  · apply send
    exact { h with service := h.service.giveUp, closing := rfl }
  · exact h

theorem halt (h : Attended c c') : Attended c.halt c'.halt :=
  { h with service := h.service.halt }

theorem take (h : Attended c c') :
    Attended c.take.1 c'.take.1 ∧ c'.take.2 = c.take.2.map Mark.patient := by
  unfold ClosingService.take
  rw [h.service.running, h.service.alive, h.messages, Option.isSome_map]
  split
  · exact ⟨h, rfl⟩
  · cases c.messages with
    | nil =>
      dsimp only [List.map_nil]
      rw [h.connected]
      split
      · exact ⟨h, rfl⟩
      · exact ⟨h.halt, rfl⟩
    | cons message rest =>
      cases message with
      | stop => exact ⟨h.halt, rfl⟩
      | call job =>
        obtain ⟨hdispatch, hmarks⟩ := h.service.dispatch
        refine ⟨⟨⟨hdispatch, h.waiting⟩, ?_, h.closing, h.connected, h.died⟩, hmarks⟩
        exact congrArg (Option.map (· - 1)) h.stop

/-- One action of the running call, other than to stop waiting for a call. -/
theorem advance (h : Attended c c')
    (hlethal : ∀ running, c.shared.service.running = some running → running.job.lethal = false)
    (hgoes : c.stopsWaiting (.event .advance) = false) :
    Attended c.advance.1 c'.advance.1 ∧ c'.advance.2 = c.advance.2.map Mark.patient := by
  have hgoes' : ∀ running, c.shared.service.running = some running →
      running.job.body.stopsWaiting = false := by
    intro running hsome
    simpa [stopsWaiting, hsome] using hgoes
  obtain ⟨hadvance, hmarks⟩ := h.service.advance hlethal hgoes'
  have hshared : SharedService.Attended (c.shared.step .advance).1 (c'.shared.step .advance).1 :=
    ⟨hadvance, h.waiting⟩
  refine ⟨?_, hmarks⟩
  unfold ClosingService.advance
  dsimp only
  rw [h.service.held, hshared.service.held]
  split
  · exact (h.follow hshared).letGo
  · exact h.follow hshared

/-- Somebody stops waiting for a call, and in the other service nothing happens. -/
theorem stopsWaiting (h : Attended c c') {occurrence : Occurrence σ α}
    (hstops : c.stopsWaiting occurrence = true) :
    Attended (c.occur occurrence).1 c' ∧ (c.occur occurrence).2 = [] := by
  cases occurrence with
  | event event =>
    cases event with
    | abandon ticket =>
      have hspares := c.shared.service.spares_abandon ticket
      exact ⟨h.followed ⟨h.service.abandon ticket, h.waiting⟩ hspares.alive, rfl⟩
    | advance =>
      obtain ⟨running, hsome, hbody⟩ : ∃ running, c.shared.service.running = some running ∧
          running.job.body.stopsWaiting = true := by
        simpa [ClosingService.stopsWaiting, Option.any_eq_true] using hstops
      cases hkind : running.job.body with
      | abandon ticket next =>
        obtain ⟨hpass, hmarks⟩ := h.service.pass hsome hkind
        have hspares := c.shared.service.spares_abandon ticket
        have hsame : c.shared.service.advance =
            (c.shared.service.abandon ticket).proceed running next := by
          simp only [Service.advance, hsome, hkind]
        have hheld : c.shared.service.advance.held = c.shared.service.held :=
          hsame ▸ hspares.held
        refine ⟨?_, hmarks⟩
        simp only [ClosingService.occur, ClosingService.advance, SharedService.step, hheld,
          Bool.and_not_self, Bool.false_eq_true, if_false]
        exact h.followed ⟨hpass, h.waiting⟩ (hsame ▸ hspares.alive)
      | finish | read | write | checkpoint | submit | release =>
        rw [hkind] at hbody
        cases hbody
    | submit | retry | dispatch => cases hstops
  | crash | discard | close | send => cases hstops

/-- Anything else happens, in both services. -/
theorem occur (h : Attended c c') {occurrence : Occurrence σ α}
    (hlethal : ∀ running, c.shared.service.running = some running → running.job.lethal = false)
    (hgoes : c.stopsWaiting occurrence = false) :
    Attended (c.occur occurrence).1 (c'.occur occurrence.patient).1 ∧
      (c'.occur occurrence.patient).2 = (c.occur occurrence).2.map Mark.patient := by
  cases occurrence with
  | event event =>
    cases event with
    | dispatch => exact h.take
    | advance => exact h.advance hlethal hgoes
    | submit policy call lethal =>
      obtain ⟨hshared, hmarks⟩ := h.toAttended.submit policy call lethal
      exact ⟨h.follow hshared, hmarks⟩
    | retry position =>
      obtain ⟨hshared, hmarks⟩ := h.toAttended.retry position
      exact ⟨h.follow hshared, hmarks⟩
    | abandon ticket => cases hgoes
  | crash => exact ⟨h.follow ⟨h.service.crash, h.waiting⟩, rfl⟩
  | discard => exact ⟨h.follow ⟨h.service.discard, h.waiting⟩, rfl⟩
  | close => exact ⟨h.close, rfl⟩
  | send => exact ⟨h.send, rfl⟩

end Attended

/-! ## Whole histories -/

theorem finished_patient (marks : List (Mark σ α)) :
    finished (marks.map Mark.patient) = finished marks := by
  induction marks with
  | nil => rfl
  | cons mark marks ih => cases mark <;> simpa [finished, Mark.patient] using ih

theorem marks_cons (c : ClosingService σ α) (occurrence : Occurrence σ α)
    (history : List (Occurrence σ α)) :
    (c.live (occurrence :: history)).2 =
      (c.occur occurrence).2 ++ ((c.occur occurrence).1.live history).2 := rfl

theorem enginesAfter_cons (c : ClosingService σ α) (occurrence : Occurrence σ α)
    (history : List (Occurrence σ α)) :
    c.enginesAfter (occurrence :: history) =
      (finished (c.occur occurrence).2).map
          (fun _ => (c.occur occurrence).1.shared.service.engine) ++
        (c.occur occurrence).1.enginesAfter history := rfl

/-- Whatever happens, the second service remains the first one as it would be if everybody went on
waiting. -/
theorem Attended.live (h : Attended c c') (hsound : Sound capacity firstId engine c log issued)
    (htallied : Tallied engine c.shared log) {history : List (Occurrence σ α)}
    (hharmless : ∀ job ∈ accepted (log ++ (c.live history).2), job.lethal = false) :
    Attended (c.live history).1 (c'.live (c.essence history)).1 ∧
      (c'.live (c.essence history)).2 = (c.live history).2.map Mark.patient ∧
      c'.enginesAfter (c.essence history) = c.enginesAfter history := by
  induction history generalizing c c' log issued with
  | nil => exact ⟨h, rfl, rfl⟩
  | cons occurrence history ih =>
    have hrunning : ∀ running, c.shared.service.running = some running →
        running.job.lethal = false := by
      intro running hsome
      obtain ⟨job, hjob, hsame⟩ := htallied.lethal running hsome
      rw [SharedService.accepted_append] at hharmless
      exact hsame ▸ hharmless job (List.mem_append_left _ hjob)
    have hsound' := hsound.occur occurrence
    have htallied' := (c.occur_passes occurrence).tallied hsound.toSound htallied
    rw [marks_cons, ← List.append_assoc] at hharmless
    rw [marks_cons, enginesAfter_cons]
    unfold essence
    dsimp only
    split
    · rename_i hstops
      obtain ⟨hattended, hmarks⟩ := h.stopsWaiting hstops
      obtain ⟨hend, hlog, hengines⟩ := ih hattended hsound' htallied' hharmless
      refine ⟨hend, ?_, ?_⟩
      · rw [hmarks, hlog, List.nil_append]
      · rw [hmarks, hengines]
        rfl
    · rename_i hgoes
      obtain ⟨hattended, hmarks⟩ := h.occur hrunning (Bool.not_eq_true _ ▸ hgoes)
      obtain ⟨hend, hlog, hengines⟩ := ih hattended hsound' htallied' hharmless
      refine ⟨hend, ?_, ?_⟩
      · rw [marks_cons, List.map_append, hmarks, hlog]
      · rw [enginesAfter_cons, hmarks, hengines, finished_patient, hattended.service.engine]

/-! ## Two histories -/

/-- Two histories of a service go the same way: the engine is left the same by every call, the
numbers are the same, and calls are accepted, refused, started and finished in the same order, with
the same answers to the running calls. -/
structure SameCourse (first : ClosingService σ α) (history history' : List (Occurrence σ α)) :
    Prop where
  engines : first.enginesAfter history = first.enginesAfter history'
  engine : (first.live history).1.shared.service.engine =
    (first.live history').1.shared.service.engine
  nextId : (first.live history).1.shared.service.nextId =
    (first.live history').1.shared.service.nextId
  tickets : (first.live history).1.shared.service.futures.size =
    (first.live history').1.shared.service.futures.size
  waiting : (first.live history).1.shared.waiting.map Job.patient =
    (first.live history').1.shared.waiting.map Job.patient
  marks : (first.live history).2.map Mark.patient = (first.live history').2.map Mark.patient
  finished : finished (first.live history).2 = finished (first.live history').2

/-- The same calls are counted, but for those that were abandoned, and a caller that has not stopped
waiting in either service is told the same. -/
structure SameAnswers (s s' : Service σ α) : Prop where
  submitted : s.stats.submitted = s'.stats.submitted
  completed : s.stats.completed = s'.stats.completed
  failed : s.stats.failed = s'.stats.failed
  future : ∀ ticket, s.future? ticket ≠ some .dropped → s'.future? ticket ≠ some .dropped →
    s.future? ticket = s'.future? ticket

/-- Two histories of the same submissions, callables and turns of the engine, in which different
callers stop waiting, or at different times, be it from outside or as running calls. No result that
is thrown away brings the engine down. Then they go the same way, and whoever does not stop waiting
is told the same. The calls counted as abandoned are, in each of them, those of the finished calls,
which are the same, whose callers had stopped waiting by then. -/
theorem abandonment_harmless (capacity : Nat) (firstId : UInt64) (engine : σ)
    (history history' : List (Occurrence σ α))
    (hessence : (start capacity firstId engine).essence history =
      (start capacity firstId engine).essence history')
    (hharmless : Harmless (start capacity firstId engine) history)
    (hharmless' : Harmless (start capacity firstId engine) history') :
    let first := start capacity firstId engine
    let s := (first.live history).1.shared.service
    let s' := (first.live history').1.shared.service
    SameCourse first history history' ∧ SameAnswers s s' ∧
      s.stats.abandoned = (finished (first.live history).2).countP s.isForsaken ∧
      s'.stats.abandoned = (finished (first.live history').2).countP s'.isForsaken := by
  have hstart := Attended.start (α := α) capacity firstId engine
  have hsound : Sound capacity firstId engine
      (start capacity firstId engine : ClosingService σ α) [] [] :=
    ⟨.start capacity firstId engine, .start capacity firstId engine⟩
  obtain ⟨h, hlog, hengines⟩ := hstart.live hsound (.start capacity firstId engine) hharmless
  obtain ⟨h', hlog', hengines'⟩ := hstart.live hsound (.start capacity firstId engine) hharmless'
  rw [hessence] at h hlog hengines
  have hmarks := hlog.symm.trans hlog'
  have hfinished := congrArg finished hmarks
  rw [finished_patient, finished_patient] at hfinished
  have htallied := tallied_live capacity firstId engine history
  have htallied' := tallied_live capacity firstId engine history'
  obtain ⟨futures, abandoned, hservice, hfutures⟩ := h.service
  obtain ⟨futures', abandoned', hservice', hfutures'⟩ := h'.service
  have hsame := hservice.symm.trans hservice'
  simp only [Service.patient, Service.mk.injEq, Stats.mk.injEq] at hsame
  obtain ⟨-, -, -, hengine, -, -, hnext, ⟨hsubmitted, hcompleted, hfailed, -⟩, rfl⟩ := hsame
  refine ⟨⟨hengines.symm.trans hengines', hengine, hnext, hfutures.size.symm.trans hfutures'.size,
      h.waiting.symm.trans h'.waiting, hmarks, hfinished⟩,
    ⟨hsubmitted, hcompleted, hfailed, fun ticket hkept hkept' => ?_⟩,
    htallied.abandoned (.inr hharmless), htallied'.abandoned (.inr hharmless')⟩
  have hleft := (hfutures.future ticket).resolve_right hkept
  have hright := (hfutures'.future ticket).resolve_right hkept'
  exact hleft.trans hright.symm

/-- The running call submits another one and stops waiting for it. -/
def dropInside : List (Occurrence Nat Unit) :=
  [.event (.submit .wait (fun _ => .submit (fun _ => .write 8 (.returning ())) false fun ticket _ =>
      .abandon ticket (.returning ())) false),
    .event .dispatch, .event .advance, .event .advance, .event .advance, .event .dispatch,
    .event .advance, .event .advance]

/-- The running call does the same and goes on waiting, while its own caller does not. -/
def dropOutside : List (Occurrence Nat Unit) :=
  [.event (.submit .wait (fun _ => .submit (fun _ => .write 8 (.returning ())) false fun _ _ =>
      .returning ()) false),
    .event .dispatch, .event .advance, .event (.abandon 0), .event .advance, .event .dispatch,
    .event .advance, .event .advance]

/-- In both of them the engine is left the same by the two calls, of which one is abandoned. -/
theorem abandonment_harmless_drops :
    let first := start 1 0 7
    let s := (first.live dropInside).1.shared.service
    let s' := (first.live dropOutside).1.shared.service
    first.enginesAfter dropInside = first.enginesAfter dropOutside ∧
      s.stats.abandoned = [0, 1].countP s.isForsaken ∧
      s'.stats.abandoned = [0, 1].countP s'.isForsaken := by
  have hinside : (start 1 0 7).departures dropInside =
      [false, false, false, true, false, false, false, false] := by decide +kernel
  have houtside : (start 1 0 7).departures dropOutside =
      [false, false, false, true, false, false, false, false] := by decide +kernel
  have hessence : (start 1 0 7).essence dropInside = (start 1 0 7).essence dropOutside := by
    rw [essence_eq, essence_eq, hinside, houtside]
    rfl
  have hharmless : Harmless (start 1 0 7) dropInside := by
    unfold Harmless
    decide +kernel
  have hharmless' : Harmless (start 1 0 7) dropOutside := by
    unfold Harmless
    decide +kernel
  obtain ⟨hcourse, -, habandoned, habandoned'⟩ :=
    abandonment_harmless 1 0 7 dropInside dropOutside hessence hharmless hharmless'
  exact ⟨hcourse.engines, habandoned, habandoned'⟩

end ClosingService

end ScriptHost
