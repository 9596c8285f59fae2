import ScriptHost.Proofs.Service.NoneLost
import ScriptHost.Service.Interpreter

/-!
# Execution contexts are suspended while a call is pending

Every program call that is submitted suspends its context and resumes it once, with its outcome or
when it is dropped.

* `Interpreter.submitted`, `Interpreter.resumed` : what the notes of an interpreter tell.
* `Interpreter.Paired` : the context, and how far the call under way has got.
* `Interpreter.Sound` : all that holds of an interpreter and its service.
* `Interpreter.suspended_while_pending` : the context after any deeds.
-/

namespace ScriptHost

/-- The ticket of the call that was submitted and is pending. -/
def Stage.pending : Stage → Option Nat
  | .waiting ticket => some ticket
  | _ => none

namespace Interpreter

open ClosingService (Fair upTo)
open SharedService (Mark accepted started finished)

variable {σ : Type} {capacity : Nat} {firstId : UInt64} {engine : σ} {i : Interpreter σ}
  {log : List (Mark σ Payload)} {issued : List (UInt64 → Callable σ Payload)}
  {notes : List (Note σ)} {context : Context} {size ticket : Nat}

/-! ## Notes -/

/-- The tickets of the calls that were submitted, in order. -/
def submitted (notes : List (Note σ)) : List Nat :=
  notes.filterMap fun
    | .submitted ticket => some ticket
    | _ => none

/-- The tickets of the calls that were waited for or dropped, in order, with what became of them. -/
def resumed (notes : List (Note σ)) : List (Nat × Outcome) :=
  notes.filterMap fun
    | .returned ticket outcome => some (ticket, outcome)
    | .dropped ticket => some (ticket, .error .abandoned)
    | _ => none

variable (notes later : List (Note σ))

@[simp]
theorem submitted_append : submitted (notes ++ later) = submitted notes ++ submitted later :=
  List.filterMap_append

@[simp]
theorem resumed_append : resumed (notes ++ later) = resumed notes ++ resumed later :=
  List.filterMap_append

variable {notes}

/-! ## The context and the call under way -/

/-- The state of a context with a pending call, or with none. -/
def stateOf (firstId : UInt64) : Option Nat → ContextState
  | none => .ready
  | some ticket => .suspended (firstId + UInt64.ofNat ticket)

/-- The calls that were submitted are those that have resumed the context, each once, and the one
that is pending. -/
structure Paired (firstId : UInt64) (context : Context) (stage : Stage) (calls : List Nat)
    (ends : List (Nat × Outcome)) (size : Nat) : Prop where
  state : context.state = stateOf firstId stage.pending
  balance : calls = ends.map Prod.fst ++ stage.pending.toList
  resumes : context.resumes = ends.length
  last : context.last = ends.getLast?.map Prod.snd
  nodup : calls.Nodup
  fresh : ∀ ticket ∈ calls, ticket < size
  queueing : ∀ ticket id, stage = .queueing ticket id →
    ticket < size ∧ ticket ∉ calls ∧ id = firstId + UInt64.ofNat ticket

namespace Paired

variable {stage : Stage} {calls : List Nat} {ends : List (Nat × Outcome)}

theorem start (firstId : UInt64) (name : String) (arguments : List Value) :
    Paired firstId (.new name arguments) .idle [] [] 0 :=
  ⟨rfl, rfl, rfl, rfl, List.nodup_nil, nofun, nofun⟩

/-- More tickets are given out. -/
theorem mono (h : Paired firstId context stage calls ends size) {size' : Nat}
    (hle : size ≤ size') : Paired firstId context stage calls ends size' :=
  { h with
    fresh := fun ticket hticket => Nat.lt_of_lt_of_le (h.fresh ticket hticket) hle
    queueing := fun ticket id hstage =>
      (h.queueing ticket id hstage).imp_left fun hlt => Nat.lt_of_lt_of_le hlt hle }

/-- A call is submitted, and the context suspended. -/
theorem submit (h : Paired firstId context stage calls ends size) (hidle : stage.pending = none)
    (hlt : ticket < size) (hnew : ticket ∉ calls) :
    Paired firstId (context.suspend (firstId + UInt64.ofNat ticket)) (.waiting ticket)
      (calls ++ [ticket]) ends size := by
  have hbalance := h.balance
  rw [hidle, Option.toList_none, List.append_nil] at hbalance
  refine ⟨rfl, by rw [hbalance]; rfl, h.resumes, h.last, ?_, fun other hother => ?_, nofun⟩
  · rw [← List.concat_eq_append]
    exact h.nodup.concat hnew
  · rcases List.mem_append.mp hother with hold | hsame
    · exact h.fresh other hold
    · rwa [List.mem_singleton.mp hsame]

/-- A call waits for room. -/
theorem queue (h : Paired firstId context stage calls ends size) (hidle : stage.pending = none)
    (hlt : ticket < size) (hnew : ticket ∉ calls) :
    Paired firstId context (.queueing ticket (firstId + UInt64.ofNat ticket)) calls ends size := by
  have hstate := h.state
  have hbalance := h.balance
  rw [hidle] at hstate hbalance
  refine ⟨hstate, hbalance, h.resumes, h.last, h.nodup, h.fresh, ?_⟩
  rintro other id ⟨⟩
  exact ⟨hlt, hnew, rfl⟩

/-- The pending call resumes the context. -/
theorem resume (h : Paired firstId context (.waiting ticket) calls ends size)
    (outcome : Outcome) :
    Paired firstId (context.resume outcome) .idle calls (ends ++ [(ticket, outcome)]) size := by
  refine ⟨rfl, ?_, ?_, ?_, h.nodup, h.fresh, nofun⟩
  · rw [h.balance, List.map_append]
    exact (List.append_nil _).symm
  · rw [List.length_append]
    exact congrArg (· + 1) h.resumes
  · rw [List.getLast?_concat]
    rfl

end Paired

/-! ## Submissions of program calls -/

theorem ticket_of_submit {service service' : Service σ Payload} {policy : Policy}
    {call : UInt64 → Callable σ Payload} {lethal : Bool} {submission : Submission}
    (h : service.submit policy call lethal = some (submission, service')) :
    submission.ticket = service.futures.size ∧ submission.id = service.nextId := by
  unfold Service.submit at h
  split at h
  · cases h
    exact ⟨rfl, rfl⟩
  · cases h
    exact ⟨rfl, rfl⟩
  · cases h

/-- What comes of a program call at first. -/
inductive Started (context : Context) (service : Service σ Payload) : Context.Start σ → Prop
  | refused {request : UInt64} (h : context.state = .suspended request) :
    Started context service (.refused (context.alreadySuspended request))
  | pending {submission : Submission} (service' : Service σ Payload)
    (h : context.state = .ready) (hticket : submission.ticket = service.futures.size)
    (hid : submission.id = service.nextId) :
    Started context service (.pending submission (context.suspend submission.id) service')
  | mustWait (h : context.state = .ready) : Started context service .mustWait

theorem started_submit (context : Context) (service : Service σ Payload) (program : Program σ) :
    Started context service (context.submit service program) := by
  unfold Context.submit
  cases hstate : context.state with
  | suspended request => exact .refused hstate
  | ready =>
    dsimp only
    split
    · exact .mustWait hstate
    · rename_i hsubmit
      obtain ⟨hticket, hid⟩ := ticket_of_submit hsubmit
      exact .pending _ hstate hticket hid

/-! ## An interpreter and its service -/

/-- All that holds of an interpreter and its service at any time. A ticket that was given to a
program call is that of its request, and a returned outcome is that of a record. -/
structure Sound (capacity : Nat) (firstId : UInt64) (engine : σ) (i : Interpreter σ)
    (log : List (Mark σ Payload)) (issued : List (UInt64 → Callable σ Payload))
    (notes : List (Note σ)) : Prop where
  service : ClosingService.Sound capacity firstId engine i.closing log issued
  paired : Paired firstId i.context i.stage (submitted notes) (resumed notes)
    i.closing.shared.service.futures.size
  called : ∀ ticket program arguments, .called ticket program arguments ∈ notes →
    issued[ticket]? = some (request program arguments)
  returned : ∀ ticket outcome, .returned ticket outcome ∈ notes →
    ∃ record, i.closing.shared.service.record? ticket = some record ∧
      outcome = Program.outcome record

namespace Sound

theorem start (capacity : Nat) (firstId : UInt64) (engine : σ) (name : String)
    (arguments : List Value) :
    Sound capacity firstId engine (Interpreter.start capacity firstId engine (.new name arguments))
      [] [] [] where
  service := ⟨.start capacity firstId engine, .start capacity firstId engine⟩
  paired := .start firstId name arguments
  called _ _ _ h := by cases h
  returned _ _ h := by cases h

/-- Something happens to the service. -/
theorem happen (h : Sound capacity firstId engine i log issued notes)
    (occurrence : ClosingService.Occurrence σ Payload) :
    Sound capacity firstId engine { i with closing := (i.closing.occur occurrence).1 }
      (log ++ (i.closing.occur occurrence).2) (issued ++ i.closing.issue occurrence) notes where
  service := h.service.occur occurrence
  paired := by
    refine h.paired.mono ?_
    rw [(h.service.occur occurrence).numbered.size, h.service.numbered.size, List.length_append]
    exact Nat.le_add_right _ _
  called ticket program arguments hcalled := by
    have hissued := h.called ticket program arguments hcalled
    obtain ⟨hlt, -⟩ := List.getElem?_eq_some_iff.mp hissued
    exact (List.getElem?_append_left hlt).trans hissued
  returned ticket outcome hreturned := by
    obtain ⟨record, hrecord, houtcome⟩ := h.returned ticket outcome hreturned
    have hkept := h.service.toSound.kept (i.closing.occur_passes occurrence)
    exact ⟨record, hkept ticket record hrecord, houtcome⟩

/-- The interpreter goes on, and sees something. -/
theorem note (h : Sound capacity firstId engine i log issued notes) {context : Context}
    {stage : Stage} {later : List (Note σ)} {calls : List Nat} {ends : List (Nat × Outcome)}
    (hpaired : Paired firstId context stage calls ends i.closing.shared.service.futures.size)
    (hcalls : submitted notes ++ submitted later = calls)
    (hends : resumed notes ++ resumed later = ends)
    (hcalled : ∀ ticket program arguments, .called ticket program arguments ∈ later →
      issued[ticket]? = some (request program arguments))
    (hreturned : ∀ ticket outcome, .returned ticket outcome ∈ later →
      ∃ record, i.closing.shared.service.record? ticket = some record ∧
        outcome = Program.outcome record) :
    Sound capacity firstId engine { i with context, stage } log issued (notes ++ later) where
  service := h.service
  paired := by rwa [submitted_append, resumed_append, hcalls, hends]
  called ticket program arguments hmem :=
    (List.mem_append.mp hmem).elim (h.called ticket program arguments)
      (hcalled ticket program arguments)
  returned ticket outcome hmem :=
    (List.mem_append.mp hmem).elim (h.returned ticket outcome) (hreturned ticket outcome)

/-- A context that is free has no call pending. -/
theorem pending_of_ready (h : Sound capacity firstId engine i log issued notes)
    (hready : i.context.state = .ready) : i.stage.pending = none := by
  have hstate := h.paired.state
  rw [hready] at hstate
  cases hpending : i.stage.pending with
  | none => rfl
  | some ticket =>
    rw [hpending] at hstate
    cases hstate

theorem call (h : Sound capacity firstId engine i log issued notes) (program : Program σ) :
    ∃ more, Sound capacity firstId engine (i.call program).1 (log ++ (i.call program).2.1)
      (issued ++ more) (notes ++ (i.call program).2.2) := by
  have hnext := h.service.numbered.next
  have hsize := h.service.numbered.size
  have hposted := h.happen (.event (.submit .wait (request program i.context.arguments) false))
  have hmore := hposted.service.numbered.size
  rw [List.length_append, ← hsize] at hmore
  have hnew : i.closing.shared.service.futures.size ∉ submitted notes := fun hmem =>
    Nat.lt_irrefl _ (h.paired.fresh _ hmem)
  have hcalled : ∀ ticket other arguments,
      Note.called ticket other arguments =
        .called i.closing.shared.service.futures.size program i.context.arguments →
      (issued ++ [request program i.context.arguments])[ticket]? =
        some (request other arguments) := by
    rintro _ _ _ ⟨⟩
    rw [hsize, List.getElem?_concat_length]
  unfold Interpreter.call
  dsimp only
  split
  · exact ⟨[], by simpa using h⟩
  · have hstarted := started_submit i.context i.closing.shared.service program
    generalize i.context.submit i.closing.shared.service program = first at hstarted ⊢
    cases hstarted with
    | refused hstate =>
      refine ⟨[], ?_⟩
      rw [List.append_nil, List.append_nil]
      exact h.note h.paired (List.append_nil _) (List.append_nil _) (by simp) (by simp)
    | @pending submission service' hready hticket hid =>
      have hidle := h.pending_of_ready hready
      have hpaired := hposted.paired.submit hidle (hmore ▸ Nat.lt_succ_self _) hnew
      refine ⟨[request program i.context.arguments], ?_⟩
      dsimp only
      rw [hticket, hid, hnext, ← hsize]
      refine hposted.note hpaired rfl (List.append_nil _) (fun ticket other arguments hmem => ?_)
        (by simp)
      exact hcalled ticket other arguments (by simpa using hmem)
    | mustWait hready =>
      have hidle := h.pending_of_ready hready
      have hpaired := hposted.paired.queue hidle (hmore ▸ Nat.lt_succ_self _) hnew
      refine ⟨[request program i.context.arguments], ?_⟩
      dsimp only
      rw [hnext, ← hsize]
      refine hposted.note hpaired (List.append_nil _) (List.append_nil _)
        (fun ticket other arguments hmem => ?_) (by simp)
      exact hcalled ticket other arguments (List.mem_singleton.mp hmem)

theorem proceed (h : Sound capacity firstId engine i log issued notes) :
    Sound capacity firstId engine i.proceed.1 log issued (notes ++ i.proceed.2) := by
  unfold Interpreter.proceed
  cases hstage : i.stage with
  | idle | waiting ticket =>
    rw [List.append_nil]
    exact h
  | queueing ticket id =>
    dsimp only
    split
    · rw [List.append_nil]
      exact h
    · obtain ⟨hlt, hnew, rfl⟩ := h.paired.queueing ticket id hstage
      have hpaired := h.paired.submit (by rw [hstage]; rfl) hlt hnew
      exact h.note hpaired rfl (List.append_nil _) (by simp) (by simp)

theorem collect (h : Sound capacity firstId engine i log issued notes) :
    Sound capacity firstId engine i.collect.1 log issued (notes ++ i.collect.2) := by
  unfold Interpreter.collect
  cases hstage : i.stage with
  | idle | queueing ticket id =>
    rw [List.append_nil]
    exact h
  | waiting ticket =>
    dsimp only
    split
    · rename_i record hrecord
      have hpaired := (hstage ▸ h.paired).resume (Program.outcome record)
      refine h.note hpaired (List.append_nil _) rfl (by simp) fun other outcome hmem => ?_
      cases List.mem_singleton.mp hmem
      exact ⟨record, hrecord, rfl⟩
    · rw [List.append_nil]
      exact h

theorem drop (h : Sound capacity firstId engine i log issued notes) :
    Sound capacity firstId engine i.drop.1 (log ++ i.drop.2.1) issued (notes ++ i.drop.2.2) := by
  unfold Interpreter.drop
  cases hstage : i.stage with
  | idle | queueing ticket id =>
    rw [List.append_nil, List.append_nil]
    exact h
  | waiting ticket =>
    have hdropped := h.happen (.event (.abandon ticket))
    have hpaired := (hstage ▸ hdropped.paired).resume (.error .abandoned)
    rw [show i.closing.issue (.event (.abandon ticket)) = [] from rfl, List.append_nil] at hdropped
    exact hdropped.note hpaired (List.append_nil _) rfl (by simp) (by simp)

theorem act (h : Sound capacity firstId engine i log issued notes) (deed : Deed σ) :
    ∃ more, Sound capacity firstId engine (i.act deed).1 (log ++ (i.act deed).2.1)
      (issued ++ more) (notes ++ (i.act deed).2.2) := by
  cases deed with
  | happen occurrence => exact ⟨_, (List.append_nil notes).symm ▸ h.happen occurrence⟩
  | prepare arguments =>
    refine ⟨[], ?_⟩
    simp only [Interpreter.act, List.append_nil]
    exact ⟨h.service, ⟨h.paired.state, h.paired.balance, h.paired.resumes, h.paired.last,
      h.paired.nodup, h.paired.fresh, h.paired.queueing⟩, h.called, h.returned⟩
  | call program => exact h.call program
  | proceed => exact ⟨[], by simpa [Interpreter.act] using h.proceed⟩
  | collect => exact ⟨[], by simpa [Interpreter.act] using h.collect⟩
  | drop => exact ⟨[], by simpa [Interpreter.act] using h.drop⟩

theorem run (h : Sound capacity firstId engine i log issued notes) (deeds : List (Deed σ)) :
    ∃ more, Sound capacity firstId engine (i.run deeds).1 (log ++ (i.run deeds).2.1)
      (issued ++ more) (notes ++ (i.run deeds).2.2) := by
  induction deeds generalizing i log issued notes with
  | nil => exact ⟨[], by simpa [Interpreter.run] using h⟩
  | cons deed deeds ih =>
    obtain ⟨first, hfirst⟩ := h.act deed
    obtain ⟨rest, hrest⟩ := ih hfirst
    refine ⟨first ++ rest, ?_⟩
    simpa only [Interpreter.run, List.append_assoc] using hrest

/-- A program call that was accepted is the request that was made, and comes to its end in time. -/
theorem runs (h : Sound capacity firstId engine i log issued notes) {program : Program σ}
    {arguments : List Value} (hcalled : .called ticket program arguments ∈ notes)
    {job : Job σ Payload} (hjob : job ∈ accepted log) (hticket : job.ticket = ticket) :
    job.id = firstId + UInt64.ofNat ticket ∧ job.body = request program arguments job.id ∧
      ∀ future, Fair future →
        ∃ time, (i.closing.live (upTo future time)).1.died = true ∨
          ticket ∈ finished (log ++ (i.closing.live (upTo future time)).2) := by
  subst hticket
  obtain ⟨hid, call, hcall, hbody⟩ := h.service.numbered.jobs job (List.mem_append_left _ hjob)
  rw [h.called _ program arguments hcalled] at hcall
  refine ⟨hid, ?_, fun future hfair => h.service.eventually_finished hfair hjob⟩
  rw [hbody, ← Option.some.inj hcall]

end Sound

/-- A program that does nothing. -/
def nothing : Program Unit :=
  { name := "nothing", run := fun _ _ => .returning (.value .uninit) }

/-- A call is dropped before the engine has taken it, and then runs. -/
example :
    let (i, log, _) := (start 1 5 () (.new "main" [])).run
      [.call nothing, .drop, .happen (.event .dispatch), .happen (.event .advance)]
    i.context.state = .ready ∧ i.context.resumes = 1 ∧ finished log = [0] ∧
      i.closing.shared.service.stats = ⟨1, 1, 0, 1⟩ := by
  cbv

end Interpreter

end ScriptHost
