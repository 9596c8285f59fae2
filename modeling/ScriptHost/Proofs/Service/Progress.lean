import ScriptHost.Proofs.Service.Closing

/-!
# Calls come to their end in time

In an endless history in which the engine always gets another turn, every accepted call comes to its
end, unless the engine dies. Once nobody holds the service any more, the engine ends.

* `ClosingService.Fair` : the endless histories.
* `ClosingService.Turn` : what one thing that happens does to the engine.
* `ClosingService.Along.eventually_idle` : the engine gets through the calls that are accepted.
* `ClosingService.Along.eventually_finished`, `ClosingService.Along.eventually_over` : what follows
  for a call, and for a service that nobody holds.
-/

namespace ScriptHost.ClosingService

open Callable (Next)
open Service (Rests)
open SharedService (Event Mark accepted started finished)

variable {σ α : Type} {capacity : Nat} {firstId : UInt64} {engine : σ}
  {c : ClosingService σ α} {log : List (Mark σ α)} {issued : List (UInt64 → Callable σ α)}

/-! ## What happens to the engine -/

/-- The engine is dead, or left alone, or it has done an action of the running call or taken the
next call. -/
inductive Turn (c : ClosingService σ α) (occurrence : Occurrence σ α) : Prop
  | dead (h : (c.occur occurrence).1.shared.service.alive = false)
  | rests (h : Rests c.shared.service (c.occur occurrence).1.shared.service)
  | works (h : (c.occur occurrence).1.shared.service = c.shared.service.advance)
  | takes {job : Job σ α} {queue : List (Job σ α)} (hidle : c.shared.service.running = none)
      (hqueue : c.shared.service.queue = job :: queue)
      (h : (c.occur occurrence).1.shared.service =
        { c.shared.service with
          running := some ⟨job, [Label.dispatched, Label.enqueued]⟩, queue })
      (hmarks : (c.occur occurrence).2 = [.started job])

theorem turn_of_occur (h : Tidy c log) (occurrence : Occurrence σ α) : Turn c occurrence := by
  cases occurrence with
  | event event =>
    cases event with
    | dispatch =>
      have htaking := h.taking
      cases htake : c.take with
      | mk after marks =>
        rw [htake] at htaking
        cases htaking with
        | passes => exact .rests (.of_eq (congrArg (·.1.shared.service) htake))
        | halts => exact .dead (congrArg (·.1.shared.service.alive) htake)
        | takes hidle _ hqueue =>
          exact .takes hidle hqueue (congrArg (·.1.shared.service) htake) (congrArg (·.2) htake)
    | advance => exact .works (congrArg SharedService.service c.advance_shared)
    | submit policy call lethal => exact .rests (c.shared.spares_submit policy call lethal).rests
    | retry position => exact .rests (c.shared.spares_retry position).rests
    | abandon ticket => exact .rests (c.shared.service.spares_abandon ticket).rests
  | crash =>
    cases hsome : c.shared.service.running with
    | none =>
      refine .rests (.of_eq (show c.shared.service.crash = _ from ?_))
      rw [Service.crash, hsome]
    | some running =>
      obtain ⟨futures, hcrash⟩ := Service.crash_eq hsome
      exact .dead (congrArg Service.alive hcrash)
  | discard =>
    cases halive : c.shared.service.alive with
    | true =>
      refine .rests (.of_eq (show c.shared.service.discard = _ from ?_))
      rw [Service.discard, if_pos halive]
    | false =>
      obtain ⟨futures, hstop⟩ := c.shared.service.stop_eq
      refine .dead (show c.shared.service.discard.alive = false from ?_)
      rw [Service.discard, halive]
      exact congrArg Service.alive hstop
  | close =>
    refine .rests (show Rests _ c.close.shared.service from ?_)
    unfold close
    split
    · rw [send_shared]
      exact ⟨rfl, rfl, fun hheld => absurd hheld Bool.false_ne_true, fun _ => rfl⟩
    · exact .of_eq rfl
  | send => exact .rests (.of_eq (congrArg SharedService.service c.send_shared))

/-- The running call stays as it is, or comes to its end or goes on, unless the engine dies. -/
theorem running_occur (h : Tidy c log) {running : Running σ α}
    (hsome : c.shared.service.running = some running) (occurrence : Occurrence σ α) :
    let s' := (c.occur occurrence).1.shared.service
    s'.running = some running ∨ s'.alive = false ∨ s'.running = none ∨
      ∃ running', s'.running = some running' ∧ Next running.job.body running'.job.body := by
  cases turn_of_occur h occurrence with
  | dead hdead => exact .inr (.inl hdead)
  | rests hrests => exact .inl (hrests.running.trans hsome)
  | works hworks =>
    rw [hworks]
    exact .inr (.inr (c.shared.service.works_advance.running running hsome))
  | takes hidle =>
    rw [hsome] at hidle
    cases hidle

/-- An idle engine stays idle, or takes a call, unless it dies. -/
theorem idle_occur (h : Tidy c log) (hidle : c.shared.service.running = none)
    (halive : c.shared.service.alive = true) (occurrence : Occurrence σ α) :
    let s' := (c.occur occurrence).1.shared.service
    (s'.running = none ∧ s'.alive = true) ∨ s'.alive = false ∨
      ∃ job, started (c.occur occurrence).2 = [job] := by
  cases turn_of_occur h occurrence with
  | dead hdead => exact .inr (.inl hdead)
  | rests hrests => exact .inl ⟨hrests.running.trans hidle, hrests.alive.trans halive⟩
  | works hworks =>
    have hsame := hworks.trans (c.shared.service.works_advance.idle hidle)
    exact .inl ⟨hsame ▸ hidle, hsame ▸ halive⟩
  | @takes job _ _ _ _ hmarks => exact .inr (.inr ⟨job, by rw [hmarks]; rfl⟩)

/-- A service that was given up is not held again. -/
theorem held_occur (h : Tidy c log) (hfree : c.shared.service.held = false)
    (occurrence : Occurrence σ α) :
    (c.occur occurrence).1.shared.service.alive = false ∨
      (c.occur occurrence).1.shared.service.held = false := by
  rw [Bool.eq_false_iff] at hfree
  cases turn_of_occur h occurrence with
  | dead hdead => exact .inl hdead
  | rests hrests => exact .inr (Bool.eq_false_iff.mpr (mt hrests.held hfree))
  | works hworks =>
    rw [hworks]
    exact .inr (Bool.eq_false_iff.mpr (mt c.shared.service.works_advance.held hfree))
  | takes _ _ htakes _ =>
    rw [htakes]
    exact .inr (Bool.eq_false_iff.mpr hfree)

/-- Nothing is accepted into the queue of a service that was given up. -/
theorem accepted_occur (hfree : c.shared.service.held = false) (occurrence : Occurrence σ α) :
    accepted (c.occur occurrence).2 = [] := by
  cases occurrence with
  | event event =>
    cases event with
    | dispatch =>
      change accepted c.take.2 = []
      unfold take
      split
      · rfl
      · split
        · rfl
        · rfl
        · exact SharedService.accepted_step hfree .dispatch
    | advance => exact SharedService.accepted_step hfree .advance
    | submit policy call lethal =>
      exact SharedService.accepted_step hfree (.submit policy call lethal)
    | retry position => exact SharedService.accepted_step hfree (.retry position)
    | abandon ticket => rfl
  | crash | discard | close | send => rfl

/-- There is nothing left to do for the engine, and nobody holds the service. -/
structure Vacant (c : ClosingService σ α) : Prop where
  running : c.shared.service.running = none
  alive : c.shared.service.alive = true
  queue : c.shared.service.queue = []
  held : c.shared.service.held = false

/-- The engine needs no more than its turn to end. -/
def Ending (c : ClosingService σ α) : Prop := c.stop.isSome = true ∨ c.connected = false

theorem Vacant.service_occur (h : Vacant c) (htidy : Tidy c log) (occurrence : Occurrence σ α)
    (halive : (c.occur occurrence).1.shared.service.alive = true) :
    Vacant (c.occur occurrence).1 := by
  cases turn_of_occur htidy occurrence with
  | dead hdead => exact absurd (hdead.symm.trans halive) Bool.false_ne_true
  | rests hrests =>
    refine ⟨hrests.running.trans h.running, halive, (hrests.queue h.held).trans h.queue, ?_⟩
    exact Bool.eq_false_iff.mpr (mt hrests.held (Bool.eq_false_iff.mp h.held))
  | works hworks =>
    have hsame := hworks.trans (c.shared.service.works_advance.idle h.running)
    exact ⟨hsame ▸ h.running, halive, hsame ▸ h.queue, hsame ▸ h.held⟩
  | takes _ hqueue =>
    rw [h.queue] at hqueue
    cases hqueue

theorem Vacant.ending_occur (h : Vacant c) (hending : Ending c) (occurrence : Occurrence σ α) :
    Ending (c.occur occurrence).1 := by
  cases occurrence with
  | event event =>
    cases event with
    | dispatch =>
      change Ending c.take.1
      rw [take_eq_of_empty h.running h.alive h.queue]
      dsimp only
      split
      · exact hending
      · exact hending
    | advance =>
      change Ending c.advance.1
      unfold advance
      rw [h.held]
      exact hending
    | submit | retry | abandon => exact hending
  | crash | discard => exact hending
  | close =>
    change Ending c.close
    unfold close
    rw [h.held]
    exact hending
  | send =>
    change Ending c.send
    unfold send
    split
    · exact hending
    · split
      · exact hending
      · split
        · exact .inl rfl
        · exact hending

/-- There is room for the message to stop on an empty queue. -/
theorem Vacant.ending_send (h : Vacant c) (hsound : Sound capacity firstId engine c log issued) :
    Ending c.send := by
  by_cases hending : Ending c
  · exact h.ending_occur hending .send
  · obtain ⟨hstop, hconnected⟩ := not_or.mp hending
    have hclosing : c.closing = true := by
      have hleaving := hsound.tidy.leaving h.alive h.held
      exact (hleaving.resolve_left hstop).resolve_right hconnected
    have hroom : c.hasRoom = true := by
      have hcapacity := (hsound.lived.ordered h.alive).serial.capacity_eq
      rw [Bool.not_eq_true, Option.isSome_eq_false_iff, Option.isNone_iff_eq_none] at hstop
      rw [hasRoom, messages, hstop, h.queue, hcapacity]
      exact decide_eq_true (Nat.lt_of_lt_of_le Nat.zero_lt_one (Nat.le_max_left _ _))
    rw [send, hclosing, h.alive, hroom]
    exact .inl rfl

/-! ## Endless histories -/

/-- In an endless history the engine gets its turns, and so does whoever waits for room for the
message to stop. -/
structure Fair (future : Nat → Occurrence σ α) : Prop where
  takes : ∀ time, ∃ later, time ≤ later ∧ future later = .event .dispatch
  advances : ∀ time, ∃ later, time ≤ later ∧ future later = .event .advance
  sends : ∀ time, ∃ later, time ≤ later ∧ future later = .send

/-- The beginning of an endless history. -/
def upTo (future : Nat → Occurrence σ α) (time : Nat) : List (Occurrence σ α) :=
  (List.range time).map future

theorem live_append (c : ClosingService σ α) (history later : List (Occurrence σ α)) :
    c.live (history ++ later) =
      (((c.live history).1.live later).1,
        (c.live history).2 ++ ((c.live history).1.live later).2) := by
  induction history generalizing c with
  | nil => rfl
  | cons occurrence history ih =>
    have hrest := ih (c.occur occurrence).1
    simp only [List.cons_append, live, hrest, List.append_assoc]

/-- What waits for a turn that always comes again gets it. -/
theorem wait {p q turn : Nat → Prop} (hturns : ∀ time, ∃ later, time ≤ later ∧ turn later)
    (hkeep : ∀ time, p time → p (time + 1) ∨ q (time + 1))
    (huse : ∀ time, turn time → p time → q (time + 1)) {time : Nat} (h : p time) :
    ∃ later, time ≤ later ∧ q later := by
  have hstays : ∀ now, time ≤ now → p now ∨ ∃ later, time ≤ later ∧ q later := by
    intro now hnow
    induction hnow with
    | refl => exact .inl h
    | @step now hnow ih =>
      rcases ih with hp | hdone
      · rcases hkeep now hp with hp | hq
        · exact .inl hp
        · exact .inr ⟨now + 1, Nat.le_succ_of_le hnow, hq⟩
      · exact .inr hdone
  obtain ⟨now, hnow, hturn⟩ := hturns time
  rcases hstays now hnow with hp | hdone
  · exact ⟨now + 1, Nat.le_succ_of_le hnow, huse now hturn hp⟩
  · exact hdone

/-- The states and the marks along an endless history. -/
structure Along (capacity : Nat) (firstId : UInt64) (engine : σ)
    (future : Nat → Occurrence σ α) (state : Nat → ClosingService σ α)
    (log : Nat → List (Mark σ α)) : Prop where
  sound : ∀ time, ∃ issued, Sound capacity firstId engine (state time) (log time) issued
  next : ∀ time, state (time + 1) = ((state time).occur (future time)).1
  marks : ∀ time, log (time + 1) = log time ++ ((state time).occur (future time)).2

theorem Sound.along (h : Sound capacity firstId engine c log issued)
    (future : Nat → Occurrence σ α) :
    Along capacity firstId engine future (fun time => (c.live (upTo future time)).1)
      fun time => log ++ (c.live (upTo future time)).2 := by
  have hnext : ∀ time, c.live (upTo future (time + 1)) =
      let before := c.live (upTo future time)
      ((before.1.occur (future time)).1, before.2 ++ (before.1.occur (future time)).2) := by
    intro time
    have hlast : upTo future (time + 1) = upTo future time ++ [future time] := by
      rw [upTo, List.range_succ, List.map_append]
      rfl
    rw [hlast, live_append]
    simp only [ClosingService.live, List.append_nil]
  refine ⟨fun time => ⟨_, h.live _⟩, fun time => ?_, fun time => ?_⟩
  · rw [hnext]
  · rw [hnext, List.append_assoc]

namespace Along

variable {future : Nat → Occurrence σ α} {state : Nat → ClosingService σ α}
  {log : Nat → List (Mark σ α)} {time later : Nat}

theorem log_prefix (h : Along capacity firstId engine future state log) (hle : time ≤ later) :
    log time <+: log later := by
  induction hle with
  | refl => exact List.prefix_refl _
  | step _ ih =>
    rw [h.marks]
    exact ih.trans (List.prefix_append _ _)

theorem accepted_prefix (h : Along capacity firstId engine future state log)
    (hle : time ≤ later) : accepted (log time) <+: accepted (log later) :=
  (h.log_prefix hle).filterMap _

theorem started_prefix (h : Along capacity firstId engine future state log)
    (hle : time ≤ later) : started (log time) <+: started (log later) :=
  (h.log_prefix hle).filterMap _

/-- The running call comes to its end. -/
theorem eventually_done (h : Along capacity firstId engine future state log) (hfair : Fair future)
    {running : Running σ α} (hsome : (state time).shared.service.running = some running) :
    ∃ later, time ≤ later ∧ ((state later).shared.service.alive = false ∨
      (state later).shared.service.running = none) := by
  induction hbody : running.job.body using Callable.next_wf.induction generalizing time running with
  | _ body ih =>
    let onward (now : Nat) : Prop :=
      (state now).shared.service.alive = false ∨ (state now).shared.service.running = none ∨
        ∃ running', (state now).shared.service.running = some running' ∧
          Next running.job.body running'.job.body
    have honward : ∃ later, time ≤ later ∧ onward later := by
      refine wait (p := fun now => (state now).shared.service.running = some running)
        hfair.advances (fun now hnow => ?_) (fun now hturn hnow => ?_) hsome
      · obtain ⟨issued, hsound⟩ := h.sound now
        have hstep := running_occur hsound.tidy hnow (future now)
        rwa [← h.next] at hstep
      · have hworks := (state now).shared.service.works_advance.running running hnow
        have hnext := h.next now
        rw [hturn] at hnext
        have hservice : (state (now + 1)).shared.service = (state now).shared.service.advance := by
          rw [hnext]
          exact congrArg SharedService.service (state now).advance_shared
        rw [← hservice] at hworks
        exact .inr hworks
    obtain ⟨later, hle, hdead | hnone | ⟨running', hsome', hnext⟩⟩ := honward
    · exact ⟨later, hle, .inl hdead⟩
    · exact ⟨later, hle, .inr hnone⟩
    · obtain ⟨last, hle', hlast⟩ := ih _ (hbody ▸ hnext) hsome' rfl
      exact ⟨last, Nat.le_trans hle hle', hlast⟩

/-- An idle engine with a call on its queue takes one. -/
theorem eventually_taken (h : Along capacity firstId engine future state log)
    (hfair : Fair future) (hidle : (state time).shared.service.running = none)
    (halive : (state time).shared.service.alive = true)
    (hmore : (started (log time)).length < (accepted (log time)).length) :
    ∃ later, time ≤ later ∧ ((state later).shared.service.alive = false ∨
      (started (log time)).length < (started (log later)).length) := by
  refine wait (p := fun now => time ≤ now ∧ (state now).shared.service.running = none ∧
    (state now).shared.service.alive = true) hfair.takes ?_ ?_ ⟨Nat.le_refl _, hidle, halive⟩
  · rintro now ⟨hle, hidle, halive⟩
    obtain ⟨issued, hsound⟩ := h.sound now
    rcases idle_occur hsound.tidy hidle halive (future now) with hstays | hdead | ⟨job, hjob⟩
    · rw [← h.next] at hstays
      exact .inl ⟨Nat.le_succ_of_le hle, hstays⟩
    · rw [← h.next] at hdead
      exact .inr (.inl hdead)
    · have hprefix := (h.started_prefix hle).length_le
      refine .inr (.inr ?_)
      rw [h.marks, SharedService.started_append, hjob, List.length_append, List.length_singleton]
      omega
  · rintro now hturn ⟨hle, hidle, halive⟩
    obtain ⟨issued, hsound⟩ := h.sound now
    have hprefix := (h.started_prefix hle).length_le
    rw [h.marks, hturn, SharedService.started_append, List.length_append]
    have horder := congrArg List.length (hsound.lived.ordered halive).serial.order
    rw [List.length_append] at horder
    cases hqueue : (state now).shared.service.queue with
    | nil =>
      have haccepted := (h.accepted_prefix hle).length_le
      rw [hqueue, List.length_nil] at horder
      right
      omega
    | cons job queue =>
      have hmarks : ((state now).occur (.event .dispatch)).2 = [.started job] :=
        congrArg Prod.snd (take_eq_of_call hidle halive hqueue hsound.tidy)
      rw [hmarks]
      exact .inr (Nat.lt_of_le_of_lt hprefix (Nat.lt_succ_self _))

/-- The engine gets through any number of the calls that are accepted. -/
theorem eventually_idle (h : Along capacity firstId engine future state log) (hfair : Fair future)
    {count : Nat} (hcount : count ≤ (accepted (log time)).length) :
    ∃ later, time ≤ later ∧ ((state later).shared.service.alive = false ∨
      (state later).shared.service.running = none ∧ count ≤ (started (log later)).length) := by
  -- the engine comes to the end of what it is doing, having started at least as many calls as now
  have hdone : ∀ {now}, time ≤ now → ∀ {least}, least ≤ (started (log now)).length →
      ∃ later, time ≤ later ∧ ((state later).shared.service.alive = false ∨
        (state later).shared.service.running = none ∧ least ≤ (started (log later)).length) := by
    intro now hnow least hleast
    cases hsome : (state now).shared.service.running with
    | none => exact ⟨now, hnow, .inr ⟨hsome, hleast⟩⟩
    | some running =>
      obtain ⟨later, hle, hlater⟩ := h.eventually_done hfair hsome
      have hprefix := (h.started_prefix hle).length_le
      exact ⟨later, Nat.le_trans hnow hle, hlater.imp_right fun hidle =>
        ⟨hidle, Nat.le_trans hleast hprefix⟩⟩
  induction count with
  | zero => exact hdone (Nat.le_refl _) (Nat.zero_le _)
  | succ count ih =>
    obtain ⟨now, hnow, hdead | ⟨hidle, hstarted⟩⟩ := ih (Nat.le_of_succ_le hcount)
    · exact ⟨now, hnow, .inl hdead⟩
    · by_cases hmore : count < (started (log now)).length
      · exact ⟨now, hnow, .inr ⟨hidle, hmore⟩⟩
      · cases halive : (state now).shared.service.alive with
        | false => exact ⟨now, hnow, .inl halive⟩
        | true =>
          have haccepted := (h.accepted_prefix hnow).length_le
          obtain ⟨later, hle, hdead | htaken⟩ :=
            h.eventually_taken hfair hidle halive (by omega)
          · exact ⟨later, Nat.le_trans hnow hle, .inl hdead⟩
          · exact hdone (Nat.le_trans hnow hle) (Nat.lt_of_le_of_lt hstarted htaken)

/-- Nothing is accepted after a service was given up. -/
theorem free_of_free (h : Along capacity firstId engine future state log)
    (hfree : (state time).shared.service.held = false) (hle : time ≤ later) :
    (state later).shared.service.alive = false ∨
      (state later).shared.service.held = false ∧ accepted (log later) = accepted (log time) := by
  induction hle with
  | refl => exact .inr ⟨hfree, rfl⟩
  | @step now _ ih =>
    obtain ⟨issued, hsound⟩ := h.sound now
    rcases ih with hdead | ⟨hfree, hsame⟩
    · have hpasses := (state now).occur_passes (future now)
      have hstill := hpasses.dead hdead (hsound.lived.idle hdead)
      rw [h.next]
      exact .inl hstill.alive
    · rw [h.next, h.marks, SharedService.accepted_append, accepted_occur hfree, List.append_nil]
      exact (held_occur hsound.tidy hfree (future now)).imp_right fun hfree' => ⟨hfree', hsame⟩

/-- An engine with nothing left to do ends. -/
theorem eventually_over_of_vacant (h : Along capacity firstId engine future state log)
    (hfair : Fair future) (hvacant : Vacant (state time)) :
    ∃ later, time ≤ later ∧ (state later).shared.service.alive = false := by
  have hstays : ∀ now, Vacant (state now) →
      Vacant (state (now + 1)) ∨ (state (now + 1)).shared.service.alive = false := by
    intro now hnow
    obtain ⟨issued, hsound⟩ := h.sound now
    cases halive : (state (now + 1)).shared.service.alive with
    | false => exact .inr rfl
    | true =>
      rw [h.next] at halive ⊢
      exact .inl (hnow.service_occur hsound.tidy (future now) halive)
  have hsent : ∃ later, time ≤ later ∧ ((state later).shared.service.alive = false ∨
      Vacant (state later) ∧ Ending (state later)) := by
    refine wait (p := fun now => Vacant (state now)) hfair.sends
      (fun now hnow => (hstays now hnow).imp_right .inl) (fun now hturn hnow => ?_) hvacant
    obtain ⟨issued, hsound⟩ := h.sound now
    refine (hstays now hnow).symm.imp_right fun hvacant => ⟨hvacant, ?_⟩
    rw [h.next, hturn]
    exact hnow.ending_send hsound
  obtain ⟨now, hle, hdead | ⟨hvacant, hending⟩⟩ := hsent
  · exact ⟨now, hle, hdead⟩
  · have hover : ∃ later, now ≤ later ∧ (state later).shared.service.alive = false := by
      refine wait (p := fun now => Vacant (state now) ∧ Ending (state now)) hfair.takes
        (fun now hnow => ?_) (fun now hturn hnow => ?_) ⟨hvacant, hending⟩
      · refine (hstays now hnow.1).imp_left fun hvacant => ⟨hvacant, ?_⟩
        rw [h.next]
        exact hnow.1.ending_occur hnow.2 (future now)
      · have htake := take_eq_of_empty hnow.1.running hnow.1.alive hnow.1.queue
        have hends : ((state now).stop.isSome || !(state now).connected) = true := by
          simpa [Ending] using hnow.2
        rw [if_pos hends] at htake
        rw [h.next, hturn]
        exact congrArg (·.1.shared.service.alive) htake
    obtain ⟨later, hle', hlater⟩ := hover
    exact ⟨later, Nat.le_trans hle hle', hlater⟩

/-- The engine gets through all accepted calls, or it is dead. -/
theorem eventually_all (h : Along capacity firstId engine future state log) (hfair : Fair future)
    (time : Nat) :
    ∃ later, time ≤ later ∧ ((state later).shared.service.alive = false ∨
      (state later).shared.service.running = none ∧
        accepted (log time) <+: started (log later) ∧
        (started (log later)).map Job.ticket = finished (log later)) := by
  obtain ⟨later, hle, hdead | ⟨hidle, hcount⟩⟩ := h.eventually_idle hfair (Nat.le_refl _)
  · exact ⟨later, hle, .inl hdead⟩
  · cases halive : (state later).shared.service.alive with
    | false => exact ⟨later, hle, .inl halive⟩
    | true =>
      obtain ⟨issued, hsound⟩ := h.sound later
      have hserial := (hsound.lived.ordered halive).serial
      refine ⟨later, hle, .inr ⟨hidle, ?_, ?_⟩⟩
      · have hstarted : started (log later) <+: accepted (log later) :=
          hserial.order ▸ List.prefix_append _ _
        exact List.prefix_of_prefix_length_le (h.accepted_prefix hle) hstarted hcount
      · rw [hserial.turns, hidle]
        exact List.append_nil _

/-- A service that was given up comes to its end. -/
theorem eventually_over (h : Along capacity firstId engine future state log) (hfair : Fair future)
    (hfree : (state time).shared.service.held = false) :
    ∃ later, time ≤ later ∧ (state later).shared.service.alive = false := by
  obtain ⟨now, hle, hdead | ⟨hidle, hstarted, -⟩⟩ := h.eventually_all hfair time
  · exact ⟨now, hle, hdead⟩
  · rcases h.free_of_free hfree hle with hdead | ⟨hfree', hsame⟩
    · exact ⟨now, hle, hdead⟩
    · cases halive : (state now).shared.service.alive with
      | false => exact ⟨now, hle, halive⟩
      | true =>
        obtain ⟨issued, hsound⟩ := h.sound now
        have horder := (hsound.lived.ordered halive).serial.order
        have hqueue : (state now).shared.service.queue = [] := by
          have hlength := hstarted.length_le
          rw [← hsame, horder, List.length_append] at hlength
          exact List.eq_nil_of_length_eq_zero (by omega)
        obtain ⟨later, hle', hlater⟩ :=
          h.eventually_over_of_vacant hfair ⟨hidle, halive, hqueue, hfree'⟩
        exact ⟨later, Nat.le_trans hle hle', hlater⟩

end Along

/-! ## What happens in time -/

variable {future : Nat → Occurrence σ α}

/-- An accepted call comes to its end, unless the engine dies. -/
theorem Sound.eventually_finished (h : Sound capacity firstId engine c log issued)
    (hfair : Fair future) {job : Job σ α} (hjob : job ∈ accepted log) :
    ∃ time, (c.live (upTo future time)).1.died = true ∨
      job.ticket ∈ finished (log ++ (c.live (upTo future time)).2) := by
  obtain ⟨time, -, htime⟩ := (h.along future).eventually_all hfair 0
  have hbegin : log ++ (c.live (upTo future 0)).2 = log := List.append_nil log
  have hsound := h.live (upTo future time)
  refine ⟨time, ?_⟩
  cases hdied : (c.live (upTo future time)).1.died with
  | true => exact .inl rfl
  | false =>
    right
    rcases htime with hdead | ⟨-, hstarted, hfinished⟩
    · obtain ⟨-, haccepted, hfinished⟩ := hsound.tidy.drained hdead hdied
      rw [← hfinished, ← haccepted, SharedService.accepted_append]
      exact List.mem_map_of_mem (List.mem_append_left _ hjob)
    · rw [← hfinished]
      rw [hbegin] at hstarted
      exact List.mem_map_of_mem (hstarted.subset hjob)

/-- A service that was given up comes to its end. -/
theorem Sound.eventually_over (h : Sound capacity firstId engine c log issued)
    (hfair : Fair future) (hfree : c.shared.service.held = false) :
    ∃ time, (c.live (upTo future time)).1.shared.service.alive = false := by
  have hbegin : (c.live (upTo future 0)).1.shared.service.held = false := hfree
  obtain ⟨time, -, htime⟩ := (h.along future).eventually_over hfair hbegin
  exact ⟨time, htime⟩

end ScriptHost.ClosingService
