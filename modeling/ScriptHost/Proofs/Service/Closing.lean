import ScriptHost.Proofs.Service.OneRecord
import ScriptHost.Proofs.Service.Turns
import ScriptHost.Service.Closing

/-!
# What is under way when a service ends

The message to stop is the last thing on the queue, and nobody holds the service by then. As long as
the engine lives on, either the message is there, or somebody waits to put it there, or the empty
queue will do.

* `ClosingService.occur_passes` : all that happens consists of small steps.
* `ClosingService.Taking` : what comes of the turn of an idle engine.
* `ClosingService.Tidy` : the invariant of the message to stop.
* `ClosingService.sound_live` : it holds after any history.
-/

namespace ScriptHost.ClosingService

open SharedService (Event Mark Passes Lived Still accepted started finished)

variable {σ α : Type} {capacity : Nat} {firstId : UInt64} {engine : σ} {c c' : ClosingService σ α}
  {log marks : List (Mark σ α)} {issued : List (UInt64 → Callable σ α)}

/-! ## Small steps -/

@[simp]
theorem letGo_shared (c : ClosingService σ α) : c.letGo.shared = c.shared := by
  unfold letGo
  split <;> rfl

@[simp]
theorem letGo_died (c : ClosingService σ α) : c.letGo.died = c.died := by
  unfold letGo
  split <;> rfl

/-- The running call puts the message to stop behind all calls, if it does so. -/
theorem letGo_stop (hnone : c.stop = none) {place : Nat} (h : c.letGo.stop = some place) :
    place = c.shared.service.queue.length := by
  unfold letGo at h
  dsimp only at h
  split at h
  · exact (Option.some.inj h).symm
  · rw [hnone] at h
    cases h

@[simp]
theorem send_shared (c : ClosingService σ α) : c.send.shared = c.shared := by
  unfold send
  split
  · rfl
  · split
    · rfl
    · split <;> rfl

theorem advance_shared (c : ClosingService σ α) :
    c.advance.1.shared = (c.shared.step .advance).1 := by
  unfold advance
  dsimp only
  split
  · rw [letGo_shared]
    rfl
  · rfl

theorem close_passes (c : ClosingService σ α) : Passes c.shared [] [] c.close.shared := by
  unfold close
  split
  · rw [send_shared]
    exact c.shared.occur_passes .release
  · exact .refl c.shared

theorem halt_passes (hidle : c.shared.service.running = none) :
    Passes c.shared [] [] c.halt.shared := by
  refine .calm ⟨⟨rfl, rfl, rfl, rfl, rfl⟩, rfl, rfl, fun halive => ?_, fun _ => .inr hidle,
    fun _ => .inl rfl⟩
  exact absurd halive Bool.false_ne_true

theorem take_passes (c : ClosingService σ α) : Passes c.shared c.take.2 [] c.take.1.shared := by
  unfold take
  split
  · exact .refl c.shared
  · rename_i hidle
    have hnone : c.shared.service.running = none := by
      simp only [Bool.or_eq_true, not_or, Option.isSome_iff_ne_none, not_not] at hidle
      exact hidle.1
    split
    · split
      · exact .refl c.shared
      · exact halt_passes hnone
    · exact halt_passes hnone
    · exact c.shared.occur_passes (.event .dispatch)

theorem occur_passes (c : ClosingService σ α) (occurrence : Occurrence σ α) :
    Passes c.shared (c.occur occurrence).2 (c.issue occurrence) (c.occur occurrence).1.shared := by
  cases occurrence with
  | event event =>
    cases event with
    | dispatch => exact c.take_passes
    | advance =>
      have h := c.shared.occur_passes (.event .advance)
      rw [show (c.shared.occur (.event .advance)).1 = c.advance.1.shared from
        c.advance_shared.symm] at h
      exact h
    | submit policy call lethal => exact c.shared.step_passes (.submit policy call lethal)
    | retry position => exact c.shared.step_passes (.retry position)
    | abandon ticket => exact c.shared.step_passes (.abandon ticket)
  | crash => exact c.shared.occur_passes .crash
  | discard => exact c.shared.occur_passes .discard
  | close => exact c.close_passes
  | send =>
    have h : (c.occur .send).1.shared = c.shared := c.send_shared
    rw [h]
    exact .refl c.shared

/-- A call comes to its end by an action of its own. -/
theorem finished_occur {occurrence : Occurrence σ α} {ticket : Nat}
    (h : ticket ∈ finished (c.occur occurrence).2) :
    occurrence = .event .advance ∧ ∃ running ending, c.shared.service.running = some running ∧
      running.job.body = .finish ending ∧ running.job.ticket = ticket := by
  cases occurrence with
  | event event =>
    cases event with
    | dispatch =>
      change ticket ∈ finished c.take.2 at h
      unfold take at h
      split at h
      · cases h
      · split at h
        · cases h
        · cases h
        · change ticket ∈ finished (c.shared.step .dispatch).2 at h
          cases (SharedService.finished_step h).1
    | advance =>
      change ticket ∈ finished (c.shared.step .advance).2 at h
      exact ⟨rfl, (SharedService.finished_step h).2⟩
    | submit policy call lethal =>
      change ticket ∈ finished (c.shared.step (.submit policy call lethal)).2 at h
      cases (SharedService.finished_step h).1
    | retry position =>
      change ticket ∈ finished (c.shared.step (.retry position)).2 at h
      cases (SharedService.finished_step h).1
    | abandon other => cases h
  | crash | discard | close | send => cases h

theorem live_passes (c : ClosingService σ α) (history : List (Occurrence σ α)) :
    Passes c.shared (c.live history).2 (c.issued history) (c.live history).1.shared := by
  induction history generalizing c with
  | nil => exact .refl c.shared
  | cons occurrence history ih => exact (c.occur_passes occurrence).trans (ih _)

/-! ## The message to stop -/

/-- Something is under way by which the engine will end. -/
def Leaving (c : ClosingService σ α) : Prop :=
  c.stop.isSome = true ∨ c.closing = true ∨ c.connected = false

/-- An engine that has died lives no more. One that has ended by itself has done all calls. -/
structure Settled (c : ClosingService σ α) (log : List (Mark σ α)) : Prop where
  died : c.died = true → c.shared.service.alive = false
  drained : c.shared.service.alive = false → c.died = false →
    c.shared.service.held = false ∧ accepted log = started log ∧
      (started log).map Job.ticket = finished log

/-- Nothing is behind the message to stop. As soon as nobody holds the service, there is one, or
there will be one, or none is needed. -/
structure Tidy (c : ClosingService σ α) (log : List (Mark σ α)) : Prop extends Settled c log where
  last : ∀ place, c.stop = some place → c.shared.service.alive = true →
    place = c.shared.service.queue.length
  released : Leaving c → c.shared.service.held = false
  leaving : c.shared.service.alive = true → c.shared.service.held = false → Leaving c

theorem Tidy.start (capacity : Nat) (firstId : UInt64) (engine : σ) :
    Tidy (ClosingService.start capacity firstId engine : ClosingService σ α) [] where
  died h := by cases h
  drained h := by cases h
  last _ h := by cases h
  released h := by rcases h with h | h | h <;> cases h
  leaving _ h := by cases h

/-- A service that somebody holds has none of it under way. -/
theorem Tidy.stop_eq_none (h : Tidy c log) (hheld : c.shared.service.held = true) :
    c.stop = none := by
  cases hstop : c.stop with
  | none => rfl
  | some place =>
    have hfree := h.released (.inl (by rw [hstop]; rfl))
    rw [hheld] at hfree
    cases hfree

/-! ## Callers and the running call -/

/-- A step after which a dead engine has died. -/
theorem Settled.follow (h : Settled c log) (hlived : Lived capacity engine c.shared log)
    {calls : List (UInt64 → Callable σ α)} {shared : SharedService σ α}
    (hpasses : Passes c.shared marks calls shared)
    (hheld : shared.service.held = true → c.shared.service.held = true) :
    Settled (c.follow shared) (log ++ marks) := by
  cases halive : c.shared.service.alive with
  | true =>
    have hdied : c.died = false := by
      cases hdied : c.died with
      | false => rfl
      | true => exact absurd ((h.died hdied).symm.trans halive) Bool.false_ne_true
    have hfollow : (c.follow shared).died = !shared.service.alive := by
      rw [ClosingService.follow, hdied, halive]
      rfl
    constructor
    · intro hdied'
      rw [hfollow] at hdied'
      exact Bool.not_eq_true' _ ▸ hdied'
    · intro halive' hdied'
      rw [hfollow, show shared.service.alive = false from halive'] at hdied'
      cases hdied'
  | false =>
    have hstill := hpasses.dead halive (hlived.idle halive)
    have hfollow : (c.follow shared).died = c.died := by
      rw [ClosingService.follow, halive]
      exact Bool.or_false _
    refine ⟨fun _ => hstill.alive, fun _ hdied => ?_⟩
    obtain ⟨hfree, haccepted, hstarted⟩ := h.drained halive (hfollow ▸ hdied)
    rw [SharedService.accepted_append, SharedService.started_append,
      SharedService.finished_append, hstill.accepted, hstill.started, hstill.finished]
    simp only [List.append_nil]
    refine ⟨?_, haccepted, hstarted⟩
    exact Bool.eq_false_iff.mpr fun hheld' => Bool.eq_false_iff.mp hfree (hheld hheld')

/-- A step that does not give up the service. -/
theorem Tidy.follow (h : Tidy c log) (hlived : Lived capacity engine c.shared log)
    {calls : List (UInt64 → Callable σ α)} {shared : SharedService σ α}
    (hpasses : Passes c.shared marks calls shared)
    (halive : shared.service.alive = true → c.shared.service.alive = true)
    (hheld : shared.service.held = c.shared.service.held)
    (hqueue : c.shared.service.held = false → shared.service.queue = c.shared.service.queue) :
    Tidy (c.follow shared) (log ++ marks) where
  toSettled := h.toSettled.follow hlived hpasses fun hheld' => hheld ▸ hheld'
  last place hplace halive' := by
    have hfree := h.released (.inl (by rw [show c.stop = _ from hplace]; rfl))
    rw [show (c.follow shared).shared.service.queue = _ from hqueue hfree]
    exact h.last place hplace (halive halive')
  released hleaving := hheld.trans (h.released hleaving)
  leaving halive' hfree := h.leaving (halive halive') (hheld ▸ hfree)

/-- A step of a caller. -/
theorem Tidy.spare (h : Tidy c log) (hlived : Lived capacity engine c.shared log)
    {calls : List (UInt64 → Callable σ α)} {shared : SharedService σ α}
    (hpasses : Passes c.shared marks calls shared)
    (hspares : c.shared.service.Spares shared.service) :
    Tidy (c.follow shared) (log ++ marks) :=
  h.follow hlived hpasses (fun halive => hspares.alive ▸ halive) hspares.held hspares.queue

theorem Tidy.advance (h : Tidy c log) (hlived : Lived capacity engine c.shared log) :
    Tidy c.advance.1 (log ++ c.advance.2) := by
  have hworks : c.shared.service.Works (c.shared.step .advance).1.service :=
    c.shared.service.works_advance
  have hpasses := c.shared.step_passes .advance
  unfold ClosingService.advance
  dsimp only
  split
  · rename_i hletGo
    have hsettled := h.toSettled.follow hlived hpasses hworks.held
    simp only [Bool.and_eq_true, Bool.not_eq_true'] at hletGo
    obtain ⟨hheld, hfree⟩ := hletGo
    refine ⟨⟨?_, ?_⟩, ?_, ?_, ?_⟩
    · rw [letGo_died, letGo_shared]
      exact hsettled.died
    · rw [letGo_died, letGo_shared]
      exact hsettled.drained
    · intro place hplace _
      have hnone : (c.follow (c.shared.step .advance).1).stop = none := h.stop_eq_none hheld
      rw [letGo_shared]
      exact letGo_stop hnone hplace
    · intro _
      rw [letGo_shared]
      exact hfree
    · exact fun _ _ => .inr (.inr rfl)
  · rename_i hkeeps
    refine h.follow hlived hpasses hworks.alive ?_ hworks.queue
    cases hheld' : (c.shared.step .advance).1.service.held with
    | true => exact (hworks.held hheld').symm
    | false =>
      rw [hheld', Bool.not_false, Bool.and_true, Bool.not_eq_true] at hkeeps
      exact hkeeps.symm

/-! ## The turn of an idle engine -/

/-- A service whose engine has taken a call. -/
def took (c : ClosingService σ α) (job : Job σ α) (queue : List (Job σ α)) : ClosingService σ α :=
  let running := some ⟨job, [Label.dispatched, Label.enqueued]⟩
  { c with
    shared := { c.shared with service := { c.shared.service with running, queue } }
    stop := c.stop.map (· - 1) }

theorem take_eq_of_call (hidle : c.shared.service.running = none)
    (halive : c.shared.service.alive = true) {job : Job σ α} {queue : List (Job σ α)}
    (hqueue : c.shared.service.queue = job :: queue) (h : Tidy c log) :
    c.take = (c.took job queue, [.started job]) := by
  have hmessages : ∃ rest, c.messages = .call job :: rest := by
    unfold messages
    rw [hqueue]
    cases hstop : c.stop with
    | none => exact ⟨_, rfl⟩
    | some place =>
      rw [h.last place hstop halive, hqueue]
      exact ⟨_, rfl⟩
  obtain ⟨rest, hmessages⟩ := hmessages
  have hnext : SharedService.next? c.shared.service = some job := by
    rw [SharedService.next?, hidle, halive, hqueue]
    rfl
  have hstep : c.shared.step .dispatch = ((c.took job queue).shared, [.started job]) := by
    rw [SharedService.step, hnext, Service.dispatch_eq hidle halive hqueue]
    rfl
  rw [take, hidle, halive, hmessages]
  dsimp only
  rw [hstep]
  rfl

/-- An idle engine that finds no call ends if it finds the message to stop, or if nobody can put
anything on the queue. -/
theorem take_eq_of_empty (hidle : c.shared.service.running = none)
    (halive : c.shared.service.alive = true) (hqueue : c.shared.service.queue = []) :
    c.take = (if c.stop.isSome || !c.connected then c.halt else c, []) := by
  unfold take messages
  rw [hidle, halive, hqueue]
  cases c.stop with
  | some place => simp
  | none => cases c.connected <;> rfl

theorem Tidy.halt (h : Tidy c log) (hlived : Lived capacity engine c.shared log)
    (hidle : c.shared.service.running = none) (halive : c.shared.service.alive = true)
    (hqueue : c.shared.service.queue = []) (hleaving : Leaving c) : Tidy c.halt log := by
  have hserial := (hlived.ordered halive).serial
  refine ⟨⟨fun _ => rfl, fun _ _ => ⟨h.released hleaving, ?_, ?_⟩⟩, ?_, h.released, ?_⟩
  · rw [hserial.order, hqueue, List.append_nil]
  · rw [hserial.turns, hidle]
    exact List.append_nil _
  · exact fun _ _ halive' => absurd halive' Bool.false_ne_true
  · exact fun halive' => absurd halive' Bool.false_ne_true

/-- An engine that is not idle, or has nothing to do yet, lets its turn pass. Else it ends, or takes
the next call. -/
inductive Taking (c : ClosingService σ α) : ClosingService σ α × List (Mark σ α) → Prop
  | passes : Taking c (c, [])
  | halts (hidle : c.shared.service.running = none) (halive : c.shared.service.alive = true)
      (hqueue : c.shared.service.queue = []) (hleaving : Leaving c) : Taking c (c.halt, [])
  | takes {job : Job σ α} {queue : List (Job σ α)} (hidle : c.shared.service.running = none)
      (halive : c.shared.service.alive = true) (hqueue : c.shared.service.queue = job :: queue) :
      Taking c (c.took job queue, [.started job])

theorem Tidy.taking (h : Tidy c log) : Taking c c.take := by
  by_cases hturn : (c.shared.service.running.isSome || !c.shared.service.alive) = true
  · rw [ClosingService.take, if_pos hturn]
    exact .passes
  · simp only [Bool.or_eq_true, not_or, Option.isSome_iff_ne_none, not_not, Bool.not_eq_true',
      Bool.not_eq_false] at hturn
    obtain ⟨hidle, halive⟩ := hturn
    cases hqueue : c.shared.service.queue with
    | nil =>
      rw [take_eq_of_empty hidle halive hqueue]
      split
      · rename_i hleaving
        simp only [Bool.or_eq_true, Bool.not_eq_true'] at hleaving
        exact .halts hidle halive hqueue (hleaving.imp_right .inr)
      · exact .passes
    | cons job queue =>
      rw [take_eq_of_call hidle halive hqueue h]
      exact .takes hidle halive hqueue

theorem Tidy.took (h : Tidy c log) (halive : c.shared.service.alive = true) {job : Job σ α}
    {queue : List (Job σ α)} (hqueue : c.shared.service.queue = job :: queue) :
    Tidy (c.took job queue) (log ++ [.started job]) := by
  refine ⟨⟨fun hdied => ?_, fun hdead => ?_⟩, fun place hplace _ => ?_, fun hleaving => ?_,
    fun _ hfree => ?_⟩
  · exact absurd ((h.died hdied).symm.trans halive) Bool.false_ne_true
  · exact absurd (hdead.symm.trans halive) Bool.false_ne_true
  · obtain ⟨old, hold, rfl⟩ := Option.map_eq_some_iff.mp hplace
    rw [h.last old hold halive, hqueue]
    rfl
  · exact h.released (hleaving.imp_left fun hstop => Option.isSome_map.symm.trans hstop)
  · exact (h.leaving halive hfree).imp_left fun hstop => Option.isSome_map.trans hstop

theorem Tidy.take (h : Tidy c log) (hlived : Lived capacity engine c.shared log) :
    Tidy c.take.1 (log ++ c.take.2) := by
  have htaking := h.taking
  generalize c.take = result at htaking ⊢
  cases htaking with
  | passes =>
    rw [List.append_nil]
    exact h
  | halts hidle halive hqueue hleaving =>
    rw [List.append_nil]
    exact h.halt hlived hidle halive hqueue hleaving
  | takes _ halive hqueue => exact h.took halive hqueue

/-! ## Giving up a service -/

theorem Tidy.send (h : Tidy c log) : Tidy c.send log := by
  unfold ClosingService.send
  split
  · exact h
  · rename_i hclosing
    have hfree := h.released (.inr (.inl (by simpa using hclosing)))
    split
    · rename_i hdead
      rw [Bool.not_eq_true'] at hdead
      refine ⟨⟨h.died, h.drained⟩, h.last, fun _ => hfree, fun halive => ?_⟩
      exact absurd (hdead.symm.trans halive) Bool.false_ne_true
    · split
      · refine ⟨⟨h.died, h.drained⟩, ?_, fun _ => hfree, fun _ _ => .inl rfl⟩
        intro place hplace _
        cases hplace
        rfl
      · exact h

theorem Tidy.close (h : Tidy c log) : Tidy c.close log := by
  unfold ClosingService.close
  split
  · rename_i hheld
    apply Tidy.send
    refine ⟨⟨h.died, fun hdead hdied => ?_⟩, ?_, fun _ => rfl, fun _ _ => .inr (.inl rfl)⟩
    · exact ⟨rfl, (h.drained hdead hdied).2⟩
    · intro place hplace
      cases (h.stop_eq_none hheld).symm.trans hplace
  · exact h

/-! ## Everything that happens -/

theorem Tidy.crash (h : Tidy c log) (hlived : Lived capacity engine c.shared log) :
    Tidy (c.follow (c.shared.occur .crash).1) (log ++ []) := by
  have hpasses : Passes c.shared [] [] (c.shared.occur .crash).1 := c.shared.occur_passes .crash
  cases hsome : c.shared.service.running with
  | none =>
    refine h.spare hlived hpasses ?_
    rw [SharedService.occur, Service.crash, hsome]
    exact .refl _
  | some running =>
    obtain ⟨futures, hcrash⟩ := Service.crash_eq hsome
    have hservice : (c.shared.occur .crash).1.service = _ := hcrash
    refine h.follow hlived hpasses ?_ (by rw [hservice]) fun _ => by rw [hservice]
    rw [hservice]
    exact fun halive => absurd halive Bool.false_ne_true

theorem Tidy.discard (h : Tidy c log) (hlived : Lived capacity engine c.shared log) :
    Tidy (c.follow (c.shared.occur .discard).1) (log ++ []) := by
  have hpasses : Passes c.shared [] [] (c.shared.occur .discard).1 :=
    c.shared.occur_passes .discard
  cases halive : c.shared.service.alive with
  | true =>
    refine h.spare hlived hpasses ?_
    rw [SharedService.occur, Service.discard, if_pos halive]
    exact .refl _
  | false =>
    have hstill := hpasses.dead halive (hlived.idle halive)
    have hheld : (c.shared.occur .discard).1.service.held = c.shared.service.held := by
      obtain ⟨futures, hstop⟩ := c.shared.service.stop_eq
      simp [SharedService.occur, Service.discard, halive, hstop]
    refine ⟨h.toSettled.follow hlived hpasses fun hheld' => hheld ▸ hheld', ?_, ?_, ?_⟩
    · intro _ _ halive'
      exact absurd (hstill.alive.symm.trans halive') Bool.false_ne_true
    · exact fun hleaving => hheld.trans (h.released hleaving)
    · intro halive'
      exact absurd (hstill.alive.symm.trans halive') Bool.false_ne_true

theorem Tidy.occur (h : Tidy c log) (hlived : Lived capacity engine c.shared log)
    (occurrence : Occurrence σ α) :
    Tidy (c.occur occurrence).1 (log ++ (c.occur occurrence).2) := by
  cases occurrence with
  | event event =>
    cases event with
    | dispatch => exact h.take hlived
    | advance => exact h.advance hlived
    | submit policy call lethal =>
      exact h.spare hlived (c.shared.step_passes (.submit policy call lethal))
        (c.shared.spares_submit policy call lethal)
    | retry position =>
      exact h.spare hlived (c.shared.step_passes (.retry position)) (c.shared.spares_retry position)
    | abandon ticket =>
      exact h.spare hlived (c.shared.step_passes (.abandon ticket))
        (c.shared.service.spares_abandon ticket)
  | crash => exact h.crash hlived
  | discard => exact h.discard hlived
  | close => exact (List.append_nil log).symm ▸ h.close
  | send => exact (List.append_nil log).symm ▸ h.send

/-- All that holds of a service at any time, be it on its way to its end or not. -/
structure Sound (capacity : Nat) (firstId : UInt64) (engine : σ) (c : ClosingService σ α)
    (log : List (Mark σ α)) (issued : List (UInt64 → Callable σ α)) : Prop
    extends SharedService.Sound capacity firstId engine c.shared log issued where
  tidy : Tidy c log

theorem Sound.occur (h : Sound capacity firstId engine c log issued)
    (occurrence : Occurrence σ α) :
    Sound capacity firstId engine (c.occur occurrence).1 (log ++ (c.occur occurrence).2)
      (issued ++ c.issue occurrence) :=
  ⟨h.toSound.passes (c.occur_passes occurrence), h.tidy.occur h.lived occurrence⟩

theorem Sound.live (h : Sound capacity firstId engine c log issued)
    (history : List (Occurrence σ α)) :
    Sound capacity firstId engine (c.live history).1 (log ++ (c.live history).2)
      (issued ++ c.issued history) := by
  induction history generalizing c log issued with
  | nil =>
    rw [show (c.live []).2 = [] from rfl, show c.issued [] = [] from rfl, List.append_nil,
      List.append_nil]
    exact h
  | cons occurrence history ih =>
    have hrest := ih (h.occur occurrence)
    rw [List.append_assoc, List.append_assoc] at hrest
    exact hrest

theorem sound_live (capacity : Nat) (firstId : UInt64) (engine : σ)
    (history : List (Occurrence σ α)) :
    let first := ClosingService.start capacity firstId engine
    Sound capacity firstId engine (first.live history).1 (first.live history).2
      (first.issued history) :=
  Sound.live ⟨.start capacity firstId engine, .start capacity firstId engine⟩ history

end ScriptHost.ClosingService
