import ScriptHost.Proofs.Service.Rest
import ScriptHost.Service.Session

/-!
# The services of a session

A session lets the engines of its services do their calls at one go, and looks at a service only
when its engine has come to rest. Each service is nevertheless in a state to which a service comes
in single turns of its engine, so that what is true after every history of a service is true in a
session. And the engines do come to rest: a script submits only calls that submit none, so that two
sweeps empty the queue.

* `Service.Attained` : the states that services come to.
* `Script.run_nests` : scripts submit only calls that submit none.
* `Session.Sound` : what every step of a session keeps.
* `Session.after` : a session after several steps.
* `Session.services_after` : the services of a session.
-/

namespace ScriptHost

namespace Service

variable {σ α : Type} {s s' : Service σ α}

/-! ## States of services -/

/-- The states that services come to in turns of their engines. -/
def Attained (s : Service σ α) : Prop :=
  ∃ capacity firstId engine, (ClosingService.start capacity firstId engine).Attains s

namespace Attained

theorem start (capacity : Nat) (firstId : UInt64) (engine : σ) :
    Attained (Service.start capacity firstId engine : Service σ α) :=
  ⟨capacity, firstId, engine, [], rfl⟩

/-- What a service comes to later. -/
theorem later (h : s.Attained)
    (hnext : ∀ {capacity firstId engine c log issued},
      ClosingService.Sound capacity firstId engine c log issued → c.shared.service = s →
        c.Attains s') : s'.Attained := by
  obtain ⟨capacity, firstId, engine, hs⟩ := h
  exact ⟨capacity, firstId, engine,
    (ClosingService.sound_live capacity firstId engine []).attains_trans hs hnext⟩

theorem submit (h : s.Attained) {policy : Policy} {call : UInt64 → Callable σ α} {lethal : Bool}
    {submission : Submission} (hsubmit : s.submit policy call lethal = some (submission, s')) :
    s'.Attained := by
  refine h.later fun {_ _ _ c _ _} _ hs => ⟨[.event (.submit policy call lethal)], ?_⟩
  change (c.shared.submit policy call lethal).1.service = s'
  rw [SharedService.submit, hs, hsubmit]

theorem abandon (h : s.Attained) (ticket : Nat) : (s.abandon ticket).Attained :=
  h.later fun _ hs => ⟨[.event (.abandon ticket)], congrArg (Service.abandon · ticket) hs⟩

theorem dispatch (h : s.Attained) : s.dispatch.Attained :=
  h.later fun hsound hs => hs ▸ hsound.attains_dispatch

theorem settle (h : s.Attained) : s.settle.Attained :=
  h.later fun hsound hs => hs ▸ hsound.attains_settle

theorem close (h : s.Attained) : s.close.Attained :=
  h.later fun hsound hs => hs ▸ hsound.attains_close

end Attained

/-- A service in a state that services come to, whose calls submit only calls that submit none. -/
structure Proper (s : Service σ α) : Prop where
  attained : s.Attained
  nests : s.alive = true → s.NestsWithin 1

namespace Proper

theorem start (capacity : Nat) (firstId : UInt64) (engine : σ) :
    Proper (Service.start capacity firstId engine : Service σ α) :=
  ⟨.start capacity firstId engine, fun _ => ⟨nofun, nofun⟩⟩

theorem submit (h : s.Proper) {policy : Policy} {call : UInt64 → Callable σ α} {lethal : Bool}
    {submission : Submission} (hcall : ∀ id, (call id).NestsWithin 1)
    (hsubmit : s.submit policy call lethal = some (submission, s')) : s'.Proper :=
  ⟨h.attained.submit hsubmit, nests_submit h.nests hcall hsubmit⟩

theorem abandon (h : s.Proper) (ticket : Nat) : (s.abandon ticket).Proper :=
  ⟨h.attained.abandon ticket, nests_abandon h.nests ticket⟩

theorem dispatch (h : s.Proper) : s.dispatch.Proper :=
  ⟨h.attained.dispatch, nests_dispatch h.nests⟩

theorem settle (h : s.Proper) : s.settle.Proper :=
  ⟨h.attained.settle, fun halive => (atRest_settle h.nests).nests halive 1⟩

theorem close (h : s.Proper) : s.close.Proper :=
  ⟨h.attained.close, fun halive => s.atRest_close.1.nests halive 1⟩

end Proper

end Service

/-! ## Scripts -/

namespace Script

open Callable (NestsWithin)

variable {next : Action} {depth : Nat}

theorem change_nests (f : Value → Except Error Value) (hnext : next.NestsWithin depth) :
    (change f next).NestsWithin depth := by
  intro engine
  dsimp only
  split
  · exact hnext
  · trivial

theorem addAll_nests (hnext : next.NestsWithin depth) (values : List Value) :
    (addAll next values).NestsWithin depth := by
  induction values with
  | nil => exact hnext
  | cons value values ih => exact change_nests _ ih

theorem submitIdle_nests (hnext : next.NestsWithin 1) (count : Nat) (answers : List Value) :
    (submitIdle next count answers).NestsWithin 1 := by
  induction count generalizing answers with
  | zero => exact hnext
  | succ count ih => exact ⟨fun _ => ⟨0, Nat.zero_lt_one, trivial⟩, fun _ _ => ih _⟩

theorem perform_nests (around : Surroundings) (hnext : next.NestsWithin 1)
    (instruction : Instruction) : (perform around next instruction).NestsWithin 1 := by
  cases instruction with
  | combine op value => exact change_nests _ hnext
  | assignAt indices value => exact change_nests _ hnext
  | call method arguments => exact change_nests _ hnext
  | addArguments => exact addAll_nests hnext _
  | nested count => exact submitIdle_nests hnext count []
  | fail | panic | unknown => trivial
  | set | checkpoint | requestId | threadName | arguments => exact hnext

/-- Scripts submit only calls that submit none. -/
theorem run_nests (around : Surroundings) (returned : Option Value)
    (script : List Instruction) : (run around returned script).NestsWithin 1 := by
  induction script with
  | nil =>
    cases returned with
    | none => exact fun _ => trivial
    | some value => trivial
  | cons instruction script ih => exact perform_nests around ih instruction

end Script

/-- A program submits only what its script submits. -/
theorem Program.callable_nests {σ : Type} {program : Program σ} {depth : Nat}
    (h : ∀ id arguments, (program.run id arguments).NestsWithin depth) (packed : List UInt8)
    (id : UInt64) : (program.callable packed id).NestsWithin depth := by
  unfold callable
  split
  · trivial
  · exact (h id _).mapEnding _
  · exact (h id _).mapEnding _

namespace Session

variable {s : Session} {place : Nat} {service : Service Value Payload} {busy left : List Nat}

/-! ## What is done to a service -/

/-- Every service is in a state that services come to, and its engine is at rest, unless a gate
keeps it busy. Some services are left out for the time being, as they have still to settle. -/
def Sound (s : Session) (busy : List Nat) : Prop :=
  ∀ (place : Nat) (service : Service Value Payload), s.services[place]? = some service →
    service.Proper ∧ (s.isGated place = false → place ∉ busy → service.AtRest)

theorem services_of_held (hheld : s.held? = some (place, service)) :
    s.services[place]? = some service := by
  obtain ⟨place, -, hplace⟩ := Option.bind_eq_some_iff.mp hheld
  obtain ⟨service, hservice, heq⟩ := Option.map_eq_some_iff.mp hplace
  cases heq
  exact hservice

theorem idle_nests (id : UInt64) : (idle id).NestsWithin 1 := trivial

theorem scriptProgram_nests (s : Session) (name : String) (script : List Instruction)
    (returned : Option Value) (id : UInt64) (arguments : List Value) :
    ((s.scriptProgram name script returned).run id arguments).NestsWithin 1 :=
  Script.run_nests _ returned script

theorem rest_proper (h : service.Proper) : (rest service).Proper ∧ (rest service).AtRest := by
  unfold rest
  dsimp only
  split
  · exact ⟨h.settle, Service.atRest_settle h.nests⟩
  · exact ⟨h.settle.close, service.settle.atRest_close.1⟩

@[simp]
theorem gate_settle (s : Session) (place : Nat) : (s.settle place).gate = s.gate := by
  unfold Session.settle
  split <;> rfl

theorem gate_releaseGate (s : Session) : s.releaseGate.gate = none := by
  unfold releaseGate
  split
  · assumption
  · exact gate_settle _ _

namespace Sound

/-- A change of one service, which has to be at rest afterwards unless it is left out. -/
theorem update (h : s.Sound busy) (place : Nat)
    {change : Service Value Payload → Service Value Payload}
    (hchange : ∀ service, s.services[place]? = some service → (change service).Proper ∧
      (s.isGated place = false → place ∉ left → (change service).AtRest))
    (hleft : ∀ other ∈ busy, other = place ∨ other ∈ left) :
    (s.update place change).Sound left := by
  intro other service hservice
  rw [Session.update, Array.getElem?_modify] at hservice
  split at hservice
  · rename_i hplace
    subst hplace
    obtain ⟨old, hold, rfl⟩ := Option.map_eq_some_iff.mp hservice
    exact hchange old hold
  · rename_i hplace
    obtain ⟨hproper, hrest⟩ := h other service hservice
    refine ⟨hproper, fun hgate hother => hrest hgate fun hbusy => ?_⟩
    exact (hleft other hbusy).elim (fun heq => hplace heq.symm) hother

/-- A change of one service after which its engine rests if it did so before. -/
theorem keeps (h : s.Sound busy) (place : Nat)
    {change : Service Value Payload → Service Value Payload}
    (hproper : ∀ service, service.Proper → (change service).Proper)
    (hrest : ∀ service, service.AtRest → (change service).AtRest) :
    (s.update place change).Sound busy := by
  refine h.update place (fun service hservice => ?_) fun _ hother => .inr hother
  obtain ⟨hold, holdRest⟩ := h place service hservice
  exact ⟨hproper service hold, fun hgate hother => hrest service (holdRest hgate hother)⟩

theorem push {s' : Session} (h : s.Sound []) (hproper : service.Proper) (hrest : service.AtRest)
    (hpush : s'.services = s.services.push service) (hgate : s'.gate = s.gate) : s'.Sound [] := by
  intro place other hother
  rw [hpush, Array.getElem?_push] at hother
  split at hother
  · cases hother
    exact ⟨hproper, fun _ _ => hrest⟩
  · obtain ⟨hother, hotherRest⟩ := h place other hother
    refine ⟨hother, fun hgated => hotherRest ?_⟩
    rwa [isGated, ← hgate]

theorem settle (h : s.Sound (place :: busy)) : (s.settle place).Sound busy := by
  unfold Session.settle
  split
  · rename_i hgated
    intro other service hservice
    obtain ⟨hproper, hrest⟩ := h other service hservice
    refine ⟨hproper, fun hgate hother => hrest hgate fun hmem => ?_⟩
    rcases List.mem_cons.mp hmem with rfl | hbusy
    · exact absurd (hgate.symm.trans hgated) Bool.false_ne_true
    · exact hother hbusy
  · refine h.update place (fun service hservice => ?_) fun other hother => List.mem_cons.mp hother
    obtain ⟨hproper, hrest⟩ := rest_proper (h place service hservice).1
    exact ⟨hproper, fun _ _ => hrest⟩

theorem abandon (h : s.Sound busy) (place ticket : Nat) : (s.abandon place ticket).Sound busy :=
  h.keeps place (fun _ hproper => hproper.abandon ticket) fun _ hrest => hrest.abandon ticket

theorem releaseGate (h : s.Sound busy) : s.releaseGate.Sound busy := by
  unfold Session.releaseGate
  split
  · exact h
  · rename_i place ticket hgate
    have hopened : Sound { s with gate := none } (place :: busy) := by
      intro other service hservice
      obtain ⟨hproper, hrest⟩ := h other service hservice
      refine ⟨hproper, fun _ hother => hrest ?_ fun hbusy => hother (.tail place hbusy)⟩
      rw [isGated, hgate]
      exact beq_eq_false_iff_ne.mpr fun heq => hother (heq ▸ .head busy)
    exact hopened.settle

theorem close (h : s.Sound busy) (place : Nat) : (s.close place).Sound busy := by
  have hclose : ∀ {s : Session}, s.Sound busy → (s.update place Service.close).Sound busy :=
    fun h => h.keeps place (fun _ => .close) fun service _ => service.atRest_close.1
  unfold Session.close
  dsimp only
  split
  · exact hclose h.releaseGate
  · exact hclose h

/-- A submission leaves its service with a call to do, unless it is refused. -/
theorem post (h : s.Sound []) (hservice : s.services[place]? = some service) {policy : Policy}
    {call : UInt64 → Script.Action} (hcall : ∀ id, (call id).NestsWithin 1) {lethal : Bool}
    {submission : Submission} {after : Service Value Payload}
    (hsubmit : service.submit policy call lethal = some (submission, after)) :
    (s.update place fun _ => after).Sound [place] ∧
      (submission.refusal ≠ none → (s.update place fun _ => after).Sound []) := by
  obtain ⟨hproper, hrest⟩ := h place service hservice
  have hafter := hproper.submit hcall hsubmit
  constructor
  · refine h.update place (fun _ _ => ⟨hafter, fun _ hother => ?_⟩) nofun
    exact absurd (.head []) hother
  · intro hrefused
    refine h.update place (fun _ _ => ⟨hafter, fun hgate hother => ?_⟩) nofun
    exact (hrest hgate hother).submit hsubmit hrefused

theorem submit (h : s.Sound []) (hservice : s.services[place]? = some service) {policy : Policy}
    {call : UInt64 → Script.Action} (hcall : ∀ id, (call id).NestsWithin 1) {lethal : Bool}
    {submission : Submission} {s' : Session}
    (hsubmit : s.submit place service policy call lethal = some (submission, s')) :
    s'.Sound [place] ∧ (submission.refusal ≠ none → s'.Sound []) := by
  obtain ⟨⟨_, after⟩, hafter, heq⟩ := Option.map_eq_some_iff.mp hsubmit
  cases heq
  exact h.post hservice hcall hafter

/-! ## Calls by name -/

theorem release (h : s.Sound busy) (name : String) : (s.release name).Sound busy := by
  unfold Session.release
  split
  · exact h.abandon _ _
  · exact h

theorem keep (h : s.Sound busy) (name : String) (place : Nat) (submission : Submission) :
    (s.keep name place submission).Sound busy := h.release name

theorem take (h : s.Sound busy) (name : String) : (s.take name).2.Sound busy := by
  unfold Session.take
  split
  · exact h
  · split <;> exact h

theorem dropCall (h : s.Sound busy) (name : String) : (s.dropCall name).2.Sound busy := by
  unfold Session.dropCall
  split
  · exact h
  · exact h.release name

/-! ## Single steps -/

theorem startService (h : s.Sound []) (origin : Origin) (settings : Settings) :
    (s.startService origin settings).2.Sound [] := by
  unfold Session.startService
  cases origin with
  | failure | panic => exact h
  | engine value =>
    have hrest : (Service.start settings.queueCapacity settings.firstRequestId value :
        Service Value Payload).AtRest := ⟨rfl, fun _ => rfl⟩
    dsimp only
    split
    · exact push (h.close _) (.start ..) hrest rfl rfl
    · exact push h (.start ..) hrest rfl rfl

theorem call (h : s.Sound []) (hservice : s.services[place]? = some service)
    (script : List Instruction) (returned : Option Value) (policy : Policy)
    (name : Option String) : (s.call place service script returned policy name).2.Sound [] := by
  unfold Session.call
  split
  · exact h
  · rename_i submission s' hsubmit
    obtain ⟨hbusy, hrefused⟩ := h.submit hservice (fun _ => Script.run_nests _ _ _) hsubmit
    split
    · rename_i failure hfailure
      exact hrefused (hfailure ▸ nofun)
    · split
      · exact (hbusy.keep _ _ _).settle
      · exact hbusy.settle

theorem closeGate (h : s.Sound []) (hservice : s.services[place]? = some service) :
    (s.closeGate place service).2.Sound [] := by
  unfold Session.closeGate
  split
  · exact h
  · rename_i submission s' hsubmit
    obtain ⟨hbusy, hrefused⟩ := h.submit hservice idle_nests hsubmit
    split
    · rename_i failure hfailure
      exact hrefused (hfailure ▸ nofun)
    · have hdispatched : (s'.releaseGate.update place Service.dispatch).Sound [place] := by
        refine hbusy.releaseGate.update place (fun service hservice => ?_) fun _ => .inr
        refine ⟨(hbusy.releaseGate place service hservice).1.dispatch, fun _ hother => ?_⟩
        exact absurd (.head []) hother
      -- The new gate excuses its own service, and there is no other gate any more.
      intro other service hother
      obtain ⟨hproper, hrest⟩ := hdispatched other service hother
      refine ⟨hproper, fun hgate _ => hrest ?_ fun hmem => ?_⟩
      · change s'.releaseGate.isGated other = false
        rw [isGated, gate_releaseGate]
        rfl
      · rw [List.mem_singleton.mp hmem] at hgate
        exact absurd hgate (Bool.eq_false_iff.mp · (beq_self_eq_true place))

theorem openGate (h : s.Sound []) : s.openGate.2.Sound [] := by
  unfold Session.openGate
  split
  · exact h
  · exact h.releaseGate

theorem catchUp (h : s.Sound []) (hservice : s.services[place]? = some service) :
    (s.catchUp place service).Sound [] := by
  unfold Session.catchUp
  split
  · exact h
  · split
    · rename_i hsubmit
      exact (h.submit hservice idle_nests hsubmit).1.settle
    · exact h

theorem stats (h : s.Sound []) (hservice : s.services[place]? = some service) :
    (s.stats place service).2.Sound [] := by
  unfold Session.stats
  dsimp only
  split <;> exact h.catchUp hservice

theorem kill (h : s.Sound []) (hservice : s.services[place]? = some service) :
    (s.kill place service).2.Sound [] := by
  unfold Session.kill
  split
  · exact h
  · rename_i hsubmit
    exact ((h.submit hservice idle_nests hsubmit).1.abandon place _).settle

theorem dropInside (h : s.Sound []) (hservice : s.services[place]? = some service)
    (name : String) : (s.dropInside name place service).2.Sound [] := by
  unfold Session.dropInside
  dsimp only
  split
  · exact h
  · rename_i submission after hsubmit
    have hkept := (h.submit hservice (fun _ => by trivial) hsubmit).1.keep name place submission
    have hgiven : Sound { after.keep name place submission with current := none } [place] := hkept
    exact hgiven.settle

theorem shutdown (h : s.Sound []) : s.shutdown.2.Sound [] := by
  unfold Session.shutdown
  dsimp only
  split
  · exact h.releaseGate.close _
  · exact h.releaseGate

theorem fanoutFrom (h : s.Sound []) (value : Value) (count : Nat) :
    (s.fanoutFrom value count).2.Sound [] := by
  induction count generalizing s with
  | zero => exact h
  | succ count ih =>
    unfold Session.fanoutFrom
    split
    · exact h
    · rename_i hheld
      split
      · exact h
      · rename_i hsubmit
        have hservice := services_of_held hheld
        exact ih (h.submit hservice (fun _ => Script.run_nests _ _ _) hsubmit).1.settle

theorem program (h : s.Sound []) (hservice : s.services[place]? = some service)
    (contextName : String) (mode : ProgramMode) (script : List Instruction)
    (returned : Option Value) (name : Option String) :
    (s.program contextName mode script returned name place service).2.Sound [] := by
  unfold Session.program
  dsimp only
  split
  · exact h
  · exact h
  · rename_i submission context after hstart
    have hupdated : (s.update place fun _ => after).Sound [place] := by
      unfold Context.submit at hstart
      split at hstart
      · cases hstart
      · dsimp only at hstart
        split at hstart
        · cases hstart
        · rename_i hsubmit
          cases hstart
          refine (h.post hservice (fun id => ?_) hsubmit).1
          exact Program.callable_nests (s.scriptProgram_nests _ script returned) _ id
    split
    · split <;> exact hupdated.settle
    · split
      · exact (hupdated.abandon place _).settle
      · exact hupdated.settle

theorem step (h : s.Sound []) (step : Step) : (s.step step).2.Sound [] := by
  have hheld : ∀ f : Nat → Service Value Payload → Reply × Session,
      (∀ place service, s.services[place]? = some service → (f place service).2.Sound []) →
        (s.withHeld f).2.Sound [] := by
    intro f hf
    unfold withHeld
    split
    · rename_i hheld
      exact hf _ _ (services_of_held hheld)
    · exact h
  cases step with
  | start origin settings =>
    cases settings with
    | none => exact h
    | some settings => exact h.startService origin settings
  | call script returned policy name =>
    exact hheld _ fun _ _ hservice => h.call hservice script returned policy name
  | wait name | poll name => exact h.take name
  | drop name => exact h.dropCall name
  | gate => exact hheld _ fun _ _ hservice => h.closeGate hservice
  | openGate => exact h.openGate
  | stats => exact hheld _ fun _ _ hservice => h.stats hservice
  | kill => exact hheld _ fun _ _ hservice => h.kill hservice
  | dropInside name => exact hheld _ fun _ _ hservice => h.dropInside hservice name
  | shutdown => exact h.shutdown
  | fanout count value => exact hheld _ fun _ _ _ => h.fanoutFrom value count
  | newContext | pushArgument | showContext => exact h
  | program context mode script returned name =>
    exact hheld _ fun _ _ hservice => h.program hservice context mode script returned name

end Sound

/-! ## Several steps -/

/-- The session after several steps. -/
def after (steps : List Step) : Session := steps.foldl (fun s step => (s.step step).2) .empty

theorem sound_after (steps : List Step) : (after steps).Sound [] := by
  have hlater : ∀ s : Session, s.Sound [] →
      (steps.foldl (fun s step => (s.step step).2) s).Sound [] := by
    induction steps with
    | nil => exact fun s h => h
    | cons step steps ih => exact fun s h => ih _ (h.step step)
  apply hlater
  intro place service hservice
  simp [empty] at hservice

/-- Whatever the steps of a session, each of its services is in a state to which a service comes in
single turns of its engine. Unless a gate keeps it busy, the engine is at rest there: it does no
call, and if it lives, none is on its queue. -/
theorem services_after (steps : List Step) {place : Nat} {service : Service Value Payload}
    (hservice : (after steps).services[place]? = some service) :
    service.Attained ∧ ((after steps).isGated place = false →
      service.running = none ∧ (service.alive = true → service.queue = [])) := by
  obtain ⟨hproper, hrest⟩ := sound_after steps place service hservice
  refine ⟨hproper.attained, fun hgate => ?_⟩
  have hrests := hrest hgate nofun
  exact ⟨hrests.running, hrests.queue⟩

end Session

end ScriptHost
