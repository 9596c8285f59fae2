import ScriptHost.Bindings
import ScriptHost.Service.Script
import ScriptHost.Settings

/-!
# Sessions with services

A session starts services whose engine states are values, one after the other. It holds one of them
at most, and keeps the calls whose results are still to be asked for by name, and execution
contexts. Engines work between the steps of the session. A gate is a call that does not end, which
keeps one engine busy until it is opened.

* `Session.step` : one step, and its reply.
* `Session.run` : several steps.
-/

namespace ScriptHost

/-- A call whose result is still to be asked for, and the place of its service among all that were
started. -/
structure KeptCall where
  service : Nat
  submission : Submission

structure Session where
  /-- All services that were started, in order. -/
  services : Array (Service Value Payload)
  /-- The service that the session holds. -/
  current : Option Nat
  threadName : String
  /-- The service whose engine is kept busy, and the ticket of the call that does so. -/
  gate : Option (Nat × Nat)
  kept : List (String × KeptCall)
  contexts : List (String × Context)

namespace Session

def empty : Session :=
  { services := #[], current := none, threadName := "", gate := none, kept := [], contexts := [] }

/-! ## Steps and replies -/

/-- What comes of the engine when a service is started. -/
inductive Origin
  | engine (value : Value)
  | failure (text : String) (contexts : List String)
  | panic (text : String)

/-- What the caller of a program does after the call is submitted: it waits for the outcome, it
drops the call and so resumes the context, or it loses the call and leaves the context suspended. -/
inductive ProgramMode
  | wait
  | drop
  | forget
deriving DecidableEq

inductive Step
  | start (origin : Origin) (settings : Option Settings)
  | call (script : List Instruction) (returned : Option Value) (policy : Policy)
      (name : Option String)
  | wait (name : String)
  | poll (name : String)
  | drop (name : String)
  | gate
  | openGate
  | stats
  | kill
  | dropInside (name : String)
  | shutdown
  | fanout (count : Nat) (value : Value)
  | newContext (name : String) (arguments : List Value)
  | pushArgument (name : String) (value : Value)
  | showContext (name : String)
  | program (context : String) (mode : ProgramMode) (script : List Instruction)
      (returned : Option Value) (name : Option String)

inductive Reply
  | nothing
  | noService
  | badSettings
  | started (threadName : String) (running : Bool)
  | failed (failure : Failure)
  | number (id : UInt64)
  | record (record : Record Payload)
  | pending
  | stats (stats : Stats) (running : Bool)
  | stopped
  /-- The numbers of the calls, how many of them ran at a time at most, and how many succeeded. -/
  | fanout (ids : List UInt64) (peak succeeded : Nat)
  | context (context : Context)
  | program (outcome : Option Outcome) (context : Context)

/-! ## The services of a session -/

/-- The service that the session holds, and its place. -/
def held? (s : Session) : Option (Nat × Service Value Payload) :=
  s.current.bind fun place => s.services[place]?.map (place, ·)

def update (s : Session) (place : Nat)
    (change : Service Value Payload → Service Value Payload) : Session :=
  { s with services := s.services.modify place change }

/-- Whether a gate keeps the engine of a service busy. -/
def isGated (s : Session) (place : Nat) : Bool := s.gate.any fun gate => gate.1 == place

/-- The service after its engine has emptied its queue. If a call has given up the last hold on the
service, the service then ends. -/
def rest (service : Service Value Payload) : Service Value Payload :=
  let service := service.settle
  if service.held then service else service.close

/-- The engine of a service works until its queue is empty, unless a gate keeps it busy. -/
def settle (s : Session) (place : Nat) : Session :=
  if s.isGated place then s else s.update place rest

/-- The gate opened, if there is one, so that its engine can work. -/
def releaseGate (s : Session) : Session :=
  match s.gate with
  | none => s
  | some (place, _) => { s with gate := none }.settle place

/-- The session's hold on a service given up, and no gate in its way. The service ends after the
calls already queued. -/
def close (s : Session) (place : Nat) : Session :=
  let s := if s.isGated place then s.releaseGate else s
  { s.update place Service.close with current := none }

/-- A submission to a service; none if it has to wait for room in the queue. -/
def submit (s : Session) (place : Nat) (service : Service Value Payload) (policy : Policy)
    (call : UInt64 → Script.Action) (lethal : Bool) : Option (Submission × Session) :=
  (service.submit policy call lethal).map fun (submission, service) =>
    (submission, s.update place fun _ => service)

/-- The caller of a submission stops waiting for it. -/
def abandon (s : Session) (place ticket : Nat) : Session :=
  s.update place fun service => service.abandon ticket

/-- The record of a submission, once there is one. -/
def record? (s : Session) (place ticket : Nat) : Option (Record Payload) :=
  s.services[place]?.bind (·.record? ticket)

/-- The reply for a submission that is waited for. -/
def replyFor (s : Session) (place ticket : Nat) : Reply :=
  match s.record? place ticket with
  | some record => .record record
  | none => .pending

/-! ## Calls by name -/

def forget (s : Session) (name : String) : Session :=
  { s with kept := Bindings.without s.kept name }

/-- The call of a name is no longer waited for, and the name is free again. -/
def release (s : Session) (name : String) : Session :=
  match s.kept.lookup name with
  | some call => (s.abandon call.service call.submission.ticket).forget name
  | none => s

/-- A name for a submission, taken from the call that had it before. -/
def keep (s : Session) (name : String) (place : Nat) (submission : Submission) : Session :=
  let s := s.release name
  { s with kept := Bindings.rebind s.kept name ⟨place, submission⟩ }

/-- The call of a name, if it has a record; the name is then free again. -/
def take (s : Session) (name : String) : Reply × Session :=
  match s.kept.lookup name with
  | none => (.nothing, s)
  | some call =>
    match s.record? call.service call.submission.ticket with
    | some record => (.record record, s.forget name)
    | none => (.pending, s)

/-- The call of a name abandoned. -/
def dropCall (s : Session) (name : String) : Reply × Session :=
  match s.kept.lookup name with
  | none => (.nothing, s)
  | some call => (.number call.submission.id, s.release name)

/-! ## Contexts -/

/-- The context of a name; a new name gets one without arguments. -/
def contextOf (s : Session) (name : String) : Context :=
  (s.contexts.lookup name).getD (.new name [])

def keepContext (s : Session) (context : Context) : Session :=
  { s with contexts := Bindings.rebind s.contexts context.name context }

def replyContext (s : Session) (context : Context) : Reply × Session :=
  (.context context, s.keepContext context)

/-! ## Single steps -/

def startService (s : Session) (origin : Origin) (settings : Settings) : Reply × Session :=
  match origin with
  | .failure text contexts =>
    (.failed (.engineInit (chainText (contexts.reverse ++ [text]))), s)
  | .panic text => (.failed (.engineInit text), s)
  | .engine value =>
    let s :=
      match s.current with
      | some place => s.close place
      | none => s
    let service := Service.start settings.queueCapacity settings.firstRequestId value
    (.started settings.threadName service.alive,
      { s with
        services := s.services.push service
        current := some s.services.size
        threadName := settings.threadName })

/-- The script of a call, which has no arguments. -/
def callScript (s : Session) (script : List Instruction) (returned : Option Value) (id : UInt64) :
    Script.Action :=
  Script.run { id, threadName := s.threadName, arguments := [] } returned script

def call (s : Session) (place : Nat) (service : Service Value Payload)
    (script : List Instruction) (returned : Option Value) (policy : Policy)
    (name : Option String) : Reply × Session :=
  match s.submit place service policy (s.callScript script returned) false with
  | none => (.pending, s)
  | some (submission, s) =>
    match policy, submission.refusal with
    | .refuse, some failure => (.failed failure, s)
    | _, _ =>
      match name with
      | some name => (.number submission.id, (s.keep name place submission).settle place)
      | none =>
        let s := s.settle place
        (s.replyFor place submission.ticket, s)

/-- What a call does that only takes its turn. -/
def idle : UInt64 → Script.Action := fun _ => .returning (.value .uninit)

/-- A call that keeps the engine busy until the gate is opened. A gate on another service is opened
first, as there is one gate at most. -/
def closeGate (s : Session) (place : Nat) (service : Service Value Payload) : Reply × Session :=
  match s.submit place service .wait idle false with
  | none => (.pending, s)
  | some (submission, s) =>
    match submission.refusal with
    | some _ => (s.replyFor place submission.ticket, s)
    | none =>
      let s := s.releaseGate.update place Service.dispatch
      (.number submission.id, { s with gate := some (place, submission.ticket) })

/-- The gate opened, and the record of its call. -/
def openGate (s : Session) : Reply × Session :=
  match s.gate with
  | none => (.nothing, s)
  | some (place, ticket) =>
    let s := s.releaseGate
    (s.replyFor place ticket, s)

/-- A call that does nothing waited for, unless there is a gate. -/
def catchUp (s : Session) (place : Nat) (service : Service Value Payload) : Session :=
  if s.gate.isSome then s
  else
    match s.submit place service .wait idle false with
    | some (_, s) => s.settle place
    | none => s

def stats (s : Session) (place : Nat) (service : Service Value Payload) : Reply × Session :=
  let s := s.catchUp place service
  match s.services[place]? with
  | some service => (.stats service.stats service.alive, s)
  | none => (.noService, s)

/-- A call whose result is abandoned and cannot be thrown away. -/
def kill (s : Session) (place : Nat) (service : Service Value Payload) : Reply × Session :=
  match s.submit place service .wait idle true with
  | none => (.pending, s)
  | some (submission, s) =>
    (.number submission.id, (s.abandon place submission.ticket).settle place)

/-- The session's hold on the service given to a call, which gives it up. -/
def dropInside (s : Session) (name : String) (place : Nat) (service : Service Value Payload) :
    Reply × Session :=
  let call : UInt64 → Script.Action := fun _ => .release (.returning (.value (.boolean true)))
  match s.submit place service .wait call false with
  | none => (.pending, s)
  | some (submission, s) =>
    let s := { s.keep name place submission with current := none }
    (.number submission.id, s.settle place)

/-- The gate opened, and the service ended if the session holds one. -/
def shutdown (s : Session) : Reply × Session :=
  let s := s.releaseGate
  match s.current with
  | some place => (.stopped, s.close place)
  | none => (.noService, s)

/-- Calls that add a value to the state of the engine, made and waited for one after the other. -/
def fanoutFrom (s : Session) (value : Value) : Nat → List (Submission × Bool) × Session
  | 0 => ([], s)
  | count + 1 =>
    match s.held? with
    | none => ([], s)
    | some (place, service) =>
      match s.submit place service .wait (s.callScript [.combine .add value] none) false with
      | none => ([], s)
      | some (submission, s) =>
        let s := s.settle place
        let ok := ((s.record? place submission.ticket).map Record.isOk).getD false
        let (others, s) := fanoutFrom s value count
        ((submission, ok) :: others, s)

def fanout (s : Session) (count : Nat) (value : Value) : Reply × Session :=
  let (calls, s) := s.fanoutFrom value count
  let ran := calls.any fun (submission, _) => submission.refusal.isNone
  (.fanout (calls.map (·.1.id)) (if ran then 1 else 0) (calls.filter (·.2)).length, s)

/-- The name of a program that was given none. -/
def anonymous : String := "<program>"

/-- A program that runs a script. -/
def scriptProgram (s : Session) (name : String) (script : List Instruction)
    (returned : Option Value) : Program Value :=
  { name
    run := fun id arguments =>
      Script.run { id, threadName := s.threadName, arguments } returned script }

def replyProgram (s : Session) (outcome : Option Outcome) (context : Context) :
    Reply × Session :=
  (.program outcome context, s.keepContext context)

def program (s : Session) (contextName : String) (mode : ProgramMode)
    (script : List Instruction) (returned : Option Value) (name : Option String) (place : Nat)
    (service : Service Value Payload) : Reply × Session :=
  let context := s.contextOf contextName
  let name := if mode = .wait then name.getD anonymous else anonymous
  match context.submit service (s.scriptProgram name script returned) with
  | .mustWait => s.replyProgram none context
  | .refused failure => s.replyProgram (some (.error failure)) context
  | .pending submission context service =>
    let s := s.update place fun _ => service
    if mode = .wait ∨ submission.refusal.isSome then
      let s := s.settle place
      match s.record? place submission.ticket with
      | some record =>
        let (outcome, context) := context.settle record
        s.replyProgram (some outcome) context
      | none => s.replyProgram none context
    else if mode = .drop then
      ((s.abandon place submission.ticket).settle place).replyProgram none context.forgo
    else (s.settle place).replyProgram none context

/-! ## Steps -/

/-- A step that needs a service. -/
def withHeld (s : Session) (f : Nat → Service Value Payload → Reply × Session) :
    Reply × Session :=
  match s.held? with
  | some (place, service) => f place service
  | none => (.noService, s)

/-- One step of a session, and its reply. -/
def step (s : Session) : Step → Reply × Session
  | .start origin (some settings) => s.startService origin settings
  | .start _ none => (.badSettings, s)
  | .call script returned policy name =>
    s.withHeld fun place service => s.call place service script returned policy name
  | .wait name => s.take name
  | .poll name => s.take name
  | .drop name => s.dropCall name
  | .gate => s.withHeld s.closeGate
  | .openGate => s.openGate
  | .stats => s.withHeld s.stats
  | .kill => s.withHeld s.kill
  | .dropInside name => s.withHeld (s.dropInside name)
  | .shutdown => s.shutdown
  | .fanout count value => s.withHeld fun _ _ => s.fanout count value
  | .newContext name arguments => s.replyContext (.new name arguments)
  | .pushArgument name value => s.replyContext ((s.contextOf name).pushArgument value)
  | .showContext name => s.replyContext (s.contextOf name)
  | .program context mode script returned name =>
    s.withHeld (s.program context mode script returned name)

/-- Several steps, with their replies. -/
def run (s : Session) : List Step → List Reply
  | [] => []
  | step :: steps =>
    let (reply, s) := s.step step
    reply :: run s steps

end Session

end ScriptHost
