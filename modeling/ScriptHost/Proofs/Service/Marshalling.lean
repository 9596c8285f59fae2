import ScriptHost.Proofs.Pack.RoundTrip
import ScriptHost.Proofs.Service.Suspension

/-!
# Programs and their callers

Arguments travel inside an array, so they may be nested one level less deeply than a result. Up to
these limits a program runs with the arguments of its context, and its caller is given its result.
Beyond them the failure arises on the one side or on the other.

* `Interpreter.request_of_shallow`, `Interpreter.request_of_deep` : what a program call runs.
* `Interpreter.Ended` : how a program ended.
* `Interpreter.Delivers` : what its caller is given for that.
* `Interpreter.Counted`, `Interpreter.Given` : the two sides of an ending.
* `Interpreter.RunsWith`, `Interpreter.FailsUnpacking`, `Interpreter.GetsItsTurn` : how a program
  call fares.
* `Interpreter.marshalled` : program calls after any deeds.
-/

namespace ScriptHost

/-! ## Packed values -/

namespace Value

/-- The packed form of a value fits in memory, which is counted in 64 bits. -/
def Fits (value : Value) : Prop := Text.Utf8.size (Pack.item value) < 2 ^ 64

theorem depthAll_lt {items : List Value} {bound : Nat} (hbound : 0 < bound) :
    depthAll items < bound ↔ ∀ item ∈ items, item.depth < bound := by
  induction items with
  | nil => exact iff_of_true hbound nofun
  | cons item items ih => rw [depthAll, Nat.max_lt, ih, List.forall_mem_cons]

theorem unpack_of_shallow {value : Value} (hfits : value.Fits)
    (hdepth : value.depth ≤ Pack.maxDepth) : unpack value.packBytes = .ok value := by
  by_cases hstring : ∃ text, value = .string text
  · obtain ⟨text, rfl⟩ := hstring
    exact unpack_standing text
  · rw [packBytes_eq hstring]
    exact unpack_stream hfits hdepth

theorem unpack_of_deep {value : Value} (hfits : value.Fits)
    (hdepth : Pack.maxDepth < value.depth) :
    ∃ offset, unpack value.packBytes = .error (.deserialize offset .tooDeep) := by
  by_cases hstring : ∃ text, value = .string text
  · obtain ⟨text, rfl⟩ := hstring
    exact absurd hdepth (Nat.not_lt_zero _)
  · obtain ⟨tag, -, -, -, -, hunpack⟩ := unpack_stream_tooDeep hfits hdepth
    exact ⟨tag.offset, by rw [packBytes_eq hstring, hunpack]⟩

end Value

/-- The text of an error starts with its outermost context. -/
theorem chainText_cons (context : String) (chain : List String) :
    ∃ rest, chainText (context :: chain) = context ++ rest := by
  cases chain with
  | nil => exact ⟨"", by simp [chainText]⟩
  | cons next chain =>
    refine ⟨": " ++ chainText (next :: chain), ?_⟩
    rw [chainText, String.intercalate_cons_cons, String.append_assoc]
    rfl

namespace Interpreter

open ClosingService (Fair upTo)
open SharedService (Mark Passes Ran accepted started finished answersTo effects)

variable {σ : Type} {capacity : Nat} {firstId : UInt64} {engine : σ} {i : Interpreter σ}
  {log : List (Mark σ Payload)} {issued : List (UInt64 → Callable σ Payload)}
  {notes : List (Note σ)} {ticket : Nat} {program : Program σ} {arguments : List Value}
  {outcome : Outcome}

/-! ## Requests -/

/-- A program runs with the arguments of its context, if none of them is nested too deeply. -/
theorem request_of_shallow (hfits : (Value.array arguments).Fits)
    (hshallow : ∀ argument ∈ arguments, argument.depth ≤ 255) (id : UInt64) :
    request program arguments id = program.runWith id arguments := by
  have hdepth : (Value.array arguments).depth ≤ Pack.maxDepth :=
    (Value.depthAll_lt (by decide)).mpr fun argument hargument =>
      Nat.lt_succ_of_le (hshallow argument hargument)
  rw [request, Program.callable, Value.unpack_of_shallow hfits hdepth]

/-- Where an argument is nested too deeply, the program is not run at all. -/
theorem request_of_deep (hfits : (Value.array arguments).Fits)
    (hdeep : ∃ argument ∈ arguments, 255 < argument.depth) (id : UInt64) :
    ∃ text, request program arguments id =
      .finish (.failed ["unpacking program arguments", text]) := by
  obtain ⟨argument, hargument, hdeep⟩ := hdeep
  have hdepth : Pack.maxDepth < (Value.array arguments).depth := by
    refine Nat.lt_of_not_le fun hle => ?_
    have hshallow := (Value.depthAll_lt (by decide)).mp hle argument hargument
    exact absurd hshallow (Nat.not_lt_of_le hdeep)
  obtain ⟨offset, hunpack⟩ := Value.unpack_of_deep hfits hdepth
  exact ⟨_, by rw [request, Program.callable, hunpack]⟩

/-! ## Endings -/

/-- A failure of a call, whose text starts in this way. -/
def FailsWith (text : String) (outcome : Outcome) : Prop :=
  ∃ chain rest, outcome = .error (.callFailed chain) ∧ chainText chain = text ++ rest

theorem failsWith (context : String) (chain : List String) :
    FailsWith context (.error (.callFailed (context :: chain))) := by
  obtain ⟨rest, htext⟩ := chainText_cons context chain
  exact ⟨_, rest, rfl, htext⟩

/-- The ending of a program that was run with these arguments as the call of a ticket, after the
calls before it. -/
def Ended (engine : σ) (log : List (Mark σ Payload)) (ticket : Nat) (program : Program σ)
    (arguments : List Value) (ending : Ending Payload) : Prop :=
  ∃ before job after labels, started log = before ++ job :: after ∧ job.ticket = ticket ∧
    (program.run job.id arguments).course (answersTo log ticket) (effects log before engine) =
      some (labels, ending)

/-- What the caller of a program is given for its ending. -/
def Delivers (name : String) : Ending Payload → Outcome → Prop
  | .value (.value value), outcome => value.Fits →
    (value.depth ≤ Pack.maxDepth → outcome = .ok value) ∧
    (Pack.maxDepth < value.depth →
      ∃ offset, outcome = .error (.codec (.deserialize offset .tooDeep)))
  | .value (.packed bytes), outcome => outcome = Program.unpackPayload (.packed bytes)
  | .failed chain, outcome =>
    outcome = .error (.callFailed (("program '" ++ name ++ "'") :: chain)) ∧
      FailsWith ("program '" ++ name ++ "'") outcome
  | .panicked text, outcome => outcome = .error (.panicked text)

theorem delivers_outcome (name : String) (ending : Ending Payload) (id : UInt64)
    (labels : List String) :
    Delivers name ending (Program.outcome (.ofCourse id labels (Program.ending name ending))) := by
  cases ending with
  | value payload =>
    cases payload with
    | value value =>
      intro hfits
      refine ⟨fun hdepth => ?_, fun hdepth => ?_⟩
      · have hunpack := Value.unpack_of_shallow hfits hdepth
        simp [Program.outcome, Record.ofCourse, Program.ending, Ending.result,
          Program.unpackPayload, hunpack]
      · obtain ⟨offset, hunpack⟩ := Value.unpack_of_deep hfits hdepth
        refine ⟨offset, ?_⟩
        simp [Program.outcome, Record.ofCourse, Program.ending, Ending.result,
          Program.unpackPayload, hunpack]
    | packed bytes => rfl
  | failed chain => exact ⟨rfl, failsWith _ chain⟩
  | panicked text => rfl

/-- Whether a program has a value is not changed by the way in which it is delivered. -/
theorem isOk_ending (name : String) (ending : Ending Payload) :
    (Program.ending name ending).result.isOk = ending.result.isOk := by
  cases ending with
  | value payload => cases payload <;> rfl
  | failed chain => rfl
  | panicked text => rfl

theorem course_runWith {program : Program σ} {id : UInt64} {arguments : List Value}
    {answers : List (Nat × Option Failure)} {engine : σ} {labels : List String}
    {ending : Ending Payload}
    (h : (program.runWith id arguments).course answers engine = some (labels, ending)) :
    ∃ own, (program.run id arguments).course answers engine = some (labels, own) ∧
      ending = Program.ending program.name own := by
  rw [Program.runWith, Callable.course_mapEnding] at h
  obtain ⟨⟨labels', own⟩, hcourse, hsame⟩ := Option.map_eq_some_iff.mp h
  obtain ⟨rfl, rfl⟩ := Prod.mk.inj hsame
  exact ⟨own, hcourse, rfl⟩

/-! ## Deeds and the order of calls -/

theorem proceed_closing (i : Interpreter σ) : i.proceed.1.closing = i.closing := by
  unfold proceed
  split
  · split <;> rfl
  · rfl

theorem collect_closing (i : Interpreter σ) : i.collect.1.closing = i.closing := by
  unfold collect
  split
  · split <;> rfl
  · rfl

/-- What an interpreter does to its service consists of small steps. -/
theorem act_passes (i : Interpreter σ) (deed : Deed σ) :
    ∃ calls, Passes i.closing.shared (i.act deed).2.1 calls (i.act deed).1.closing.shared := by
  have hstays : ∃ calls, Passes i.closing.shared [] calls i.closing.shared := ⟨[], .refl _⟩
  cases deed with
  | happen occurrence => exact ⟨_, i.closing.occur_passes occurrence⟩
  | prepare arguments => exact hstays
  | call program =>
    change ∃ calls, Passes i.closing.shared (i.call program).2.1 calls
      (i.call program).1.closing.shared
    unfold call
    dsimp only
    split
    · exact hstays
    · split
      · exact hstays
      · exact ⟨_, i.closing.occur_passes _⟩
      · exact ⟨_, i.closing.occur_passes _⟩
  | proceed => exact i.proceed_closing.symm ▸ hstays
  | collect => exact i.collect_closing.symm ▸ hstays
  | drop =>
    change ∃ calls, Passes i.closing.shared i.drop.2.1 calls i.drop.1.closing.shared
    unfold drop
    split
    · exact ⟨_, i.closing.occur_passes _⟩
    · exact hstays

theorem run_passes (i : Interpreter σ) (deeds : List (Deed σ)) :
    ∃ calls, Passes i.closing.shared (i.run deeds).2.1 calls (i.run deeds).1.closing.shared := by
  induction deeds generalizing i with
  | nil => exact ⟨[], .refl _⟩
  | cons deed deeds ih =>
    obtain ⟨calls, hdeed⟩ := i.act_passes deed
    obtain ⟨later, hdeeds⟩ := ih (i.act deed).1
    exact ⟨calls ++ later, hdeed.trans hdeeds⟩

/-- A call comes to its end by an action of its own, and by no deed of the interpreter. -/
theorem finished_act {deed : Deed σ} (h : ticket ∈ finished (i.act deed).2.1) :
    deed = .happen (.event .advance) ∧ ∃ running ending,
      i.closing.shared.service.running = some running ∧ running.job.body = .finish ending ∧
      running.job.ticket = ticket := by
  cases deed with
  | happen occurrence =>
    obtain ⟨rfl, hrunning⟩ := ClosingService.finished_occur h
    exact ⟨rfl, hrunning⟩
  | prepare | proceed | collect => cases h
  | call program =>
    change ticket ∈ finished (i.call program).2.1 at h
    unfold call at h
    dsimp only at h
    split at h
    · cases h
    · split at h
      · cases h
      · cases (ClosingService.finished_occur h).1
      · cases (ClosingService.finished_occur h).1
  | drop =>
    change ticket ∈ finished i.drop.2.1 at h
    unfold drop at h
    split at h
    · cases (ClosingService.finished_occur h).1
    · cases h

/-! ## The two sides of an ending -/

/-- The service counts one more call, and counts it as failed or not. -/
def Counted (i after : Interpreter σ) (ok : Bool) : Prop :=
  after.closing.shared.service.stats.completed = i.closing.shared.service.stats.completed + 1 ∧
  after.closing.shared.service.stats.failed =
    i.closing.shared.service.stats.failed + (if ok then 0 else 1)

/-- Whatever is done later, the outcome that the interpreter is given for a call is of this kind. It
is given one as long as it waits, unless the call was dropped by somebody else. -/
def Given (i : Interpreter σ) (notes : List (Note σ)) (ticket : Nat) (kind : Outcome → Prop) :
    Prop :=
  ∀ deeds,
    (∀ outcome, .returned ticket outcome ∈ notes ++ (i.run deeds).2.2 → kind outcome) ∧
    ((i.run deeds).1.stage = .waiting ticket →
      (i.run deeds).1.closing.shared.service.future? ticket = some .dropped ∨
        ∃ outcome, ((i.run deeds).1.act .collect).2.2 = [.returned ticket outcome])

theorem Given.imp {kind kind' : Outcome → Prop} (h : Given i notes ticket kind)
    (himp : ∀ outcome, kind outcome → kind' outcome) : Given i notes ticket kind' := fun deeds =>
  (h deeds).imp_left fun hreturned outcome hmem => himp outcome (hreturned outcome hmem)

/-- The last action of the running call leaves one mark. -/
theorem advance_marks {running : Running σ Payload} {ending : Ending Payload}
    (hsome : i.closing.shared.service.running = some running)
    (hbody : running.job.body = .finish ending) :
    (i.act (.happen (.event .advance))).2.1 = [.finished running.job.ticket] := by
  change SharedService.advanceMarks i.closing.shared.service = _
  rw [SharedService.advanceMarks, hsome]
  dsimp only
  rw [hbody]

namespace Sound

/-- A call that comes to its end is counted, and has its course behind it. -/
theorem ran (h : Sound capacity firstId engine i log issued notes) {deed : Deed σ}
    (hfinish : ticket ∈ finished (i.act deed).2.1) :
    ∃ record, Ran engine (log ++ (i.act deed).2.1) ticket record ∧
      Counted i (i.act deed).1 record.isOk := by
  obtain ⟨rfl, running, ending, hsome, hbody, rfl⟩ := finished_act hfinish
  have hservice : (i.act (.happen (.event .advance))).1.closing.shared.service =
      i.closing.shared.service.finish running ending := by
    change i.closing.advance.1.shared.service = _
    rw [i.closing.advance_shared]
    exact Service.advance_eq_finish hsome hbody
  have hran := h.service.coursing.ran h.service.lived hsome hbody
  refine ⟨_, (advance_marks hsome hbody).symm ▸ hran, ?_⟩
  rw [Counted, hservice]
  exact i.closing.shared.service.finish_counts running ending

/-- The outcome of a call that came to its end is that of its record. -/
theorem given (h : Sound capacity firstId engine i log issued notes) {record : Record Payload}
    (hran : Ran engine log ticket record) {kind : Outcome → Prop}
    (hkind : kind (Program.outcome record)) : Given i notes ticket kind := by
  intro deeds
  obtain ⟨more, hlater⟩ := h.run deeds
  obtain ⟨calls, hpasses⟩ := i.run_passes deeds
  have hran := hran.append (hpasses.answersTo_of_finished h.service.lived)
  refine ⟨fun outcome hreturned => ?_, fun hstage => ?_⟩
  · obtain ⟨other, hother, rfl⟩ := hlater.returned ticket outcome hreturned
    have houtcome := hlater.service.answered.records ticket other hother
    have hother := houtcome.resolve_right fun hunran => hunran.1 hran.mem_finished
    rwa [← hran.unique hother hlater.service.lived.started_nodup]
  · refine (hlater.service.told_of_finished hran.mem_finished).imp_right ?_
    rintro ⟨other, hother, -⟩
    refine ⟨Program.outcome other, ?_⟩
    change (i.run deeds).1.collect.2 = _
    rw [Interpreter.collect, hstage]
    dsimp only
    rw [hother]
    rfl

/-- A program call that comes to its end is the request that was made, done from where the calls
before it had left the engine. -/
theorem ended (h : Sound capacity firstId engine i log issued notes)
    (hcalled : .called ticket program arguments ∈ notes) {deed : Deed σ}
    (hfinish : ticket ∈ finished (i.act deed).2.1) :
    ∃ before job after labels ending,
      started (log ++ (i.act deed).2.1) = before ++ job :: after ∧ job.ticket = ticket ∧
      (request program arguments job.id).course (answersTo (log ++ (i.act deed).2.1) ticket)
        (effects (log ++ (i.act deed).2.1) before engine) = some (labels, ending) ∧
      Counted i (i.act deed).1 ending.result.isOk ∧
      ∀ kind : Outcome → Prop, kind (Program.outcome (.ofCourse job.id labels ending)) →
        Given (i.act deed).1 (notes ++ (i.act deed).2.2) ticket kind := by
  obtain ⟨more, hafter⟩ := h.act deed
  obtain ⟨record, hran, hcounted⟩ := h.ran hfinish
  obtain ⟨before, job, after, labels, ending, hstarted, hticket, -, hcourse, rfl⟩ := id hran
  have hjob : job ∈ accepted (log ++ (i.act deed).2.1) :=
    hafter.service.lived.accepted_of_started (by simp [hstarted])
  obtain ⟨-, hbody, -⟩ := hafter.runs (List.mem_append_left _ hcalled) hjob hticket
  rw [hbody] at hcourse
  exact ⟨before, job, after, labels, ending, hstarted, hticket, hcourse, hcounted,
    fun kind => hafter.given hran⟩

/-- The program of a call that comes to its end ran with the arguments of its context. -/
theorem shallow_ended (h : Sound capacity firstId engine i log issued notes)
    (hcalled : .called ticket program arguments ∈ notes) (hfits : (Value.array arguments).Fits)
    (hshallow : ∀ argument ∈ arguments, argument.depth ≤ 255) {deed : Deed σ}
    (hfinish : ticket ∈ finished (i.act deed).2.1) :
    ∃ ending, Ended engine (log ++ (i.act deed).2.1) ticket program arguments ending ∧
      Counted i (i.act deed).1 ending.result.isOk ∧
      Given (i.act deed).1 (notes ++ (i.act deed).2.2) ticket (Delivers program.name ending) := by
  obtain ⟨before, job, after, labels, last, hstarted, hticket, hcourse, hcounted, hgiven⟩ :=
    h.ended hcalled hfinish
  rw [request_of_shallow hfits hshallow] at hcourse
  obtain ⟨ending, hown, rfl⟩ := course_runWith hcourse
  rw [isOk_ending] at hcounted
  exact ⟨ending, ⟨before, job, after, labels, hstarted, hticket, hown⟩, hcounted,
    hgiven _ (delivers_outcome program.name ending job.id labels)⟩

/-- A call with an argument that is nested too deeply comes to its end as a failure. -/
theorem deep_ended (h : Sound capacity firstId engine i log issued notes)
    (hcalled : .called ticket program arguments ∈ notes) (hfits : (Value.array arguments).Fits)
    (hdeep : ∃ argument ∈ arguments, 255 < argument.depth) {deed : Deed σ}
    (hfinish : ticket ∈ finished (i.act deed).2.1) :
    Counted i (i.act deed).1 false ∧
      Given (i.act deed).1 (notes ++ (i.act deed).2.2) ticket
        (FailsWith "unpacking program arguments") := by
  obtain ⟨before, job, after, labels, ending, -, -, hcourse, hcounted, hgiven⟩ :=
    h.ended hcalled hfinish
  obtain ⟨text, hrequest⟩ := request_of_deep hfits hdeep job.id
  rw [hrequest] at hcourse
  obtain ⟨rfl, rfl⟩ := Prod.mk.inj (Option.some.inj hcourse)
  exact ⟨hcounted, hgiven _ (failsWith _ [text])⟩

end Sound

/-! ## After any deeds -/

/-- A program call is run with the arguments of its context. When it comes to its end, the service
counts it, as failed only if the program failed, and its caller is given what the program
delivers. -/
structure RunsWith (engine : σ) (i : Interpreter σ) (log : List (Mark σ Payload))
    (notes : List (Note σ)) (ticket : Nat) (program : Program σ) (arguments : List Value) :
    Prop where
  body : ∀ job ∈ accepted log, job.ticket = ticket → job.body = program.runWith job.id arguments
  ends : ∀ deed, ticket ∈ finished (i.act deed).2.1 →
    ∃ ending, Ended engine (log ++ (i.act deed).2.1) ticket program arguments ending ∧
      Counted i (i.act deed).1 ending.result.isOk ∧
      Given (i.act deed).1 (notes ++ (i.act deed).2.2) ticket (Delivers program.name ending)

/-- A program call fails before its program is run. When it comes to its end, it is counted as
failed, and its caller is given the failure. -/
structure FailsUnpacking (i : Interpreter σ) (log : List (Mark σ Payload)) (notes : List (Note σ))
    (ticket : Nat) : Prop where
  body : ∀ job ∈ accepted log, job.ticket = ticket →
    ∃ text, job.body = .finish (.failed ["unpacking program arguments", text])
  ends : ∀ deed, ticket ∈ finished (i.act deed).2.1 →
    Counted i (i.act deed).1 false ∧
      Given (i.act deed).1 (notes ++ (i.act deed).2.2) ticket
        (FailsWith "unpacking program arguments")

/-- A program call that was accepted comes to its end in every endless history in which the engine
gets its turns, unless the engine dies. Only then its caller is given another outcome, which says
so. -/
structure GetsItsTurn (i : Interpreter σ) (log : List (Mark σ Payload)) (notes : List (Note σ))
    (ticket : Nat) : Prop where
  turn : ∀ job ∈ accepted log, job.ticket = ticket → ∀ future, Fair future →
    ∃ time, (i.closing.live (upTo future time)).1.died = true ∨
      ticket ∈ finished (log ++ (i.closing.live (upTo future time)).2)
  shutdown : ∀ job ∈ accepted log, job.ticket = ticket → ticket ∉ finished log →
    ∀ outcome, .returned ticket outcome ∈ notes →
      i.closing.shared.service.alive = false ∧ outcome = .error .shutdown

/-- Whatever an interpreter has done with a new context, no call is run twice, and of every program
call the following holds, up to what fits in memory. Where no argument is nested more than 255
levels deep, the program is run with the arguments of the context, and its caller is given the
result, if that is nested at most 256 levels deep, and else a failure to unpack it; or it is given
the failure of the program. Where an argument is nested more deeply, the call fails and the program
is not run. Every call gets its turn. -/
theorem marshalled (capacity : Nat) (firstId : UInt64) (engine : σ) (name : String)
    (first : List Value) (deeds : List (Deed σ)) :
    let result := (start capacity firstId engine (.new name first)).run deeds
    let i := result.1
    let log := result.2.1
    let notes := result.2.2
    ((started log).map Job.ticket).Nodup ∧
    ∀ ticket program arguments, .called ticket program arguments ∈ notes →
      (Value.array arguments).Fits →
      ((∀ argument ∈ arguments, argument.depth ≤ 255) →
        RunsWith engine i log notes ticket program arguments) ∧
      ((∃ argument ∈ arguments, 255 < argument.depth) → FailsUnpacking i log notes ticket) ∧
      GetsItsTurn i log notes ticket := by
  obtain ⟨issued, h⟩ := (Sound.start capacity firstId engine name first).run deeds
  simp only [List.nil_append] at h
  intro result i log notes
  have h : Sound capacity firstId engine i log issued notes := h
  refine ⟨h.service.lived.started_nodup, fun ticket program arguments hcalled hfits =>
    ⟨fun hshallow => ⟨fun job hjob hticket => ?_, fun deed => ?_⟩,
      fun hdeep => ⟨fun job hjob hticket => ?_, fun deed => ?_⟩,
      fun job hjob hticket => ?_, fun job hjob hticket hunfinished outcome hreturned => ?_⟩⟩
  · rw [(h.runs hcalled hjob hticket).2.1, request_of_shallow hfits hshallow]
  · exact h.shallow_ended hcalled hfits hshallow
  · rw [(h.runs hcalled hjob hticket).2.1]
    exact request_of_deep hfits hdeep job.id
  · exact h.deep_ended hcalled hfits hdeep
  · exact (h.runs hcalled hjob hticket).2.2
  · subst hticket
    obtain ⟨record, hrecord, rfl⟩ := h.returned _ outcome hreturned
    obtain ⟨hdead, rfl⟩ := h.service.record_of_unfinished hjob hunfinished hrecord
    exact ⟨hdead, rfl⟩

/-- A program that returns its arguments inside one more array than they came in. -/
def wrapping : Program Unit :=
  { name := "wrapping"
    run := fun _ arguments => .returning (.value (.array [.array arguments])) }

/-- An array in an array, and so on. -/
def nested (count : Nat) : Value := Nat.repeat (fun value => .array [value]) count .uninit

/-- A context with one nested argument, after its program call was taken by the engine. -/
def wrap (count : Nat) : Interpreter Unit × List (Mark Unit Payload) × List (Note Unit) :=
  (start 1 5 () (.new "main" [nested count])).run [.call wrapping, .happen (.event .dispatch)]

theorem depth_nested (count : Nat) : (nested count).depth = count :=
  (Value.nested_measures count).1

theorem fits_nested (count : Nat) (h : count < 2 ^ 32) : (nested count).Fits := by
  have hsize := (Value.nested_measures count).2
  unfold Value.Fits nested
  omega

theorem finished_wrap {count : Nat} {ending : Ending Payload}
    (h : request wrapping [nested count] 5 = .finish ending) :
    0 ∈ finished ((wrap count).1.act (.happen (.event .advance))).2.1 := by
  have hrunning : (wrap count).1.closing.shared.service.running =
      some ⟨⟨0, 5, request wrapping [nested count] 5, false⟩, _⟩ := rfl
  rw [advance_marks hrunning h]
  exact List.mem_cons_self

/-- Both limits: a result that is nested one level too deeply, and an argument that is. -/
theorem marshalled_wrapping :
    let after (count : Nat) := ((wrap count).1.act (.happen (.event .advance))).1
    Counted (wrap 255).1 (after 255) true ∧
    Given (after 255) (wrap 255).2.2 0
      (fun outcome => ∃ offset, outcome = .error (.codec (.deserialize offset .tooDeep))) ∧
    Counted (wrap 256).1 (after 256) false ∧
    Given (after 256) (wrap 256).2.2 0 (FailsWith "unpacking program arguments") := by
  have hcalled : ∀ count, .called 0 wrapping [nested count] ∈ (wrap count).2.2 :=
    fun count => List.mem_cons_self
  have hshallow : ∀ argument ∈ [nested 255], argument.depth ≤ 255 := by
    intro argument hargument
    rw [List.mem_singleton.mp hargument, depth_nested]
  have hdeep : ∃ argument ∈ [nested 256], 255 < argument.depth := by
    refine ⟨nested 256, List.mem_cons_self, ?_⟩
    rw [depth_nested]
    decide
  have hfits : ∀ count ≤ 256, (Value.array [nested count]).Fits := fun count hle =>
    fits_nested (count + 1) (by omega)
  refine and_assoc.mp ⟨?_, ?_⟩
  · obtain ⟨-, hall⟩ :=
      marshalled 1 5 () "main" [nested 255] [.call wrapping, .happen (.event .dispatch)]
    obtain ⟨hrun, -⟩ := hall 0 wrapping [nested 255] (hcalled 255) (hfits 255 (by decide))
    have hrequest : request wrapping [nested 255] 5 = .finish _ :=
      request_of_shallow (hfits 255 (by decide)) hshallow 5
    obtain ⟨ending, ⟨before, job, after, labels, -, -, hcourse⟩, hcounted, hgiven⟩ :=
      (hrun hshallow).ends (.happen (.event .advance)) (finished_wrap hrequest)
    obtain ⟨rfl, rfl⟩ := Prod.mk.inj (Option.some.inj hcourse)
    have hdepth : Pack.maxDepth < (nested 257).depth := by
      rw [depth_nested]
      decide
    exact ⟨hcounted, hgiven.imp fun outcome hdelivers =>
      (hdelivers (fits_nested 257 (by decide))).2 hdepth⟩
  · obtain ⟨-, hall⟩ :=
      marshalled 1 5 () "main" [nested 256] [.call wrapping, .happen (.event .dispatch)]
    obtain ⟨-, hrun, -⟩ := hall 0 wrapping [nested 256] (hcalled 256) (hfits 256 (by decide))
    obtain ⟨text, hrequest⟩ : ∃ text, request wrapping [nested 256] 5 = .finish (.failed text) :=
      (request_of_deep (hfits 256 (by decide)) hdeep 5).imp' (fun text => [_, text]) fun _ => id
    exact (hrun hdeep).ends (.happen (.event .advance)) (finished_wrap hrequest)

end Interpreter

end ScriptHost
