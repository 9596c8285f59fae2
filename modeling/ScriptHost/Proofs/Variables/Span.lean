import ScriptHost.Proofs.StringVariables.History
import ScriptHost.Proofs.Text.Buffer
import ScriptHost.Proofs.Variables.AssignAt

/-!
# Every way to a span takes the same span

Scripts come to a span of a string through a pair of indices and through the arguments of a method,
to read it or to exchange it. Each way has its own check of the numbers, and all of them let the
same spans through.

* `ScriptString.exchanged` : a string with the characters of a span exchanged.
* `Subscript.span_outside`, `Arguments.start_outside` : numbers at which no span begins.
* `Variables.act_indices`, `Variables.act_methods` : what a script gets through numbers that name a
  span.
* `Variables.ReachesSpan`, `Variables.MissesSpan` : all ways at once, with numbers that name a span
  and with others.
* `Variables.spans_exchanged` : the ways compared, for all numbers.
-/

namespace ScriptHost

open Text

/-- A string with other characters in the place of a span, which is cut at the end of the text. -/
def ScriptString.exchanged (s : ScriptString) (start length : Nat) (written : String) :
    ScriptString :=
  let text := s.text.toList
  { s with
    text := String.ofList
      (text.take start ++ written.toList ++ text.drop (min (start + length) text.length))
    generation := s.generation + 1 }

namespace ScriptString

variable {s : ScriptString} {start : Nat}

theorem exchanged_eq (s : ScriptString) (start length : Nat) (written : String) :
    s.exchanged start length written =
      s.changed (Text.replaceSpan s.text.toList start length written.toList) := by
  have hdrop : s.text.toList.drop (min (start + length) s.text.toList.length) =
      s.text.toList.drop (start + length) := by
    rcases Nat.le_total (start + length) s.text.toList.length with hle | hle
    · rw [Nat.min_eq_left hle]
    · rw [Nat.min_eq_right hle, List.drop_length, List.drop_of_length_le hle]
  rw [exchanged, hdrop]
  rfl

theorem replaceSpan_of_le (h : start ≤ s.text.toList.length) (length : Nat) (written : String) :
    s.replaceSpan start length written = .ok (s.exchanged start length written) := by
  rw [exchanged_eq]
  exact Store.replaceSpan_ok h length written

theorem replaceSpan_of_lt (h : s.text.toList.length < start) (length : Nat) (written : String) :
    s.replaceSpan start length written =
      .error (.indexOutOfRange (signedWord start) s.text.toList.length) := by
  rw [replaceSpan, if_pos h]

/-- The bytes of the exchanged span are cut out between characters. -/
theorem exchange?_exchanged (s : ScriptString) (start length : Nat) (written : String) :
    Buffer.exchange? (Utf8.encode s.text.toList) (Buffer.span s.text.toList start length)
        (Utf8.encode written.toList) =
      some (Utf8.encode (s.exchanged start length written).text.toList) := by
  rw [Buffer.exchange?_span, exchanged_eq, changed, String.toList_ofList]

end ScriptString

/-! ## Numbers that name no span -/

namespace Subscript

variable {first count : Int32} {size : Nat}

theorem span_outside (h : first.toInt < 1 ∨ (size : Int) + 1 < first.toInt) :
    span size (.integer first) (.integer count) = .error (.indexOutOfRange first.toInt size) := by
  rw [span, if_pos h]

theorem exists_span_error (size : Nat) (first : Int32) (h : count.toInt < 0) :
    ∃ e, span size (.integer first) (.integer count) = .error e := by
  by_cases hfirst : first.toInt < 1 ∨ (size : Int) + 1 < first.toInt
  · exact ⟨_, span_outside hfirst⟩
  · rw [span, if_neg hfirst, if_pos h]
    exact ⟨_, rfl⟩

theorem position_outside (container : Kind) (h : first.toInt < 1 ∨ (size : Int) < first.toInt) :
    position container (.integer first) size = .error (.indexOutOfRange first.toInt size) := by
  rw [position, if_pos h]

end Subscript

namespace Arguments

variable {first count : Int32} {size place span : Nat} (method : Method) (position : Nat)

theorem start_of_names {given : Value} (h : Subscript.Names given place) (hplace : place ≤ size) :
    start method position given size = .ok place := by
  obtain ⟨n, rfl, hn⟩ := h
  simp only [start, integer, bind, Except.bind]
  rw [if_neg (by omega), hn]
  rfl

theorem start_outside (h : first.toInt < 1 ∨ (size : Int) + 1 < first.toInt) :
    start method position (.integer first) size = .error (.indexOutOfRange first.toInt size) := by
  simp only [start, integer, bind, Except.bind]
  rw [if_pos h]

theorem length_of_toInt (hcount : count.toInt = span) :
    length method position (.integer count) = .ok span := by
  simp only [length, integer, bind, Except.bind]
  rw [if_neg (by omega), hcount]
  rfl

theorem length_negative (h : count.toInt < 0) :
    length method position (.integer count) =
      .error (.invalidArgument (.negativeLength method count.toInt)) := by
  simp only [length, integer, bind, Except.bind]
  rw [if_pos h]

end Arguments

/-! ## A span exchanged by name -/

namespace StringVariables

variable {vars : StringVariables} {name : String} {s : ScriptString} {start : Nat}

theorem step_replaceSpan_of_le (hs : vars.strings.lookup name = some s)
    (h : start ≤ s.text.toList.length) (length : Nat) (written : String) :
    vars.step name (.replaceSpan start length written) =
      (.outcome (.ok ()), s.exchanged start length written,
        vars.keep name (s.exchanged start length written)) := by
  simp only [step, fetch, hs, act, ScriptString.replaceSpan_of_le h, keep,
    Bindings.lookup_rebind_self]

theorem step_replaceSpan_of_lt (hs : vars.strings.lookup name = some s)
    (h : s.text.toList.length < start) (length : Nat) (written : String) :
    vars.step name (.replaceSpan start length written) =
      (.outcome (.error (.indexOutOfRange (ScriptString.signedWord start)
        s.text.toList.length)), s, vars) := by
  simp only [step, fetch, hs, act, ScriptString.replaceSpan_of_lt h]

/-- The characters of a span of a string are exchanged, if it does not begin past the end. The bytes
are then exchanged where a walk over the characters finds the span. -/
structure ExchangesSpans (vars : StringVariables) (name : String) (s : ScriptString)
    (written : String) : Prop where
  past : ∀ start length, s.text.toList.length < start →
    vars.step name (.replaceSpan start length written) =
      (.outcome (.error (.indexOutOfRange (ScriptString.signedWord start)
        s.text.toList.length)), s, vars)
  within : ∀ start length, start ≤ s.text.toList.length →
    vars.step name (.replaceSpan start length written) =
      (.outcome (.ok ()), s.exchanged start length written,
        vars.keep name (s.exchanged start length written))
  bytes : ∀ start length, start ≤ s.text.toList.length →
    Buffer.exchange? (Utf8.encode s.text.toList) (Buffer.span s.text.toList start length)
      (Utf8.encode written.toList) =
        some (Utf8.encode (s.exchanged start length written).text.toList)

theorem exchangesSpans (hs : vars.strings.lookup name = some s) (written : String) :
    vars.ExchangesSpans name s written where
  past _ length h := step_replaceSpan_of_lt hs h length written
  within _ length h := step_replaceSpan_of_le hs h length written
  bytes start length _ := s.exchange?_exchanged start length written

end StringVariables

/-! ## Subscripts of a string -/

section Subscripts

open Subscript

variable {st : Store} {slot : Nat} {s : ScriptString} {indices : List Value}

theorem Value.subscript_of_namesSpan {text : String} {start length : Nat}
    (h : NamesSpan text.toList.length indices start length) :
    (Value.string text).subscript indices = .ok (.slice text start length) := by
  cases h with
  | character hindex hstart =>
    have hposition := position_of_names hindex .string hstart
    simp only [Value.subscript, Value.item, hposition, bind, Except.bind]
  | range hfirst hstart hcount =>
    have hspan := span_of_namesSpan (.range hfirst hstart hcount)
    simp only [Value.subscript, hspan, bind, Except.bind]

theorem Value.item_outside {text : String} {index : Int32}
    (h : index.toInt < 1 ∨ (text.toList.length : Int) < index.toInt) :
    (Value.string text).item (.integer index) =
      .error (.indexOutOfRange index.toInt text.toList.length) := by
  simp only [Value.item, position_outside .string h, bind, Except.bind]

theorem Value.subscript_outside {text : String} {first : Int32}
    (h : first.toInt < 1 ∨ (text.toList.length : Int) + 1 < first.toInt) (count : Int32) :
    (Value.string text).subscript [.integer first, .integer count] =
      .error (.indexOutOfRange first.toInt text.toList.length) := by
  simp only [Value.subscript, span_outside h, bind, Except.bind]

theorem Value.exists_subscript_error (text : String) (first : Int32) {count : Int32}
    (h : count.toInt < 0) :
    ∃ e, (Value.string text).subscript [.integer first, .integer count] = .error e := by
  obtain ⟨e, he⟩ := exists_span_error text.toList.length first h
  refine ⟨e, ?_⟩
  simp only [Value.subscript, he, bind, Except.bind]

theorem Store.assignAt_string (hs : st.cell slot = .string s) {start length : Nat}
    (h : NamesSpan s.text.toList.length indices start length) (written : String) :
    st.assignAt slot indices (.string written) =
      .ok (st.put slot (.string (s.exchanged start length written))) := by
  have hassign := assignAt_span .nil rfl hs h (.string written)
  rwa [List.nil_append, assignedText, Except.map, ← ScriptString.exchanged_eq] at hassign

end Subscripts

/-! ## The ways of scripts -/

namespace Variables

open Subscript

variable {vars : Variables} {slot : Nat} {s : ScriptString} {e : Error}

theorem read_of_cell_string (hs : vars.store.cell slot = .string s) :
    vars.store.read slot = .string s.text := by
  rw [Store.read, Store.snapshot, hs]
  rfl

theorem act_subscript_string (hs : vars.store.cell slot = .string s) (indices : List Value) :
    vars.act slot (.subscript indices) =
      (.result ((Value.string s.text).subscript indices), vars) := by
  rw [act, read_of_cell_string hs]

/-- A method that only looks at a string. -/
theorem act_query (hs : vars.store.cell slot = .string s) {name : String} {method : Method}
    (hname : Method.lookup? name = some method) (hreceiver : method.receiver = .string)
    (hlooks : method.mutates = false) (arguments : List Value) :
    vars.act slot (.call name arguments) =
      (.result (TextMethod.query s.text method arguments), vars) := by
  simp only [act, Store.callMethod, hname, Store.call, hs, hreceiver, Store.callOnString, hlooks]
  change vars.attemptFor ((TextMethod.query s.text method arguments).map _) = _
  cases TextMethod.query s.text method arguments <;> rfl

/-- A method that changes a string. -/
theorem act_update (hs : vars.store.cell slot = .string s) {name : String} {method : Method}
    (hname : Method.lookup? name = some method) (hreceiver : method.receiver = .string)
    (hmutates : method.mutates = true) (arguments : List Value) :
    vars.act slot (.call name arguments) =
      vars.attemptFor ((TextMethod.update s method arguments).map fun s =>
        (.string s.text, vars.store.put slot (.string s))) := by
  simp only [act, Store.callMethod, hname, Store.call, hs, hreceiver, Store.callOnString, hmutates]
  rfl

theorem act_substr (hs : vars.store.cell slot = .string s) (arguments : List Value) :
    vars.act slot (.call "substr" arguments) =
      (.result (TextMethod.query s.text .substr arguments), vars) :=
  act_query hs (by decide) rfl rfl arguments

theorem act_subreplace (hs : vars.store.cell slot = .string s) (arguments : List Value) :
    vars.act slot (.call "subreplace" arguments) =
      vars.attemptFor ((TextMethod.update s .subreplace arguments).map fun s =>
        (.string s.text, vars.store.put slot (.string s))) :=
  act_update hs (by decide) rfl rfl arguments

/-- Indices that name a span assign to it and select it. -/
theorem act_indices (hs : vars.store.cell slot = .string s) {target : Operand} {written : String}
    (htarget : vars.operand target = .string written) {indices : List Value} {start length : Nat}
    (hspan : NamesSpan s.text.toList.length indices start length) :
    vars.act slot (.assignAt indices target) = (.result (.ok (.string written)),
      vars.withStore (vars.store.put slot (.string (s.exchanged start length written)))) ∧
    vars.act slot (.subscript indices) = (.result (.ok (.slice s.text start length)), vars) := by
  have hassign := Store.assignAt_string hs hspan written
  have hselect := Value.subscript_of_namesSpan hspan
  rw [← htarget] at hassign
  rw [act_assignAt_ok hassign, act_subscript_string hs, hselect, htarget]
  exact ⟨rfl, rfl⟩

/-- Indices that select nothing fail alike to assign and to select. -/
theorem act_indices_error (hs : vars.store.cell slot = .string s) {indices : List Value}
    (h : (Value.string s.text).subscript indices = .error e) (target : Operand) :
    vars.act slot (.assignAt indices target) = (.result (.error e), vars) ∧
      vars.act slot (.subscript indices) = (.result (.error e), vars) := by
  have hassign := Store.assignAt_string_error hs h (vars.operand target)
  rw [act_assignAt_error hassign, act_subscript_string hs, h]
  exact ⟨rfl, rfl⟩

variable {first count : Int32}

/-- Arguments that name a span exchange it and copy it. -/
theorem act_methods (hs : vars.store.cell slot = .string s) {first : Value} {start length : Nat}
    (hfirst : Names first start) (hstart : start ≤ s.text.toList.length)
    (hcount : count.toInt = length) (written : String) :
    vars.act slot (.call "subreplace" [.string written, first, .integer count]) =
      (.result (.ok (.string (s.exchanged start length written).text)),
        vars.withStore (vars.store.put slot (.string (s.exchanged start length written)))) ∧
    vars.act slot (.call "substr" [first, .integer count]) =
      (.result (.ok (.slice s.text start length)), vars) := by
  rw [act_subreplace hs, act_substr hs]
  simp only [TextMethod.update, TextMethod.query, Arguments.text,
    Arguments.start_of_names _ _ hfirst hstart, Arguments.length_of_toInt _ _ hcount, Bind.bind,
    Except.bind, ScriptString.replaceSpan_of_le hstart]
  exact ⟨rfl, trivial⟩

theorem act_methods_outside (hs : vars.store.cell slot = .string s)
    (hfirst : first.toInt < 1 ∨ (s.text.toList.length : Int) + 1 < first.toInt) (count : Int32)
    (written : String) :
    vars.act slot (.call "subreplace" [.string written, .integer first, .integer count]) =
      (.result (.error (.indexOutOfRange first.toInt s.text.toList.length)), vars) ∧
    vars.act slot (.call "substr" [.integer first, .integer count]) =
      (.result (.error (.indexOutOfRange first.toInt s.text.toList.length)), vars) := by
  rw [act_subreplace hs, act_substr hs]
  simp only [TextMethod.update, TextMethod.query, Arguments.text,
    Arguments.start_outside _ _ hfirst, Bind.bind, Except.bind]
  exact ⟨rfl, trivial⟩

theorem act_methods_negative (hs : vars.store.cell slot = .string s) (first : Int32)
    (hcount : count.toInt < 0) (written : String) :
    (∃ e, vars.act slot (.call "subreplace" [.string written, .integer first, .integer count]) =
      (.result (.error e), vars)) ∧
    ∃ e, vars.act slot (.call "substr" [.integer first, .integer count]) =
      (.result (.error e), vars) := by
  rw [act_subreplace hs, act_substr hs]
  simp only [TextMethod.update, TextMethod.query, Arguments.text,
    Arguments.length_negative _ _ hcount, Bind.bind, Except.bind]
  constructor
  · cases Arguments.start .subreplace 2 (.integer first) s.text.toList.length <;> exact ⟨_, rfl⟩
  · cases Arguments.start .substr 1 (.integer first) s.text.toList.length <;> exact ⟨_, rfl⟩

/-! ## All ways to a span -/

/-- A span exchanged through indices. -/
def assigned (vars : Variables) (slot : Nat) (target : Operand) (indices : List Int32) :
    Reply × Variables := vars.act slot (.assignAt (indices.map .integer) target)

/-- A span exchanged by the method. -/
def updated (vars : Variables) (slot : Nat) (written : String) (first count : Int32) :
    Reply × Variables :=
  vars.act slot (.call "subreplace" [.string written, .integer first, .integer count])

/-- A span read through indices. -/
def selected (vars : Variables) (slot : Nat) (indices : List Int32) : Reply × Variables :=
  vars.act slot (.subscript (indices.map .integer))

/-- A span read by the method. -/
def copied (vars : Variables) (slot : Nat) (first count : Int32) : Reply × Variables :=
  vars.act slot (.call "substr" [.integer first, .integer count])

/-- The variables with a span of a string exchanged. -/
def exchanged (vars : Variables) (slot : Nat) (s : ScriptString) (start length : Nat)
    (written : String) : Variables :=
  vars.withStore (vars.store.put slot (.string (s.exchanged start length written)))

/-- Both ways to exchange a span leave the same string behind, and both ways to read it give the
same text. -/
structure ReachesSpan (vars : Variables) (slot : Nat) (s : ScriptString) (target : Operand)
    (written : String) (first count : Int32) (start length : Nat) : Prop where
  assigned : vars.assigned slot target [first, count] =
    (.result (.ok (.string written)), vars.exchanged slot s start length written)
  updated : vars.updated slot written first count =
    (.result (.ok (.string (s.exchanged start length written).text)),
      vars.exchanged slot s start length written)
  selected : vars.selected slot [first, count] =
    (.result (.ok (.slice s.text start length)), vars)
  copied : vars.copied slot first count = (.result (.ok (.slice s.text start length)), vars)

/-- All four ways to a span end in one of these replies, with nothing changed. -/
structure MissesSpan (vars : Variables) (slot : Nat) (target : Operand) (written : String)
    (first count : Int32) (replies : Reply → Prop) : Prop where
  assigned : ∃ reply, replies reply ∧ vars.assigned slot target [first, count] = (reply, vars)
  updated : ∃ reply, replies reply ∧ vars.updated slot written first count = (reply, vars)
  selected : ∃ reply, replies reply ∧ vars.selected slot [first, count] = (reply, vars)
  copied : ∃ reply, replies reply ∧ vars.copied slot first count = (reply, vars)

/-- The ways of scripts to a span let the same numbers through. Where the first number is out of
range, all four fail alike; where the second is negative, all four fail. A single index stands for a
span of one character, and does not go past the last one. -/
structure WaysAgree (vars : Variables) (slot : Nat) (s : ScriptString) (target : Operand)
    (written : String) : Prop where
  named : ∀ (first count : Int32) (start length : Nat), first.toInt = start + 1 →
    start ≤ s.text.toList.length → count.toInt = length →
      vars.ReachesSpan slot s target written first count start length
  outside : ∀ first count : Int32,
    first.toInt < 1 ∨ (s.text.toList.length : Int) + 1 < first.toInt →
      vars.MissesSpan slot target written first count
        (· = .result (.error (.indexOutOfRange first.toInt s.text.toList.length)))
  negative : ∀ first count : Int32, count.toInt < 0 →
    vars.MissesSpan slot target written first count fun reply => ∃ e, reply = .result (.error e)
  character : ∀ (index : Int32) (place : Nat), index.toInt = place + 1 →
    place < s.text.toList.length →
      vars.assigned slot target [index] =
        (.result (.ok (.string written)), (vars.updated slot written index 1).2) ∧
      vars.selected slot [index] = vars.copied slot index 1
  noCharacter : ∀ index : Int32, index.toInt < 1 ∨ (s.text.toList.length : Int) < index.toInt →
    ∀ reply ∈ [vars.assigned slot target [index], vars.selected slot [index]],
      reply = (.result (.error (.indexOutOfRange index.toInt s.text.toList.length)), vars)

variable {target : Operand} {written : String}

theorem reachesSpan (hs : vars.store.cell slot = .string s)
    (htarget : vars.operand target = .string written) {start length : Nat}
    (hfirst : first.toInt = start + 1) (hstart : start ≤ s.text.toList.length)
    (hcount : count.toInt = length) :
    vars.ReachesSpan slot s target written first count start length := by
  have hnames : Names (.integer first) start := ⟨first, rfl, hfirst⟩
  obtain ⟨hassigned, hselected⟩ := act_indices hs htarget (.range hnames hstart hcount)
  obtain ⟨hupdated, hcopied⟩ := act_methods hs hnames hstart hcount written
  exact ⟨hassigned, hupdated, hselected, hcopied⟩

theorem missesSpan_outside (hs : vars.store.cell slot = .string s)
    (hfirst : first.toInt < 1 ∨ (s.text.toList.length : Int) + 1 < first.toInt) (count : Int32)
    (target : Operand) (written : String) :
    vars.MissesSpan slot target written first count
      (· = .result (.error (.indexOutOfRange first.toInt s.text.toList.length))) := by
  have hsubscript := Value.subscript_outside hfirst count
  obtain ⟨hassigned, hselected⟩ := act_indices_error hs hsubscript target
  obtain ⟨hupdated, hcopied⟩ := act_methods_outside hs hfirst count written
  exact ⟨⟨_, rfl, hassigned⟩, ⟨_, rfl, hupdated⟩, ⟨_, rfl, hselected⟩, _, rfl, hcopied⟩

theorem missesSpan_negative (hs : vars.store.cell slot = .string s) (first : Int32)
    (hcount : count.toInt < 0) (target : Operand) (written : String) :
    vars.MissesSpan slot target written first count
      fun reply => ∃ e, reply = .result (.error e) := by
  obtain ⟨e, he⟩ := Value.exists_subscript_error s.text first hcount
  obtain ⟨hassigned, hselected⟩ := act_indices_error hs he target
  obtain ⟨⟨_, hupdated⟩, ⟨_, hcopied⟩⟩ := act_methods_negative hs first hcount written
  exact ⟨⟨_, ⟨e, rfl⟩, hassigned⟩, ⟨_, ⟨_, rfl⟩, hupdated⟩, ⟨_, ⟨e, rfl⟩, hselected⟩, _, ⟨_, rfl⟩,
    hcopied⟩

/-- The characters of a span of a string are exchanged, if it does not begin past the end, and the
ways of scripts to a span agree with that and with one another. -/
theorem spans_exchanged (vars : Variables) (slot : Nat) (s : ScriptString) (written : String)
    (target : Operand) (hs : vars.store.cell slot = .string s)
    (htarget : vars.operand target = .string written) :
    (∀ (strings : StringVariables) (name : String), strings.strings.lookup name = some s →
      strings.ExchangesSpans name s written) ∧
    vars.WaysAgree slot s target written := by
  refine ⟨fun strings name hname => StringVariables.exchangesSpans hname written, ?_⟩
  constructor
  case named => exact fun _ _ _ _ => reachesSpan hs htarget
  case outside => exact fun _ count hfirst => missesSpan_outside hs hfirst count target written
  case negative => exact fun first _ hcount => missesSpan_negative hs first hcount target written
  case character =>
    intro index place hindex hplace
    have hnames : Names (.integer index) place := ⟨index, rfl, hindex⟩
    have hone : (1 : Int32).toInt = (1 : Nat) := rfl
    obtain ⟨hassigned, hselected⟩ := act_indices hs htarget (.character hnames hplace)
    obtain ⟨hupdated, hcopied⟩ := act_methods hs hnames (Nat.le_of_lt hplace) hone written
    refine ⟨hassigned.trans ?_, hselected.trans hcopied.symm⟩
    rw [show vars.updated slot written index 1 = _ from hupdated]
  case noCharacter =>
    intro index hindex
    have hitem : (Value.string s.text).subscript [.integer index] = _ := Value.item_outside hindex
    obtain ⟨hassigned, hselected⟩ := act_indices_error hs hitem target
    simp only [List.forall_mem_cons]
    exact ⟨hassigned, hselected, List.forall_mem_nil _⟩

/-- A span may begin right behind the last character, where a single index already fails. -/
theorem spans_exchanged_behind_last :
    let vars := (Variables.empty.step "a" (.new (.string "aé"))).2
    let afterwards := vars.withStore (vars.store.put 0 (.string ⟨"aéx", 1, 1⟩))
    vars.act 0 (.call "subreplace" [.string "x", .integer 3, .integer 1]) =
      (.result (.ok (.string "aéx")), afterwards) ∧
    vars.act 0 (.assignAt [.integer 3, .integer 1] (.literal (.string "x"))) =
      (.result (.ok (.string "x")), afterwards) ∧
    vars.act 0 (.assignAt [.integer 3] (.literal (.string "x"))) =
      (.result (.error (.indexOutOfRange 3 2)), vars) := by
  intro vars afterwards
  have hs : vars.store.cell 0 = .string ⟨"aé", 1, 0⟩ := by decide
  have hafterwards : ScriptString.exchanged ⟨"aé", 1, 0⟩ 2 1 "x" = ⟨"aéx", 1, 1⟩ := by decide
  obtain ⟨-, hways⟩ :=
    spans_exchanged vars 0 ⟨"aé", 1, 0⟩ "x" (.literal (.string "x")) hs rfl
  have hnamed := hways.named 3 1 2 1 rfl (by decide) rfl
  have hassigned := hnamed.assigned
  have hupdated := hnamed.updated
  rw [exchanged, hafterwards] at hassigned hupdated
  exact ⟨hupdated, hassigned, hways.noCharacter 3 (.inr (by decide)) _ (.head _)⟩

end Variables

end ScriptHost
