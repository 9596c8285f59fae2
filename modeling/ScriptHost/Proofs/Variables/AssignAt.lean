import ScriptHost.Proofs.Store.InPlace
import ScriptHost.Proofs.Variables.Reachable

/-!
# Reading and assigning through indices agree

An assignment through indices fails where reading through them fails, and changes exactly what
reading through them selects. Done step by step, it leaves the same store, which is the old one if
it stops before its end.

* `Store.assignAt_selected_element`, `Store.assignAt_selected_span` : what becomes of an element and
  of a span.
* `Variables.assignAt_agrees` : the action on variables, for all indices and targets.
-/

namespace ScriptHost

open Subscript

namespace Store

variable {st : Store}

/-- An assignment to an element exchanges it, whatever it was and whatever is assigned. -/
theorem assignAt_selected_element (hF : st.Forest) {slot : Nat} (hslot : slot < st.size)
    {indices : List Value} {path : List Nat}
    (h : SelectsElement (st.read slot) indices path) (target : Value) :
    ∃ st', st.assignAt slot indices target = .ok st' ∧
      st'.read slot = (st.read slot).exchange path target := by
  obtain ⟨hpath, hnames, item, hpart⟩ := h
  obtain ⟨last, hlast, _⟩ := slotAt?_of_part? hF hpart
  have hlast' : last < st.size := hF.lt_size_of_reaches hslot (reaches_of_slotAt? hlast)
  refine ⟨_, assignAt_element hpath hnames hlast target, ?_⟩
  exact (write_written hF hlast' target).read_at_path hF hslot hlast

/-- An assignment to a span of a string exchanges the span, if a string is assigned. -/
theorem assignAt_selected_span (hF : st.Forest) {slot : Nat} (hslot : slot < st.size)
    {indices : List Value} {path : List Nat} {text : String} {start length : Nat}
    (h : SelectsSpan (st.read slot) indices path text start length) :
    (∀ written, ∃ st', st.assignAt slot indices (.string written) = .ok st' ∧
      st'.read slot = (st.read slot).exchange path (.string (String.ofList
        (text.toList.take start ++ written.toList ++ text.toList.drop (start + length))))) ∧
    ∀ target : Value, target.string? = none →
      st.assignAt slot indices target = .error (.typeMismatch .assign .string target.kind) := by
  obtain ⟨hpart, front, back, rfl, hnames, hspan⟩ := h
  obtain ⟨last, hlast, hread⟩ := slotAt?_of_part? hF hpart
  obtain ⟨s, hc, rfl⟩ := hF.cell_of_read_string hread
  have hlast' : last < st.size := hF.lt_size_of_reaches hslot (reaches_of_slotAt? hlast)
  constructor
  · intro written
    refine ⟨_, assignAt_span hnames hlast hc hspan _, ?_⟩
    let changed := s.changed (Text.replaceSpan s.text.toList start length written.toList)
    have hwritten : Written st last (.string changed.text) (st.put last (.string changed)) :=
      .of_leaf hF hlast' rfl fun st' hL' hcell => hL'.read_string hcell
    exact hwritten.read_at_path hF hslot hlast
  · intro target htarget
    rw [assignAt_span hnames hlast hc hspan]
    cases target with
    | string written => cases htarget
    | uninit | boolean | integer | double | array => rfl

end Store

namespace Variables

variable {vars : Variables}

theorem act_assignAt_ok {slot : Nat} {indices : List Value} {right : Operand} {st : Store}
    (h : vars.store.assignAt slot indices (vars.operand right) = .ok st) :
    vars.act slot (.assignAt indices right) =
      (.result (.ok (vars.operand right)), vars.withStore st) := by
  rw [act, h]
  rfl

theorem act_assignAt_error {slot : Nat} {indices : List Value} {right : Operand} {e : Error}
    (h : vars.store.assignAt slot indices (vars.operand right) = .error e) :
    vars.act slot (.assignAt indices right) = (.result (.error e), vars) := by
  rw [act, h]
  rfl

/-- Assigned step by step: all of it is written, or nothing. -/
theorem run_assignAt {slot : Nat} {indices : List Value} {target : Value}
    {result : Except Error Store} (h : vars.store.assignAt slot indices target = result) :
    InPlace.assignAt slot indices target vars.store = InPlace.settled vars.store result :=
  h ▸ InPlace.assignAt_eq slot indices target vars.store

/-- Reading and assigning through the same indices agree, for any indices and any target: where
reading fails, assigning fails alike and changes nothing; an element is exchanged for the target; in
a string, a span is exchanged for a text, and nothing but a text is accepted. The steps of the
assignment, which write in place as they go, leave the same store, and have written nothing where
they stop before the end. -/
theorem assignAt_agrees (hvars : vars.Reachable) {slot : Nat} (hslot : slot < vars.store.size)
    (indices : List Value) (right : Operand) :
    let value := vars.store.read slot
    let target := vars.operand right
    let assigned := vars.act slot (.assignAt indices right)
    let run := InPlace.assignAt slot indices target vars.store
    (∀ e, value.subscript indices = .error e →
      assigned = (.result (.error e), vars) ∧ run = (.error (.failed e), vars.store)) ∧
    (∀ selected, value.subscript indices = .ok selected →
      (∃ path, SelectsElement value indices path) ∨
        ∃ path text start length, SelectsSpan value indices path text start length) ∧
    (∀ path, SelectsElement value indices path →
      ∃ st, assigned = (.result (.ok target), vars.withStore st) ∧ run = (.ok (), st) ∧
        st.read slot = value.exchange path target ∧
        (st.read slot).subscript indices = .ok target ∧
        ∀ others, ¬ Meets others path →
          (st.read slot).subscript others = value.subscript others) ∧
    ∀ path text start length, SelectsSpan value indices path text start length →
      (∀ written, target = .string written →
        ∃ st, assigned = (.result (.ok target), vars.withStore st) ∧ run = (.ok (), st) ∧
          st.read slot = value.exchange path (.string (String.ofList
            (text.toList.take start ++ written.toList ++ text.toList.drop (start + length)))) ∧
          ∀ others, ¬ Meets others path →
            (st.read slot).subscript others = value.subscript others) ∧
      (target.string? = none →
        assigned = (.result (.error (.typeMismatch .assign .string target.kind)), vars) ∧
        run = (.error (.failed (.typeMismatch .assign .string target.kind)), vars.store)) := by
  intro value target assigned run
  have hF := hvars.sound.forest
  refine ⟨?_, fun selected => Value.subscript_ok, ?_, ?_⟩
  · intro e he
    have hassign := Store.assignAt_error hF he target
    exact ⟨act_assignAt_error hassign, run_assignAt hassign⟩
  · intro path hselects
    obtain ⟨st, hassign, hread⟩ := Store.assignAt_selected_element hF hslot hselects target
    obtain ⟨hpath, hnames, item, hpart⟩ := hselects
    refine ⟨st, act_assignAt_ok hassign, run_assignAt hassign, hread, ?_, ?_⟩
    · rw [hread]
      exact Value.subscript_of_namesAll hpath hnames (Value.part?_exchange hpart target)
    · intro others hothers
      rw [hread]
      exact Value.subscript_exchange hpart target hothers
  · intro path text start length hselects
    obtain ⟨hstring, hother⟩ := Store.assignAt_selected_span hF hslot hselects
    constructor
    · intro written hwritten
      obtain ⟨st, hassign, hread⟩ := hstring written
      rw [← hwritten] at hassign
      refine ⟨st, act_assignAt_ok hassign, run_assignAt hassign, hread, ?_⟩
      intro others hothers
      rw [hread]
      exact Value.subscript_exchange hselects.1 _ hothers
    · intro htarget
      have hassign := hother target htarget
      exact ⟨act_assignAt_error hassign, run_assignAt hassign⟩

/-- A span of a string inside an array, cut at the end of the string. -/
theorem assignAt_agrees_nested :
    let vars := (Variables.empty.step "a" (.new (.array [.string "abc", .integer 7]))).2
    ∃ st, vars.act 0 (.assignAt [.integer 1, .integer 2, .integer 9] (.literal (.string "xy"))) =
        (.result (.ok (.string "xy")), vars.withStore st) ∧
      InPlace.assignAt 0 [.integer 1, .integer 2, .integer 9] (.string "xy") vars.store =
        (.ok (), st) ∧
      st.read 0 = .array [.string "axy", .integer 7] := by
  intro vars
  have hread : vars.store.read 0 = .array [.string "abc", .integer 7] := by
    have hplaced := Store.place_placed .empty (.array [.string "abc", .integer 7])
    exact (List.cons.inj hplaced.reads).1
  have hselects : SelectsSpan (vars.store.read 0) [.integer 1, .integer 2, .integer 9] [0] "abc"
      1 9 := by
    rw [hread]
    refine ⟨rfl, [.integer 1], [.integer 2, .integer 9], rfl, ?_, ?_⟩
    · exact .cons ⟨1, rfl, rfl⟩ .nil
    · exact .range ⟨2, rfl, rfl⟩ (by decide) rfl
  have hvars : vars.Reachable := .step "a" _ .empty
  have hslot : 0 < vars.store.size := by decide
  obtain ⟨_, _, _, hspan⟩ := assignAt_agrees hvars hslot
    [.integer 1, .integer 2, .integer 9] (.literal (.string "xy"))
  obtain ⟨st, hassigned, hrun, hvalue, _⟩ := (hspan _ _ _ _ hselects).1 "xy" rfl
  rw [hread] at hvalue
  exact ⟨st, hassigned, hrun, hvalue⟩

end Variables

end ScriptHost
