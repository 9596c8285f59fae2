import ScriptHost.Proofs.Store.InPlace
import ScriptHost.Proofs.Variables.Reachable

/-!
# The assigning form of an operator refines the other

Both forms fail alike and succeed alike. The assigning form is atomic, although it goes step by
step, and it works in place on strings and arrays.

* `Variables.assign_refines_combine` : the two actions on variables, for all values.
-/

namespace ScriptHost.Variables

variable {vars : Variables}

theorem act_assign_ok {slot : Nat} {op : Operator} {right : Operand} {st : Store}
    (h : vars.store.combineAssign op slot (vars.operand right) = .ok st) :
    vars.act slot (.assign op right) = (.outcome (.ok ()), vars.withStore st) := by
  rw [act, h]
  rfl

theorem act_assign_error {slot : Nat} {op : Operator} {right : Operand} {e : Error}
    (h : vars.store.combineAssign op slot (vars.operand right) = .error e) :
    vars.act slot (.assign op right) = (.outcome (.error e), vars) := by
  rw [act, h]
  rfl

/-- Assigned step by step: all of it is written, or nothing. -/
theorem run_assign (hvars : vars.Reachable) {slot : Nat} {op : Operator} {right : Value}
    {result : Except Error Store} (h : vars.store.combineAssign op slot right = result) :
    InPlace.combineAssign op slot right vars.store = InPlace.settled vars.store result :=
  h ▸ InPlace.combineAssign_eq hvars.sound.forest op slot right

/-- The assigning form of an operator leaves in the slot what the other form returns, and fails with
the same error, without a trace, where that fails. A string that is assigned keeps its identity; the
elements that stay in an array keep their slots. Its steps, which write in place as they go, leave
the same store, and have written nothing where they stop before the end. The other form changes
nothing. -/
theorem assign_refines_combine (hvars : vars.Reachable) {slot : Nat}
    (hslot : slot < vars.store.size) (op : Operator) (right : Operand) :
    let result := op.combine (vars.store.read slot) (vars.operand right)
    let assigned := vars.act slot (.assign op right)
    let run := InPlace.combineAssign op slot (vars.operand right) vars.store
    vars.act slot (.combine op right) = (.result result, vars) ∧
    (∀ e, result = .error e →
      assigned = (.outcome (.error e), vars) ∧ run = (.error (.failed e), vars.store)) ∧
    ∀ value, result = .ok value →
      ∃ st, assigned = (.outcome (.ok ()), vars.withStore st) ∧ run = (.ok (), st) ∧
        st.read slot = value ∧
        (∀ s, vars.store.cell slot = .string s →
          ∃ text, st.cell slot = .string ⟨text, s.id, s.generation + 1⟩) ∧
        ∀ slots items, vars.store.cell slot = .array slots →
          Operator.itemsOperand? (vars.operand right) = some items →
          (∃ added, st.cell slot = .array (vars.store.survivors op slots items ++ added) ∧
            ∀ element ∈ added, vars.store.size ≤ element) ∧
          ∀ element ∈ slots, st.snapshot element = vars.store.snapshot element := by
  intro result assigned run
  have hF := hvars.sound.forest
  refine ⟨rfl, ?_, ?_⟩
  · intro e he
    have hassign := Store.combineAssign_error hF he
    exact ⟨act_assign_error hassign, run_assign hvars hassign⟩
  · intro value hvalue
    obtain ⟨st, hassign, hread⟩ := Store.combineAssign_ok hF hslot hvalue
    refine ⟨st, act_assign_ok hassign, run_assign hvars hassign, hread, ?_, ?_⟩
    · intro s hc
      exact Store.combineAssign_string hslot hc hassign
    · intro slots items hc hitems
      exact Store.combineAssign_array hF hslot hc hitems hassign

/-- Elements that equal one of two items are taken out of an array. -/
theorem assign_refines_combine_sub :
    let vars := (Variables.empty.step "a"
      (.new (.array [.integer 1, .string "x", .double .nan, .integer 2]))).2
    ∃ st, vars.act 0 (.assign .sub (.literal (.array [.integer 2, .integer 1]))) =
        (.outcome (.ok ()), vars.withStore st) ∧
      InPlace.combineAssign .sub 0 (.array [.integer 2, .integer 1]) vars.store = (.ok (), st) ∧
      st.read 0 = .array [.string "x", .double .nan] := by
  intro vars
  have hvars : vars.Reachable := .step "a" _ .empty
  have hslot : 0 < vars.store.size := by decide
  have hread : vars.store.read 0 =
      .array [.integer 1, .string "x", .double .nan, .integer 2] :=
    (List.cons.inj (Store.place_placed .empty _).reads).1
  obtain ⟨_, _, hok⟩ := assign_refines_combine hvars hslot .sub
    (.literal (.array [.integer 2, .integer 1]))
  obtain ⟨st, hassigned, hrun, hvalue, _⟩ := hok (.array [.string "x", .double .nan]) (by
    rw [hread]
    rfl)
  exact ⟨st, hassigned, hrun, hvalue⟩

end ScriptHost.Variables
