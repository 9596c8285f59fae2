import ScriptHost.Proofs.Store.Difference
import ScriptHost.Proofs.Variables.Assign

/-!
# Sums and differences of arrays in variables

Addition puts copies behind the items of an array, and subtraction is a filter. The laws of filters
hold of the operators that return a value and of those that assign, whatever is in the arrays, and
also where an array is taken out of itself.

* `Variables.sums_and_differences` : the laws, for all arrays and all right operands.
-/

namespace ScriptHost.Variables

open Operator (CombinesItems Supplies)
open Store (AssignsItems CombinesCopies)

variable {vars : Variables} {name : String} {slot : Nat} {slots : List Nat}

theorem slotOf_of_lookup (hname : vars.bindings.lookup name = some slot) :
    vars.slotOf name = (slot, vars) := by
  rw [slotOf, hname]

theorem operand_copyOf (hname : vars.bindings.lookup name = some slot) :
    vars.operand (.copyOf name) = vars.store.read slot := by
  rw [operand, slotOf_of_lookup hname]

/-- An array that is taken out of itself, under one name. -/
theorem step_sub_self (hF : vars.store.Forest) (hslots : vars.store.cell slot = .array slots)
    (hname : vars.bindings.lookup name = some slot) :
    vars.step name (.combine .sub (.copyOf name)) =
      (.result (.ok (.array ((slots.map vars.store.read).filter Value.hasNan))), vars) ∧
    ∃ st, vars.step name (.assign .sub (.copyOf name)) =
        (.outcome (.ok ()), vars.withStore st) ∧
      st.cell slot = .array (slots.filter fun element => (vars.store.read element).hasNan) := by
  have hoperand := operand_copyOf hname
  constructor
  · have hself := Operator.combine_sub (slots.map vars.store.read)
      (.array (slots.map vars.store.read))
    rw [Operator.without_self, ← hF.read_array hslots] at hself
    simp only [step, slotOf_of_lookup hname, act, hoperand, hself]
  · obtain ⟨st, hassign, hcell⟩ :=
      (Store.assignsItems hF hslots (.array []) (.array [])).difference_self
    rw [← hoperand] at hassign
    refine ⟨st, ?_, hcell⟩
    simp only [step, slotOf_of_lookup hname]
    exact act_assign_ok hassign

/-- A right operand supplies items to an array: an array its own, anything else that is set
itself. A sum has the items of the array and then those that are supplied. A difference has the
items, in order and as often as they occur, that equal none of those that are supplied, so that
an integer takes out the double of the same number and the other way round. Hence differences obey
the laws of filters; what is left of an array without itself is what has "no number" in it.

All this holds of the operators that return a value, for all arrays, and of those that assign to a
slot, whatever is done to variables before. The elements that stay keep their slots with all that
these show, and what is supplied is copied into new slots. What is taken out is the same whether
elements are compared by value or, as slots are, with the copies. Where a value is returned, it is
made of copies of both operands, also if they are one array, and changes nothing that was there. -/
theorem sums_and_differences {b c : Value} {bs cs : List Value} (hb : Supplies b bs)
    (hc : Supplies c cs) :
    (∀ as : List Value, CombinesItems as b c bs cs) ∧
    (∀ n : Int32, let double := Value.double (.ofInt n.toInt)
      Operator.sub.combine (.array [.integer n]) double = .ok (.array []) ∧
      Operator.sub.combine (.array [double]) (.integer n) = .ok (.array [])) ∧
    ∀ {vars : Variables}, vars.Reachable → ∀ {slot : Nat} {slots : List Nat},
      vars.store.cell slot = .array slots →
      AssignsItems vars.store slot slots b c bs cs ∧
      (∀ (op : Operator) {other : Nat} {others : List Nat},
        vars.store.cell other = .array others → CombinesCopies vars.store op slots others) ∧
      ∀ name : String, vars.bindings.lookup name = some slot →
        vars.step name (.combine .sub (.copyOf name)) =
          (.result (.ok (.array ((slots.map vars.store.read).filter Value.hasNan))), vars) ∧
        ∃ st, vars.step name (.assign .sub (.copyOf name)) =
            (.outcome (.ok ()), vars.withStore st) ∧
          st.cell slot =
            .array (slots.filter fun element => (vars.store.read element).hasNan) := by
  refine ⟨fun as => Operator.combinesItems as hb hc, ?_, ?_⟩
  · intro n double
    obtain ⟨hinteger, hdouble⟩ := Value.equals_ofInt n
    have hright : Supplies double [double] := .single Kind.noConfusion Kind.noConfusion
    have hleft : Supplies (.integer n) [.integer n] := .single Kind.noConfusion Kind.noConfusion
    rw [Operator.combine_sub _ hright, Operator.combine_sub _ hleft]
    simp [Operator.without, double, hinteger, hdouble]
  · intro vars hvars slot slots hslots
    have hF := hvars.sound.forest
    refine ⟨Store.assignsItems hF hslots hb hc, ?_, fun name => step_sub_self hF hslots⟩
    intro op other others hothers
    exact Store.combinesCopies hF.toLayered op fun element helement =>
      (hF.younger_of_cell hothers helement).2

/-- Of an array without itself, the array with "no number" in it is left, in its slot. -/
theorem sums_and_differences_self :
    let items : List Value := [.integer 1, .array [.double .nan], .string "x", .integer 1]
    let vars := (Variables.empty.step "a" (.new (.array items))).2
    Operator.sub.combine (.array items) (.integer 1) =
      .ok (.array [.array [.double .nan], .string "x"]) ∧
    vars.step "a" (.combine .sub (.copyOf "a")) =
      (.result (.ok (.array [.array [.double .nan]])), vars) ∧
    ∃ st, vars.step "a" (.assign .sub (.copyOf "a")) =
        (.outcome (.ok ()), vars.withStore st) ∧ st.cell 0 = .array [2] := by
  intro items vars
  have hvars : vars.Reachable := .step "a" _ .empty
  have hslots : vars.store.cell 0 = .array [1, 2, 4, 5] := by decide
  have hreads : vars.store.read 0 = .array items :=
    (List.cons.inj (Store.place_placed .empty (.array items)).reads).1
  rw [hvars.sound.forest.read_array hslots] at hreads
  have hreads : [1, 2, 4, 5].map vars.store.read = items := Value.array.inj hreads
  obtain ⟨hvalues, -, hstores⟩ := sums_and_differences (b := .integer 1)
    (.single (by decide) (by decide)) (.array [])
  obtain ⟨-, -, hself⟩ := hstores hvars hslots
  obtain ⟨hcombine, st, hassign, hcell⟩ := hself "a" rfl
  rw [hreads] at hcombine
  refine ⟨(hvalues items).difference, hcombine, st, hassign, ?_⟩
  simp only [List.map_cons, List.map_nil, items, List.cons.injEq] at hreads
  obtain ⟨hone, hnan, htext, hagain, -⟩ := hreads
  simp [hcell, hone, hnan, htext, hagain, Value.hasNan, Value.hasNanAny]

end ScriptHost.Variables
