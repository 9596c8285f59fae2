import ScriptHost.Proofs.Store.Look
import ScriptHost.Proofs.Variables.Reachable

/-!
# Variables never share the inside of a value

Whatever is done with variables, their slots lie in a forest, so that looking into any of them comes
to an end.

* `Variables.after` : the variables after a run of actions.
* `Variables.slots_form_forest` : the forest, and what it means for looking into a slot.
-/

namespace ScriptHost.Variables

/-- The variables after actions on any of them, one after the other. -/
def after (actions : List (String × Action)) : Variables :=
  actions.foldl (fun vars (name, action) => (vars.step name action).2) .empty

theorem reachable_after (actions : List (String × Action)) : (after actions).Reachable := by
  suffices h : ∀ vars : Variables, vars.Reachable →
      (actions.foldl (fun vars (name, action) => (vars.step name action).2) vars).Reachable from
    h .empty .empty
  induction actions with
  | nil => exact fun _ hvars => hvars
  | cons head actions ih => exact fun _ hvars => ih _ (.step head.1 head.2 hvars)

/-- After any run of actions, a slot is an element of one array at most and at one position of it,
and no slot lies in the array that it holds, however deeply. A way from arrays to their elements
never leads to a slot twice. Looking into a slot therefore comes to an end without entering a slot
in which one is already, and what is seen is what copying, printing, packing and comparing go by. -/
theorem slots_form_forest (actions : List (String × Action)) :
    let vars := after actions
    let st := vars.store
    (∀ array other i j element : Nat, (st.elements array)[i]? = some element →
      (st.elements other)[j]? = some element → array = other ∧ i = j) ∧
    (∀ slot, ¬ Relation.TransGen st.Holds slot slot) ∧
    (∀ way : List Nat, way.IsChain st.Holds → way.Nodup) ∧
    ∀ slot steps, st.size < steps → ∃ node, st.look? steps [] slot = some node ∧
      (vars.act slot .get).1 = .value node.value ∧
      (vars.act slot .print).1 = .text node.value.printed ∧
      (vars.act slot .pack).1 = .text node.value.pack ∧
      (vars.act slot .compareSelf).1 = .order (node.compare node) ∧
      ∀ right, (vars.act slot (.compare right)).1 =
        .order (node.value.compare (vars.operand right)) := by
  intro vars st
  have hF := (reachable_after actions).sound.forest
  refine ⟨?_, hF.not_transGen_self, fun way => hF.nodup_of_chain, ?_⟩
  · intro array other i j element
    exact hF.unique_position
  · intro slot steps hsteps
    have hlook : st.look? steps [] slot = some (st.snapshot slot) := by
      apply hF.look?_eq
      · exact fun other hother => absurd hother List.not_mem_nil
      · exact Nat.lt_of_le_of_lt (Nat.sub_le _ _) hsteps
    exact ⟨_, hlook, rfl, rfl, rfl, rfl, fun _ => rfl⟩

end ScriptHost.Variables
