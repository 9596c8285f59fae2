import ScriptHost.Proofs.Method.InPlace
import ScriptHost.Proofs.Store.Operator
import ScriptHost.Store.InPlace

/-!
# Assignments change all or nothing

All checks of an assignment come before the first step that writes, also on a walk through nested
arrays. What is done step by step is therefore what the whole assignment is said to do: either all
of it is written, or there is an error and nothing has been written.

* `InPlace.checked_then`, `InPlace.atString_settled` : checks before the steps, and what is written
  back after them.
* `InPlace.assignAt_eq` : assignments through indices.
* `InPlace.combineAssign_eq` : assigning operators.
-/

namespace ScriptHost.InPlace

variable {ω β : Type} {st : Store} {slot : Nat}

/-! ## Steps -/

/-- A check that fails before the steps leaves everything as it was. -/
theorem checked_then {result : Except Error β} {next : β → Steps ω Unit}
    {whole : β → Except Error ω} {w : ω}
    (h : ∀ b, result = .ok b → next b w = settled w (whole b)) :
    (liftM (checked result) >>= next : Steps ω Unit) w = settled w (result >>= whole) := by
  cases result with
  | error e => rfl
  | ok b => exact h b rfl

/-- Steps on a string that fail leave the store as it was. -/
theorem atString_settled {s : ScriptString} (hcell : st.cell slot = .string s)
    {steps : Steps ScriptString Unit} {result : Except Error ScriptString}
    (h : steps s = settled s result) :
    atString slot s steps st =
      settled st (result >>= fun changed => .ok (st.put slot (.string changed))) := by
  unfold atString
  rw [h]
  cases result with
  | error e => exact congrArg (Prod.mk _) (put_of_cell hcell)
  | ok changed => rfl

/-! ## Subscripts -/

theorem assignCharacter_eq (index target : Value) (s : ScriptString) :
    assignCharacter index target s = settled s (do
      let position ← Subscript.position .string index s.text.toList.length
      let text ← Subscript.assignedText target
      s.replaceSpan position 1 text) := by
  change (liftM (checked (Subscript.position .string index s.text.toList.length)) >>= _ :
    Steps ScriptString Unit) s = _
  exact checked_then fun position _ => checked_then fun text _ => replaceSpan_at position 1 text s

theorem assignSpan_eq (first second target : Value) (s : ScriptString) :
    assignSpan first second target s = settled s (do
      let span ← Subscript.span s.text.toList.length first second
      let text ← Subscript.assignedText target
      s.replaceSpan span.1 span.2 text) := by
  change (liftM (checked (Subscript.span s.text.toList.length first second)) >>= _ :
    Steps ScriptString Unit) s = _
  exact checked_then fun span _ => checked_then fun text _ => replaceSpan_at span.1 span.2 text s

theorem assignItem_eq (slot : Nat) (index target : Value) (st : Store) :
    assignItem slot index target st = settled st (st.assignItem slot index target) := by
  unfold assignItem Store.assignItem
  simp only [bind_at, get_at]
  cases hcell : st.cell slot with
  | string s =>
    refine (atString_settled hcell (assignCharacter_eq index target s)).trans ?_
    simp only [bind_assoc]
  | array slots =>
    -- A position that passes the check is that of an element, so the write is never left out.
    refine checked_then fun position hposition => ?_
    obtain ⟨-, hlt⟩ := Subscript.names_of_position hposition
    unfold setElement Store.setItem
    rw [List.getElem?_eq_getElem hlt]
    rfl
  | uninit | boolean | integer | double => rfl

/-- The walk along indices goes from array to array and writes only where it ends. -/
theorem assignAt_eq (slot : Nat) (indices : List Value) (target : Value) (st : Store) :
    assignAt slot indices target st = settled st (st.assignAt slot indices target) := by
  induction indices generalizing slot with
  | nil => rfl
  | cons first rest ih =>
    rcases rest with _ | ⟨second, rest⟩
    · exact assignItem_eq slot first target st
    · unfold assignAt Store.assignAt
      simp only [bind_at, get_at]
      cases hcell : st.cell slot with
      | string s =>
        cases rest with
        | nil =>
          refine (atString_settled hcell (assignSpan_eq first second target s)).trans ?_
          simp only [bind_assoc]
        | cons third rest => rfl
      | array slots =>
        refine checked_then fun position _ => ?_
        cases slots[position]? with
        | none => rfl
        | some element => exact ih element
      | uninit | boolean | integer | double => rfl

/-! ## Operators -/

/-- Items are taken out of an array one after another, and nothing else is touched. -/
theorem dropEqual_all (values : List Value) (slots : List Nat) (st : Store) :
    (values.forM dropEqual : Steps Elements PUnit) (slots, st) =
      (.ok ⟨⟩, values.foldl st.keepUnequal slots, st) := by
  induction values generalizing slots with
  | nil => rfl
  | cons value values ih =>
    change (dropEqual value >>= fun _ => values.forM dropEqual) (slots, st) = _
    rw [bind_at]
    exact ih (st.keepUnequal slots value)

theorem combineItems_eq (op : Operator) (items : List Value) (slots : List Nat) :
    atArray slot slots (combineItems op items) st =
      settled st (.ok (st.combineItems op slot slots items)) := by
  rw [atArray_at]
  cases op with
  | add =>
    rw [combineItems, push_all]
    rfl
  | sub =>
    rw [combineItems, dropEqual_all]
    rfl

theorem rebind_eq (op : Operator) (slot : Nat) (right : Value) (st : Store) :
    rebind op slot right st = settled st (st.rebind op slot right) := by
  unfold rebind Store.rebind
  simp only [bind_at, get_at, lift_at]
  cases op.combine (st.read slot) right <;> rfl

/-- An operand that contributes no items is refused where the result would be a new value. -/
theorem rebind_of_no_items (hF : st.Forest) {slots : List Nat}
    (hcell : st.cell slot = .array slots) {right : Value}
    (hitems : Operator.itemsOperand? right = none) (op : Operator) :
    st.rebind op slot right = .error (op.mismatch .array right.kind) := by
  apply Store.rebind_error
  rw [hF.read_eq, hcell]
  dsimp only
  rw [Store.combine_array, hitems]

theorem combineAssign_eq (hF : st.Forest) (op : Operator) (slot : Nat) (right : Value) :
    combineAssign op slot right st = settled st (st.combineAssign op slot right) := by
  have hrebind := rebind_eq op slot right st
  unfold combineAssign Store.combineAssign
  simp only [bind_at, get_at]
  cases hcell : st.cell slot with
  | integer l =>
    cases right with
    | integer r => rfl
    | uninit | boolean | double | string | array => exact hrebind
  | double l =>
    cases right with
    | integer r => rfl
    | double r => rfl
    | uninit | boolean | string | array => exact hrebind
  | string s =>
    dsimp only
    cases Operator.textOperand? right with
    | none => rfl
    | some text => rfl
  | array slots =>
    dsimp only
    cases hitems : Operator.itemsOperand? right with
    | none =>
      dsimp only
      rw [hrebind, rebind_of_no_items hF hcell hitems]
    | some items => exact combineItems_eq op items slots
  | uninit | boolean => exact hrebind

end ScriptHost.InPlace
