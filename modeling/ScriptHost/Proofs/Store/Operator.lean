import ScriptHost.Proofs.Store.Frame

/-!
# Assigning operators refine operators

An operator that is applied to a slot leaves there what the operator gives as a new value, and
fails where it fails. Strings and arrays are changed in place.

* `Store.read_combineItems` : an array with items put behind or taken out.
* `Store.combineAssign_error`, `Store.combineAssign_ok` : failure and success of both forms.
* `Store.combineAssign_string`, `Store.combineAssign_array` : what is kept in place.
-/

namespace ScriptHost.Store

variable {st : Store}

/-! ## Items -/

/-- Taking out items one after another leaves the elements that equal none of them. -/
theorem foldl_keepUnequal (st : Store) (slots : List Nat) (values : List Value) :
    values.foldl st.keepUnequal slots =
      slots.filter fun element => values.all fun value => !(st.read element).equals value := by
  induction values generalizing slots with
  | nil => exact (List.filter_eq_self.mpr fun _ _ => rfl).symm
  | cons value values ih =>
    rw [List.foldl_cons, ih, keepUnequal, List.filter_filter]
    congr 1
    funext element
    rw [List.all_cons, Bool.and_comm]

theorem map_read_foldl_keepUnequal (st : Store) (slots : List Nat) (values : List Value) :
    (values.foldl st.keepUnequal slots).map st.read =
      Operator.dropEqual (slots.map st.read) values := by
  induction values generalizing slots with
  | nil => rfl
  | cons value values ih =>
    rw [List.foldl_cons, ih, Operator.dropEqual, Operator.dropEqual, List.foldl_cons, keepUnequal,
      List.filter_map]
    rfl

/-- An array with items put behind or taken out. -/
theorem read_combineItems (hF : st.Forest) {slot : Nat} {slots : List Nat}
    (hc : st.cell slot = .array slots) (hslot : slot < st.size) (op : Operator)
    (items : List Value) :
    (st.combineItems op slot slots items).read slot =
      .array (op.onItems (slots.map st.read) items) := by
  have hforest := (combineItems_changes hF hc hslot op items).forest
  cases op with
  | add =>
    have hplaced := placeAll_placed hF items
    rw [combineItems, append, hplaced.read_put_array hslot hforest, Operator.onItems,
      List.map_append, hplaced.reads]
    congr 2
    apply List.map_congr_left
    intro element helement
    exact hplaced.read_of_lt hF (hF.younger_of_cell hc helement).2
  | sub =>
    rw [combineItems, (Placed.nil hF).read_put_array hslot hforest, Operator.onItems,
      map_read_foldl_keepUnequal]

/-! ## Failure and success -/

theorem text_combineString (op : Operator) (s : ScriptString) (text : String) :
    (combineString op s text).text = op.onTexts s.text text := by
  cases op with
  | add =>
    rw [combineString, ScriptString.push, ScriptString.changed, Operator.onTexts,
      ← String.toList_append, String.ofList_toList]
  | sub => rfl

theorem rebind_error {op : Operator} {slot : Nat} {right : Value} {e : Error}
    (h : op.combine (st.read slot) right = .error e) : st.rebind op slot right = .error e := by
  rw [rebind, h]
  rfl

theorem rebind_ok {op : Operator} {slot : Nat} {right result : Value}
    (h : op.combine (st.read slot) right = .ok result) :
    st.rebind op slot right = .ok (write result st slot) := by
  rw [rebind, h]
  rfl

theorem combine_string (op : Operator) (l : String) (right : Value) :
    op.combine (.string l) right =
      match Operator.textOperand? right with
      | some r => .ok (.string (op.onTexts l r))
      | none => .error (op.mismatch .string right.kind) := by
  rw [Operator.combine, Operator.combine?]
  cases Operator.textOperand? right <;> rfl

theorem combine_array (op : Operator) (ls : List Value) (right : Value) :
    op.combine (.array ls) right =
      match Operator.itemsOperand? right with
      | some rs => .ok (.array (op.onItems ls rs))
      | none => .error (op.mismatch .array right.kind) := by
  rw [Operator.combine, Operator.combine?]
  cases Operator.itemsOperand? right <;> rfl

/-- Where the operator gives no value, the slot is not assigned, with the same error. -/
theorem combineAssign_error (hF : st.Forest) {op : Operator} {slot : Nat} {right : Value}
    {e : Error} (h : op.combine (st.read slot) right = .error e) :
    st.combineAssign op slot right = .error e := by
  have hrebind := rebind_error h
  rw [hF.read_eq] at h
  unfold combineAssign
  cases hc : st.cell slot with
  | integer l =>
    rw [hc] at h
    cases right with
    | integer r => cases h
    | uninit | boolean | double | string | array => exact hrebind
  | double l =>
    rw [hc] at h
    cases right with
    | integer r => cases h
    | double r => cases h
    | uninit | boolean | string | array => exact hrebind
  | string s =>
    rw [hc] at h
    dsimp only at h ⊢
    rw [combine_string] at h
    cases htext : Operator.textOperand? right with
    | some text =>
      rw [htext] at h
      cases h
    | none =>
      rw [htext] at h
      cases h
      rfl
  | array slots =>
    rw [hc] at h
    dsimp only at h ⊢
    rw [combine_array] at h
    cases hitems : Operator.itemsOperand? right with
    | some items =>
      rw [hitems] at h
      cases h
    | none =>
      rw [hitems] at h
      cases h
      rfl
  | uninit | boolean => exact hrebind

/-- Where the operator gives a value, the slot shows it afterwards. -/
theorem combineAssign_ok (hF : st.Forest) {op : Operator} {slot : Nat} (hslot : slot < st.size)
    {right result : Value} (h : op.combine (st.read slot) right = .ok result) :
    ∃ st', st.combineAssign op slot right = .ok st' ∧ st'.read slot = result := by
  have hrebind : ∃ st', st.rebind op slot right = .ok st' ∧ st'.read slot = result :=
    ⟨_, rebind_ok h, (write_written hF hslot result).reads⟩
  have hleaf : ∀ content : Cell, content.elements = [] →
      (∀ st' : Store, st'.Layered → st'.cell slot = content → st'.read slot = result) →
      (st.put slot content).read slot = result :=
    fun content hcontent hread => (Written.of_leaf hF hslot hcontent hread).reads
  rw [hF.read_eq] at h
  unfold combineAssign
  cases hc : st.cell slot with
  | integer l =>
    rw [hc] at h
    cases right with
    | integer r =>
      cases h
      exact ⟨_, rfl, hleaf _ rfl fun st' hL' hcell => by rw [hL'.read_eq, hcell]⟩
    | uninit | boolean | double | string | array => exact hrebind
  | double l =>
    rw [hc] at h
    cases right with
    | integer r =>
      cases h
      exact ⟨_, rfl, hleaf _ rfl fun st' hL' hcell => by rw [hL'.read_eq, hcell]⟩
    | double r =>
      cases h
      exact ⟨_, rfl, hleaf _ rfl fun st' hL' hcell => by rw [hL'.read_eq, hcell]⟩
    | uninit | boolean | string | array => exact hrebind
  | string s =>
    rw [hc] at h
    dsimp only at h ⊢
    rw [combine_string] at h
    cases htext : Operator.textOperand? right with
    | some text =>
      rw [htext] at h
      cases h
      refine ⟨_, rfl, hleaf _ rfl fun st' hL' hcell => ?_⟩
      rw [hL'.read_string hcell, text_combineString]
    | none =>
      rw [htext] at h
      cases h
  | array slots =>
    rw [hc] at h
    dsimp only at h ⊢
    rw [combine_array] at h
    cases hitems : Operator.itemsOperand? right with
    | some items =>
      rw [hitems] at h
      cases h
      exact ⟨_, rfl, read_combineItems hF hc hslot op items⟩
    | none =>
      rw [hitems] at h
      cases h
  | uninit | boolean => exact hrebind

/-! ## What is kept in place -/

/-- A string keeps its identity and is one generation older. -/
theorem combineAssign_string {st' : Store} {op : Operator} {slot : Nat} (hslot : slot < st.size)
    {s : ScriptString} (hc : st.cell slot = .string s) {right : Value}
    (h : st.combineAssign op slot right = .ok st') :
    ∃ text, st'.cell slot = .string ⟨text, s.id, s.generation + 1⟩ := by
  unfold combineAssign at h
  rw [hc] at h
  dsimp only at h
  split at h
  · cases h
    rw [cell_put_self hslot]
    cases op <;> exact ⟨_, rfl⟩
  · cases h

/-- The elements that an operator leaves in an array. -/
def survivors (st : Store) (op : Operator) (slots : List Nat) (items : List Value) : List Nat :=
  match op with
  | .add => slots
  | .sub => slots.filter fun element => items.all fun item => !(st.read element).equals item

/-- The elements that stay in an array keep their slots with all that these show, and what is put
behind them gets new slots. -/
theorem combineAssign_array (hF : st.Forest) {st' : Store} {op : Operator} {slot : Nat}
    (hslot : slot < st.size) {slots : List Nat} (hc : st.cell slot = .array slots) {right : Value}
    {items : List Value} (hitems : Operator.itemsOperand? right = some items)
    (h : st.combineAssign op slot right = .ok st') :
    (∃ added, st'.cell slot = .array (st.survivors op slots items ++ added) ∧
      ∀ element ∈ added, st.size ≤ element) ∧
    ∀ element ∈ slots, st'.snapshot element = st.snapshot element := by
  have hchanges := combineItems_changes hF hc hslot op items
  have hst' : st' = st.combineItems op slot slots items := by
    unfold combineAssign at h
    rw [hc] at h
    dsimp only at h
    rw [hitems] at h
    cases h
    rfl
  subst hst'
  constructor
  · cases op with
    | add =>
      have hplaced := placeAll_placed hF items
      refine ⟨_, cell_put_self (Nat.lt_of_lt_of_le hslot hplaced.grows) _, ?_⟩
      exact fun element helement => (hplaced.fresh element helement).1
    | sub =>
      refine ⟨[], ?_, fun element helement => by cases helement⟩
      rw [combineItems, cell_put_self hslot, foldl_keepUnequal, survivors, List.append_nil]
  · intro element helement
    obtain ⟨hlt, hsize⟩ := hF.younger_of_cell hc helement
    apply hchanges.snapshot_eq hF hsize
    intro hreach
    have hle := hF.le_of_reaches hreach
    omega

end ScriptHost.Store
