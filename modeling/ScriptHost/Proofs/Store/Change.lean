import ScriptHost.Method.Call
import ScriptHost.Proofs.Store.Subscript

/-!
# Every change of a store keeps its shape

Whatever operation succeeds leaves a forest with at least as many slots as there were. It changes
one slot at most, and what becomes an element there was one before, or is new.

* `Store.Follows`, `Store.Changes` : a store that an operation may leave behind.
* `Store.Placed.put_array` : an array may get any selection of its old elements and of new ones.
* `Store.combineAssign_changes`, `Store.assignAt_changes`, `Store.callMethod_changes` : operators,
  assignments and methods leave such stores.
-/

namespace ScriptHost.Store

/-- A store that an operation may leave behind. -/
structure Follows (st st' : Store) : Prop where
  forest : st'.Forest
  grows : st.size ≤ st'.size

/-- A store that an operation on one slot may leave behind. -/
structure Changes (st : Store) (slot : Nat) (st' : Store) : Prop extends Follows st st' where
  frame : ∀ other < st.size, other ≠ slot → st'.cell other = st.cell other
  gains : ∀ element ∈ st'.elements slot, element ∈ st.elements slot ∨ st.size ≤ element

variable {st st' : Store}

theorem Changes.refl (hF : st.Forest) (slot : Nat) : Changes st slot st where
  forest := hF
  grows := Nat.le_refl _
  frame _ _ _ := rfl
  gains _ := Or.inl

theorem Changes.of_leaf (hF : st.Forest) {slot : Nat} (hslot : slot < st.size) {content : Cell}
    (h : content.elements = []) : Changes st slot (st.put slot content) where
  forest := hF.put_leaf slot h
  grows := Nat.le_of_eq (size_put st slot content).symm
  frame _ _ hne := cell_put_of_ne st hne content
  gains element helement := by
    rw [elements_put_self hslot, h] at helement
    cases helement

/-- The elements of an array that is written are new. -/
theorem new_of_mem_write (hF : st.Forest) {slot element : Nat} (hslot : slot < st.size)
    {value : Value} (h : element ∈ (Store.write value st slot).elements slot) :
    st.size ≤ element := by
  cases value with
  | array items =>
    have hplaced := placeAll_placed hF items
    rw [Store.write, elements_put_self (Nat.lt_of_lt_of_le hslot hplaced.grows)] at h
    exact (hplaced.fresh element h).1
  | uninit | boolean | integer | double | string =>
    rw [Store.write, elements_put_self (by exact hslot)] at h
    cases h

theorem Changes.write (hF : st.Forest) {slot : Nat} (hslot : slot < st.size) (value : Value) :
    Changes st slot (Store.write value st slot) :=
  have h := write_written hF hslot value
  ⟨⟨h.forest, h.grows⟩, h.frame, fun _ helement => Or.inr (new_of_mem_write hF hslot helement)⟩

/-! ## Elements of an array -/

theorem elements_of_items? {slot : Nat} {slots : List Nat} (h : st.items? slot = some slots) :
    st.elements slot = slots := by
  unfold items? at h
  split at h
  · rename_i hc
    cases h
    exact elements_of_cell hc
  · cases h

theorem Placed.read_of_lt {slots : List Nat} {values : List Value} (h : Placed st slots values st')
    (hF : st.Forest) {other : Nat} (hother : other < st.size) : st'.read other = st.read other := by
  apply hF.read_congr h.layered
  intro last hlast
  exact h.frame last (hF.lt_size_of_reaches hother hlast)

/-- An array may get any selection of its old elements and of new ones, in any order. -/
theorem Placed.put_array {added : List Nat} {values : List Value} (h : Placed st added values st')
    (hF : st.Forest) {slot : Nat} {slots slots' : List Nat} (hc : st.cell slot = .array slots)
    (hslot : slot < st.size) (hmem : ∀ element ∈ slots', element ∈ slots ∨ element ∈ added)
    (hdistinct : slots'.Nodup) : Changes st slot (st'.put slot (.array slots')) := by
  have hcell : st'.elements slot = slots := by
    rw [elements, h.frame slot hslot, hc]
    rfl
  refine ⟨⟨h.forest.put ?_ ?_ hdistinct, ?_⟩, ?_, ?_⟩
  · intro element helement
    rcases hmem element helement with helement | helement
    · obtain ⟨hlt, hsize⟩ := hF.younger_of_cell hc helement
      exact ⟨hlt, Nat.lt_of_lt_of_le hsize h.grows⟩
    · obtain ⟨hle, hsize⟩ := h.fresh element helement
      exact ⟨Nat.lt_of_lt_of_le hslot hle, hsize⟩
  · intro element helement other hother
    rcases hmem element helement with helement | helement
    · exact h.forest.single hother (by rwa [hcell])
    · exact absurd hother (h.free element helement other)
  · rw [size_put]
    exact h.grows
  · intro other hother hne
    rw [cell_put_of_ne st' hne, h.frame other hother]
  · intro element helement
    rw [elements_put_self (Nat.lt_of_lt_of_le hslot h.grows)] at helement
    rw [elements_of_cell hc]
    exact (hmem element helement).imp_right fun hadded => (h.fresh element hadded).1

/-- What such an array shows. -/
theorem Placed.read_put_array {added : List Nat} {values : List Value}
    (h : Placed st added values st') {slot : Nat} {slots' : List Nat} (hslot : slot < st.size)
    (hforest : (st'.put slot (.array slots')).Forest) :
    (st'.put slot (.array slots')).read slot = .array (slots'.map st'.read) := by
  have hslot' : slot < st'.size := Nat.lt_of_lt_of_le hslot h.grows
  have hcell := cell_put_self hslot' (.array slots')
  rw [hforest.read_array hcell]
  congr 1
  apply List.map_congr_left
  intro element helement
  apply h.layered.read_put_of_lt hforest.toLayered
  exact (hforest.younger_of_cell hcell helement).1

theorem Changes.of_sublist (hF : st.Forest) {slot : Nat} {slots slots' : List Nat}
    (hc : st.cell slot = .array slots) (hslot : slot < st.size) (h : slots'.Sublist slots) :
    Changes st slot (st.put slot (.array slots')) :=
  (Placed.nil hF).put_array hF hc hslot (fun _ helement => Or.inl (h.mem helement))
    ((hF.distinct_of_cell hc).sublist h)

/-- Old and new elements of an array are different. -/
theorem Placed.nodup_append {added : List Nat} {values : List Value}
    (h : Placed st added values st') (hF : st.Forest) {slot : Nat} {slots : List Nat}
    (hc : st.cell slot = .array slots) : (slots ++ added).Nodup := by
  rw [List.nodup_append]
  refine ⟨hF.distinct_of_cell hc, h.distinct, ?_⟩
  rintro element helement _ hadded rfl
  have hlt := (hF.younger_of_cell hc helement).2
  have hle := (h.fresh element hadded).1
  omega

theorem append_changes (hF : st.Forest) {slot : Nat} {slots : List Nat}
    (hc : st.cell slot = .array slots) (hslot : slot < st.size) (values : List Value) :
    Changes st slot (st.append slot slots values) := by
  have h := placeAll_placed hF values
  exact h.put_array hF hc hslot (fun _ helement => List.mem_append.mp helement)
    (h.nodup_append hF hc)

theorem insertItem_changes (hF : st.Forest) {slot position : Nat} {slots : List Nat}
    {value : Value} (hc : st.cell slot = .array slots) (hslot : slot < st.size)
    (hst' : st.insertItem slot slots position value = some st') : Changes st slot st' := by
  have h := place_placed hF value
  unfold insertItem at hst'
  split at hst'
  · rename_i hposition
    cases hst'
    have hperm := List.perm_insertIdx (place value st).1 slots hposition
    apply h.put_array hF hc hslot
    · intro element helement
      rcases List.mem_cons.mp (hperm.mem_iff.mp helement) with rfl | helement
      · exact Or.inr List.mem_cons_self
      · exact Or.inl helement
    · refine hperm.nodup_iff.mpr ?_
      exact (List.perm_append_singleton _ _).nodup_iff.mp (h.nodup_append hF hc)
  · cases hst'

/-! ## Operators -/

theorem keepUnequal_sublist (st : Store) (slots : List Nat) (values : List Value) :
    (values.foldl st.keepUnequal slots).Sublist slots := by
  induction values generalizing slots with
  | nil => exact List.Sublist.refl _
  | cons value values ih => exact (ih _).trans List.filter_sublist

theorem combineItems_changes (hF : st.Forest) {slot : Nat} {slots : List Nat}
    (hc : st.cell slot = .array slots) (hslot : slot < st.size) (op : Operator)
    (right : List Value) : Changes st slot (st.combineItems op slot slots right) := by
  cases op with
  | add => exact append_changes hF hc hslot right
  | sub => exact .of_sublist hF hc hslot (keepUnequal_sublist st slots right)

theorem rebind_changes (hF : st.Forest) {slot : Nat} (hslot : slot < st.size) {op : Operator}
    {right : Value} (h : st.rebind op slot right = .ok st') : Changes st slot st' := by
  unfold rebind at h
  cases hcombine : op.combine (st.read slot) right with
  | error e =>
    rw [hcombine] at h
    cases h
  | ok result =>
    rw [hcombine] at h
    cases h
    exact .write hF hslot result

theorem combineAssign_changes (hF : st.Forest) {slot : Nat} (hslot : slot < st.size)
    {op : Operator} {right : Value} (h : st.combineAssign op slot right = .ok st') :
    Changes st slot st' := by
  unfold combineAssign at h
  split at h
  · cases h
    exact .of_leaf hF hslot rfl
  · cases h
    exact .of_leaf hF hslot rfl
  · cases h
    exact .of_leaf hF hslot rfl
  · split at h
    · cases h
      exact .of_leaf hF hslot rfl
    · cases h
  · rename_i slots hc
    split at h
    · cases h
      exact combineItems_changes hF hc hslot op _
    · cases h
  · exact rebind_changes hF hslot h

/-! ## Assignments through indices -/

/-- The indices select an element of an array, the one in the last slot. -/
def SelectsSlot (st : Store) (slot : Nat) (indices : List Value) (last : Nat) : Prop :=
  ∃ path, Subscript.SelectsElement (st.read slot) indices path ∧ st.slotAt? slot path = some last

/-- The indices end in a string, the one in the last slot. -/
def SelectsText (st : Store) (slot : Nat) (indices : List Value) (last : Nat) : Prop :=
  ∃ path text start length, Subscript.SelectsSpan (st.read slot) indices path text start length ∧
    st.slotAt? slot path = some last

theorem SelectsSlot.reaches {slot last : Nat} {indices : List Value}
    (h : st.SelectsSlot slot indices last) : st.Reaches slot last := by
  obtain ⟨path, -, hlast⟩ := h
  exact reaches_of_slotAt? hlast

theorem SelectsText.reaches {slot last : Nat} {indices : List Value}
    (h : st.SelectsText slot indices last) : st.Reaches slot last := by
  obtain ⟨path, _, _, _, -, hlast⟩ := h
  exact reaches_of_slotAt? hlast

/-- An assignment that succeeds writes into the slot that is selected, or changes the string
there. -/
theorem assignAt_ok (hF : st.Forest) {slot : Nat} {indices : List Value} {target : Value}
    (h : st.assignAt slot indices target = .ok st') :
    (∃ last, st.SelectsSlot slot indices last ∧ st' = write target st last) ∨
      ∃ last s, st.SelectsText slot indices last ∧ st' = st.put last (.string s) := by
  cases hselect : (st.read slot).subscript indices with
  | error e =>
    rw [assignAt_error hF hselect] at h
    cases h
  | ok selected =>
    rcases Value.subscript_ok hselect with ⟨path, hpath, hnames, item, hpart⟩ |
      ⟨path, text, start, length, hpart, front, back, rfl, hnames, hspan⟩
    · obtain ⟨last, hlast, _⟩ := slotAt?_of_part? hF hpart
      rw [assignAt_element hpath hnames hlast] at h
      cases h
      exact Or.inl ⟨last, ⟨path, ⟨hpath, hnames, item, hpart⟩, hlast⟩, rfl⟩
    · have hselects : Subscript.SelectsSpan (st.read slot) (front ++ back) path text start length :=
        ⟨hpart, front, back, rfl, hnames, hspan⟩
      obtain ⟨last, hlast, hread⟩ := slotAt?_of_part? hF hpart
      obtain ⟨s, hc, rfl⟩ := hF.cell_of_read_string hread
      rw [assignAt_span hnames hlast hc hspan] at h
      cases htext : Subscript.assignedText target with
      | error e =>
        rw [htext] at h
        cases h
      | ok text =>
        rw [htext] at h
        cases h
        exact Or.inr ⟨last, _, ⟨path, _, start, length, hselects, hlast⟩, rfl⟩

theorem assignAt_changes (hF : st.Forest) {slot : Nat} (hslot : slot < st.size)
    {indices : List Value} {target : Value} (h : st.assignAt slot indices target = .ok st') :
    ∃ last, (st.SelectsSlot slot indices last ∨ st.SelectsText slot indices last) ∧
      Changes st last st' := by
  rcases assignAt_ok hF h with ⟨last, hlast, rfl⟩ | ⟨last, s, hlast, rfl⟩
  · exact ⟨last, .inl hlast, .write hF (hF.lt_size_of_reaches hslot hlast.reaches) target⟩
  · exact ⟨last, .inr hlast, .of_leaf hF (hF.lt_size_of_reaches hslot hlast.reaches) rfl⟩

/-! ## Methods -/

theorem callOnString_changes (hF : st.Forest) {slot : Nat} (hslot : slot < st.size)
    {s : ScriptString} {method : Method} {arguments : List Value} {result : Value}
    (h : st.callOnString slot s method arguments = .ok (result, st')) : Changes st slot st' := by
  unfold callOnString at h
  split at h
  · cases hupdate : TextMethod.update s method arguments with
    | error e =>
      rw [hupdate] at h
      cases h
    | ok s' =>
      rw [hupdate] at h
      cases h
      exact .of_leaf hF hslot rfl
  · cases hquery : TextMethod.query s.text method arguments with
    | error e =>
      rw [hquery] at h
      cases h
    | ok value =>
      rw [hquery] at h
      cases h
      exact .refl hF slot

theorem removeItem_changes (hF : st.Forest) {slot position : Nat} {slots : List Nat}
    {result : Value} (hc : st.cell slot = .array slots) (hslot : slot < st.size)
    (h : st.removeItem slot slots position = some (result, st')) : Changes st slot st' := by
  obtain ⟨element, _, heq⟩ := Option.map_eq_some_iff.mp h
  cases heq
  exact .of_sublist hF hc hslot (List.eraseIdx_sublist slots position)

theorem reverseItems_changes (hF : st.Forest) {slot : Nat} {slots : List Nat}
    (hc : st.cell slot = .array slots) (hslot : slot < st.size) :
    Changes st slot (st.reverseItems slot slots) := by
  apply (Placed.nil hF).put_array hF hc hslot
  · exact fun element helement => Or.inl (List.mem_reverse.mp helement)
  · exact (List.reverse_perm slots).nodup_iff.mpr (hF.distinct_of_cell hc)

theorem callOnArray_changes (hF : st.Forest) {slot : Nat} {slots : List Nat} {method : Method}
    {arguments : List Value} {result : Value} (hc : st.cell slot = .array slots)
    (hslot : slot < st.size)
    (h : st.callOnArray slot slots method arguments = .ok (result, st')) :
    Changes st slot st' := by
  unfold callOnArray at h
  split at h
  · cases h
    exact .refl hF slot
  · cases h
    exact append_changes hF hc hslot _
  · rename_i position value
    simp only [bind, Except.bind] at h
    split at h
    · cases h
    · split at h
      · rename_i hinsert
        cases h
        exact insertItem_changes hF hc hslot hinsert
      · cases h
  · simp only [bind, Except.bind] at h
    split at h
    · cases h
    · split at h
      · cases h
      · split at h
        · rename_i hremove
          cases h
          exact removeItem_changes hF hc hslot hremove
        · cases h
  · cases h
    exact reverseItems_changes hF hc hslot
  · cases h

theorem callMethod_changes (hF : st.Forest) {slot : Nat} (hslot : slot < st.size) {name : String}
    {arguments : List Value} {result : Value}
    (h : st.callMethod slot name arguments = .ok (result, st')) : Changes st slot st' := by
  unfold callMethod at h
  split at h
  · unfold call at h
    split at h
    · exact callOnString_changes hF hslot h
    · rename_i slots hc _
      exact callOnArray_changes hF hc hslot h
    · cases h
  · cases h

end ScriptHost.Store
