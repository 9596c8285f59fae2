import ScriptHost.Store.Snapshot
import Mathlib.Data.List.Basic

/-!
# The slots of a store form a forest

An array's elements are younger than the array, and no slot is an element twice. What a slot shows
depends only on the slots that it reaches, which come after it and are part of the store. For this
it does not matter whether arrays share elements.

* `Store.Layered` : elements come after their array, but arrays may share them.
* `Store.Forest` : the shape that every store keeps.
* `Store.Layered.induct` : a property of a slot is proved from that of its elements.
* `Store.Layered.read_eq` : the value of a slot in terms of the values of its elements.
* `Store.Layered.snapshot_congr` : slots that are not reached do not matter.
* `Store.Forest.put` : when the content of a slot may be exchanged.
-/

namespace ScriptHost

/-- The slots of a cell's elements. -/
def Cell.elements : Cell → List Nat
  | .array slots => slots
  | _ => []

namespace Store

/-- The slots of the elements of the array in a slot, if it holds one. -/
def elements (st : Store) (slot : Nat) : List Nat := (st.cell slot).elements

/-! ## Cells -/

@[simp]
theorem size_put (st : Store) (slot : Nat) (content : Cell) :
    (st.put slot content).size = st.size :=
  Array.size_setIfInBounds

@[simp]
theorem size_extend (st : Store) : st.extend.size = st.size + 1 := Array.size_push _

theorem cell_eq (st : Store) (slot : Nat) : st.cell slot = st.cells[slot]?.getD .uninit :=
  Array.getD_eq_getD_getElem?

theorem cell_put_self {st : Store} {slot : Nat} (h : slot < st.size) (content : Cell) :
    (st.put slot content).cell slot = content := by
  rw [cell_eq, put, Array.getElem?_setIfInBounds_self_of_lt h]
  rfl

theorem cell_put_of_ne (st : Store) {slot other : Nat} (h : other ≠ slot) (content : Cell) :
    (st.put slot content).cell other = st.cell other := by
  rw [cell_eq, cell_eq, put, Array.getElem?_setIfInBounds_ne h.symm]

theorem cell_of_size_le {st : Store} {slot : Nat} (h : st.size ≤ slot) :
    st.cell slot = .uninit := by
  rw [cell_eq, Array.getElem?_eq_none h]
  rfl

theorem lt_size_of_cell {st : Store} {slot : Nat} {slots : List Nat}
    (h : st.cell slot = .array slots) : slot < st.size := by
  by_contra hle
  rw [cell_of_size_le (Nat.le_of_not_lt hle)] at h
  cases h

@[simp]
theorem cell_extend (st : Store) (slot : Nat) : st.extend.cell slot = st.cell slot := by
  by_cases hslot : slot < st.size
  · rw [cell_eq, cell_eq, extend, Array.getElem?_push_lt hslot, Array.getElem?_eq_getElem hslot]
  · rw [cell_of_size_le (Nat.le_of_not_lt hslot), cell_eq, extend, Array.getElem?_push]
    split
    · rfl
    · rw [Array.getElem?_eq_none (Nat.le_of_not_lt hslot)]
      rfl

theorem elements_put_self {st : Store} {slot : Nat} (h : slot < st.size) (content : Cell) :
    (st.put slot content).elements slot = content.elements := by
  rw [elements, cell_put_self h]

theorem elements_put_of_ne (st : Store) {slot other : Nat} (h : other ≠ slot) (content : Cell) :
    (st.put slot content).elements other = st.elements other := by
  rw [elements, cell_put_of_ne st h, elements]

theorem elements_of_cell {st : Store} {slot : Nat} {slots : List Nat}
    (h : st.cell slot = .array slots) : st.elements slot = slots := by
  rw [elements, h]
  rfl

/-! ## The shape of a store -/

/-- Elements come after their array. Nothing is said about who shares them. -/
structure Layered (st : Store) : Prop where
  younger : ∀ {slot element : Nat}, element ∈ st.elements slot →
    slot < element ∧ element < st.size

/-- Elements come after their array, no two slots share an element, and no array has one twice. -/
structure Forest (st : Store) : Prop extends Layered st where
  single : ∀ {slot other element : Nat}, element ∈ st.elements slot →
    element ∈ st.elements other → slot = other
  distinct : ∀ slot : Nat, (st.elements slot).Nodup

/-- The slots that are found by going from arrays to their elements. -/
inductive Reaches (st : Store) (slot : Nat) : Nat → Prop
  | here : Reaches st slot slot
  | element {array element : Nat} :
    Reaches st slot array → element ∈ st.elements array → Reaches st slot element

theorem Reaches.trans {st : Store} {slot middle last : Nat} (h : st.Reaches slot middle)
    (h' : st.Reaches middle last) : st.Reaches slot last := by
  induction h' with
  | here => exact h
  | element _ helement ih => exact ih.element helement

theorem Reaches.of_element {st : Store} {slot element last : Nat}
    (helement : element ∈ st.elements slot) (h : st.Reaches element last) :
    st.Reaches slot last :=
  (Reaches.here.element helement).trans h

namespace Layered

variable {st : Store}

theorem le_of_reaches (hL : st.Layered) {slot last : Nat} (h : st.Reaches slot last) :
    slot ≤ last := by
  induction h with
  | here => exact Nat.le_refl _
  | element _ helement ih => exact Nat.le_of_lt (Nat.lt_of_le_of_lt ih (hL.younger helement).1)

theorem lt_size_of_reaches (hL : st.Layered) {slot last : Nat} (hslot : slot < st.size)
    (h : st.Reaches slot last) : last < st.size := by
  cases h with
  | here => exact hslot
  | element _ helement => exact (hL.younger helement).2

/-- A property of a slot is proved from that of its elements. -/
theorem induct (hL : st.Layered) {motive : Nat → Prop}
    (step : ∀ slot, (∀ element ∈ st.elements slot, motive element) → motive slot) (slot : Nat) :
    motive slot := by
  generalize hn : st.size - slot = n
  induction n using Nat.strongRecOn generalizing slot with
  | ind n ih =>
    apply step
    intro element helement
    obtain ⟨hlt, hsize⟩ := hL.younger helement
    exact ih (st.size - element) (by omega) element rfl

theorem younger_of_cell (hL : st.Layered) {slot element : Nat} {slots : List Nat}
    (hc : st.cell slot = .array slots) (h : element ∈ slots) :
    slot < element ∧ element < st.size :=
  hL.younger (by rwa [elements_of_cell hc])

/-! ## What a slot shows -/

theorem snapshot_array (hL : st.Layered) {slot : Nat} {slots : List Nat}
    (h : st.cell slot = .array slots) :
    st.snapshot slot = .array slots (slots.map st.snapshot) := by
  rw [snapshot, h]
  dsimp only
  congr 1
  apply List.map_congr_left
  intro element helement
  rw [dif_pos]
  exact hL.younger_of_cell h helement

/-- The slots that are not reached do not matter. -/
theorem snapshot_congr (hL : st.Layered) {st' : Store} (hL' : st'.Layered) {slot : Nat}
    (h : ∀ last, st.Reaches slot last → st'.cell last = st.cell last) :
    st'.snapshot slot = st.snapshot slot := by
  induction slot using hL.induct with
  | step slot ih =>
    have hcell := h slot .here
    cases hc : st.cell slot with
    | array slots =>
      rw [hL.snapshot_array hc, hL'.snapshot_array (hcell.trans hc)]
      congr 1
      apply List.map_congr_left
      intro element helement
      rw [← elements_of_cell hc] at helement
      exact ih element helement fun last hlast => h last (.of_element helement hlast)
    | uninit | boolean | integer | double | string =>
      rw [snapshot, snapshot, hcell, hc]

theorem read_congr (hL : st.Layered) {st' : Store} (hL' : st'.Layered) {slot : Nat}
    (h : ∀ last, st.Reaches slot last → st'.cell last = st.cell last) :
    st'.read slot = st.read slot := by
  rw [read, hL.snapshot_congr hL' h, read]

end Layered

theorem values_map (st : Store) (slots : List Nat) :
    Node.values (slots.map st.snapshot) = slots.map st.read := by
  induction slots with
  | nil => rfl
  | cons slot slots ih => rw [List.map_cons, Node.values, ih, List.map_cons, read]

/-- The value of a slot in terms of the values of its elements. -/
theorem Layered.read_eq {st : Store} (hL : st.Layered) (slot : Nat) :
    st.read slot =
      match st.cell slot with
      | .uninit => .uninit
      | .boolean b => .boolean b
      | .integer n => .integer n
      | .double d => .double d
      | .string s => .string s.text
      | .array slots => .array (slots.map st.read) := by
  cases hc : st.cell slot with
  | array slots => rw [read, hL.snapshot_array hc, Node.value, values_map]
  | uninit | boolean | integer | double | string => rw [read, snapshot, hc, Node.value]

theorem Layered.read_array {st : Store} (hL : st.Layered) {slot : Nat} {slots : List Nat}
    (h : st.cell slot = .array slots) : st.read slot = .array (slots.map st.read) := by
  rw [hL.read_eq, h]

theorem Layered.read_string {st : Store} (hL : st.Layered) {slot : Nat} {s : ScriptString}
    (h : st.cell slot = .string s) : st.read slot = .string s.text := by
  rw [hL.read_eq, h]

theorem Layered.cell_of_read_string {st : Store} (hL : st.Layered) {slot : Nat} {text : String}
    (h : st.read slot = .string text) : ∃ s, st.cell slot = .string s ∧ s.text = text := by
  rw [hL.read_eq] at h
  cases hc : st.cell slot with
  | string s =>
    rw [hc] at h
    cases h
    exact ⟨s, rfl, rfl⟩
  | uninit | boolean | integer | double | array =>
    rw [hc] at h
    cases h

/-! ## Forests -/

theorem Forest.empty : Forest .empty where
  younger h := by cases h
  single h := by cases h
  distinct _ := List.nodup_nil

theorem Forest.distinct_of_cell {st : Store} (hF : st.Forest) {slot : Nat} {slots : List Nat}
    (hc : st.cell slot = .array slots) : slots.Nodup := by
  have hdistinct := hF.distinct slot
  rwa [elements_of_cell hc] at hdistinct

/-! ## Exchanging a cell -/

/-- The elements after an exchange: those of the new content, and in other slots those of before. -/
theorem mem_elements_put {st : Store} {slot array element : Nat} {content : Cell}
    (h : element ∈ (st.put slot content).elements array) :
    (array = slot ∧ element ∈ content.elements) ∨ (array ≠ slot ∧ element ∈ st.elements array) := by
  by_cases harray : array = slot
  · subst harray
    by_cases hslot : array < st.size
    · rw [elements_put_self hslot] at h
      exact .inl ⟨rfl, h⟩
    · rw [elements, cell_of_size_le (by rw [size_put]; omega)] at h
      cases h
  · rw [elements_put_of_ne st harray] at h
    exact .inr ⟨harray, h⟩

theorem elements_extend (st : Store) (slot : Nat) : st.extend.elements slot = st.elements slot := by
  rw [elements, cell_extend, elements]

namespace Layered

variable {st : Store}

/-- The content of a slot may be exchanged for one whose elements are younger than the slot. -/
theorem put (hL : st.Layered) {slot : Nat} {content : Cell}
    (hyounger : ∀ element ∈ content.elements, slot < element ∧ element < st.size) :
    (st.put slot content).Layered where
  younger h := by
    rw [size_put]
    rcases mem_elements_put h with ⟨rfl, hcontent⟩ | ⟨-, hold⟩
    · exact hyounger _ hcontent
    · exact hL.younger hold

/-- What holds no elements may be put anywhere. -/
theorem put_leaf (hL : st.Layered) (slot : Nat) {content : Cell} (h : content.elements = []) :
    (st.put slot content).Layered :=
  hL.put (by simp [h])

theorem extend (hL : st.Layered) : st.extend.Layered where
  younger h := by
    rw [elements_extend] at h
    rw [size_extend]
    obtain ⟨hlt, hsize⟩ := hL.younger h
    exact ⟨hlt, Nat.lt_succ_of_lt hsize⟩

/-- What a younger slot shows does not depend on an older one. -/
theorem read_put_of_lt (hL : st.Layered) {slot other : Nat} {content : Cell}
    (hL' : (st.put slot content).Layered) (h : slot < other) :
    (st.put slot content).read other = st.read other := by
  apply hL.read_congr hL'
  intro last hlast
  apply cell_put_of_ne
  have hle := hL.le_of_reaches hlast
  omega

end Layered

/-- The content of a slot may be exchanged for one whose elements are younger than the slot and
belong to no other array. -/
theorem Forest.put {st : Store} (hF : st.Forest) {slot : Nat} {content : Cell}
    (hyounger : ∀ element ∈ content.elements, slot < element ∧ element < st.size)
    (hsingle : ∀ element ∈ content.elements, ∀ other, element ∈ st.elements other → other = slot)
    (hdistinct : content.elements.Nodup) : (st.put slot content).Forest where
  toLayered := hF.toLayered.put hyounger
  single h h' := by
    rcases mem_elements_put h with ⟨rfl, hcontent⟩ | ⟨hne, hold⟩ <;>
      rcases mem_elements_put h' with ⟨rfl, hcontent'⟩ | ⟨hne', hold'⟩
    · rfl
    · exact (hsingle _ hcontent _ hold').symm
    · exact hsingle _ hcontent' _ hold
    · exact hF.single hold hold'
  distinct array := by
    by_cases harray : array = slot
    · subst harray
      by_cases hslot : array < st.size
      · rw [elements_put_self hslot]
        exact hdistinct
      · rw [elements, cell_of_size_le (by rw [size_put]; omega)]
        exact List.nodup_nil
    · rw [elements_put_of_ne st harray]
      exact hF.distinct array

/-- What holds no elements may be put anywhere. -/
theorem Forest.put_leaf {st : Store} (hF : st.Forest) (slot : Nat) {content : Cell}
    (h : content.elements = []) : (st.put slot content).Forest := by
  apply hF.put <;> simp [h]

theorem Forest.extend {st : Store} (hF : st.Forest) : st.extend.Forest where
  toLayered := hF.toLayered.extend
  single h h' := by
    rw [elements_extend] at h h'
    exact hF.single h h'
  distinct slot := by
    rw [elements_extend]
    exact hF.distinct slot

end Store

end ScriptHost
