import ScriptHost.Proofs.Store.Change

/-!
# What a change of one slot leaves alone

A change of a slot is seen in the slots that reach it and in no others. Slots do not become part of
arrays that they were no part of, so what lies apart stays apart.

* `Store.Changes.snapshot_eq` : a slot that does not reach the changed one shows what it showed.
* `Store.Changes.reaches` : where the ways from a slot lead after a change.
* `Store.Apart`, `Store.Changes.apart` : slots of which neither lies in the other.
-/

namespace ScriptHost.Store

variable {st st' : Store} {slot other array element last left right : Nat}

/-- Neither slot lies in what the other one holds. -/
def Apart (st : Store) (left right : Nat) : Prop :=
  ¬ st.Reaches left right ∧ ¬ st.Reaches right left

theorem Apart.symm (h : st.Apart left right) : st.Apart right left := ⟨h.2, h.1⟩

/-- What lies in one of two slots that are apart does not lie in the other. -/
theorem Forest.not_reaches_of_apart (hF : st.Forest) (h : st.Apart left right)
    (hright : st.Reaches right last) : ¬ st.Reaches left last := fun hleft =>
  (hF.reaches_or hleft hright).elim h.1 h.2

/-- A slot that comes after all slots lies in none of them. -/
theorem Forest.not_reaches_new (hF : st.Forest) (hother : other < st.size)
    (hnew : st.size ≤ last) : ¬ st.Reaches other last := fun h =>
  Nat.not_lt_of_le hnew (hF.lt_size_of_reaches hother h)

namespace Changes

/-- A change of a slot that is new is one of the store as it was before the last new slot. -/
theorem of_extend (h : Changes st.extend slot st') : Changes st slot st' where
  forest := h.forest
  grows := Nat.le_trans (by rw [size_extend]; omega) h.grows
  frame other hother hne := by
    rw [h.frame other (by rw [size_extend]; omega) hne, cell_extend]
  gains element helement := by
    have hgains := h.gains element helement
    rw [elements, cell_extend, size_extend] at hgains
    exact hgains.imp_right Nat.le_of_succ_le

/-- A slot that does not reach the changed one shows what it showed. -/
theorem snapshot_eq (h : Changes st slot st') (hF : st.Forest) (hother : other < st.size)
    (hreach : ¬ st.Reaches other slot) : st'.snapshot other = st.snapshot other := by
  apply hF.snapshot_congr h.forest.toLayered
  intro last hlast
  apply h.frame last (hF.lt_size_of_reaches hother hlast)
  rintro rfl
  exact hreach hlast

/-- What becomes an element of an array was one of it before, or is new. -/
theorem mem_elements (h : Changes st slot st') (helement : element ∈ st'.elements array) :
    element ∈ st.elements array ∨ st.size ≤ element := by
  by_cases harray : array = slot
  · rw [harray] at helement ⊢
    exact h.gains element helement
  · by_cases hold : array < st.size
    · rw [elements, h.frame array hold harray] at helement
      exact .inl helement
    · have hlt := (h.forest.younger helement).1
      exact .inr (by omega)

/-- An array that loses an element is the one that is changed. -/
theorem eq_of_lost (h : Changes st slot st') (hF : st.Forest)
    (helement : element ∈ st.elements array) (hlost : element ∉ st'.elements array) :
    array = slot := by
  by_contra hne
  obtain ⟨hlt, hsize⟩ := hF.younger helement
  rw [elements, h.frame array (Nat.lt_trans hlt hsize) hne] at hlost
  exact hlost helement

/-- An element that leaves its array shows what it showed. -/
theorem snapshot_lost (h : Changes st slot st') (hF : st.Forest)
    (helement : element ∈ st.elements array) (hlost : element ∉ st'.elements array) :
    st'.snapshot element = st.snapshot element := by
  obtain rfl := h.eq_of_lost hF helement hlost
  obtain ⟨hlt, hsize⟩ := hF.younger helement
  apply h.snapshot_eq hF hsize
  intro hreach
  have hle := hF.le_of_reaches hreach
  omega

/-- From a slot that was there, the ways lead to slots to which they led before, and to new ones
only if they led to the changed slot. -/
theorem reaches (h : Changes st slot st') (hF : st.Forest) (hother : other < st.size)
    (hreach : st'.Reaches other last) :
    (last < st.size → st.Reaches other last) ∧ (st.size ≤ last → st.Reaches other slot) := by
  induction hreach with
  | here => exact ⟨fun _ => .here, fun hnew => absurd hother (Nat.not_lt_of_le hnew)⟩
  | @element array element _ helement ih =>
    have hlt := (h.forest.younger helement).1
    constructor
    · intro hold
      have harray := ih.1 (Nat.lt_trans hlt hold)
      rcases h.mem_elements helement with hmem | hnew
      · exact harray.element hmem
      · exact absurd hold (Nat.not_lt_of_le hnew)
    · intro hnew
      by_cases hold : array < st.size
      · by_cases harray : array = slot
        · exact harray ▸ ih.1 hold
        · rw [elements, h.frame array hold harray] at helement
          exact absurd (hF.younger helement).2 (Nat.not_lt_of_le hnew)
      · exact ih.2 (Nat.le_of_not_lt hold)

/-- What lies apart stays apart. -/
theorem apart (h : Changes st slot st') (hF : st.Forest) (hleft : left < st.size)
    (hright : right < st.size) (hapart : st.Apart left right) : st'.Apart left right :=
  ⟨fun hreach => hapart.1 ((h.reaches hF hleft hreach).1 hright),
    fun hreach => hapart.2 ((h.reaches hF hright hreach).1 hleft)⟩

/-- A slot that does not reach the changed one is apart from all that is new. -/
theorem apart_new (h : Changes st slot st') (hF : st.Forest) (hother : other < st.size)
    (hreach : ¬ st.Reaches other slot) (hnew : st.size ≤ last) : st'.Apart other last := by
  refine ⟨fun hreach' => hreach ((h.reaches hF hother hreach').2 hnew), fun hreach' => ?_⟩
  have hle := h.forest.le_of_reaches hreach'
  omega

end Changes

/-! ## Copies -/

/-- All that lies in a slot after a value is written there is new, but for the slot itself. -/
theorem reaches_write (hF : st.Forest) (hslot : slot < st.size) {value : Value}
    (h : (write value st slot).Reaches slot last) : last = slot ∨ st.size ≤ last := by
  have hchanges := Changes.write hF hslot value
  induction h with
  | here => exact .inl rfl
  | @element array element _ helement ih =>
    rcases ih with rfl | hnew
    · exact .inr (new_of_mem_write hF hslot helement)
    · have hlt := (hchanges.forest.younger helement).1
      exact .inr (by omega)

/-- A copy is apart from all slots that do not reach the one it is written into. -/
theorem apart_write (hF : st.Forest) (hslot : slot < st.size) (value : Value)
    (hother : other < st.size) (hreach : ¬ st.Reaches other slot) :
    (write value st slot).Apart other slot := by
  have hchanges := Changes.write hF hslot value
  refine ⟨fun h => hreach ((hchanges.reaches hF hother h).1 hslot), fun h => ?_⟩
  rcases reaches_write hF hslot h with rfl | hnew
  · exact hreach .here
  · omega

end ScriptHost.Store
