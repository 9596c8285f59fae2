import ScriptHost.Proofs.Operator.Difference
import ScriptHost.Proofs.Store.Comparison
import ScriptHost.Proofs.Store.Operator
import ScriptHost.Store.Assign

/-!
# Sums and differences of arrays in a store

What is put behind an array gets new slots, what is taken out leaves the slots of the others as they
are. Elements are compared with copies, which share no slot with them, so that slots decide nothing
and the laws of values are those of slots.

* `Store.CopiedAll.equals_copy` : comparing an element with a copy compares values.
* `Store.CombinesCopies`, `Store.combinesCopies` : two arrays, or one and the same, combined by
  copies.
* `Store.AssignsItems`, `Store.assignsItems` : the laws, for operators that assign.
-/

namespace ScriptHost.Store

open Operator (Supplies without)

variable {st st' : Store} {slot : Nat} {slots others : List Nat} {b c right : Value}
  {bs cs items values : List Value}

/-! ## Copies -/

namespace CopiedAll

theorem snapshot_of_lt (h : CopiedAll st others values st') (hL : st.Layered) {other : Nat}
    (hother : other < st.size) : st'.snapshot other = st.snapshot other := by
  apply hL.snapshot_congr h.layered
  intro last hlast
  exact h.frame last (hL.lt_size_of_reaches hother hlast)

theorem read_of_lt (h : CopiedAll st others values st') (hL : st.Layered) {other : Nat}
    (hother : other < st.size) : st'.read other = st.read other := by
  rw [read, h.snapshot_of_lt hL hother, read]

/-- Comparing an element with a copy compares values. -/
theorem equals_copy (h : CopiedAll st others values st') (hL : st.Layered) {element other : Nat}
    (helement : element < st.size) (hother : other ∈ others) :
    st'.equals element other = (st.read element).equals (st'.read other) := by
  rw [equals, h.layered.compare_of_disjoint, h.read_of_lt hL helement, Value.equals]
  -- What is in the element is older than the copy, what is in the copy is younger.
  intro inner hinner hcopied
  rw [elements, h.frame element helement] at hinner
  have hold := (hL.younger hinner).2
  have hnew := (h.layered.younger hcopied).1
  have hfresh := (h.fresh other hother).1
  omega

/-- The elements that are not equal to any of the copies. -/
theorem unlike_copies (h : CopiedAll st others values st') (hL : st.Layered)
    (hslots : ∀ element ∈ slots, element < st.size) :
    st'.unlike slots others = st.survivors .sub slots values := by
  apply List.filter_congr
  intro element helement
  rw [← h.reads, List.all_map, Bool.eq_iff_iff, List.all_eq_true, List.all_eq_true]
  refine forall₂_congr fun other hother => ?_
  rw [h.equals_copy hL (hslots element helement) hother, Function.comp_apply]

section Later

variable {st₁ st₂ : Store} {left right : List Nat} {ls rs : List Value}

/-- Copies are still there after more has been copied. -/
theorem later (h₁ : CopiedAll st left ls st₁) (h₂ : CopiedAll st₁ right rs st₂) :
    CopiedAll st left ls st₂ where
  layered := h₂.layered
  grows := Nat.le_trans h₁.grows h₂.grows
  frame other hother := by
    rw [h₂.frame other (Nat.lt_of_lt_of_le hother h₁.grows), h₁.frame other hother]
  fresh element helement := by
    obtain ⟨hle, hlt⟩ := h₁.fresh element helement
    exact ⟨hle, Nat.lt_of_lt_of_le hlt h₂.grows⟩
  reads := by
    rw [← h₁.reads]
    apply List.map_congr_left
    intro element helement
    exact h₂.read_of_lt h₁.layered (h₁.fresh element helement).2

theorem append (h₁ : CopiedAll st left ls st₁) (h₂ : CopiedAll st₁ right rs st₂) :
    CopiedAll st (left ++ right) (ls ++ rs) st₂ where
  layered := h₂.layered
  grows := (h₁.later h₂).grows
  frame := (h₁.later h₂).frame
  fresh element helement := by
    rcases List.mem_append.mp helement with hleft | hright
    · exact (h₁.later h₂).fresh element hleft
    · obtain ⟨hle, hlt⟩ := h₂.fresh element hright
      exact ⟨Nat.le_trans h₁.grows hle, hlt⟩
  reads := by rw [List.map_append, (h₁.later h₂).reads, h₂.reads]

end Later

theorem filter (h : CopiedAll st slots values st') (p : Value → Bool) :
    CopiedAll st (slots.filter fun element => p (st'.read element)) (values.filter p) st' where
  layered := h.layered
  grows := h.grows
  frame := h.frame
  fresh element helement := h.fresh element (List.mem_filter.mp helement).1
  reads := by
    rw [← h.reads, List.filter_map]
    rfl

end CopiedAll

/-- Two arrays, or one and the same, combined by copies: nothing is changed, and new slots show what
the operator gives. -/
theorem combineCopies_copied (hL : st.Layered) (op : Operator) (left : List Nat)
    {right : List Nat} (hright : ∀ element ∈ right, element < st.size) :
    CopiedAll st (st.combineCopies op left right).1
      (op.onItems (left.map st.read) (right.map st.read)) (st.combineCopies op left right).2 := by
  have hcopies := placeAll_copied hL (left.map st.read)
  have hreads : right.map (st.placeAll (left.map st.read)).2.read = right.map st.read :=
    List.map_congr_left fun element helement => hcopies.read_of_lt hL (hright element helement)
  unfold combineCopies
  generalize st.placeAll (left.map st.read) = placed at hcopies hreads ⊢
  obtain ⟨copies, copied⟩ := placed
  dsimp only at hcopies hreads ⊢
  rw [hreads]
  have hothers := placeAll_copied hcopies.layered (right.map st.read)
  generalize copied.placeAll (right.map st.read) = placed at hothers ⊢
  obtain ⟨others, last⟩ := placed
  cases op with
  | add => exact hcopies.append hothers
  | sub =>
    have hunlike := hothers.unlike_copies hcopies.layered fun element helement =>
      (hcopies.fresh element helement).2
    have hkept := (hcopies.later hothers).filter fun value =>
      (right.map st.read).all fun other => !value.equals other
    have hsame : last.unlike copies others = copies.filter fun element =>
        (right.map st.read).all fun other => !(last.read element).equals other := by
      rw [hunlike]
      apply List.filter_congr
      intro element helement
      rw [hothers.read_of_lt hcopies.layered (hcopies.fresh element helement).2]
    rw [Operator.onItems, Operator.dropEqual_eq]
    dsimp only
    rw [hsame]
    exact hkept

/-- What comes of the elements of two arrays that are combined by copies. -/
structure CombinesCopies (st : Store) (op : Operator) (left right : List Nat) : Prop where
  value : op.combine (.array (left.map st.read)) (.array (right.map st.read)) =
    .ok (.array ((st.combineCopies op left right).1.map (st.combineCopies op left right).2.read))
  fresh : ∀ element ∈ (st.combineCopies op left right).1, st.size ≤ element
  frame : ∀ other < st.size, (st.combineCopies op left right).2.snapshot other = st.snapshot other

theorem combinesCopies (hL : st.Layered) (op : Operator) {left right : List Nat}
    (hright : ∀ element ∈ right, element < st.size) : CombinesCopies st op left right := by
  have hcopied := combineCopies_copied hL op left hright
  refine ⟨?_, fun element helement => (hcopied.fresh element helement).1,
    fun other => hcopied.snapshot_of_lt hL⟩
  rw [Operator.combine_of_supplies op _ (.array _), hcopied.reads]

/-! ## Assigning operators -/

theorem put_put (st : Store) (slot : Nat) (first second : Cell) :
    (st.put slot first).put slot second = st.put slot second := by
  rw [put, put, put, Array.setIfInBounds_setIfInBounds]

theorem combineAssign_of_supplies (hslots : st.cell slot = .array slots) (op : Operator)
    (h : Supplies right items) :
    st.combineAssign op slot right = .ok (st.combineItems op slot slots items) := by
  unfold combineAssign
  rw [hslots]
  dsimp only
  rw [h.itemsOperand?]

theorem combineAssign_sub (hslots : st.cell slot = .array slots) (h : Supplies right items) :
    st.combineAssign .sub slot right =
      .ok (st.put slot (.array (st.survivors .sub slots items))) := by
  rw [combineAssign_of_supplies hslots .sub h, combineItems, foldl_keepUnequal, survivors]

/-- What an assigning operator leaves shows what the operator gives. -/
theorem exists_combineAssign (hF : st.Forest) (hslot : slot < st.size) (op : Operator)
    {as : List Value} (has : st.read slot = .array as) (h : Supplies right items) :
    ∃ st', st.combineAssign op slot right = .ok st' ∧ st'.Forest ∧ slot < st'.size ∧
      st'.read slot = .array (op.onItems as items) := by
  have hcombine := Operator.combine_of_supplies op as h
  rw [← has] at hcombine
  obtain ⟨st', hassign, hread⟩ := combineAssign_ok hF hslot hcombine
  have hchanges := combineAssign_changes hF hslot hassign
  exact ⟨st', hassign, hchanges.forest, Nat.lt_of_lt_of_le hslot hchanges.grows, hread⟩

/-- An assigning operator after another. -/
theorem exists_combineAssign_twice (hF : st.Forest) (hslots : st.cell slot = .array slots)
    (op next : Operator) (hb : Supplies b bs) (hc : Supplies c cs) :
    ∃ st', (st.combineAssign op slot b >>= (combineAssign · next slot c)) = .ok st' ∧
      st'.read slot = .array (next.onItems (op.onItems (slots.map st.read) bs) cs) := by
  obtain ⟨st₁, hfirst, hF₁, hslot₁, hread₁⟩ :=
    exists_combineAssign hF (lt_size_of_cell hslots) op (hF.read_array hslots) hb
  obtain ⟨st₂, hsecond, -, -, hread₂⟩ := exists_combineAssign hF₁ hslot₁ next hread₁ hc
  refine ⟨st₂, ?_, hread₂⟩
  rw [hfirst]
  exact hsecond

/-- What stays after two rounds, if what the elements show is the same in both. -/
theorem survivors_survivors (hreads : ∀ element ∈ slots, st'.read element = st.read element)
    (bs cs : List Value) :
    st'.survivors .sub (st.survivors .sub slots bs) cs = st.survivors .sub slots (bs ++ cs) := by
  rw [survivors, survivors, survivors, List.filter_filter]
  apply List.filter_congr
  intro element helement
  rw [hreads element helement, List.all_append, Bool.and_comm]

theorem combineAssign_sub_sub (hF : st.Forest) (hslots : st.cell slot = .array slots)
    (hb : Supplies b bs) (hc : Supplies c cs) :
    (st.combineAssign .sub slot b >>= (combineAssign · .sub slot c)) =
      st.combineAssign .sub slot (.array (bs ++ cs)) := by
  have hslot := lt_size_of_cell hslots
  have hforest := (Changes.of_sublist hF hslots hslot
    (List.filter_sublist : (st.survivors .sub slots bs).Sublist slots)).forest
  have hsecond := combineAssign_sub (cell_put_self hslot (.array (st.survivors .sub slots bs))) hc
  rw [put_put, survivors_survivors] at hsecond
  · rw [combineAssign_sub hslots hb, combineAssign_sub hslots (.array _)]
    exact hsecond
  · intro element helement
    exact hF.read_put_of_lt hforest.toLayered (hF.younger_of_cell hslots helement).1

/-- What addition and subtraction that assign make of an array, for right operands that supply
items. -/
structure AssignsItems (st : Store) (slot : Nat) (slots : List Nat) (b c : Value)
    (bs cs : List Value) : Prop where
  sum : ∃ added st', st.combineAssign .add slot b = .ok st' ∧
    st'.read slot = .array (slots.map st.read ++ bs) ∧
    st'.cell slot = .array (slots ++ added) ∧ (∀ element ∈ added, st.size ≤ element) ∧
    ∀ element ∈ slots, st'.snapshot element = st.snapshot element
  difference : ∃ st', st.combineAssign .sub slot b = .ok st' ∧
    st'.read slot = .array (without (slots.map st.read) bs) ∧
    st'.cell slot = .array (st.survivors .sub slots bs) ∧
    ∀ element ∈ slots, st'.snapshot element = st.snapshot element
  compared : (st.placeAll bs).2.unlike slots (st.placeAll bs).1 = st.survivors .sub slots bs
  difference_difference :
    (st.combineAssign .sub slot b >>= (combineAssign · .sub slot c)) =
      (Operator.add.combine (.array bs) c >>= st.combineAssign .sub slot)
  sum_difference : ∃ st₁ st₂,
    (st.combineAssign .add slot b >>= (combineAssign · .sub slot c)) = .ok st₁ ∧
    (do let rest ← Operator.sub.combine (.array bs) c
        st.combineAssign .sub slot c >>= (combineAssign · .add slot rest)) = .ok st₂ ∧
    st₁.read slot = st₂.read slot
  difference_again :
    (st.combineAssign .sub slot b >>= (combineAssign · .sub slot b)) =
      st.combineAssign .sub slot b
  difference_self : ∃ st', st.combineAssign .sub slot (st.read slot) = .ok st' ∧
    st'.cell slot = .array (slots.filter fun element => (st.read element).hasNan)

theorem assignsItems (hF : st.Forest) (hslots : st.cell slot = .array slots)
    (hb : Supplies b bs) (hc : Supplies c cs) : AssignsItems st slot slots b c bs cs where
  sum := by
    obtain ⟨st', hassign, -, -, hread⟩ := exists_combineAssign hF (lt_size_of_cell hslots) .add
      (hF.read_array hslots) hb
    obtain ⟨⟨added, hcell, hfresh⟩, hkept⟩ := combineAssign_array hF (lt_size_of_cell hslots)
      hslots hb.itemsOperand? hassign
    exact ⟨added, st', hassign, hread, hcell, hfresh, hkept⟩
  difference := by
    have hslot := lt_size_of_cell hslots
    have hassign := combineAssign_sub hslots hb
    obtain ⟨-, hkept⟩ := combineAssign_array hF hslot hslots hb.itemsOperand? hassign
    obtain ⟨st', hassign', -, -, hread⟩ := exists_combineAssign hF hslot .sub
      (hF.read_array hslots) hb
    obtain rfl := Except.ok.inj (hassign.symm.trans hassign')
    rw [Operator.onItems, Operator.dropEqual_eq] at hread
    exact ⟨_, hassign, hread, cell_put_self hslot _, hkept⟩
  compared := (placeAll_copied hF.toLayered bs).unlike_copies hF.toLayered
    fun _ helement => (hF.younger_of_cell hslots helement).2
  difference_difference := by
    rw [combineAssign_sub_sub hF hslots hb hc, Operator.combine_add bs hc]
    rfl
  sum_difference := by
    obtain ⟨st₁, hfirst, hread₁⟩ := exists_combineAssign_twice hF hslots .add .sub hb hc
    obtain ⟨st₂, hsecond, hread₂⟩ :=
      exists_combineAssign_twice hF hslots .sub .add hc (.array (without bs cs))
    refine ⟨st₁, st₂, hfirst, ?_, ?_⟩
    · rw [Operator.combine_sub bs hc]
      exact hsecond
    · rw [hread₁, hread₂]
      simp only [Operator.onItems, Operator.dropEqual_eq, Operator.without_append]
  difference_again := by
    have hsame : st.survivors .sub slots (bs ++ bs) = st.survivors .sub slots bs := by
      apply List.filter_congr
      intro element _
      rw [List.all_append, Bool.and_self]
    rw [combineAssign_sub_sub hF hslots hb hb, combineAssign_sub hslots hb,
      combineAssign_sub hslots (.array _), hsame]
  difference_self := by
    have hself : st.survivors .sub slots (slots.map st.read) =
        slots.filter fun element => (st.read element).hasNan := by
      apply List.filter_congr
      intro element helement
      exact Operator.all_unequal_self (List.mem_map_of_mem helement)
    rw [hF.read_array hslots, combineAssign_sub hslots (.array _), hself]
    exact ⟨_, rfl, cell_put_self (lt_size_of_cell hslots) _⟩

end ScriptHost.Store
