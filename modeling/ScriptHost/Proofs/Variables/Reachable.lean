import ScriptHost.Proofs.Store.Change
import ScriptHost.Variables

/-!
# Reachable variables

Whatever scripts do to variables, the slots form a forest, and every name is bound to a slot of the
store.

* `Variables.Reachable` : what actions lead to.
* `Variables.Sound` : what holds then.
* `Variables.step_sound`, `Variables.Reachable.sound` : one action keeps it, hence all do.
-/

namespace ScriptHost.Variables

/-- What actions on variables lead to. -/
inductive Reachable : Variables → Prop
  | empty : Reachable .empty
  | step {vars : Variables} (name : String) (action : Action) :
    Reachable vars → Reachable (vars.step name action).2

/-- The slots form a forest to which all bindings lead. -/
structure Sound (vars : Variables) : Prop where
  forest : vars.store.Forest
  bound : ∀ binding ∈ vars.bindings, binding.2 < vars.store.size

variable {vars : Variables}

theorem empty_sound : Sound .empty where
  forest := .empty
  bound _ h := by cases h

theorem Sound.withStore (h : vars.Sound) {st : Store} (hst : vars.store.Follows st) :
    (vars.withStore st).Sound :=
  ⟨hst.forest, fun binding hbinding => Nat.lt_of_lt_of_le (h.bound binding hbinding) hst.grows⟩

/-! ## Bindings -/

theorem Sound.bind (h : vars.Sound) (name : String) {slot : Nat} (hslot : slot < vars.store.size) :
    (vars.bind name slot).Sound := by
  refine ⟨h.forest, fun binding hbinding => ?_⟩
  rcases Bindings.mem_rebind hbinding with rfl | hmem
  · exact hslot
  · exact h.bound binding hmem

/-- The slot that a name stands for is part of the store it stands in. -/
theorem Sound.slotOf (h : vars.Sound) (name : String) :
    (vars.slotOf name).2.Sound ∧ (vars.slotOf name).1 < (vars.slotOf name).2.store.size := by
  unfold Variables.slotOf
  split
  · rename_i slot hlookup
    exact ⟨h, h.bound _ (Bindings.mem_of_lookup hlookup)⟩
  · have hgrows : vars.store.size < vars.store.extend.size := by
      rw [Store.size_extend]
      omega
    exact ⟨h.withStore ⟨h.forest.extend, Nat.le_of_lt hgrows⟩, hgrows⟩

/-! ## Actions -/

theorem Sound.attempt (h : vars.Sound) {outcome : Except Error Store}
    (houtcome : ∀ st, outcome = .ok st → vars.store.Follows st) :
    (vars.attempt outcome).2.Sound := by
  cases outcome with
  | error e => exact h
  | ok st => exact h.withStore (houtcome st rfl)

theorem Sound.attemptFor (h : vars.Sound) {outcome : Except Error (Value × Store)}
    (houtcome : ∀ result st, outcome = .ok (result, st) → vars.store.Follows st) :
    (vars.attemptFor outcome).2.Sound := by
  cases outcome with
  | error e => exact h
  | ok pair => exact h.withStore (houtcome pair.1 pair.2 rfl)

theorem Sound.pushText (h : vars.Sound) {slot : Nat} (hslot : slot < vars.store.size)
    (text : String) :
    (vars.pushText slot text).2.Sound := by
  unfold Variables.pushText
  split
  · exact h.withStore (Store.Changes.of_leaf h.forest hslot rfl).toFollows
  · exact h

theorem Sound.pushItem (h : vars.Sound) {slot : Nat} (hslot : slot < vars.store.size)
    (value : Value) : (vars.pushItem slot value).2.Sound := by
  unfold Variables.pushItem
  split
  · rename_i slots hc
    exact h.withStore (Store.append_changes h.forest hc hslot _).toFollows
  · exact h

theorem Sound.act (h : vars.Sound) {slot : Nat} (hslot : slot < vars.store.size)
    (action : Action) : (vars.act slot action).2.Sound := by
  have hwrite : ∀ value, vars.store.Follows (Store.write value vars.store slot) :=
    fun value => (Store.Changes.write h.forest hslot value).toFollows
  cases action with
  | set right => exact h.withStore (hwrite _)
  | replace right => exact h.withStore (hwrite _)
  | assign op right =>
    apply h.attempt
    intro st hst
    exact (Store.combineAssign_changes h.forest hslot hst).toFollows
  | assignAt indices right =>
    apply h.attemptFor
    intro result st hst
    cases hassign : vars.store.assignAt slot indices (vars.operand right) with
    | error e =>
      rw [hassign] at hst
      cases hst
    | ok st' =>
      rw [hassign] at hst
      cases hst
      obtain ⟨last, -, hchanges⟩ := Store.assignAt_changes h.forest hslot hassign
      exact hchanges.toFollows
  | call method arguments =>
    apply h.attemptFor
    intro result st hst
    exact (Store.callMethod_changes h.forest hslot hst).toFollows
  | pushText text => exact h.pushText hslot text
  | pushItem right => exact h.pushItem hslot _
  | unpack bytes =>
    apply h.attempt
    intro st hst
    cases hunpack : Value.unpack bytes with
    | error e =>
      rw [hunpack] at hst
      cases hst
    | ok value =>
      rw [hunpack] at hst
      cases hst
      exact hwrite value
  | new | «alias» | element | get | combine | subscript | sameSlot | compare | compareSelf | pack
    | print => exact h

/-- One action keeps the variables sound. -/
theorem step_sound (h : vars.Sound) (name : String) (action : Action) :
    (vars.step name action).2.Sound := by
  have hact : ((vars.slotOf name).2.act (vars.slotOf name).1 action).2.Sound := by
    obtain ⟨hsound, hslot⟩ := h.slotOf name
    exact hsound.act hslot action
  cases action with
  | new value =>
    have hplaced := Store.place_placed h.forest value
    have hslot := (hplaced.fresh _ List.mem_cons_self).2
    exact (h.withStore ⟨hplaced.forest, hplaced.grows⟩).bind name hslot
  | «alias» other =>
    obtain ⟨hsound, hslot⟩ := h.slotOf other
    exact hsound.bind name hslot
  | element other position =>
    obtain ⟨hsound, _⟩ := h.slotOf other
    simp only [step]
    split
    · rename_i element helement
      obtain ⟨slots, hslots, hposition⟩ := Option.bind_eq_some_iff.mp helement
      have hmem := List.mem_of_getElem? hposition
      rw [← Store.elements_of_items? hslots] at hmem
      exact hsound.bind name (hsound.forest.younger hmem).2
    · exact hsound
  | set | replace | get | assign | combine | subscript | assignAt | call | pushText | pushItem
    | sameSlot | compare | compareSelf | pack | unpack | print => exact hact

theorem Reachable.sound (h : vars.Reachable) : vars.Sound := by
  induction h with
  | empty => exact empty_sound
  | step name action _ ih => exact step_sound ih name action

end ScriptHost.Variables
