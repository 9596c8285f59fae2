import ScriptHost.Proofs.Store.Frame
import ScriptHost.Proofs.Variables.Look

/-!
# An action on one variable and the other variables

An action writes one slot at most. Variables whose slots do not hold that slot show what they
showed, however slots are shared. Copies get slots of their own, so that a copy and what it was
made of never meet again.

* `Variables.Writes` : the slot that an action writes.
* `Variables.Copies` : the value that an action copies, and the slot that it is copied into.
* `Variables.step_changes` : an action changes the slot that it writes, or nothing that was there.
* `Variables.Framed`, `Variables.ElementsFramed` : what an action leaves as it was.
* `Variables.CopiedTo`, `Variables.LieApart` : a copy, and slots that never meet again.
* `Variables.step_framed` : all of them, after any run of actions.
-/

namespace ScriptHost.Variables

open Store (Changes Apart)

variable {vars : Variables} {name : String} {action : Action} {slot last : Nat} {value : Value}

/-! ## What actions write -/

/-- An action through a slot writes a slot: this one, or for an assignment through indices the one
that the indices select. -/
inductive WritesAt (vars : Variables) (slot : Nat) : Action → Nat → Prop
  | set (right : Operand) : WritesAt vars slot (.set right) slot
  | replace (right : Operand) : WritesAt vars slot (.replace right) slot
  | assign (op : Operator) (right : Operand) : WritesAt vars slot (.assign op right) slot
  | call (method : String) (arguments : List Value) :
    WritesAt vars slot (.call method arguments) slot
  | pushText (text : String) : WritesAt vars slot (.pushText text) slot
  | pushItem (right : Operand) : WritesAt vars slot (.pushItem right) slot
  | unpack (bytes : List UInt8) : WritesAt vars slot (.unpack bytes) slot
  | assignAt {indices : List Value} {last : Nat} (right : Operand)
    (h : vars.store.SelectsSlot slot indices last ∨ vars.store.SelectsText slot indices last) :
    WritesAt vars slot (.assignAt indices right) last

/-- An action through a slot copies a value into a slot, in place of what it held. -/
inductive CopiesAt (vars : Variables) (slot : Nat) : Action → Value → Nat → Prop
  | set (right : Operand) : CopiesAt vars slot (.set right) (vars.operand right) slot
  | replace (right : Operand) : CopiesAt vars slot (.replace right) (vars.operand right) slot
  | unpack {bytes : List UInt8} {value : Value} (h : Value.unpack bytes = .ok value) :
    CopiesAt vars slot (.unpack bytes) value slot
  | assignAt {indices : List Value} {last : Nat} (right : Operand)
    (h : vars.store.SelectsSlot slot indices last) :
    CopiesAt vars slot (.assignAt indices right) (vars.operand right) last

/-- An action on a variable writes a slot. -/
def Writes (vars : Variables) (name : String) (action : Action) (last : Nat) : Prop :=
  (vars.slotOf name).2.WritesAt (vars.slotOf name).1 action last

/-- A slot neither is the one that an action on a variable writes nor holds it, however deeply. -/
def Spares (vars : Variables) (name : String) (action : Action) (slot : Nat) : Prop :=
  ∀ last, vars.Writes name action last → ¬ vars.store.Reaches slot last

/-- An action on a variable copies a value into a slot. -/
def Copies (vars : Variables) (name : String) (action : Action) (value : Value) (last : Nat) :
    Prop :=
  (vars.slotOf name).2.CopiesAt (vars.slotOf name).1 action value last

/-- The actions that bind their name to another slot. -/
def Action.binds : Action → Bool
  | .new _ | .alias _ | .element _ _ => true
  | _ => false

theorem WritesAt.reaches (h : vars.WritesAt slot action last) : vars.store.Reaches slot last := by
  cases h with
  | assignAt right h => exact h.elim (·.reaches) (·.reaches)
  | set | replace | assign | call | pushText | pushItem | unpack => exact .here

theorem CopiesAt.writes (h : vars.CopiesAt slot action value last) :
    vars.WritesAt slot action last := by
  cases h with
  | set right => exact .set right
  | replace right => exact .replace right
  | unpack => exact .unpack _
  | assignAt right h => exact .assignAt right (.inl h)

/-! ## Actions through a slot -/

/-- An action changes a slot that it writes, or one that was not there. -/
def ChangesAt (vars : Variables) (slot : Nat) (action : Action) (st : Store) : Prop :=
  ∃ last, Changes vars.store last st ∧ (vars.store.size ≤ last ∨ vars.WritesAt slot action last)

theorem ChangesAt.refl (h : vars.Sound) (slot : Nat) (action : Action) :
    vars.ChangesAt slot action vars.store :=
  ⟨vars.store.size, .refl h.forest _, .inl (Nat.le_refl _)⟩

theorem attempt_changes (h : vars.Sound) {outcome : Except Error Store}
    (houtcome : ∀ st, outcome = .ok st → vars.ChangesAt slot action st) :
    vars.ChangesAt slot action (vars.attempt outcome).2.store := by
  cases outcome with
  | error e => exact .refl h slot action
  | ok st => exact houtcome st rfl

theorem attemptFor_changes (h : vars.Sound) {outcome : Except Error (Value × Store)}
    (houtcome : ∀ result st, outcome = .ok (result, st) → vars.ChangesAt slot action st) :
    vars.ChangesAt slot action (vars.attemptFor outcome).2.store := by
  cases outcome with
  | error e => exact .refl h slot action
  | ok pair => exact houtcome pair.1 pair.2 rfl

theorem act_changes (h : vars.Sound) (hslot : slot < vars.store.size) (action : Action) :
    vars.ChangesAt slot action (vars.act slot action).2.store := by
  have hF := h.forest
  cases action with
  | set right => exact ⟨slot, .write hF hslot _, .inr (.set right)⟩
  | replace right => exact ⟨slot, .write hF hslot _, .inr (.replace right)⟩
  | assign op right =>
    apply attempt_changes h
    intro st hst
    exact ⟨slot, Store.combineAssign_changes hF hslot hst, .inr (.assign op right)⟩
  | assignAt indices right =>
    cases hassign : vars.store.assignAt slot indices (vars.operand right) with
    | error e =>
      rw [act, hassign]
      exact .refl h slot _
    | ok st =>
      obtain ⟨last, hlast, hchanges⟩ := Store.assignAt_changes hF hslot hassign
      rw [act, hassign]
      exact ⟨last, hchanges, .inr (.assignAt right hlast)⟩
  | call method arguments =>
    apply attemptFor_changes h
    intro result st hst
    exact ⟨slot, Store.callMethod_changes hF hslot hst, .inr (.call method arguments)⟩
  | pushText text =>
    rw [act, Variables.pushText]
    split
    · exact ⟨slot, .of_leaf hF hslot rfl, .inr (.pushText text)⟩
    · exact .refl h slot _
  | pushItem right =>
    rw [act, Variables.pushItem]
    split
    · rename_i slots hc
      exact ⟨slot, Store.append_changes hF hc hslot [vars.operand right], .inr (.pushItem right)⟩
    · exact .refl h slot _
  | unpack bytes =>
    apply attempt_changes h
    intro st hst
    cases hunpack : Value.unpack bytes with
    | error e =>
      rw [hunpack] at hst
      cases hst
    | ok value =>
      rw [hunpack] at hst
      cases hst
      exact ⟨slot, .write hF hslot value, .inr (.unpack bytes)⟩
  | new | «alias» | element | get | combine | subscript | sameSlot | compare | compareSelf | pack
    | print => exact .refl h slot _

/-- A value that is copied is written as it is into a slot of the store. -/
theorem CopiesAt.act_store (h : vars.CopiesAt slot action value last) (hvars : vars.Sound)
    (hslot : slot < vars.store.size) :
    last < vars.store.size ∧
      (vars.act slot action).2.store = Store.write value vars.store last := by
  refine ⟨hvars.forest.lt_size_of_reaches hslot h.writes.reaches, ?_⟩
  cases h with
  | set | replace => rfl
  | unpack hunpack =>
    rw [act, hunpack]
    rfl
  | assignAt right hselects =>
    obtain ⟨path, ⟨hpath, hnames, -⟩, hlast⟩ := hselects
    rw [act, Store.assignAt_element hpath hnames hlast]
    rfl

/-! ## Actions on variables -/

theorem step_eq_act (h : action.binds = false) :
    vars.step name action = (vars.slotOf name).2.act (vars.slotOf name).1 action := by
  cases action with
  | new | «alias» | element => cases h
  | set | replace | get | assign | combine | subscript | assignAt | call | pushText | pushItem
    | sameSlot | compare | compareSelf | pack | unpack | print => rfl

theorem Copies.step_eq_act (h : vars.Copies name action value last) :
    vars.step name action = (vars.slotOf name).2.act (vars.slotOf name).1 action := by
  apply Variables.step_eq_act
  unfold Copies at h
  cases h <;> rfl

/-- Asking for the slot of a name changes no slot, even if the name gets a new one. -/
theorem slotOf_store (vars : Variables) (name : String) :
    (vars.slotOf name).2.store = vars.store ∨ (vars.slotOf name).2.store = vars.store.extend := by
  unfold slotOf
  split
  · exact .inl rfl
  · exact .inr rfl

theorem slotOf_bindings (vars : Variables) (name : String) :
    (vars.slotOf name).2.bindings = vars.bindings := by
  unfold slotOf
  split <;> rfl

theorem size_le_slotOf (vars : Variables) (name : String) :
    vars.store.size ≤ (vars.slotOf name).2.store.size := by
  rcases vars.slotOf_store name with h | h
  · rw [h]
  · rw [h, Store.size_extend]
    omega

theorem reaches_slotOf {name : String} {other : Nat}
    (h : (vars.slotOf name).2.store.Reaches other last) : vars.store.Reaches other last := by
  rcases vars.slotOf_store name with hstore | hstore
  · rwa [hstore] at h
  · rw [hstore] at h
    induction h with
    | here => exact .here
    | element _ helement ih =>
      rw [Store.elements, Store.cell_extend] at helement
      exact ih.element helement

theorem changes_slotOf {st : Store} (h : Changes (vars.slotOf name).2.store last st) :
    Changes vars.store last st := by
  rcases vars.slotOf_store name with hstore | hstore
  · rwa [hstore] at h
  · rw [hstore] at h
    exact h.of_extend

/-- An action on a variable changes a slot that it writes, or one that was not there. -/
theorem step_changes (h : vars.Sound) (name : String) (action : Action) :
    ∃ last, Changes vars.store last (vars.step name action).2.store ∧
      (vars.store.size ≤ last ∨ vars.Writes name action last) := by
  have hidle : ∀ other, ∃ last, Changes vars.store last (vars.slotOf other).2.store ∧
      (vars.store.size ≤ last ∨ vars.Writes name action last) := fun other =>
    ⟨_, changes_slotOf (.refl (h.slotOf other).1.forest vars.store.size), .inl (Nat.le_refl _)⟩
  cases hbinds : action.binds with
  | false =>
    obtain ⟨hsound, hslot⟩ := h.slotOf name
    obtain ⟨last, hchanges, hlast⟩ := act_changes hsound hslot action
    rw [step_eq_act hbinds]
    exact ⟨last, changes_slotOf hchanges, hlast.imp_left (Nat.le_trans (vars.size_le_slotOf name))⟩
  | true =>
    cases action with
    | new value =>
      have hslot : vars.store.size < vars.store.extend.size := by
        rw [Store.size_extend]
        omega
      have hwrite := Changes.write h.forest.extend hslot value
      exact ⟨vars.store.size, hwrite.of_extend, .inl (Nat.le_refl _)⟩
    | «alias» other => exact hidle other
    | element other position =>
      simp only [step]
      split
      · exact hidle other
      · exact hidle other
    | set | replace | get | assign | combine | subscript | assignAt | call | pushText | pushItem
      | sameSlot | compare | compareSelf | pack | unpack | print => cases hbinds

/-! ## Bindings -/

theorem attempt_bindings (vars : Variables) (outcome : Except Error Store) :
    (vars.attempt outcome).2.bindings = vars.bindings := by
  cases outcome <;> rfl

theorem attemptFor_bindings (vars : Variables) (outcome : Except Error (Value × Store)) :
    (vars.attemptFor outcome).2.bindings = vars.bindings := by
  cases outcome <;> rfl

theorem act_bindings (vars : Variables) (slot : Nat) (action : Action) :
    (vars.act slot action).2.bindings = vars.bindings := by
  cases action with
  | assign | unpack => exact attempt_bindings vars _
  | assignAt | call => exact attemptFor_bindings vars _
  | pushText text =>
    rw [act, Variables.pushText]
    split <;> rfl
  | pushItem right =>
    rw [act, Variables.pushItem]
    split <;> rfl
  | new | «alias» | element | set | replace | get | combine | subscript | sameSlot | compare
    | compareSelf | pack | print => rfl

/-- An action binds no other name than the one it is on, and only some actions bind that one. -/
theorem lookup_step (vars : Variables) {other : String} (h : action.binds = false ∨ other ≠ name) :
    (vars.step name action).2.bindings.lookup other = vars.bindings.lookup other := by
  cases hbinds : action.binds with
  | false => rw [step_eq_act hbinds, act_bindings, slotOf_bindings]
  | true =>
    have hne : other ≠ name := h.resolve_left (by rw [hbinds]; exact Bool.noConfusion)
    cases action with
    | new value => exact Bindings.lookup_rebind_of_ne hne
    | «alias» source =>
      simp only [step, bind]
      rw [Bindings.lookup_rebind_of_ne hne, slotOf_bindings]
    | element source position =>
      simp only [step]
      split
      · simp only [bind]
        rw [Bindings.lookup_rebind_of_ne hne, slotOf_bindings]
      · dsimp only
        rw [slotOf_bindings]
    | set | replace | get | assign | combine | subscript | assignAt | call | pushText | pushItem
      | sameSlot | compare | compareSelf | pack | unpack | print => cases hbinds

/-! ## Runs of actions -/

theorem after_concat (actions : List (String × Action)) (name : String) (action : Action) :
    after (actions ++ [(name, action)]) = ((after actions).step name action).2 := by
  rw [after, List.foldl_append]
  rfl

/-- Slots that lie apart stay apart, whatever is done later. -/
theorem apart_after {actions : List (String × Action)} {left right : Nat}
    (hleft : left < (after actions).store.size) (hright : right < (after actions).store.size)
    (hapart : Apart (after actions).store left right) (later : List (String × Action)) :
    let st := (after (actions ++ later)).store
    left < st.size ∧ right < st.size ∧ Apart st left right := by
  induction later generalizing actions with
  | nil =>
    rw [List.append_nil]
    exact ⟨hleft, hright, hapart⟩
  | cons head later ih =>
    obtain ⟨name, action⟩ := head
    have hsound := (reachable_after actions).sound
    obtain ⟨last, hchanges, -⟩ := step_changes hsound name action
    rw [List.append_cons]
    apply ih
    · rw [after_concat]
      exact Nat.lt_of_lt_of_le hleft hchanges.grows
    · rw [after_concat]
      exact Nat.lt_of_lt_of_le hright hchanges.grows
    · rw [after_concat]
      exact hchanges.apart hsound.forest hleft hright hapart

/-- A slot that does not hold the written slot shows after an action what it showed before, and
what becomes new lies apart from it. -/
theorem Sound.step_snapshot (h : vars.Sound) (hslot : slot < vars.store.size)
    (hspares : vars.Spares name action slot) :
    (vars.step name action).2.store.snapshot slot = vars.store.snapshot slot ∧
      ∀ new, vars.store.size ≤ new → (vars.step name action).2.store.Apart slot new := by
  obtain ⟨last, hchanges, hlast⟩ := step_changes h name action
  have hapart : ¬ vars.store.Reaches slot last :=
    hlast.elim (h.forest.not_reaches_new hslot) (hspares last)
  exact ⟨hchanges.snapshot_eq h.forest hslot hapart,
    fun new => hchanges.apart_new h.forest hslot hapart⟩

/-- An action through a slot that lies in another one is seen in no slot that is apart from it. -/
theorem Sound.step_apart (h : vars.Sound) {left right : Nat} (hleft : left < vars.store.size)
    (hapart : Apart vars.store left right)
    (hright : vars.store.Reaches right (vars.slotOf name).1) (action : Action) :
    (vars.step name action).2.store.snapshot left = vars.store.snapshot left := by
  refine (h.step_snapshot hleft fun last hlast => ?_).1
  exact h.forest.not_reaches_of_apart hapart (hright.trans (reaches_slotOf hlast.reaches))

/-- What is copied is shown where it is copied to. All that lies in the copy is new, and the copy
lies apart from every slot that does not hold it. -/
structure CopiedTo (vars next : Variables) (value : Value) (slot : Nat) : Prop where
  reads : next.store.read slot = value
  new : ∀ inner, next.store.Reaches slot inner → inner = slot ∨ vars.store.size ≤ inner
  apart : ∀ other < vars.store.size, ¬ vars.store.Reaches other slot → next.store.Apart other slot

theorem Sound.step_copies (h : vars.Sound) (hcopies : vars.Copies name action value slot) :
    CopiedTo vars (vars.step name action).2 value slot := by
  obtain ⟨hsound, hown⟩ := h.slotOf name
  obtain ⟨hslot, hwrite⟩ := hcopies.act_store hsound hown
  have hsize := vars.size_le_slotOf name
  constructor <;> rw [hcopies.step_eq_act, hwrite]
  · exact (Store.write_written hsound.forest hslot value).reads
  · intro inner hinner
    exact (Store.reaches_write hsound.forest hslot hinner).imp_right (Nat.le_trans hsize)
  · intro other hother hreach
    apply Store.apart_write hsound.forest hslot value (Nat.lt_of_lt_of_le hother hsize)
    exact fun h' => hreach (reaches_slotOf h')

/-- A variable whose slot is spared shows the same value, with the same strings in it, and all that
is new lies apart from it. Every variable keeps its slot, unless it is bound anew. -/
structure Framed (vars next : Variables) (name : String) (action : Action) : Prop where
  snapshot : ∀ other slot, vars.bindings.lookup other = some slot → vars.Spares name action slot →
    next.store.snapshot slot = vars.store.snapshot slot
  apart : ∀ other slot, vars.bindings.lookup other = some slot → vars.Spares name action slot →
    ∀ new, vars.store.size ≤ new → next.store.Apart slot new
  binding : ∀ other slot, vars.bindings.lookup other = some slot →
    action.binds = false ∨ other ≠ name → next.bindings.lookup other = some slot

/-- An element that leaves its array shows what it showed. What becomes an element of an array was
one of it before, or is new with all that lies in it. -/
structure ElementsFramed (vars next : Variables) : Prop where
  lost : ∀ array element, element ∈ vars.store.elements array →
    element ∉ next.store.elements array →
      next.store.snapshot element = vars.store.snapshot element
  gained : ∀ array element, element ∈ next.store.elements array →
    element ∈ vars.store.elements array ∨
      ∀ inner, next.store.Reaches element inner → vars.store.size ≤ inner

/-- Two slots lie apart: whatever is done through one of them, or through anything that lies in it,
is not seen in the other one. -/
structure LieApart (vars : Variables) (left right : Nat) : Prop where
  apart : Apart vars.store left right
  symm : Apart vars.store right left
  unseen : ∀ user change, vars.store.Reaches right (vars.slotOf user).1 →
    (vars.step user change).2.store.snapshot left = vars.store.snapshot left

theorem Sound.framed (h : vars.Sound) (name : String) (action : Action) :
    Framed vars (vars.step name action).2 name action where
  snapshot _ _ hother hspares :=
    (h.step_snapshot (h.bound _ (Bindings.mem_of_lookup hother)) hspares).1
  apart _ _ hother hspares :=
    (h.step_snapshot (h.bound _ (Bindings.mem_of_lookup hother)) hspares).2
  binding _ _ hother hbinds := (lookup_step vars hbinds).trans hother

theorem Sound.elementsFramed (h : vars.Sound) (name : String) (action : Action) :
    ElementsFramed vars (vars.step name action).2 := by
  obtain ⟨last, hchanges, -⟩ := step_changes h name action
  refine ⟨fun array element => hchanges.snapshot_lost h.forest, fun array element helement => ?_⟩
  refine (hchanges.mem_elements helement).imp_right fun hnew inner hinner => ?_
  exact Nat.le_trans hnew (hchanges.forest.le_of_reaches hinner)

/-- After any run of actions, let an action be made on a variable, whatever slots are shared. What
does not hold the written slot shows what it showed, and so does an element that leaves its array.
What is copied is new where it is copied to. What lies apart stays apart, whatever is done later. -/
theorem step_framed (actions : List (String × Action)) (name : String) (action : Action) :
    let vars := after actions
    let next := (vars.step name action).2
    Framed vars next name action ∧ ElementsFramed vars next ∧
    (∀ value slot, vars.Copies name action value slot → CopiedTo vars next value slot) ∧
    ∀ left right, left < vars.store.size → right < vars.store.size →
      Apart vars.store left right → ∀ later : List (String × Action),
        LieApart (after (actions ++ later)) left right := by
  intro vars next
  have hsound := (reachable_after actions).sound
  refine ⟨hsound.framed name action, hsound.elementsFramed name action,
    fun value slot => hsound.step_copies, fun left right hleft hright hapart later => ?_⟩
  obtain ⟨hleft', -, hapart'⟩ := apart_after hleft hright hapart later
  refine ⟨hapart', hapart'.symm, fun user change huser => ?_⟩
  exact (reachable_after _).sound.step_apart hleft' hapart' huser change

/-- A copy is made, and then changed through a name of its element. -/
theorem step_framed_copy :
    let actions : List (String × Action) :=
      [("b", .new .uninit), ("a", .new (.array [.array [.integer 1], .string "x"]))]
    let copy : String × Action := ("b", .set (.copyOf "a"))
    let copied := after (actions ++ [copy])
    let last := after (actions ++ [copy] ++ [("e", .element "b" 0)])
    copied.store.snapshot 1 = (after actions).store.snapshot 1 ∧ copied.store.Apart 1 0 ∧
      (last.step "e" (.pushItem (.literal (.integer 2)))).2.store.snapshot 1 =
        last.store.snapshot 1 := by
  intro actions copy copied last
  have hforest := (reachable_after actions).sound.forest
  have hreach : ¬ (after actions).store.Reaches 1 0 := fun h =>
    absurd (hforest.le_of_reaches h) (by decide)
  obtain ⟨hframed, -, hcopies, -⟩ := step_framed actions "b" (.set (.copyOf "a"))
  have hsnapshot := hframed.snapshot "a" 1 rfl (by rintro _ ⟨⟩; exact hreach)
  have hapart := (hcopies _ 0 (.set _)).apart 1 (by decide +kernel) hreach
  obtain ⟨-, -, -, hlater⟩ := step_framed (actions ++ [copy]) "b" .get
  have hlie := hlater 1 0 (by decide +kernel) (by decide +kernel) hapart [("e", .element "b" 0)]
  exact ⟨hsnapshot, hapart, hlie.unseen "e" _ (.element .here (by decide +kernel))⟩

/-- An element of an array, and of a copy of it, under names of their own: a change of the one is
not seen in the other, nor is it after the element has left its array. -/
example :
    let vars := after [("a", .new (.array [.array [.integer 1], .string "x"])),
      ("b", .new .uninit), ("b", .set (.copyOf "a")), ("e", .element "a" 0),
      ("e", .pushItem (.literal (.integer 2))), ("f", .element "b" 0),
      ("a", .call "erase" [.integer 1]), ("e", .assignAt [.integer 1] (.literal (.integer 9)))]
    vars.values = [("f", .array [.integer 1]), ("e", .array [.integer 9, .integer 2]),
      ("b", .array [.array [.integer 1], .string "x"]), ("a", .array [.string "x"])] := by
  cbv

end ScriptHost.Variables
