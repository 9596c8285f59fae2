import ScriptHost.Proofs.Store.Frame
import ScriptHost.Proofs.Store.NewSlots

/-!
# What is known of an array and its aliases

Elements of an array that are known by their slots stay apart from each other, in the array or out
of it: no slot but that of the array ever has them as elements, and they lie behind it.

* `Store.Known` : a slot that is, or was, an element of an array.
* `SharedArray.Sound` : what holds of an array with its aliases.
* `SharedArray.Sound.edited` : the elements exchanged for others; those that were there show what
  they showed.
* `SharedArray.Sound.written` : a value written into a known slot.
-/

namespace ScriptHost

namespace Store

/-- A slot that is an element of the array in another slot, or was one and is in no array now. -/
structure Known (st : Store) (array element : Nat) : Prop where
  younger : array < element
  old : element < st.size
  single : ∀ other, element ∈ st.elements other → other = array

variable {st st' : Store} {array element other last : Nat} {slots : List Nat}

theorem Forest.known (hF : st.Forest) (hslots : st.cell array = .array slots)
    (h : element ∈ slots) : st.Known array element := by
  obtain ⟨hyounger, hold⟩ := hF.younger_of_cell hslots h
  refine ⟨hyounger, hold, fun other hother => hF.single hother ?_⟩
  rwa [elements_of_cell hslots]

namespace Known

theorem changes (h : st.Known array element) (hchanges : Changes st last st') :
    st'.Known array element := by
  refine ⟨h.younger, Nat.lt_of_lt_of_le h.old hchanges.grows, fun other hother => ?_⟩
  rcases hchanges.mem_elements hother with hmem | hnew
  · exact h.single other hmem
  · exact absurd h.old (Nat.not_lt_of_le hnew)

theorem not_reaches_array (h : st.Known array element) (hF : st.Forest) :
    ¬ st.Reaches element array := fun hreach =>
  Nat.not_le_of_lt h.younger (hF.le_of_reaches hreach)

/-- Known slots do not lie in one another. -/
theorem eq_of_reaches (h : st.Known array element) (h' : st.Known array other) (hF : st.Forest)
    (hreach : st.Reaches other element) : other = element := by
  cases hreach with
  | here => rfl
  | @element inner _ hinner helement =>
    obtain rfl := h.single inner helement
    exact absurd hinner (h'.not_reaches_array hF)

/-- A change of the array is not seen in a known slot. -/
theorem entry_of_changes (h : st.Known array element) (hF : st.Forest)
    (hchanges : Changes st array st') : st'.entry element = st.entry element := by
  have hsnapshot := hchanges.snapshot_eq hF h.old (h.not_reaches_array hF)
  rw [entry, entry, read, hsnapshot, read]

/-- A value written into a known slot is seen there, and in no other known slot. -/
theorem entry_write (h : st.Known array element) (h' : st.Known array other) (hF : st.Forest)
    (value : Value) : (Store.write value st element).entry other =
      (st.entry other).write element value := by
  rw [Entry.write, entry, entry]
  by_cases heq : other = element
  · rw [heq, (write_written hF h.old value).reads, if_pos rfl]
  · have hreach : ¬ st.Reaches other element := fun hreach => heq (h.eq_of_reaches h' hF hreach)
    have hsnapshot := (Changes.write hF h.old value).snapshot_eq hF h'.old hreach
    rw [if_neg heq, read, hsnapshot, read]

end Known

end Store

theorem ArrayObject.slots_of_cell {a : ArrayObject} {slots : List Nat}
    (h : a.store.cell a.slot = .array slots) : a.slots = slots := by
  rw [ArrayObject.slots, Store.items?, h]
  rfl

namespace SharedArray

open Store (Changes Known)

/-- The slots form a forest, one of them holds the array, and the aliases are of its elements, or of
what once were its elements. -/
structure Sound (s : SharedArray) : Prop where
  forest : s.array.store.Forest
  holds : s.array.store.cell s.array.slot = .array s.slots
  known : ∀ element ∈ s.aliases, s.array.store.Known s.array.slot element

namespace Sound

variable {s : SharedArray} {st : Store} {slots added : List Nat} {element last : Nat}

theorem known_element (h : s.Sound) (helement : element ∈ s.slots) :
    s.array.store.Known s.array.slot element :=
  h.forest.known h.holds helement

theorem slot_lt (h : s.Sound) : s.array.slot < s.array.store.size :=
  Store.lt_size_of_cell h.holds

theorem withStore (h : s.Sound) (hchanges : Changes s.array.store last st)
    (hholds : st.cell s.array.slot = .array slots) :
    (s.withStore st).Sound ∧ (s.withStore st).slots = slots := by
  have hslots : (s.withStore st).slots = slots := ArrayObject.slots_of_cell hholds
  exact ⟨⟨hchanges.forest, hslots ▸ hholds, fun element helement =>
    (h.known element helement).changes hchanges⟩, hslots⟩

/-- The elements exchanged for others. Those that were there show what they showed. -/
theorem edited (h : s.Sound) (hchanges : Changes s.array.store s.array.slot st)
    (hholds : st.cell s.array.slot = .array slots) :
    (s.withStore st).Sound ∧
      (s.withStore st).listing =
        { s.listing with entries := slots.map st.entry, next := st.size } ∧
      ∀ element ∈ s.slots, st.entry element = s.array.store.entry element := by
  obtain ⟨hsound, hslots⟩ := h.withStore hchanges hholds
  refine ⟨hsound, ?_, fun element helement =>
    (h.known_element helement).entry_of_changes h.forest hchanges⟩
  have haliases : s.aliases.map st.entry = s.aliases.map s.array.store.entry :=
    List.map_congr_left fun element helement =>
      (h.known element helement).entry_of_changes h.forest hchanges
  rw [listing, hslots]
  exact congrArg (SlotList.mk _ · _) haliases

/-- A value written into a known slot. -/
theorem written (h : s.Sound) (hknown : s.array.store.Known s.array.slot element) (value : Value) :
    (s.withStore (Store.write value s.array.store element)).Sound ∧
      (s.withStore (Store.write value s.array.store element)).listing =
        s.listing.write element value := by
  have hchanges := Changes.write h.forest hknown.old value
  have hholds := h.holds
  rw [← hchanges.frame s.array.slot h.slot_lt (Nat.ne_of_lt hknown.younger)] at hholds
  obtain ⟨hsound, hslots⟩ := h.withStore hchanges hholds
  refine ⟨hsound, ?_⟩
  have hentry : ∀ other, s.array.store.Known s.array.slot other →
      (Store.write value s.array.store element).entry other =
        (s.array.store.entry other).write element value := fun other hother =>
    hknown.entry_write hother h.forest value
  have hentries : s.slots.map (Store.write value s.array.store element).entry =
      (s.slots.map s.array.store.entry).map (Entry.write element value) := by
    rw [List.map_map]
    exact List.map_congr_left fun other hother => hentry other (h.known_element hother)
  have haliases : s.aliases.map (Store.write value s.array.store element).entry =
      (s.aliases.map s.array.store.entry).map (Entry.write element value) := by
    rw [List.map_map]
    exact List.map_congr_left fun other hother => hentry other (h.known other hother)
  rw [listing, hslots]
  exact congr (congr (congrArg SlotList.mk hentries) haliases) (Store.size_write _ _ _)

end Sound

end SharedArray

end ScriptHost
