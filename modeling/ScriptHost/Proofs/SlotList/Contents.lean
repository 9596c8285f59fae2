import Mathlib.Data.List.InsertIdx
import ScriptHost.SlotList

/-!
# The values and the slots of a list

The values in a list of slots change as those of a plain list do. Its slots are those that it had
before and new ones, so a slot that was in use and is taken out stays out.

* `Entry.values_write` : writing into a slot exchanges one value.
* `SlotList.step_plain` : the values after a request.
* `SlotList.Follows`, `SlotList.step_follows` : the slots after a request.
-/

namespace ScriptHost

namespace Entry

variable {entry : Entry} {entries : List Entry} {slot next position : Nat} {value : Value}

/-! ## New entries -/

theorem values_newAll (next : Nat) (values : List Value) :
    (newAll next values).map Entry.value = values := by
  induction values generalizing next with
  | nil => rfl
  | cons value values ih => rw [newAll, List.map_cons, ih]

theorem le_of_mem_newAll {values : List Value} (h : entry ∈ newAll next values) :
    next ≤ entry.slot := by
  induction values generalizing next with
  | nil => cases h
  | cons value values ih =>
    rcases List.mem_cons.mp h with rfl | h
    · exact Nat.le_refl next
    · have hlater := ih h
      omega

/-! ## Written entries -/

theorem slot_write (slot : Nat) (value : Value) (entry : Entry) :
    (entry.write slot value).slot = entry.slot := by
  unfold write
  split
  · rfl
  · rfl

theorem slots_write (slot : Nat) (value : Value) (entries : List Entry) :
    (entries.map (write slot value)).map Entry.slot = entries.map Entry.slot := by
  rw [List.map_map]
  exact List.map_congr_left fun entry _ => slot_write slot value entry

/-- Writing into a slot of no entry changes nothing. -/
theorem write_outside (h : slot ∉ entries.map Entry.slot) (value : Value) :
    entries.map (write slot value) = entries := by
  refine (List.map_congr_left fun entry hentry => ?_).trans (List.map_id entries)
  apply if_neg
  rintro rfl
  exact h (List.mem_map_of_mem hentry)

/-- Writing into a slot exchanges one value, if the slots are distinct. -/
theorem values_write (hdistinct : (entries.map Entry.slot).Nodup)
    (hslot : (entries.map Entry.slot)[position]? = some slot) (value : Value) :
    (entries.map (write slot value)).map Entry.value =
      (entries.map Entry.value).set position value := by
  induction entries generalizing position with
  | nil => cases hslot
  | cons entry entries ih =>
    rw [List.map_cons, List.nodup_cons] at hdistinct
    obtain ⟨hfirst, hrest⟩ := hdistinct
    cases position with
    | zero =>
      obtain rfl : entry.slot = slot := Option.some.inj hslot
      have hwritten : entry.write entry.slot value = { entry with value } := if_pos rfl
      rw [List.map_cons, hwritten, write_outside hfirst]
      rfl
    | succ position =>
      have hother : entry.slot ≠ slot := by
        rintro rfl
        exact hfirst (List.mem_of_getElem? hslot)
      have hkept : entry.write slot value = entry := if_neg hother
      rw [List.map_cons, hkept, List.map_cons, ih hrest hslot]
      rfl

end Entry

namespace SlotList

open SharedArray (Request place? plainly)

variable {l l' l'' : SlotList} {slot position : Nat}

/-! ## Values -/

theorem values_append (l : SlotList) (values : List Value) :
    (l.append values).values = l.values ++ values := by
  rw [SlotList.values, append, List.map_append, Entry.values_newAll, SlotList.values]

theorem values_insert (l : SlotList) (position : Nat) (value : Value) :
    (l.insert position value).values = l.values.insertIdx position value :=
  List.map_insertIdx _ _ _ _

theorem values_erase (l : SlotList) (position : Nat) :
    (l.erase position).values = l.values.eraseIdx position :=
  (List.eraseIdx_map _ _ _).symm

theorem values_write (hdistinct : l.slots.Nodup) (hslot : l.slots[position]? = some slot)
    (value : Value) : (l.write slot value).values = l.values.set position value :=
  Entry.values_write hdistinct hslot value

theorem length_values (l : SlotList) : l.values.length = l.entries.length := List.length_map _

theorem values_insert_outside (h : l.entries.length < position) (value : Value) :
    l.values.insertIdx position value = l.values :=
  List.insertIdx_of_length_lt (by rwa [length_values])

theorem values_erase_outside (h : l.entries[position]? = none) :
    l.values.eraseIdx position = l.values :=
  List.eraseIdx_of_length_le (by rwa [length_values, ← List.getElem?_eq_none_iff])

theorem insert_plain (l : SlotList) (first value : Value) :
    (l.finish (l.callMethod .insert [first, value])).2.values =
      plainly l.values .insert [first, value] := by
  cases first with
  | integer n =>
    simp only [callMethod, plainly, place?]
    by_cases hlow : 1 ≤ n.toInt
    · rw [if_pos hlow]
      by_cases hhigh : n.toInt ≤ l.entries.length + 1
      · rw [if_pos ⟨hlow, hhigh⟩]
        exact l.values_insert _ _
      · have houtside : l.entries.length < n.toInt.toNat - 1 := by omega
        rw [if_neg (fun h => hhigh h.2)]
        exact (values_insert_outside houtside value).symm
    · rw [if_neg hlow, if_neg (fun h => hlow h.1)]
      rfl
  | uninit | boolean | double | string | array => rfl

theorem erase_plain (l : SlotList) (first : Value) :
    (l.finish (l.callMethod .erase [first])).2.values = plainly l.values .erase [first] := by
  cases first with
  | integer n =>
    simp only [callMethod, plainly, place?, named?]
    by_cases hlow : 1 ≤ n.toInt
    · rw [if_pos hlow, if_pos hlow]
      cases hentry : l.entries[n.toInt.toNat - 1]? with
      | none => exact (values_erase_outside hentry).symm
      | some entry => exact l.values_erase _
    · rw [if_neg hlow, if_neg hlow]
      rfl
  | uninit | boolean | double | string | array => rfl

theorem method_plain (l : SlotList) (method : Method) (arguments : List Value) :
    (l.finish (l.callMethod method arguments)).2.values = plainly l.values method arguments := by
  cases method with
  | append =>
    rcases arguments with _ | ⟨first, rest⟩
    · exact (List.append_nil _).symm
    · exact l.values_append _
  | insert =>
    rcases arguments with _ | ⟨first, _ | ⟨second, _ | ⟨third, rest⟩⟩⟩
    · rfl
    · rfl
    · exact l.insert_plain first second
    · rfl
  | erase =>
    rcases arguments with _ | ⟨first, _ | ⟨second, rest⟩⟩
    · rfl
    · exact l.erase_plain first
    · rfl
  | reverse =>
    rcases arguments with _ | ⟨first, rest⟩
    · exact List.map_reverse
    · rfl
  | size =>
    rcases arguments with _ | ⟨first, rest⟩
    · rfl
    · rfl
  | length | upper | lower | find | trim | replace | subreplace | substr | split | join
  | isValidUnicode | utf16 | utf32 => rfl

/-- The values after a request are those of a plain list. -/
theorem step_plain (hdistinct : l.slots.Nodup) (request : Request) :
    (l.step request).2.values = request.plain l.position? l.values := by
  cases request with
  | call name arguments =>
    rw [step, call, Request.plain]
    cases Method.lookup? name with
    | none => rfl
    | some method => exact l.method_plain method arguments
  | push value => exact l.values_append [value]
  | insert position value =>
    rw [step, Request.plain]
    split
    · exact l.values_insert position value
    · exact (values_insert_outside (Nat.lt_of_not_le ‹_›) value).symm
  | remove position =>
    rw [step, Request.plain]
    cases hentry : l.entries[position]? with
    | none => exact (values_erase_outside hentry).symm
    | some entry => exact l.values_erase position
  | set position value =>
    rw [step, Request.plain]
    cases hentry : l.entries[position]? with
    | none =>
      have hlength : l.values.length ≤ position := by
        rwa [length_values, ← List.getElem?_eq_none_iff]
      exact (List.set_eq_of_length_le hlength).symm
    | some entry =>
      apply values_write hdistinct
      rw [slots, List.getElem?_map, hentry]
      rfl
  | removeEqual value =>
    rw [step, Request.plain, SlotList.values, SlotList.values, List.filter_map]
    rfl
  | take position =>
    rw [step, Request.plain]
    cases l.entries[position]? with
    | none => rfl
    | some entry => rfl
  | read index =>
    rw [step, Request.plain]
    cases l.aliases[index]? with
    | none => rfl
    | some entry => rfl
  | write index value =>
    rw [step, Request.plain, position?]
    cases l.aliases[index]? with
    | none => rfl
    | some entry =>
      simp only [Option.bind_some]
      cases hposition : l.slots.idxOf? entry.slot with
      | none =>
        have houtside := List.idxOf?_eq_none_iff.mp hposition
        exact congrArg (List.map Entry.value) (Entry.write_outside houtside value)
      | some position =>
        obtain ⟨hlt, hslot, _⟩ := List.idxOf?_eq_some_iff.mp hposition
        exact values_write hdistinct (List.getElem?_eq_some_iff.mpr ⟨hlt, hslot⟩) value

/-! ## Slots -/

/-- The slots are those of the list before, or new ones. -/
structure Follows (l l' : SlotList) : Prop where
  grows : l.next ≤ l'.next
  slots : ∀ slot ∈ l'.slots, slot ∈ l.slots ∨ l.next ≤ slot

theorem Follows.of_subset (hgrows : l.next ≤ l'.next) (hslots : l'.slots ⊆ l.slots) :
    Follows l l' :=
  ⟨hgrows, fun _ hslot => Or.inl (hslots hslot)⟩

theorem Follows.refl (l : SlotList) : Follows l l :=
  .of_subset (Nat.le_refl _) (List.Subset.refl _)

/-- A slot that was in use and is not in the list does not come back. -/
theorem Follows.not_mem (h : Follows l l') (hold : slot < l.next) (hslot : slot ∉ l.slots) :
    slot < l'.next ∧ slot ∉ l'.slots := by
  refine ⟨Nat.lt_of_lt_of_le hold h.grows, fun hmem => ?_⟩
  rcases h.slots slot hmem with hbefore | hnew
  · exact hslot hbefore
  · exact absurd hold (Nat.not_lt_of_le hnew)

theorem append_follows (l : SlotList) (values : List Value) : Follows l (l.append values) := by
  refine ⟨Nat.le_add_right _ _, fun slot hslot => ?_⟩
  rw [slots, append, List.map_append] at hslot
  rcases List.mem_append.mp hslot with hold | hnew
  · exact Or.inl hold
  · obtain ⟨entry, hentry, rfl⟩ := List.mem_map.mp hnew
    exact Or.inr (Entry.le_of_mem_newAll hentry)

theorem insert_follows (l : SlotList) (position : Nat) (value : Value) :
    Follows l (l.insert position value) := by
  refine ⟨by simp only [insert]; omega, fun slot hslot => ?_⟩
  rw [slots, insert, List.map_insertIdx] at hslot
  rcases List.eq_or_mem_of_mem_insertIdx hslot with rfl | hold
  · exact Or.inr (Nat.le_refl _)
  · exact Or.inl hold

theorem erase_follows (l : SlotList) (position : Nat) : Follows l (l.erase position) := by
  refine .of_subset (Nat.le_refl l.next) ?_
  exact List.map_subset _ List.eraseIdx_subset

theorem dropEqual_follows (l : SlotList) (value : Value) : Follows l (l.dropEqual value) := by
  refine .of_subset (Nat.le_refl l.next) ?_
  exact List.map_subset _ List.filter_sublist.subset

theorem reverse_follows (l : SlotList) : Follows l l.reverse := by
  refine .of_subset (Nat.le_refl l.next) ?_
  exact List.map_subset _ (List.reverse_subset.mpr (List.Subset.refl _))

theorem slots_write (l : SlotList) (slot : Nat) (value : Value) :
    (l.write slot value).slots = l.slots :=
  Entry.slots_write slot value l.entries

theorem write_follows (l : SlotList) (slot : Nat) (value : Value) :
    Follows l (l.write slot value) := by
  apply Follows.of_subset (Nat.le_add_right _ _)
  rw [slots_write]
  exact List.Subset.refl _

theorem method_follows (l : SlotList) (method : Method) (arguments : List Value) :
    Follows l (l.finish (l.callMethod method arguments)).2 := by
  unfold callMethod
  split
  · exact .refl l
  · exact l.append_follows _
  · split
    · split
      · exact l.insert_follows _ _
      · exact .refl l
    · exact .refl l
  · split
    · split
      · exact l.erase_follows _
      · exact .refl l
    · exact .refl l
  · exact l.reverse_follows
  · split
    · exact .refl l
    · exact .refl l

/-- The slots after a request are those before, or new ones. -/
theorem step_follows (l : SlotList) (request : Request) : Follows l (l.step request).2 := by
  cases request with
  | call name arguments =>
    rw [step, call]
    cases Method.lookup? name with
    | none => exact .refl l
    | some method => exact l.method_follows method arguments
  | push value => exact l.append_follows [value]
  | insert position value =>
    rw [step]
    split
    · exact l.insert_follows position value
    · exact .refl l
  | remove position =>
    rw [step]
    split
    · exact l.erase_follows position
    · exact .refl l
  | set position value =>
    rw [step]
    split
    · exact l.write_follows _ value
    · exact .refl l
  | removeEqual value => exact l.dropEqual_follows value
  | take position =>
    rw [step]
    split
    · exact .of_subset (Nat.le_refl _) (List.Subset.refl _)
    · exact .refl l
  | read index =>
    rw [step]
    split
    · exact .refl l
    · exact .refl l
  | write index value =>
    rw [step]
    split
    · exact l.write_follows _ value
    · exact .refl l

end SlotList

end ScriptHost
