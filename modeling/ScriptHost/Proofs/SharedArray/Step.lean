import Mathlib.Data.List.InsertIdx
import ScriptHost.Proofs.SharedArray.Sound
import ScriptHost.Proofs.Variables.Span

/-!
# Every request is one to a list of slots

What the methods of scripts and the actions of the host make of an array, they make of the list of
its slots and values, with the same reply.

* `SharedArray.Leaves` : an array and its list after a change of the store.
* `SharedArray.Sound.step_agrees` : any request.
* `SharedArray.run_listing` : any number of requests.
-/

namespace ScriptHost.SharedArray

open Store (Changes)

variable {s : SharedArray} {element position : Nat} {value : Value}

/-! ## Changes of the elements -/

/-- The array and its list after a change of the store. -/
def Leaves (s : SharedArray) (st : Store) (l : SlotList) : Prop :=
  (s.withStore st).Sound ∧ (s.withStore st).listing = l

namespace Sound

theorem appended (h : s.Sound) (values : List Value) :
    s.Leaves (s.array.store.append s.array.slot s.slots values) (s.listing.append values) := by
  have hplaced := Store.placeAll_placed h.forest values
  have hchanges := Store.append_changes h.forest h.holds h.slot_lt values
  have hslot := Nat.lt_of_lt_of_le h.slot_lt hplaced.grows
  obtain ⟨hsound, hlisting, hkept⟩ := h.edited hchanges (Store.cell_put_self hslot _)
  refine ⟨hsound, hlisting.trans ?_⟩
  have hreads : (Store.placeAll values s.array.store).1.map
      (s.array.store.append s.array.slot s.slots values).read = values := by
    refine (List.map_congr_left fun element helement => ?_).trans hplaced.reads
    apply hplaced.layered.read_put_of_lt hchanges.forest.toLayered
    exact Nat.lt_of_lt_of_le h.slot_lt (hplaced.fresh element helement).1
  have hsize : (s.array.store.append s.array.slot s.slots values).size = _ :=
    (Store.size_put _ _ _).trans (Store.size_placeAll values s.array.store)
  rw [List.map_append, Store.entries_placeAll hreads, List.map_congr_left hkept, hsize]
  rfl

theorem inserted (h : s.Sound) (hposition : position ≤ s.slots.length) (value : Value) :
    ∃ st, s.array.store.insertItem s.array.slot s.slots position value = some st ∧
      s.Leaves st (s.listing.insert position value) := by
  have hinsert : s.array.store.insertItem s.array.slot s.slots position value =
      some ((Store.place value s.array.store).2.put s.array.slot
        (.array (s.slots.insertIdx position s.array.store.size))) := if_pos hposition
  have hplaced := Store.place_placed h.forest value
  have hchanges := Store.insertItem_changes h.forest h.holds h.slot_lt hinsert
  have hslot := Nat.lt_of_lt_of_le h.slot_lt hplaced.grows
  obtain ⟨hsound, hlisting, hkept⟩ := h.edited hchanges (Store.cell_put_self hslot _)
  refine ⟨_, hinsert, hsound, hlisting.trans ?_⟩
  have hread := hplaced.layered.read_put_of_lt hchanges.forest.toLayered h.slot_lt
  have hvalue : (Store.place value s.array.store).2.read s.array.store.size = value :=
    (List.cons.inj hplaced.reads).1
  have hsize : (Store.place value s.array.store).2.size = _ :=
    Store.size_write value s.array.store.extend s.array.store.size
  rw [List.map_insertIdx, List.map_congr_left hkept, Store.entry, hread, hvalue, Store.size_put,
    hsize, Store.size_extend]
  rfl

theorem removed (h : s.Sound) (position : Nat) :
    s.Leaves (s.array.store.put s.array.slot (.array (s.slots.eraseIdx position)))
      (s.listing.erase position) := by
  have hchanges := Changes.of_sublist h.forest h.holds h.slot_lt
    (List.eraseIdx_sublist s.slots position)
  obtain ⟨hsound, hlisting, hkept⟩ := h.edited hchanges (Store.cell_put_self h.slot_lt _)
  refine ⟨hsound, hlisting.trans ?_⟩
  rw [← List.eraseIdx_map, List.map_congr_left hkept, Store.size_put]
  rfl

theorem dropped (h : s.Sound) (value : Value) :
    s.Leaves (s.array.store.dropEqual s.array.slot s.slots value) (s.listing.dropEqual value) := by
  have hkeep : (s.array.store.keepUnequal s.slots value).Sublist s.slots := List.filter_sublist
  have hchanges := Changes.of_sublist h.forest h.holds h.slot_lt hkeep
  obtain ⟨hsound, hlisting, hkept⟩ := h.edited hchanges (Store.cell_put_self h.slot_lt _)
  refine ⟨hsound, hlisting.trans ?_⟩
  rw [List.map_congr_left fun element helement => hkept element (hkeep.mem helement),
    Store.size_put, SlotList.dropEqual, listing, List.filter_map]
  rfl

theorem reversed (h : s.Sound) :
    s.Leaves (s.array.store.reverseItems s.array.slot s.slots) s.listing.reverse := by
  have hchanges := Store.reverseItems_changes h.forest h.holds h.slot_lt
  obtain ⟨hsound, hlisting, hkept⟩ := h.edited hchanges (Store.cell_put_self h.slot_lt _)
  refine ⟨hsound, hlisting.trans ?_⟩
  rw [List.map_reverse, List.map_congr_left hkept, Store.reverseItems, Store.size_put]
  rfl

theorem overwritten (h : s.Sound) (helement : element ∈ s.slots) (value : Value) :
    s.Leaves (Store.write value s.array.store element) (s.listing.write element value) :=
  h.written (h.known_element helement) value

end Sound

/-! ## Methods -/

theorem getElem?_entries (s : SharedArray) (position : Nat) :
    s.listing.entries[position]? = s.slots[position]?.map s.array.store.entry :=
  List.getElem?_map

theorem length_entries (s : SharedArray) : s.listing.entries.length = s.slots.length :=
  List.length_map _

/-- A method called on an array comes to what it comes to on the list. -/
inductive Yields (s : SharedArray) :
    Except Error (Value × Store) → Except Error (Value × SlotList) → Prop
  | done (value : Value) {st : Store} {l : SlotList} (h : s.Leaves st l) :
    Yields s (.ok (value, st)) (.ok (value, l))
  | failed (e : Error) : Yields s (.error e) (.error e)

namespace Sound

theorem stays (h : s.Sound) : s.Leaves s.array.store s.listing := ⟨h, rfl⟩

theorem insert_yields (h : s.Sound) (first value : Value) :
    s.Yields (s.array.store.callOnArray s.array.slot s.slots .insert [first, value])
      (s.listing.callMethod .insert [first, value]) := by
  cases first with
  | integer n =>
    simp only [Store.callOnArray, SlotList.callMethod, length_entries]
    by_cases hn : 1 ≤ n.toInt ∧ n.toInt ≤ s.slots.length + 1
    · have hnames : Subscript.Names (.integer n) (n.toInt.toNat - 1) := ⟨n, rfl, by omega⟩
      have hposition : n.toInt.toNat - 1 ≤ s.slots.length := by omega
      obtain ⟨st, hinsert, hleaves⟩ := h.inserted hposition value
      simp only [Arguments.start_of_names _ _ hnames hposition, bind, Except.bind, hinsert]
      rw [if_pos hn]
      exact .done _ hleaves
    · have houtside : n.toInt < 1 ∨ (s.slots.length : Int) + 1 < n.toInt := by omega
      rw [Arguments.start_outside _ _ houtside, if_neg hn]
      exact .failed _
  | uninit | boolean | double | string | array => exact .failed _

theorem erase_yields (h : s.Sound) (first : Value) :
    s.Yields (s.array.store.callOnArray s.array.slot s.slots .erase [first])
      (s.listing.callMethod .erase [first]) := by
  cases first with
  | integer n =>
    simp only [Store.callOnArray, SlotList.callMethod, SlotList.named?, length_entries,
      getElem?_entries, Arguments.integer, bind, Except.bind, Store.removeItem]
    by_cases hn : n.toInt < 1
    · rw [if_pos hn, if_neg (Int.not_le.mpr hn)]
      exact .failed _
    · rw [if_neg hn, if_pos (Int.not_lt.mp hn)]
      cases s.slots[n.toInt.toNat - 1]? with
      | none => exact .failed _
      | some element => exact .done _ (h.removed _)
  | uninit | boolean | double | string | array => exact .failed _

theorem method_yields (h : s.Sound) (method : Method) (arguments : List Value) :
    s.Yields (s.array.store.call s.array.slot method arguments)
      (s.listing.callMethod method arguments) := by
  rw [Store.call, h.holds]
  cases method with
  | size =>
    rcases arguments with _ | ⟨first, rest⟩
    · rw [SlotList.callMethod, length_entries]
      exact .done _ h.stays
    · exact .failed _
  | append =>
    rcases arguments with _ | ⟨first, rest⟩
    · exact .failed _
    · rw [SlotList.callMethod, length_entries]
      exact .done _ (h.appended _)
  | insert =>
    rcases arguments with _ | ⟨first, _ | ⟨second, _ | ⟨third, rest⟩⟩⟩
    · exact .failed _
    · exact .failed _
    · exact h.insert_yields first second
    · exact .failed _
  | erase =>
    rcases arguments with _ | ⟨first, _ | ⟨second, rest⟩⟩
    · exact .failed _
    · exact h.erase_yields first
    · exact .failed _
  | reverse =>
    rcases arguments with _ | ⟨first, rest⟩
    · exact .done _ h.reversed
    · exact .failed _
  | length | upper | lower | find | trim | replace | subreplace | substr | split | join
  | isValidUnicode | utf16 | utf32 => exact .failed _

end Sound

/-! ## Requests -/

/-- What comes of an array is what comes of its list, with the same reply. -/
def Agrees (next : Reply × SharedArray) (expected : Reply × SlotList) : Prop :=
  next.2.Sound ∧ (next.1, next.2.listing) = expected

theorem Leaves.agrees {st : Store} {l : SlotList} (h : s.Leaves st l) (reply : Reply) :
    Agrees (reply, s.withStore st) (reply, l) :=
  ⟨h.1, congrArg (Prod.mk reply) h.2⟩

namespace Sound

theorem agrees (h : s.Sound) (reply : Reply) : Agrees (reply, s) (reply, s.listing) := ⟨h, rfl⟩

theorem call_agrees (h : s.Sound) (name : String) (arguments : List Value) :
    Agrees (s.call name arguments) (s.listing.call name arguments) := by
  unfold SharedArray.call SlotList.call Store.callMethod
  cases Method.lookup? name with
  | none =>
    rw [h.holds]
    exact h.agrees _
  | some method =>
    have hyields := h.method_yields method arguments
    dsimp only
    generalize s.array.store.call s.array.slot method arguments = result at hyields ⊢
    generalize s.listing.callMethod method arguments = expected at hyields ⊢
    cases hyields with
    | done value hleaves => exact hleaves.agrees _
    | failed e => exact h.agrees _

theorem insert_agrees (h : s.Sound) (position : Nat) (value : Value) :
    Agrees (s.step (.insert position value)) (s.listing.step (.insert position value)) := by
  simp only [step, SlotList.step, act, ArrayObject.step, length_entries]
  by_cases hposition : position ≤ s.slots.length
  · obtain ⟨st, hinsert, hleaves⟩ := h.inserted hposition value
    rw [if_pos hposition]
    simp only [slots] at hinsert
    rw [hinsert]
    exact hleaves.agrees _
  · have hinsert : s.array.store.insertItem s.array.slot s.slots position value = none :=
      if_neg hposition
    rw [if_neg hposition]
    simp only [slots] at hinsert
    rw [hinsert]
    exact h.agrees _

theorem remove_agrees (h : s.Sound) (position : Nat) :
    Agrees (s.step (.remove position)) (s.listing.step (.remove position)) := by
  simp only [step, SlotList.step, act, ArrayObject.step, getElem?_entries, Store.removeItem, slots]
  cases helement : s.array.slots[position]? with
  | none => exact h.agrees _
  | some element => exact (h.removed position).agrees _

theorem set_agrees (h : s.Sound) (position : Nat) (value : Value) :
    Agrees (s.step (.set position value)) (s.listing.step (.set position value)) := by
  simp only [step, SlotList.step, act, ArrayObject.step, getElem?_entries, Store.setItem, slots]
  cases helement : s.array.slots[position]? with
  | none => exact h.agrees _
  | some element =>
    exact (h.overwritten (List.mem_of_getElem? helement) value).agrees _

theorem take_agrees (h : s.Sound) (position : Nat) :
    Agrees (s.step (.take position)) (s.listing.step (.take position)) := by
  simp only [step, SlotList.step, getElem?_entries]
  cases helement : s.slots[position]? with
  | none => exact h.agrees _
  | some element =>
    have hknown := h.known_element (List.mem_of_getElem? helement)
    refine ⟨⟨h.forest, h.holds, ?_⟩, ?_⟩
    · intro other hother
      rcases List.mem_append.mp hother with hother | hother
      · exact h.known other hother
      · rwa [List.mem_singleton.mp hother]
    · rw [listing, List.map_append]
      rfl

/-- Any request. -/
theorem step_agrees (h : s.Sound) (request : Request) :
    Agrees (s.step request) (s.listing.step request) := by
  cases request with
  | call name arguments => exact h.call_agrees name arguments
  | push value => exact (h.appended [value]).agrees _
  | insert position value => exact h.insert_agrees position value
  | remove position => exact h.remove_agrees position
  | set position value => exact h.set_agrees position value
  | removeEqual value => exact (h.dropped value).agrees _
  | take position => exact h.take_agrees position
  | read index =>
    simp only [step, SlotList.step, listing, List.getElem?_map]
    cases s.aliases[index]? with
    | none => exact h.agrees _
    | some element => exact h.agrees _
  | write index value =>
    simp only [step, SlotList.step, listing, List.getElem?_map]
    cases helement : s.aliases[index]? with
    | none => exact h.agrees _
    | some element =>
      have hknown := h.known element (List.mem_of_getElem? helement)
      have hleaves : s.Leaves _ _ := h.written hknown value
      exact hleaves.agrees _

end Sound

namespace Sound

theorem step (h : s.Sound) (request : Request) : (s.step request).2.Sound :=
  (h.step_agrees request).1

theorem reply_step (h : s.Sound) (request : Request) :
    (s.step request).1 = (s.listing.step request).1 :=
  congrArg Prod.fst (h.step_agrees request).2

theorem listing_step (h : s.Sound) (request : Request) :
    (s.step request).2.listing = (s.listing.step request).2 :=
  congrArg Prod.snd (h.step_agrees request).2

end Sound

/-! ## Runs -/

/-- The list is what the array comes to, with the same replies all along. -/
theorem run_listing (h : s.Sound) (requests : List Request) :
    (s.run requests).map (fun (reply, s) => (reply, s.listing)) = s.listing.run requests := by
  induction requests generalizing s with
  | nil => rfl
  | cons request requests ih =>
    obtain ⟨hsound, hagrees⟩ := h.step_agrees request
    rw [run, SlotList.run, List.map_cons, ih hsound, ← hagrees]

theorem Sound.after (h : s.Sound) (requests : List Request) : (s.after requests).Sound := by
  induction requests generalizing s with
  | nil => exact h
  | cons request requests ih => exact ih (h.step request)

end ScriptHost.SharedArray
