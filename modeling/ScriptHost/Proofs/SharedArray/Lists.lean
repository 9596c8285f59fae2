import ScriptHost.Proofs.SharedArray.Step
import ScriptHost.Proofs.SlotList.Kept
import ScriptHost.Proofs.SlotList.Positions
import ScriptHost.Proofs.Variables.Reachable

/-!
# Arrays are lists of slots

Whatever is asked of an array, it answers as the list of its slots and values does, and it is left
with that list.

* `SharedArray.ListLike`, `SharedArray.SharesElements`, `SharedArray.ChecksPositions` : what holds
  of an array wherever a run leads.
* `SharedArray.arrays_are_lists` : any run.
-/

namespace ScriptHost.SharedArray

variable {s : SharedArray} {name : String} {arguments : List Value} {element index position : Nat}
  {value : Value} {e : Error}

/-! ## The array and its list -/

theorem slots_listing (s : SharedArray) : s.listing.slots = s.slots := by
  rw [SlotList.slots, listing, List.map_map]
  exact List.map_id _

theorem values_listing (s : SharedArray) : s.listing.values = s.values := by
  rw [SlotList.values, listing, List.map_map]
  rfl

theorem Sound.distinct (h : s.Sound) : s.slots.Nodup := h.forest.distinct_of_cell h.holds

theorem Sound.distinct_listing (h : s.Sound) : s.listing.slots.Nodup := by
  rw [slots_listing]
  exact h.distinct

theorem getElem?_values (h : s.slots[position]? = some element) :
    s.values[position]? = some (s.array.store.read element) := by
  have hvalues : s.values[position]? = s.slots[position]?.map s.array.store.read :=
    List.getElem?_map
  rw [hvalues, h]
  rfl

/-! ## Methods that are called by name -/

/-- A call that fails leaves the array as it is. -/
theorem call_failed (h : (s.step (.call name arguments)).1 = .script (.error e)) :
    (s.step (.call name arguments)).2 = s := by
  rw [step, call] at h ⊢
  split at h
  · cases h
  · rfl

variable {method : Method} {l : SlotList}

namespace Sound

theorem call_ok (h : s.Sound) (hname : Method.lookup? name = some method)
    (hok : s.listing.callMethod method arguments = .ok (value, l)) :
    (s.step (.call name arguments)).1 = .script (.ok value) ∧
      (s.step (.call name arguments)).2.listing = l := by
  have hstep : s.listing.step (.call name arguments) = (.script (.ok value), l) := by
    simp only [SlotList.step, SlotList.call, hname, hok]
    rfl
  rw [h.reply_step, h.listing_step, hstep]
  exact ⟨rfl, rfl⟩

theorem call_error (h : s.Sound) (hname : Method.lookup? name = some method)
    (herror : s.listing.callMethod method arguments = .error e) :
    s.step (.call name arguments) = (.script (.error e), s) := by
  have hreply : (s.step (.call name arguments)).1 = .script (.error e) := by
    rw [h.reply_step]
    simp only [SlotList.step, SlotList.call, hname, herror]
    rfl
  exact Prod.ext hreply (call_failed hreply)

theorem reply_ok_iff (h : s.Sound) (hname : Method.lookup? name = some method) :
    (∃ value, (s.step (.call name arguments)).1 = .script (.ok value)) ↔
      ∃ result, s.listing.callMethod method arguments = .ok result := by
  constructor
  · rintro ⟨value, hreply⟩
    cases hresult : s.listing.callMethod method arguments with
    | error e =>
      rw [h.call_error hname hresult] at hreply
      cases hreply
    | ok result => exact ⟨result, rfl⟩
  · rintro ⟨⟨value, l⟩, hresult⟩
    exact ⟨value, (h.call_ok hname hresult).1⟩

end Sound

/-! ## Aliases -/

theorem aliases_step (s : SharedArray) (request : Request) :
    s.aliases <+: (s.step request).2.aliases := by
  cases request with
  | call name arguments =>
    rw [step, call]
    split
    · exact List.prefix_refl _
    · exact List.prefix_refl _
  | push | insert | remove | set | removeEqual => exact List.prefix_refl _
  | take position =>
    rw [step]
    split
    · exact List.prefix_append _ _
    · exact List.prefix_refl _
  | read index =>
    rw [step]
    split
    · exact List.prefix_refl _
    · exact List.prefix_refl _
  | write index value =>
    rw [step]
    split
    · exact List.prefix_refl _
    · exact List.prefix_refl _

/-- An alias is of the same element all along. -/
theorem aliases_after (h : s.aliases[index]? = some element) (requests : List Request) :
    (s.after requests).aliases[index]? = some element := by
  induction requests generalizing s with
  | nil => exact h
  | cons request requests ih =>
    obtain ⟨rest, hrest⟩ := s.aliases_step request
    obtain ⟨hlt, _⟩ := List.getElem?_eq_some_iff.mp h
    apply ih
    rw [← hrest, List.getElem?_append_left hlt, h]

namespace Sound

/-- A slot that is taken out never comes back. -/
theorem not_mem_after (h : s.Sound) (hold : element < s.array.store.size)
    (hout : element ∉ s.slots) (requests : List Request) :
    element ∉ (s.after requests).slots := by
  induction requests generalizing s with
  | nil => exact hout
  | cons request requests ih =>
    obtain ⟨hsound, hagrees⟩ := h.step_agrees request
    have hfollows := s.listing.step_follows request
    rw [← hagrees] at hfollows
    rw [← slots_listing] at hout
    obtain ⟨hold', hout'⟩ := hfollows.not_mem hold hout
    rw [slots_listing] at hout'
    exact ih hsound hold' hout'

theorem step_write (h : s.Sound) (halias : s.aliases[index]? = some element) (value : Value) :
    (s.step (.write index value)).1 = .host (.flag true) ∧
      (s.step (.write index value)).2.Sound ∧
      (s.step (.write index value)).2.listing = s.listing.write element value := by
  have hknown := h.known element (List.mem_of_getElem? halias)
  simp only [SharedArray.step, halias]
  exact ⟨trivial, h.written hknown value⟩

end Sound

/-! ## What holds of an array wherever a run leads -/

/-- The array is a list of values, in slots of their own. -/
structure ListLike (s : SharedArray) : Prop where
  distinct : s.slots.Nodup
  /-- The values change as those of a plain list do. -/
  plain : ∀ request, (s.step request).2.values = request.plain s.listing.position? s.values
  /-- An element keeps its slot unless it is taken out. -/
  kept : ∀ (request : Request) {position element : Nat}, s.slots[position]? = some element →
    (element ∈ (s.step request).2.slots ↔
      ¬ request.TakesOut position (s.array.store.read element))
  /-- What a script puts in, it takes out again at the same position. -/
  put_back : ∀ {insert erase : String} {n : Int32} (value : Value),
    Method.lookup? insert = some .insert → Method.lookup? erase = some .erase →
    1 ≤ n.toInt → n.toInt ≤ s.slots.length + 1 →
    let next := s.step (.call insert [.integer n, value])
    let last := next.2.step (.call erase [.integer n])
    next.1 = .script (.ok (Value.ofCount (s.slots.length + 1))) ∧
      last.1 = .script (.ok value) ∧ last.2.listing.entries = s.listing.entries
  /-- What the host puts in, it takes out again at the same position. -/
  put_back_host : ∀ {position : Nat} (value : Value), position ≤ s.slots.length →
    let next := s.step (.insert position value)
    let last := next.2.step (.remove position)
    next.1 = .host (.flag true) ∧ last.1 = .host (.value value) ∧
      last.2.listing.entries = s.listing.entries
  reversed_back : ∀ {first second : String},
    Method.lookup? first = some .reverse → Method.lookup? second = some .reverse →
    (s.after [.call first [], .call second []]).listing = s.listing

/-- Aliases are of elements, not of positions. -/
structure SharesElements (s : SharedArray) : Prop where
  /-- An alias shows its element, wherever that is. -/
  shown : ∀ {index position element : Nat}, s.aliases[index]? = some element →
    s.slots[position]? = some element →
    ∃ value, s.values[position]? = some value ∧ s.step (.read index) = (.host (.value value), s)
  /-- What is written through an alias is seen there and in the element, wherever that is. -/
  written : ∀ {index element : Nat} (value : Value), s.aliases[index]? = some element →
    let next := s.step (.write index value)
    next.1 = .host (.flag true) ∧ next.2.slots = s.slots ∧
      (next.2.step (.read index)).1 = .host (.value value) ∧
      ∀ {position : Nat}, s.slots[position]? = some element →
        next.2.values = s.values.set position value
  /-- An alias of an element that is taken out has nothing to do with the array any more. -/
  detached : ∀ {index element : Nat}, s.aliases[index]? = some element → element ∉ s.slots →
    ∀ (requests : List Request) (value : Value), let later := s.after requests
      element ∉ later.slots ∧ later.aliases[index]? = some element ∧
        (later.step (.write index value)).2.listing.entries = later.listing.entries

/-- Positions are checked against the length. -/
structure ChecksPositions (s : SharedArray) : Prop where
  insert_ok_iff : ∀ {name : String} (arguments : List Value),
    Method.lookup? name = some .insert →
    ((∃ value, (s.step (.call name arguments)).1 = .script (.ok value)) ↔
      ∃ n : Int32, ∃ value, arguments = [.integer n, value] ∧
        1 ≤ n.toInt ∧ n.toInt ≤ s.slots.length + 1)
  erase_ok_iff : ∀ {name : String} (arguments : List Value),
    Method.lookup? name = some .erase →
    ((∃ value, (s.step (.call name arguments)).1 = .script (.ok value)) ↔
      ∃ n : Int32, arguments = [.integer n] ∧ 1 ≤ n.toInt ∧ n.toInt ≤ s.slots.length)
  insert_outside : ∀ {name : String} {n : Int32} (value : Value),
    Method.lookup? name = some .insert → ¬ (1 ≤ n.toInt ∧ n.toInt ≤ s.slots.length + 1) →
    s.step (.call name [.integer n, value]) =
      (.script (.error (.indexOutOfRange n.toInt s.slots.length)), s)
  erase_outside : ∀ {name : String} {n : Int32},
    Method.lookup? name = some .erase → ¬ (1 ≤ n.toInt ∧ n.toInt ≤ s.slots.length) →
    s.step (.call name [.integer n]) =
      (.script (.error (.indexOutOfRange n.toInt s.slots.length)), s)
  host_outside : ∀ {position : Nat} (value : Value), s.slots.length ≤ position →
    s.step (.remove position) = (.host .nothing, s) ∧
      s.step (.set position value) = (.host (.flag false), s) ∧
      (s.slots.length < position → s.step (.insert position value) = (.host (.flag false), s))
  /-- A call that fails leaves the array as it is. -/
  failed : ∀ {name : String} {arguments : List Value} {e : Error},
    (s.step (.call name arguments)).1 = .script (.error e) →
    (s.step (.call name arguments)).2 = s
  /-- The length, as far as it is an integer. -/
  size : ∀ {name : String}, Method.lookup? name = some .size → s.slots.length < 2 ^ 31 →
    ∃ n : Int32, s.step (.call name []) = (.script (.ok (.integer n)), s) ∧
      n.toInt = s.values.length

theorem Sound.listLike (h : s.Sound) : s.ListLike where
  distinct := h.distinct
  plain request := by
    rw [← values_listing, ← values_listing, h.listing_step]
    exact SlotList.step_plain h.distinct_listing request
  kept request position element helement := by
    have hentry : s.listing.entries[position]? = some (s.array.store.entry element) := by
      rw [getElem?_entries, helement]
      rfl
    rw [← slots_listing, h.listing_step]
    exact SlotList.mem_step_iff hentry h.distinct_listing request
  put_back {insert erase n} value hinsert herase hlow hhigh := by
    rw [← length_entries] at hhigh
    obtain ⟨hreply, hlisting⟩ := h.call_ok hinsert (SlotList.insert_inside hlow hhigh value)
    rw [length_entries] at hreply
    have hnext := h.step (.call insert [.integer n, value])
    have hok := SlotList.callMethod_erase_insert hlow hhigh value
    rw [← hlisting] at hok
    obtain ⟨hlast, hlisted⟩ := hnext.call_ok herase hok
    refine ⟨hreply, hlast, ?_⟩
    rw [hlisted, hlisting]
    exact s.listing.entries_erase_insert _ value
  put_back_host {position} value hposition := by
    rw [← length_entries] at hposition
    have hinsert : s.listing.step (.insert position value) =
      (.host (.flag true), s.listing.insert position value) := if_pos hposition
    have hremove : (s.listing.insert position value).step (.remove position) =
        (.host (.value value), (s.listing.insert position value).erase position) := by
      rw [SlotList.step, SlotList.getElem?_insert hposition value]
    have hnext := h.step (.insert position value)
    dsimp only
    rw [hnext.reply_step, hnext.listing_step, h.reply_step, h.listing_step, hinsert, hremove]
    exact ⟨rfl, rfl, s.listing.entries_erase_insert position value⟩
  reversed_back {first second} hfirst hsecond := by
    have hok : ∀ l : SlotList, l.callMethod .reverse [] = .ok (.uninit, l.reverse) := fun _ => rfl
    obtain ⟨_, hlisting⟩ := h.call_ok hfirst (hok s.listing)
    obtain ⟨_, hlisted⟩ := (h.step (.call first [])).call_ok hsecond (hok _)
    exact hlisted.trans ((congrArg SlotList.reverse hlisting).trans s.listing.reverse_reverse)

theorem Sound.sharesElements (h : s.Sound) : s.SharesElements where
  shown {index position element} halias helement := by
    refine ⟨_, getElem?_values helement, ?_⟩
    simp only [SharedArray.step, halias]
  written {index element} value halias := by
    obtain ⟨hreply, hnext, hlisting⟩ := h.step_write halias value
    have hknown := h.known element (List.mem_of_getElem? halias)
    have hslots : (s.step (.write index value)).2.slots = s.slots := by
      rw [← slots_listing, hlisting, SlotList.slots_write, slots_listing]
    have hread := (Store.write_written h.forest hknown.old value).reads
    refine ⟨hreply, hslots, ?_, fun {position} helement => ?_⟩
    · have hkept := aliases_after halias [.write index value]
      rw [SharedArray.after, List.foldl_cons, List.foldl_nil] at hkept
      rw [SharedArray.step, hkept]
      simp only [SharedArray.step, halias]
      exact congrArg (Reply.host ∘ ArrayObject.Reply.value) hread
    · rw [← slots_listing] at helement
      rw [← values_listing, hlisting, SlotList.values_write h.distinct_listing helement,
        values_listing]
  detached {index element} halias hout requests value := by
    have hknown := h.known element (List.mem_of_getElem? halias)
    have hlater := aliases_after halias requests
    have hstays := h.not_mem_after hknown.old hout requests
    obtain ⟨_, _, hlisting⟩ := (h.after requests).step_write hlater value
    refine ⟨hstays, hlater, ?_⟩
    rw [hlisting]
    apply Entry.write_outside
    rwa [← slots_listing] at hstays

theorem Sound.checksPositions (h : s.Sound) : s.ChecksPositions where
  insert_ok_iff arguments hname := by
    rw [h.reply_ok_iff hname, SlotList.insert_ok_iff, length_entries]
  erase_ok_iff arguments hname := by
    rw [h.reply_ok_iff hname, SlotList.erase_ok_iff, length_entries]
  insert_outside value hname hn := by
    rw [← length_entries] at hn ⊢
    exact h.call_error hname (SlotList.insert_outside hn value)
  erase_outside hname hn := by
    rw [← length_entries] at hn ⊢
    exact h.call_error hname (SlotList.erase_outside hn)
  host_outside {position} value hposition := by
    have hnone : s.array.slots[position]? = none := List.getElem?_eq_none hposition
    refine ⟨?_, ?_, fun hlt => ?_⟩
    · simp only [SharedArray.step, act, ArrayObject.step, Store.removeItem, hnone]
      rfl
    · simp only [SharedArray.step, act, ArrayObject.step, Store.setItem, hnone]
      rfl
    · have hinsert : s.array.store.insertItem s.array.slot s.array.slots position value = none :=
        if_neg (Nat.not_le_of_lt hlt)
      simp only [SharedArray.step, act, ArrayObject.step, hinsert]
      rfl
  failed := call_failed
  size {name} hname hlength := by
    have hlast : (s.array.store.callMethod s.array.slot name []) =
        .ok (Value.ofCount s.slots.length, s.array.store) := by
      simp only [Store.callMethod, hname, Store.call, h.holds]
      rfl
    refine ⟨Int32.ofNat s.slots.length, ?_, ?_⟩
    · simp only [SharedArray.step, call, hlast]
      rfl
    · rw [Int32.toInt_ofNat_of_lt hlength, values, ArrayObject.values, List.length_map]
      rfl

/-- An array in a slot of any variables, whatever was done to these before, and any requests. The
array gives the replies of the list of its slots and values and is left with that list after each
request: elements are put in, taken out and moved in their slots. Wherever the run leads, the values
are those of a plain list, aliases are of elements and not of positions, and positions are checked
against the length. -/
theorem arrays_are_lists {vars : Variables} (hvars : vars.Reachable) {slot : Nat}
    {slots : List Nat} (harray : vars.store.cell slot = .array slots) (requests : List Request) :
    let start : SharedArray := ⟨⟨vars.store, slot⟩, []⟩
    (start.run requests).map (fun (reply, s) => (reply, s.listing)) =
        start.listing.run requests ∧
      (start.after requests).ListLike ∧ (start.after requests).SharesElements ∧
        (start.after requests).ChecksPositions := by
  intro start
  have hstart : start.Sound := by
    refine ⟨hvars.sound.forest, ?_, fun element helement => absurd helement List.not_mem_nil⟩
    have hslots : start.slots = slots := ArrayObject.slots_of_cell harray
    rw [hslots]
    exact harray
  have hafter := hstart.after requests
  exact ⟨run_listing hstart requests, hafter.listLike, hafter.sharesElements,
    hafter.checksPositions⟩

/-- An alias of the first element is still of that element when it is the last one, and of none
when it is taken out. -/
theorem arrays_are_lists_moved :
    let vars := (Variables.empty.step "a" (.new (.array [.integer 1, .string "x"]))).2
    let start : SharedArray := ⟨⟨vars.store, 0⟩, []⟩
    let requests : List Request := [.take 0, .call "reverse" [], .write 0 (.boolean true),
      .call "erase" [.integer 2], .write 0 .uninit, .call "insert" [.integer 3, .uninit]]
    let kept : List Entry := [⟨2, .string "x"⟩]
    (start.run requests).map (fun (reply, s) => (reply, s.listing)) =
        [(.host (.flag true), ⟨⟨1, .integer 1⟩ :: kept, [⟨1, .integer 1⟩], 3⟩),
          (.script (.ok .uninit), ⟨kept ++ [⟨1, .integer 1⟩], [⟨1, .integer 1⟩], 3⟩),
          (.host (.flag true), ⟨kept ++ [⟨1, .boolean true⟩], [⟨1, .boolean true⟩], 3⟩),
          (.script (.ok (.boolean true)), ⟨kept, [⟨1, .boolean true⟩], 3⟩),
          (.host (.flag true), ⟨kept, [⟨1, .uninit⟩], 3⟩),
          (.script (.error (.indexOutOfRange 3 1)), ⟨kept, [⟨1, .uninit⟩], 3⟩)] ∧
      (start.after requests).ChecksPositions := by
  intro vars start requests kept
  have hvars : vars.Reachable := .step "a" _ .empty
  have hslots : vars.store.cell 0 = .array [1, 2] := by decide
  have hreads : vars.store.read 0 = .array [.integer 1, .string "x"] :=
    (List.cons.inj (Store.place_placed .empty (.array [.integer 1, .string "x"])).reads).1
  rw [hvars.sound.forest.read_array hslots] at hreads
  have hone : vars.store.read 1 = .integer 1 := (List.cons.inj (Value.array.inj hreads)).1
  have htext : vars.store.read 2 = .string "x" :=
    (List.cons.inj (List.cons.inj (Value.array.inj hreads)).2).1
  have hentries : [1, 2].map vars.store.entry = ⟨1, .integer 1⟩ :: kept := by
    rw [List.map_cons, List.map_cons, Store.entry, Store.entry, hone, htext]
    rfl
  have hlisting : start.listing = ⟨⟨1, .integer 1⟩ :: kept, [], 3⟩ :=
    congrArg (SlotList.mk · [] 3) hentries
  obtain ⟨hrun, -, -, hchecks⟩ := arrays_are_lists hvars hslots requests
  exact ⟨hrun.trans (congrArg (SlotList.run · requests) hlisting), hchecks⟩

end ScriptHost.SharedArray
