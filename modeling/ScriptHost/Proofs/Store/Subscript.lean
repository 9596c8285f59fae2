import ScriptHost.Proofs.Store.Write
import ScriptHost.Proofs.Subscript.Path
import ScriptHost.Store.Assign

/-!
# Assignments through indices

The walk along a path of positions ends in a slot. What is written there appears in the value of the
slot where the walk began at that path, and nowhere else in it.

* `Store.slotAt?` : the slot at a path.
* `Store.Written.read_at_path` : a change of the slot at a path, seen from the path's beginning.
* `Store.assignAt_error` : where indices select nothing, nothing is assigned, with the same error.
* `Store.assignAt_element`, `Store.assignAt_span` : what is assigned to an element and to a span.
-/

namespace ScriptHost.Store

/-- The slot at a path of positions. -/
def slotAt? (st : Store) : Nat → List Nat → Option Nat
  | slot, [] => some slot
  | slot, position :: path =>
    match (st.elements slot)[position]? with
    | some element => st.slotAt? element path
    | none => none

variable {st : Store}

theorem slotAt?_cons {slot position last : Nat} {path : List Nat}
    (h : st.slotAt? slot (position :: path) = some last) :
    ∃ slots element, st.cell slot = .array slots ∧ slots[position]? = some element ∧
      st.slotAt? element path = some last := by
  rw [slotAt?, elements] at h
  cases hc : st.cell slot with
  | array slots =>
    rw [hc] at h
    dsimp only [Cell.elements] at h
    split at h
    · rename_i element helement
      exact ⟨slots, element, rfl, helement, h⟩
    · cases h
  | uninit | boolean | integer | double | string =>
    rw [hc] at h
    cases h

theorem reaches_of_slotAt? {slot last : Nat} {path : List Nat}
    (h : st.slotAt? slot path = some last) : st.Reaches slot last := by
  induction path generalizing slot with
  | nil =>
    cases h
    exact .here
  | cons position path ih =>
    obtain ⟨slots, element, hc, helement, hrest⟩ := slotAt?_cons h
    apply Reaches.of_element _ (ih hrest)
    rw [elements_of_cell hc]
    exact List.mem_of_getElem? helement

/-- The part at a path is what the slot at the path holds. -/
theorem part?_read (hF : st.Forest) (slot : Nat) (path : List Nat) :
    (st.read slot).part? path = (st.slotAt? slot path).map st.read := by
  induction path generalizing slot with
  | nil => rfl
  | cons position path ih =>
    rw [hF.read_eq, slotAt?, elements]
    cases st.cell slot with
    | array slots =>
      dsimp only [Cell.elements, Value.part?]
      rw [List.getElem?_map]
      cases slots[position]? with
      | none => rfl
      | some element => exact ih element
    | uninit | boolean | integer | double | string => rfl

theorem slotAt?_of_part? (hF : st.Forest) {slot : Nat} {path : List Nat} {part : Value}
    (h : (st.read slot).part? path = some part) :
    ∃ last, st.slotAt? slot path = some last ∧ st.read last = part := by
  rw [part?_read hF] at h
  exact Option.map_eq_some_iff.mp h

/-! ## Changes at a path -/

/-- Of two slots that reach a third, one reaches the other. -/
theorem Forest.reaches_or (hF : st.Forest) {left right last : Nat} (hleft : st.Reaches left last)
    (hright : st.Reaches right last) : st.Reaches left right ∨ st.Reaches right left := by
  induction hleft with
  | here => exact Or.inr hright
  | @element array element hreach helement ih =>
    cases hright with
    | here => exact Or.inl (hreach.element helement)
    | element hreach' helement' =>
      rw [hF.single helement' helement] at hreach'
      exact ih hreach'

/-- What one element of an array reaches, no other element reaches. -/
theorem Forest.not_reaches_of_ne (hF : st.Forest) {slot left right last : Nat}
    (hleft : left ∈ st.elements slot) (hright : right ∈ st.elements slot) (hne : left ≠ right)
    (h : st.Reaches left last) : ¬ st.Reaches right last := by
  -- An element that reached another one would reach the array before it.
  have hnot : ∀ {one other}, one ∈ st.elements slot → other ∈ st.elements slot → one ≠ other →
      ¬ st.Reaches one other := by
    intro one other hone hother hne hreach
    cases hreach with
    | here => exact hne rfl
    | element hreach helement =>
      rw [hF.single helement hother] at hreach
      have hle := hF.le_of_reaches hreach
      have hlt := (hF.younger hone).1
      omega
  intro h'
  rcases hF.reaches_or h h' with hreach | hreach
  · exact hnot hleft hright hne hreach
  · exact hnot hright hleft hne.symm hreach

/-- A change of the slot at a path, seen from the beginning of the path. -/
theorem read_exchange (hF : st.Forest) {st' : Store} (hF' : st'.Forest) {slot last : Nat}
    {path : List Nat} (hslot : slot < st.size) (hpath : st.slotAt? slot path = some last)
    (hframe : ∀ other < st.size, other ≠ last → st'.cell other = st.cell other) :
    st'.read slot = (st.read slot).exchange path (st'.read last) := by
  induction path generalizing slot with
  | nil =>
    cases hpath
    rfl
  | cons position path ih =>
    obtain ⟨slots, element, hc, helement, hrest⟩ := slotAt?_cons hpath
    have hslots : ∀ {other}, other ∈ slots → other ∈ st.elements slot := by
      intro other hother
      rwa [elements_of_cell hc]
    have hmem : element ∈ slots := List.mem_of_getElem? helement
    have hreach : st.Reaches element last := reaches_of_slotAt? hrest
    obtain ⟨hlt, hsize⟩ := hF.younger_of_cell hc hmem
    have hle := hF.le_of_reaches hreach
    have hc' : st'.cell slot = .array slots := by
      rw [hframe slot hslot (by omega), hc]
    rw [hF'.read_array hc', hF.read_array hc, Value.exchange_cons]
    congr 1
    apply List.ext_getElem?
    intro i
    by_cases hi : position = i
    · subst hi
      rw [List.getElem?_map, List.getElem?_modify_eq, List.getElem?_map, helement]
      exact congrArg some (ih hsize hrest)
    · rw [List.getElem?_map, List.getElem?_modify_ne _ _ hi, List.getElem?_map]
      cases hother : slots[i]? with
      | none => rfl
      | some other =>
        have hmem' : other ∈ slots := List.mem_of_getElem? hother
        have hne : element ≠ other := by
          rintro rfl
          have hlength := (List.getElem?_eq_some_iff.mp helement).1
          have heq := helement.trans hother.symm
          exact hi ((List.getElem?_inj hlength (hF.distinct_of_cell hc)).mp heq)
        have hread : st'.read other = st.read other := by
          apply hF.read_congr hF'.toLayered
          intro inner hinner
          apply hframe inner (hF.lt_size_of_reaches (hF.younger_of_cell hc hmem').2 hinner)
          rintro rfl
          exact hF.not_reaches_of_ne (hslots hmem) (hslots hmem') hne hreach hinner
        rw [Option.map_some, Option.map_some, hread]

/-- What is written into the slot at a path, seen from the beginning of the path. -/
theorem Written.read_at_path {st' : Store} {slot last : Nat} {path : List Nat} {new : Value}
    (h : Written st last new st') (hF : st.Forest) (hslot : slot < st.size)
    (hpath : st.slotAt? slot path = some last) :
    st'.read slot = (st.read slot).exchange path new := by
  rw [read_exchange hF h.forest hslot hpath h.frame, h.reads]

/-! ## What is assigned -/

theorem assignAt_string_error {slot : Nat} {s : ScriptString} {indices : List Value} {e : Error}
    (hs : st.cell slot = .string s) (h : (Value.string s.text).subscript indices = .error e)
    (target : Value) : st.assignAt slot indices target = .error e := by
  match indices with
  | [] =>
    cases h
    rfl
  | [index] =>
    simp only [Value.subscript, Value.item, bind, Except.bind] at h
    simp only [assignAt, assignItem, hs, bind, Except.bind]
    split at h
    · cases h
      rfl
    · cases h
  | [first, second] =>
    simp only [Value.subscript, bind, Except.bind] at h
    simp only [assignAt, hs, bind, Except.bind]
    split at h
    · cases h
      rfl
    · cases h
  | _ :: _ :: _ :: _ =>
    simp only [assignAt, hs]
    cases h
    rfl

theorem assignItem_error (hF : st.Forest) {slot : Nat} {index : Value} {e : Error}
    (h : (st.read slot).item index = .error e) (target : Value) :
    st.assignItem slot index target = .error e := by
  rw [hF.read_eq] at h
  unfold assignItem
  cases hc : st.cell slot with
  | array slots =>
    simp only [hc, Value.item, List.length_map, List.getElem?_map, bind, Except.bind] at h
    simp only [bind, Except.bind]
    split at h
    · cases h
      rfl
    · rename_i place hposition
      cases hplace : slots[place]? with
      | none =>
        rw [hplace] at h
        simp only [setItem, hplace, Option.map_none]
        cases h
        rfl
      | some element =>
        rw [hplace] at h
        cases h
  | string s =>
    rw [hc] at h
    have hselect : (Value.string s.text).subscript [index] = .error e := h
    have hassign := assignAt_string_error hc hselect target
    simpa only [assignAt, assignItem, hc] using hassign
  | uninit | boolean | integer | double =>
    rw [hc] at h
    cases h
    rfl

/-- Where indices select nothing, nothing is assigned, with the same error. -/
theorem assignAt_error (hF : st.Forest) {slot : Nat} {indices : List Value} {e : Error}
    (h : (st.read slot).subscript indices = .error e) (target : Value) :
    st.assignAt slot indices target = .error e := by
  induction indices generalizing slot with
  | nil =>
    cases h
    rfl
  | cons first indices ih =>
    cases indices with
    | nil => exact assignItem_error hF h target
    | cons second rest =>
      rw [hF.read_eq] at h
      unfold assignAt
      cases hc : st.cell slot with
      | array slots =>
        simp only [hc, Value.subscript, List.length_map, List.getElem?_map, bind,
          Except.bind] at h
        simp only [bind, Except.bind]
        split at h
        · cases h
          rfl
        · rename_i place hposition
          cases hplace : slots[place]? with
          | none =>
            rw [hplace] at h
            cases h
            rfl
          | some element =>
            rw [hplace] at h
            exact ih h
      | string s =>
        rw [hc] at h
        have hassign : st.assignAt slot (first :: second :: rest) target = .error e :=
          assignAt_string_error hc h target
        simpa only [assignAt, hc] using hassign
      | uninit | boolean | integer | double =>
        rw [hc] at h
        cases h
        rfl

/-- Indices that name the path of an element assign to its slot. -/
theorem assignAt_element {slot last : Nat} {indices : List Value} {path : List Nat}
    (hpath : path ≠ []) (hnames : Subscript.NamesAll indices path)
    (hlast : st.slotAt? slot path = some last) (target : Value) :
    st.assignAt slot indices target = .ok (write target st last) := by
  induction hnames generalizing slot with
  | nil => exact absurd rfl hpath
  | @cons index position indices path hindex hrest ih =>
    obtain ⟨slots, element, hc, helement, hinner⟩ := slotAt?_cons hlast
    obtain ⟨hlt, _⟩ := List.getElem?_eq_some_iff.mp helement
    have hposition := Subscript.position_of_names hindex .array hlt
    cases hrest with
    | nil =>
      cases hinner
      simp only [assignAt, assignItem, hc, hposition, bind, Except.bind, setItem, helement,
        Option.map_some]
    | cons hsecond hrest =>
      have hassign := ih (List.cons_ne_nil _ _) hinner
      simp only [assignAt, hc, hposition, bind, Except.bind, helement, hassign]

theorem replaceSpan_ok {s : ScriptString} {start : Nat} (h : start ≤ s.text.toList.length)
    (length : Nat) (written : String) :
    s.replaceSpan start length written =
      .ok (s.changed (Text.replaceSpan s.text.toList start length written.toList)) := by
  rw [ScriptString.replaceSpan, if_neg (Nat.not_lt_of_le h)]

/-- Indices that name a span of the string at a path assign to it, if a text is assigned. -/
theorem assignAt_span {slot last : Nat} {front back : List Value} {path : List Nat}
    {s : ScriptString} {start length : Nat} (hnames : Subscript.NamesAll front path)
    (hlast : st.slotAt? slot path = some last) (hc : st.cell last = .string s)
    (hspan : Subscript.NamesSpan s.text.toList.length back start length) (target : Value) :
    st.assignAt slot (front ++ back) target =
      (Subscript.assignedText target).map fun text => st.put last
        (.string (s.changed (Text.replaceSpan s.text.toList start length text.toList))) := by
  induction hnames generalizing slot with
  | nil =>
    cases hlast
    rw [List.nil_append]
    cases hspan with
    | character hindex hstart =>
      have hposition := Subscript.position_of_names hindex .string hstart
      simp only [assignAt, assignItem, hc, hposition, bind, Except.bind]
      cases Subscript.assignedText target with
      | error e => rfl
      | ok text =>
        dsimp only
        rw [replaceSpan_ok (Nat.le_of_lt hstart)]
        rfl
    | range hfirst hstart hcount =>
      have hspan := Subscript.span_of_namesSpan (.range hfirst hstart hcount)
      simp only [assignAt, hc, hspan, bind, Except.bind]
      cases Subscript.assignedText target with
      | error e => rfl
      | ok text =>
        dsimp only
        rw [replaceSpan_ok hstart]
        rfl
  | @cons index position front path hindex hrest ih =>
    obtain ⟨slots, element, hcell, helement, hinner⟩ := slotAt?_cons hlast
    obtain ⟨hlt, _⟩ := List.getElem?_eq_some_iff.mp helement
    have hposition := Subscript.position_of_names hindex .array hlt
    obtain ⟨second, rest, hsecond⟩ : ∃ second rest, front ++ back = second :: rest := by
      cases hspan <;> cases front <;> exact ⟨_, _, rfl⟩
    have hassign := ih hinner
    rw [hsecond] at hassign
    rw [List.cons_append, hsecond]
    simp only [assignAt, hcell, hposition, bind, Except.bind, helement, hassign]

end ScriptHost.Store
